import Kubvernor.Common.Listener
import Kubvernor.Lib.TreeMap

/-!
# Gateways

The Gateway object of Kubernetes and the controller's own `Gateway`. `Gateway.tryFrom` succeeds
exactly on the objects whose uid parses and all of whose listeners convert (`Converts`), so it
depends on the uid and the listeners alone.
-/

namespace Kubvernor

inductive GatewayImplementationType
  | envoy
  | agentgateway
  | orion
deriving DecidableEq, Repr

structure GatewaySpec where
  gatewayClassName : String
  listeners : List KubeListener := []
deriving DecidableEq, Repr

structure ListenerStatus where
  name : String
  attachedRoutes : Int := 0
  conditions : List Condition := []
  supportedKinds : Option (List String) := none
deriving DecidableEq, Repr

structure GatewayStatus where
  addresses : Option (List String) := none
  conditions : Option (List Condition) := none
  listeners : Option (List ListenerStatus) := none
deriving DecidableEq, Repr

/-- The Gateway object of the Gateway API. -/
structure KubeGateway where
  metadata : ObjectMeta := {}
  spec : GatewaySpec
  status : Option GatewayStatus := none
deriving DecidableEq, Repr

/-- `ResourceKey::from(&Gateway)`. -/
def KubeGateway.resourceKey (g : KubeGateway) : GatewayKey := g.metadata.resourceKey "Gateway"

/-- The conditions of the status, none if it has no status or no conditions. -/
def KubeGateway.conditions (g : KubeGateway) : List Condition :=
  ((g.status.bind (·.conditions))).getD []

inductive GatewayAddress
  | hostname (name : String)
  | ipAddress (address : String)
  | namedAddress (name : String)
deriving DecidableEq, Repr

/-- A parsed uid, as the number it stands for. -/
abbrev Uuid := Nat

/-- The controller's gateway. -/
structure Gateway where
  id : Uuid
  resourceKey : GatewayKey
  addresses : List GatewayAddress := []
  listeners : Std.ExtTreeMap String Listener := ∅
  orphanedRoutes : RouteSet := ∅
  backendType : GatewayImplementationType := .envoy

/-- `Gateway::listeners`: the listeners in the order of their names. -/
def Gateway.listenerValues (g : Gateway) : List Listener := g.listeners.toList.map (·.2)

inductive GatewayError
  | conversionProblem (message : String)
deriving DecidableEq, Repr

/-- `VerifiyItems::verify`: the good results and the errors, each in order. -/
def VerifiyItems.verify {ε α : Type} (results : List (Except ε α)) : List α × List ε :=
  (results.filterMap Except.toOption, results.filterMap fun r => match r with
    | .error e => some e
    | .ok _ => none)

variable (parseUuid : String → Option Uuid)

/-- `Gateway::try_from((&KubeGateway, GatewayImplementationType))`; `parseUuid` parses uids. -/
def Gateway.tryFrom (g : KubeGateway) (backendType : GatewayImplementationType) :
    Except GatewayError Gateway :=
  match parseUuid (g.metadata.uid.getD "") with
  | none => .error (.conversionProblem "Can't parse uuid")
  | some id =>
    let (listeners, errors) := VerifiyItems.verify (g.spec.listeners.map Listener.tryFrom)
    if errors ≠ [] then .error (.conversionProblem "Misconfigured listeners")
    else .ok
      { id := id
        resourceKey := g.resourceKey
        listeners := .ofList (listeners.map fun l => (l.name, l))
        backendType := backendType }

/-- The objects `Gateway.tryFrom` accepts. -/
def Converts (g : KubeGateway) : Prop :=
  (parseUuid (g.metadata.uid.getD "")).isSome ∧ ∀ l ∈ g.spec.listeners, (Listener.tryFrom l).isOk

variable {parseUuid} {g g' : KubeGateway} {t : GatewayImplementationType} {gw : Gateway}

theorem Gateway.tryFrom_isOk : (Gateway.tryFrom parseUuid g t).isOk ↔ Converts parseUuid g := by
  unfold Gateway.tryFrom Converts
  rcases hid : parseUuid (g.metadata.uid.getD "") with _ | id
  · simp [Except.isOk, Except.toBool]
  · have herr : (VerifiyItems.verify (g.spec.listeners.map Listener.tryFrom)).2 ≠ [] ↔
        ∃ l ∈ g.spec.listeners, ¬ (Listener.tryFrom l).isOk := by
      simp only [VerifiyItems.verify, ne_eq, List.filterMap_eq_nil_iff, List.mem_map, not_forall]
      constructor
      · rintro ⟨_, ⟨l, hl, rfl⟩, h⟩
        refine ⟨l, hl, ?_⟩
        cases hr : Listener.tryFrom l <;> simp_all [Except.isOk, Except.toBool]
      · rintro ⟨l, hl, h⟩
        refine ⟨_, ⟨l, hl, rfl⟩, ?_⟩
        cases hr : Listener.tryFrom l <;> simp_all [Except.isOk, Except.toBool]
    simp only [Option.isSome_some, true_and]
    by_cases he : (VerifiyItems.verify (g.spec.listeners.map Listener.tryFrom)).2 ≠ []
    · simp only [he, ne_eq, not_false_eq_true, ↓reduceIte]
      obtain ⟨l, hl, hbad⟩ := herr.1 he
      simp only [Except.isOk, Except.toBool, Bool.false_eq_true, false_iff, not_forall]
      exact ⟨l, hl, hbad⟩
    · simp only [he, ↓reduceIte]
      have hall := mt herr.2 he
      simp only [not_exists, not_and, not_not] at hall
      simp only [Except.isOk, Except.toBool, true_iff]
      exact hall

theorem Gateway.tryFrom_key (h : Gateway.tryFrom parseUuid g t = .ok gw) :
    gw.resourceKey = g.resourceKey ∧ gw.backendType = t := by
  simp only [Gateway.tryFrom] at h
  split at h
  · simp at h
  · split at h
    · simp at h
    · obtain rfl := Except.ok.inj h
      exact ⟨rfl, rfl⟩

/-- The listeners of a converted gateway are under their names, each converted from one of the
object's. -/
theorem Gateway.getElem?_of_tryFrom (h : Gateway.tryFrom parseUuid g t = .ok gw) {name : String} {l : Listener}
    (hl : gw.listeners[name]? = some l) : l.name = name ∧ ∃ kl ∈ g.spec.listeners, Listener.tryFrom kl = .ok l := by
  simp only [Gateway.tryFrom] at h
  split at h
  · cases h
  · split at h
    · cases h
    · obtain rfl := Except.ok.inj h
      obtain ⟨l', hl', heq⟩ := List.mem_map.1 (Lib.mem_of_getElem?_ofList hl)
      obtain ⟨hname, rfl⟩ := Prod.mk.inj heq
      obtain ⟨result, hresult, hok⟩ := List.mem_filterMap.1 hl'
      obtain ⟨kl, hkl, rfl⟩ := List.mem_map.1 hresult
      refine ⟨hname, kl, hkl, ?_⟩
      cases hr : Listener.tryFrom kl with
      | error e =>
        rw [hr] at hok
        cases hok
      | ok l'' =>
        rw [hr] at hok
        obtain rfl := Option.some.inj hok
        rfl

/-- Every listener of the object has its place in the converted gateway. -/
theorem Gateway.exists_listener_of_tryFrom (h : Gateway.tryFrom parseUuid g t = .ok gw) {kl : KubeListener}
    (hkl : kl ∈ g.spec.listeners) : ∃ l, gw.listeners[kl.name]? = some l := by
  have hok : (Gateway.tryFrom parseUuid g t).isOk := by
    rw [h]
    rfl
  have hconverts := (Gateway.tryFrom_isOk.1 hok).2 kl hkl
  simp only [Gateway.tryFrom] at h
  split at h
  · cases h
  · split at h
    · cases h
    · obtain rfl := Except.ok.inj h
      cases hl : Listener.tryFrom kl with
      | error e =>
        rw [hl] at hconverts
        cases hconverts
      | ok l =>
        obtain ⟨tlsType, -, hdata⟩ := Listener.eq_of_tryFrom hl
        have hname : l.name = kl.name := by
          unfold Listener.name
          rw [hdata]
        refine Lib.exists_getElem?_ofList.2 ⟨l, List.mem_map.2 ⟨l, ?_, by rw [hname]⟩⟩
        exact List.mem_filterMap.2 ⟨.ok l, List.mem_map.2 ⟨kl, hkl, hl⟩, rfl⟩

/-- Only the listeners and the uid decide whether a gateway converts. -/
theorem Converts.of_spec_eq (h : Converts parseUuid g) (hspec : g'.spec = g.spec)
    (huid : (parseUuid (g'.metadata.uid.getD "")).isSome) : Converts parseUuid g' :=
  ⟨huid, by rw [hspec]; exact h.2⟩

end Kubvernor
