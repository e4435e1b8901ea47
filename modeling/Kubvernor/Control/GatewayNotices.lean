import Kubvernor.Control.RouteNotices

/-!
# Stored gateways can be deployed

The events of the other controllers. The controller of gateways looks up the class of a gateway, may have to wait for
the configuration that the class refers to (`configuredType`), and then reads the stored gateway and does what its
handler does (`gatewayConfigured`). What this writes and asks for is said once (`gatewayMoved_configured`). No gateway
class is ever taken out of the stores, so a class that is known stays known (`knowsClass_saveGatewayClass`). From these,
every stored gateway converts and has a known class and a known type after any event (`sound_reconcile`), so that the
requests for it go through.
-/

namespace Kubvernor

open Lib

/-! ## Gateways and their configurations -/

section Configured

variable (config : ControllerConfig) (s : Stores)

/-- What `reconcile_gateway` finds before it reads the stored gateway: the type that the gateway is configured with. -/
def configuredType (resource : KubeGateway) (configurations : Configurations) :
    Except ControllerError GatewayImplementationType :=
  match resource.metadata.name, resource.metadata.uid with
  | none, _ => .error (.invalidPayload "Resource name is not provided")
  | some _, none => .error (.invalidPayload "Uid must be present")
  | some _, some uid =>
    if (config.parseUuid uid).isNone then .error (.invalidPayload "Uid in wrong format")
    else backendTypeOf s configurations resource

/-- The rest of `reconcile_gateway`. -/
def configuredActions (resource : KubeGateway) (t : GatewayImplementationType) : List Action :=
  gatewayHandler resource.resourceKey resource t
    (checkStatus KubeGateway.metadata checkSpecChanged checkStatusChanged resource
      (s.state.getGateway resource.resourceKey))

/-- The stores once a gateway is reconciled that is configured with this type. -/
def gatewayConfigured (resource : KubeGateway) (t : GatewayImplementationType) : Stores :=
  (configuredActions s resource t).foldl (Stores.write config) s

def configuredRequests (resource : KubeGateway) (t : GatewayImplementationType) : List ReferenceValidateRequest :=
  (configuredActions s resource t).flatMap (Action.requests config s)

/-- `reconcile_gateway` where nothing comes between. -/
theorem reconcileGateway_eq (resource : KubeGateway) (configurations : Configurations) :
    reconcileGateway config s resource configurations =
      (configuredType config s resource configurations).map (configuredActions s resource) := by
  unfold reconcileGateway configuredType
  cases resource.metadata.name with
  | none => rfl
  | some name =>
    cases resource.metadata.uid with
    | none => rfl
    | some uid =>
      simp only
      split_ifs
      · rfl
      · rfl

variable {config s} {resource : KubeGateway} {configurations : Configurations} {t : GatewayImplementationType}

theorem gatewayReconciled_of_configured (h : configuredType config s resource configurations = .ok t) :
    gatewayReconciled config s resource configurations = gatewayConfigured config s resource t ∧
      gatewayRequests config s resource configurations = configuredRequests config s resource t := by
  unfold gatewayReconciled gatewayRequests
  rw [reconcileGateway_eq, h]
  exact ⟨rfl, rfl⟩

theorem gatewayReconciled_of_error {e : ControllerError}
    (h : configuredType config s resource configurations = .error e) :
    gatewayReconciled config s resource configurations = s ∧ gatewayRequests config s resource configurations = [] := by
  unfold gatewayReconciled gatewayRequests
  rw [reconcileGateway_eq, h]
  exact ⟨rfl, rfl⟩

end Configured

/-! ## Every event of a gateway -/

section Gateway

variable {config : ControllerConfig} {s : Stores} {g : KubeGateway} {configurations : Configurations}

/-- What the handler of gateways has found, for each of its branches. -/
theorem gatewayState_cases (g : KubeGateway) (stored : Option KubeGateway) :
    match checkStatus KubeGateway.metadata checkSpecChanged checkStatusChanged g stored with
    | .deleted => g.metadata.IsDeletion
    | .new => ¬ g.metadata.IsDeletion ∧ stored = none
    | .specNotChanged => False
    | .specChanged | .statusChanged | .statusNotChanged | .versionNotChanged =>
      ¬ g.metadata.IsDeletion ∧ stored.isSome := by
  by_cases hdel : g.metadata.IsDeletion
  · rw [checkStatus_of_deletion hdel]
    exact hdel
  · rw [checkStatus_of_not_deletion hdel]
    cases stored with
    | none => exact ⟨hdel, rfl⟩
    | some old =>
      simp only
      by_cases hversion : old.metadata.resourceVersion = g.metadata.resourceVersion
      · rw [if_pos hversion]
        exact ⟨hdel, rfl⟩
      · rw [if_neg hversion]
        unfold checkSpecChanged checkStatusChanged
        by_cases hspec : g.spec = old.spec
        · by_cases hstatus : g.status = old.status
          · simp [hspec, hstatus, hdel]
          · simp [hspec, hstatus, hdel]
        · simp [hspec, hdel]

/-- A gateway whose type is found is of a known class. -/
theorem knowsClass_of_backendTypeOf {t : GatewayImplementationType} (h : backendTypeOf s configurations g = .ok t) :
    s.KnowsClass g.spec.gatewayClassName := by
  unfold backendTypeOf at h
  cases hfind : (s.gatewayClasses.toList.map (·.2)).find? fun gc => gc.metadata.name = some g.spec.gatewayClassName with
  | none =>
    rw [hfind] at h
    cases h
  | some gatewayClass =>
    have hname := List.find?_some hfind
    exact ⟨gatewayClass, List.mem_of_find?_eq_some hfind, of_decide_eq_true hname⟩

/-- What the actions of a new or changed gateway that converts write and ask for. -/
theorem newOrChanged_of_converts (hconv : Converts config.parseUuid g) (t : GatewayImplementationType) (s₀ : Stores) :
    ∃ gateway : Gateway, gateway.resourceKey = g.resourceKey ∧
      s.write config (.newOrChanged g t) = { s with state := s.state.saveGatewayType g.resourceKey t } ∧
      Action.requests config s₀ (.newOrChanged g t) =
        [.addGateway { gateway := gateway, kubeGateway := g, gatewayClassName := g.spec.gatewayClassName }] := by
  have hok : (Gateway.tryFrom config.parseUuid g t).isOk := Gateway.tryFrom_isOk.2 hconv
  cases hgw : Gateway.tryFrom config.parseUuid g t with
  | error e =>
    rw [hgw] at hok
    cases hok
  | ok gateway =>
    have hkey : gateway.resourceKey = g.resourceKey := (Gateway.tryFrom_key hgw).1
    refine ⟨gateway, hkey, ?_, ?_⟩
    · unfold Stores.write
      simp only [hgw, hkey]
    · unfold Action.requests
      simp only [hgw]

/-- What a deletion of a gateway asks for is about its key. -/
theorem requests_deleteGatewayType (key : GatewayKey) :
    ∀ q ∈ Action.requests config s (.deleteGatewayType key g),
      ∃ gateway, q = .deleteGateway gateway ∧ gateway.resourceKey = g.resourceKey := by
  unfold Action.requests
  simp only
  split
  · simp
  · split
    · simp
    · rename_i gateway hgw
      intro q hq
      rw [List.mem_singleton] at hq
      exact ⟨_, hq, (Gateway.tryFrom_key hgw).1⟩

/-- What an event of a gateway leaves, and what it asks for. -/
inductive GatewayMoved (config : ControllerConfig) (s : Stores) (g : KubeGateway) :
    Stores → List ReferenceValidateRequest → Prop
  | same : GatewayMoved config s g s []
  | saved (hstored : g.resourceKey ∈ s.state.gateways) (hknown : s.KnowsClass g.spec.gatewayClassName)
      (hdel : ¬ g.metadata.IsDeletion) :
      GatewayMoved config s g { s with state := s.state.saveGateway g.resourceKey g } []
  | changed (t : GatewayImplementationType) (ctx : RequestContext) (hkey : ctx.gateway.resourceKey = g.resourceKey)
      (hstored : g.resourceKey ∈ s.state.gateways) :
      GatewayMoved config s g { s with state := s.state.saveGatewayType g.resourceKey t } [.addGateway ctx]
  | new (t : GatewayImplementationType) (ctx : RequestContext) (hkey : ctx.gateway.resourceKey = g.resourceKey)
      (hknown : s.KnowsClass g.spec.gatewayClassName) (hdel : ¬ g.metadata.IsDeletion) :
      GatewayMoved config s g
        { s with state := (s.state.saveGateway g.resourceKey g).saveGatewayType g.resourceKey t } [.addGateway ctx]
  | deleted (requests : List ReferenceValidateRequest)
      (honly : ∀ q ∈ requests, ∃ gateway, q = .deleteGateway gateway ∧ gateway.resourceKey = g.resourceKey) :
      GatewayMoved config s g { s with state := (s.state.deleteGateway g.resourceKey).deleteGatewayType g.resourceKey }
        requests

theorem mem_gateways_of_isSome (h : (s.state.getGateway g.resourceKey).isSome) : g.resourceKey ∈ s.state.gateways :=
  Std.ExtTreeMap.mem_iff_isSome_getElem?.2 h

theorem gatewayMoved_newOrChanged (hconv : Converts config.parseUuid g) (t : GatewayImplementationType)
    (hstored : g.resourceKey ∈ s.state.gateways) :
    GatewayMoved config s g ([Action.newOrChanged g t].foldl (Stores.write config) s)
      ([Action.newOrChanged g t].flatMap (Action.requests config s)) := by
  obtain ⟨gateway, hkey, hwrite, hrequests⟩ := newOrChanged_of_converts (s := s) hconv t s
  show GatewayMoved config s g (Stores.write config s (.newOrChanged g t))
    (Action.requests config s (.newOrChanged g t) ++ [])
  rw [hwrite, hrequests]
  exact .changed t _ hkey hstored

/-- A gateway that is configured is of a known class. -/
theorem knowsClass_of_configuredType {t : GatewayImplementationType}
    (h : configuredType config s g configurations = .ok t) : s.KnowsClass g.spec.gatewayClassName := by
  unfold configuredType at h
  split at h
  · cases h
  · cases h
  · split_ifs at h
    exact knowsClass_of_backendTypeOf h

/-- **What the handler of a gateway can do**, if the object converts unless it is deleted. -/
theorem gatewayMoved_configured (t : GatewayImplementationType) (hknown : s.KnowsClass g.spec.gatewayClassName)
    (hconv : ¬ g.metadata.IsDeletion → Converts config.parseUuid g) :
    GatewayMoved config s g (gatewayConfigured config s g t) (configuredRequests config s g t) := by
  unfold gatewayConfigured configuredRequests configuredActions
  have hcases := gatewayState_cases g (s.state.getGateway g.resourceKey)
  generalize checkStatus KubeGateway.metadata checkSpecChanged checkStatusChanged g
    (s.state.getGateway g.resourceKey) = state at hcases
  cases state with
  | versionNotChanged => exact .same
  | specNotChanged => exact hcases.elim
  | new =>
    obtain ⟨gateway, hkey, hwrite, hrequests⟩ := newOrChanged_of_converts
      (s := { s with state := s.state.saveGateway g.resourceKey g }) (hconv hcases.1) t s
    show GatewayMoved config s g
      (Stores.write config { s with state := s.state.saveGateway g.resourceKey g } (.newOrChanged g t))
      (Action.requests config s (.newOrChanged g t) ++ [])
    rw [hwrite, hrequests]
    exact .new t _ hkey hknown hcases.1
  | specChanged =>
    exact gatewayMoved_newOrChanged (hconv hcases.1) t (mem_gateways_of_isSome hcases.2)
  | statusChanged =>
    by_cases hready : g.Ready
    · simp only [gatewayHandler, if_pos hready]
      exact .saved (mem_gateways_of_isSome hcases.2) hknown hcases.1
    · by_cases hpending : g.Pending
      · simp only [gatewayHandler, if_neg hready, if_pos hpending]
        exact gatewayMoved_newOrChanged (hconv hcases.1) t (mem_gateways_of_isSome hcases.2)
      · simp only [gatewayHandler, if_neg hready, if_neg hpending]
        exact .same
  | statusNotChanged =>
    have hstored := mem_gateways_of_isSome hcases.2
    have hsave : s.state.maybeSaveGateway g.resourceKey g = s.state.saveGateway g.resourceKey g := if_pos hstored
    show GatewayMoved config s g { s with state := s.state.maybeSaveGateway g.resourceKey g } []
    rw [hsave]
    exact .saved hstored hknown hcases.1
  | deleted =>
    refine .deleted _ fun q hq => ?_
    change q ∈ [] ++ (Action.requests config s (.deleteGatewayType g.resourceKey g) ++ []) at hq
    rw [List.nil_append, List.append_nil] at hq
    exact requests_deleteGatewayType g.resourceKey q hq

/-- **What an event of a gateway can do.** -/
theorem gatewayMoved_reconcile (s : Stores) (configurations : Configurations)
    (hconv : ¬ g.metadata.IsDeletion → Converts config.parseUuid g) :
    GatewayMoved config s g (gatewayReconciled config s g configurations)
      (gatewayRequests config s g configurations) := by
  cases ht : configuredType config s g configurations with
  | error _ =>
    obtain ⟨hstores, hrequests⟩ := gatewayReconciled_of_error ht
    rw [hstores, hrequests]
    exact .same
  | ok t =>
    obtain ⟨hstores, hrequests⟩ := gatewayReconciled_of_configured ht
    rw [hstores, hrequests]
    exact gatewayMoved_configured t (knowsClass_of_configuredType ht) hconv

end Gateway

/-! ## Every event of a gateway class -/

section Class

variable {config : ControllerConfig} {s : Stores} {c : GatewayClass}
  {answer : Option { patched : GatewayClass // patched.resourceKey = c.resourceKey }}

/-- The name of a class with a name is that of its key. -/
theorem GatewayClass.name_eq {c c' : GatewayClass} {className : String} (hname : c.metadata.name = some className)
    (hsome : c'.metadata.name.isSome) (hkey : c'.resourceKey = c.resourceKey) : c'.metadata.name = some className := by
  obtain ⟨className', hname'⟩ := Option.isSome_iff_exists.1 hsome
  have hnameAny : c'.metadata.nameAny = c.metadata.nameAny := congrArg ResourceKey.name hkey
  unfold ObjectMeta.nameAny at hnameAny
  rw [hname, hname'] at hnameAny
  rw [hname']
  exact congrArg some hnameAny

theorem wellKeyed_saveGatewayClass (hs : s.WellKeyed) (c : GatewayClass) :
    (s.saveGatewayClass c.resourceKey c).WellKeyed := by
  refine ⟨fun k c' hc' => ?_, hs.gateways, hs.types, hs.routes⟩
  change (s.gatewayClasses.insert c.resourceKey c)[k]? = some c' at hc'
  rw [getElem?_insert_ite] at hc'
  split_ifs at hc' with hk
  · rw [← Option.some.inj hc', hk]
  · exact hs.classes k c' hc'

/-- A class that is known stays known, where objects have names. -/
theorem knowsClass_saveGatewayClass (hs : s.WellKeyed) (hname : c.metadata.name.isSome) {className : String}
    (h : s.KnowsClass className) : (s.saveGatewayClass c.resourceKey c).KnowsClass className := by
  obtain ⟨c₀, hmem, hc₀⟩ := h
  obtain ⟨k, hk⟩ := mem_values.1 hmem
  have hsaved (k : ResourceKey) : (s.saveGatewayClass c.resourceKey c).gatewayClasses[k]? =
      if k = c.resourceKey then some c else s.gatewayClasses[k]? := getElem?_insert_ite ..
  by_cases hkey : k = c.resourceKey
  · refine ⟨c, mem_values.2 ⟨k, (hsaved k).trans (if_pos hkey)⟩, GatewayClass.name_eq hc₀ hname ?_⟩
    exact hkey.symm.trans (hs.classes k c₀ hk).symm
  · exact ⟨c₀, mem_values.2 ⟨k, ((hsaved k).trans (if_neg hkey)).trans hk⟩, hc₀⟩

theorem knowsClass_reconcileGatewayClass (hs : s.WellKeyed) (hname : c.metadata.name.isSome)
    (hanswer : ∀ patched ∈ answer, patched.1.metadata.name.isSome) {className : String}
    (h : s.KnowsClass className) :
    (reconcileGatewayClass config s c (answer.map (·.1))).stores.KnowsClass className := by
  have hsaved := knowsClass_saveGatewayClass hs hname h
  have hnew : ((GatewayClassResourceHandler.mk c.spec.controllerName c).onNewOrChanged s
      (answer.map (·.1))).stores.KnowsClass className := by
    cases answer with
    | none => exact hsaved
    | some patched =>
      have hpatched := knowsClass_saveGatewayClass (wellKeyed_saveGatewayClass hs c) (hanswer patched rfl) hsaved
      rw [patched.2] at hpatched
      exact hpatched
  unfold reconcileGatewayClass
  cases c.metadata.uid with
  | none => exact h
  | some uid =>
    simp only
    split_ifs
    · exact h
    · exact h
    · unfold GatewayClassResourceHandler.process
      split
      · exact hnew
      · exact hnew
      · exact hsaved
      · exact h.congr rfl
      · exact h
      · exact h
      · exact h

end Class

/-! ## Every event -/

/-- What is assumed of the events: gateway classes have names, gateways convert unless they are deleted, and events of
routes can be told of. -/
def ReconcileEvent.Orderly (config : ControllerConfig) (s : Stores) : ReconcileEvent → Prop
  | .gatewayClass c answer => c.metadata.name.isSome ∧ ∀ patched ∈ answer, patched.1.metadata.name.isSome
  | .gateway g _ => ¬ g.metadata.IsDeletion → Converts config.parseUuid g
  | .httpRoute r => (httpRouteHandler config r).Orderly s
  | .grpcRoute r => (grpcRouteHandler config r).Orderly s

section Sound

variable {config : ControllerConfig} {s s' : Stores} {e : ReconcileEvent}

/-- What is found under a key after a gateway is saved. -/
theorem getGateway_saved {k k' : GatewayKey} {g g' : KubeGateway}
    (h : (s.state.saveGateway k g).getGateway k' = some g') :
    (k' = k ∧ g' = g) ∨ s.state.getGateway k' = some g' := by
  change (s.state.gateways.insert k g)[k']? = some g' at h
  rw [getElem?_insert_ite] at h
  split_ifs at h with hk
  · exact .inl ⟨hk, (Option.some.inj h).symm⟩
  · exact .inr h

theorem isSome_getGatewayType_save (k k' : GatewayKey) (t : GatewayImplementationType) (st : State) :
    ((st.saveGatewayType k t).getGatewayType k').isSome ↔ k' = k ∨ (st.getGatewayType k').isSome := by
  show (st.gatewayImplementationTypes.insert k t)[k']?.isSome ↔ _
  rw [getElem?_insert_ite]
  split_ifs with hk
  · simp [hk]
  · simp [hk, State.getGatewayType]

/-- Every gateway that is stored after an event of a gateway can be deployed. -/
theorem GatewayMoved.serves {g : KubeGateway} {requests : List ReferenceValidateRequest}
    (h : GatewayMoved config s g s' requests) (hs : s.Sound config)
    (hconv : ¬ g.metadata.IsDeletion → Converts config.parseUuid g) :
    ∀ k g', s'.state.getGateway k = some g' → s'.Serves config k g' := by
  intro k g' hg'
  cases h with
  | same => exact hs.serves k g' hg'
  | saved hstored hknown hdel =>
    rcases getGateway_saved hg' with ⟨rfl, rfl⟩ | hold
    · obtain ⟨old, hold⟩ := Option.isSome_iff_exists.1 (Std.ExtTreeMap.mem_iff_isSome_getElem?.1 hstored)
      exact ⟨rfl, hconv hdel, hknown.congr rfl, (hs.serves _ old hold).typed⟩
    · exact (hs.serves k g' hold).congr rfl id
  | changed t ctx hkey hstored =>
    exact (hs.serves k g' hg').congr rfl fun htyped => (isSome_getGatewayType_save ..).2 (.inr htyped)
  | new t ctx hkey hknown hdel =>
    rcases getGateway_saved hg' with ⟨rfl, rfl⟩ | hold
    · exact ⟨rfl, hconv hdel, hknown.congr rfl, (isSome_getGatewayType_save ..).2 (.inl rfl)⟩
    · exact (hs.serves k g' hold).congr rfl fun htyped => (isSome_getGatewayType_save ..).2 (.inr htyped)
  | deleted requests honly =>
    change (s.state.gateways.erase g.resourceKey)[k]? = some g' at hg'
    rw [getElem?_erase_ite] at hg'
    split_ifs at hg' with hk
    refine (hs.serves k g' hg').congr rfl fun htyped => ?_
    show ((s.state.gatewayImplementationTypes.erase g.resourceKey)[k]?).isSome
    rw [getElem?_erase_ite, if_neg hk]
    exact htyped

/-- Where gateways and their types are the same, classes that stay known keep the stored gateways deployable. -/
theorem Stores.Sound.of_classes (hs : s.Sound config) (hkeyed : s'.WellKeyed) (hbyKey : s'.routes.StoredByKey)
    (hgateways : s'.state.gateways = s.state.gateways)
    (htypes : s'.state.gatewayImplementationTypes = s.state.gatewayImplementationTypes)
    (hknown : ∀ className, s.KnowsClass className → s'.KnowsClass className) : s'.Sound config := by
  refine ⟨hkeyed, hbyKey, fun k g hg => ?_⟩
  have hold : s.state.getGateway k = some g := by
    unfold State.getGateway at hg ⊢
    rw [← hgateways]
    exact hg
  have hserves := hs.serves k g hold
  refine ⟨hserves.keyed, hserves.converts, hknown _ hserves.known, ?_⟩
  have htyped := hserves.typed
  unfold State.getGatewayType at htyped ⊢
  rw [htypes]
  exact htyped

theorem Stores.Sound.of_route {k : RouteKey} {isIpAddr : String → Bool} {requests : List ReferenceValidateRequest}
    {announced : List KubeGateway} {kind : String} (hs : s.Sound config) (hkeyed : s'.WellKeyed)
    (hother : s.SameBut kind s') (hkinds : kind = "HTTPRoute" ∨ kind = "GRPCRoute")
    (htold : s.RouteTold isIpAddr k s' requests announced) : s'.Sound config := by
  have hne : kind ≠ "GatewayClass" ∧ kind ≠ "Gateway" := by
    rcases hkinds with rfl | rfl <;> decide
  exact hs.of_classes hkeyed htold.byKey (hother.gateways hne.2) (hother.types hne.2)
    fun _ hknown => hknown.congr (hother.classes hne.1)

/-- The answer to the patch of a class is saved. -/
theorem sound_saveGatewayClass {c : GatewayClass} (hs : s.Sound config) (hname : c.metadata.name.isSome) :
    (s.saveGatewayClass c.resourceKey c).Sound config :=
  hs.of_classes (wellKeyed_saveGatewayClass hs.wellKeyed c) hs.byKey rfl rfl
    fun _ => knowsClass_saveGatewayClass hs.wellKeyed hname

/-- **After what the handler of a gateway does the stored gateways can be deployed.** -/
theorem sound_gatewayConfigured {g : KubeGateway} {t : GatewayImplementationType} (hs : s.Sound config)
    (hknown : s.KnowsClass g.spec.gatewayClassName) (hconv : ¬ g.metadata.IsDeletion → Converts config.parseUuid g) :
    (gatewayConfigured config s g t).Sound config := by
  have hwritten : s.GatewayWritten g.resourceKey (gatewayConfigured config s g t) :=
    gatewayWritten_foldl writesAt_gatewayHandler
  refine ⟨hwritten.wellKeyed rfl hs.wellKeyed, ?_, (gatewayMoved_configured t hknown hconv).serves hs hconv⟩
  rw [hwritten.routes]
  exact hs.byKey

/-- A class that is known stays known after every event. -/
theorem knowsClass_reconcile (hs : s.WellKeyed) (he : e.Orderly config s) {className : String}
    (h : s.KnowsClass className) : (s.reconcile config e).KnowsClass className := by
  have hother := sameBut_reconcile config e hs
  cases e with
  | gatewayClass c answer => exact knowsClass_reconcileGatewayClass hs he.1 he.2 h
  | gateway g configurations => exact h.congr (hother.classes (by decide : "Gateway" ≠ "GatewayClass"))
  | httpRoute r => exact h.congr (hother.classes (by decide : "HTTPRoute" ≠ "GatewayClass"))
  | grpcRoute r => exact h.congr (hother.classes (by decide : "GRPCRoute" ≠ "GatewayClass"))

/-- **After every event the stored gateways can be deployed.** -/
theorem sound_reconcile (hs : s.Sound config) (he : e.Orderly config s) : (s.reconcile config e).Sound config := by
  have hkeyed := wellKeyed_reconcile config e hs.wellKeyed
  have hother := sameBut_reconcile config e hs.wellKeyed
  cases e with
  | gatewayClass c answer =>
    change s.SameBut "GatewayClass" _ at hother
    have hbyKey : (s.reconcile config (.gatewayClass c answer)).routes.StoredByKey := by
      rw [routes_reconcile_gatewayClass hs.wellKeyed]
      exact hs.byKey
    exact hs.of_classes hkeyed hbyKey (hother.gateways (by decide)) (hother.types (by decide))
      fun _ => knowsClass_reconcile (e := .gatewayClass c answer) hs.wellKeyed he
  | gateway g configurations =>
    have hmoved := gatewayMoved_reconcile s configurations he
    refine ⟨hkeyed, ?_, hmoved.serves hs he⟩
    rw [routes_reconcile_gateway]
    exact hs.byKey
  | httpRoute r =>
    exact hs.of_route hkeyed hother (.inl rfl)
      (CommonRouteHandler.told_reconcile httpRouteKind_lawful httpRouteKind_savesOne hs he)
  | grpcRoute r =>
    exact hs.of_route hkeyed hother (.inr rfl)
      (CommonRouteHandler.told_reconcile grpcRouteKind_lawful grpcRouteKind_savesOne hs he)

end Sound

end Kubvernor
