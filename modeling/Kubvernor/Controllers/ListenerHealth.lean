import Kubvernor.Controllers.RouteListenerMatcher
import Kubvernor.Controllers.TlsConfigValidator
import Kubvernor.Lib.Dedup

/-!
# The health of a listener with a broken certificate

Four passes go over the conditions of a listener before its status is published: its certificates
are validated, its routes attached, the conditions adjusted and turned into a listener status. All of
them share one condition about references. Bad certificates put theirs in it, and a route that was
refused a backend replaces it with a better one: `InvalidBackend` is published as resolved, and the
listener as programmed.

A converted listener has that one condition and no other up to the adjustment (`attachTo_ofRefs`),
so what is published depends on the references alone (`shown_ofRefs`).

**`brokenNeverHealthy_iff`**: a listener with a certificate that is not resolved is never published as
healthy exactly if none of them has, as its first unresolved route, one that was refused a backend,
and those that are neither HTTPS nor TLS, whose certificates nobody validates, allow no route at all.
-/

namespace Kubvernor

/-- The status shows the condition of a type as true. -/
def ListenerStatus.Reports (status : ListenerStatus) (type : String) : Prop :=
  ∃ c ∈ status.conditions, c.type = type ∧ c.status = "True"

/-- The types and statuses of the conditions that are shown. -/
def ListenerStatus.shown (status : ListenerStatus) : List (String × String) :=
  status.conditions.map fun c => (c.type, c.status)

theorem ListenerStatus.reports_iff {status : ListenerStatus} {type : String} :
    status.Reports type ↔ (type, "True") ∈ status.shown := by
  unfold Reports shown
  rw [List.mem_map]
  constructor
  · rintro ⟨c, hc, rfl, hstatus⟩
    exact ⟨c, hc, by rw [hstatus]⟩
  · rintro ⟨c, hc, heq⟩
    obtain ⟨htype, hstatus⟩ := Prod.mk.inj heq
    exact ⟨c, hc, htype, hstatus⟩

/-- The status of the listener of a name. -/
def KubeGateway.listenerStatus? (g : KubeGateway) (name : String) : Option ListenerStatus :=
  ((g.status.bind (·.listeners)).getD []).find? fun status => status.name = name

/-- A certificate of the listener does not come out of validation resolved. -/
def ListenerTlsConfigValidator.LeavesBroken (v : ListenerTlsConfigValidator) (gatewayKey : GatewayKey)
    (l : Listener) : Prop :=
  ∃ certificates, l.certificates? = some certificates ∧
    ∃ c ∈ certificates, l.IsTls → ¬ v.Usable gatewayKey c.resourceKey

section Pipeline

variable (domainPattern : String → Option (String → Bool)) (v : ListenerTlsConfigValidator)
variable (m : RouteListenerMatcher)

namespace RouteListenerMatcher

/-- The routes attached to the listener of a name. -/
def attachedRoutes? (name : String) : Option RouteSet :=
  (calculateAttachedRoutes (m.filterMatchingRoutes domainPattern).1)[name]?

/-- The first unresolved route of the listener was refused a backend. -/
def RefusedFirst (name : String) : Prop :=
  ∃ routes route, m.attachedRoutes? domainPattern name = some routes ∧
    (RouteSet.routes (routes.filter fun _ r => r.resolutionStatus ≠ .resolved)).head? = some route ∧
    route.resolutionStatus = .notResolved .refNotPermitted

end RouteListenerMatcher

/-- A gateway as it is deployed. -/
def Gateway.processed (g : Gateway) : Gateway :=
  GatewayDeployer.adjustStatuses (m.attachRoutes domainPattern (v.validate g))

/-- The object of the gateway as it is published. -/
def Gateway.published (g : Gateway) : KubeGateway :=
  GatewayDeployer.resolveListenersStatuses (g.processed domainPattern v m) m.gateway

/-- A listener with a certificate that is not resolved is published with neither its references
resolved nor itself programmed. -/
def BrokenNeverHealthy (g : Gateway) : Prop :=
  ∀ name l, (g.processed domainPattern v m).listeners[name]? = some l →
    ∀ certificates, l.certificates? = some certificates → (∃ c ∈ certificates, ¬ c.IsResolved) →
      ∃ status, (g.published domainPattern v m).listenerStatus? name = some status ∧
        ¬ status.Reports "ResolvedRefs" ∧ ¬ status.Reports "Programmed"

end Pipeline

/-! ## One condition about references -/

/-- The conditions of a listener that has one about its references and no other. -/
def ListenerConditions.ofRefs (refs : ResolvedRefs) : ListenerConditions :=
  ListenerConditions.replace ∅ (.resolvedRefs refs)

/-- References that keep a listener from being programmed. -/
def ResolvedRefs.IsBroken : ResolvedRefs → Prop
  | .invalidAllowedRoutes | .invalidCertificates _ | .refNotPermitted _ => True
  | .resolved _ | .resolvedWithNotAllowedRoutes _ | .invalidBackend _ => False

namespace ListenerConditions

variable {refs : ResolvedRefs}

@[simp] theorem ofRefs_replace (refs refs' : ResolvedRefs) :
    (ofRefs refs).replace (.resolvedRefs refs') = ofRefs refs' := by
  unfold ofRefs replace
  apply Std.ExtTreeMap.ext_getElem?
  intro k
  simp only [Std.ExtTreeMap.getElem?_insert]
  by_cases hk : compare (ListenerCondition.resolvedRefs refs').discriminant k = .eq
  · rw [if_pos hk, if_pos hk]
  · have hk' : ¬ compare (ListenerCondition.resolvedRefs refs).discriminant k = .eq := hk
    rw [if_neg hk, if_neg hk, if_neg hk']

@[simp] theorem resolvedRefs?_ofRefs (refs : ResolvedRefs) :
    (ofRefs refs).resolvedRefs? = some (.resolvedRefs refs) :=
  Std.ExtTreeMap.getElem?_insert_self

theorem recordsBad_ofRefs (h : ListenerTlsConfigValidator.RecordsBad (ofRefs refs)) : refs.IsBroken := by
  obtain ⟨condition, hcondition, hbad⟩ := h
  rw [resolvedRefs?_ofRefs] at hcondition
  obtain rfl := Option.some.inj hcondition
  cases refs with
  | invalidAllowedRoutes | invalidCertificates _ | refNotPermitted _ => trivial
  | resolved _ | resolvedWithNotAllowedRoutes _ | invalidBackend _ => exact hbad

end ListenerConditions

/-- What a converted listener records about the routes it allows. -/
theorem validateAllowedRoutes_eq (kl : KubeListener) :
    ∃ refs, validateAllowedRoutes kl = .resolvedRefs refs ∧ (refs.IsBroken → refs = .invalidAllowedRoutes) := by
  unfold validateAllowedRoutes
  split
  · simp only
    split
    · exact ⟨_, rfl, False.elim⟩
    · exact ⟨_, rfl, fun _ => rfl⟩
    · exact ⟨_, rfl, False.elim⟩
  · split
    · exact ⟨_, rfl, False.elim⟩
    · exact ⟨_, rfl, False.elim⟩

/-! ## The passes, for one listener -/

namespace ListenerTlsConfigValidator

variable (v : ListenerTlsConfigValidator) (gatewayKey : GatewayKey)

theorem validateCertificates_ofRefs (supportedRoutes : List String) (cs : List Certificate) (refs : ResolvedRefs) :
    ∃ refs', (v.validateCertificates gatewayKey supportedRoutes cs (.ofRefs refs)).2 = .ofRefs refs' := by
  induction cs generalizing refs with
  | nil => exact ⟨refs, rfl⟩
  | cons c cs ih =>
    rw [validateCertificates]
    rcases v.validateCertificate gatewayKey supportedRoutes c with ⟨validated, recorded⟩
    cases recorded with
    | none => exact ih refs
    | some refs' =>
      have h := ih refs'
      rw [← ListenerConditions.ofRefs_replace refs refs'] at h
      exact h

/-- Validation keeps the one condition about references. -/
theorem validateListener_ofRefs {l : Listener} {refs : ResolvedRefs} (hl : l.data.conditions = .ofRefs refs) :
    ∃ refs', (v.validateListener gatewayKey l).data.conditions = .ofRefs refs' ∧ (¬ l.IsTls → refs' = refs) ∧
      (l.IsTls → v.LeavesBroken gatewayKey l → refs'.IsBroken) := by
  unfold validateListener
  by_cases htls : l.IsTls
  · rw [if_pos htls]
    simp only
    split
    · rename_i cs hcs
      simp only [hl]
      generalize ((ListenerConditions.ofRefs refs).resolvedRefs?.map (·.supportedRoutes)).getD [] = supportedRoutes
      obtain ⟨refs', h⟩ := validateCertificates_ofRefs v gatewayKey supportedRoutes cs refs
      refine ⟨refs', h, fun hnot => absurd htls hnot, fun _ hbroken => ?_⟩
      obtain ⟨certificates, hcertificates, c, hc, hbad⟩ := hbroken
      rw [Listener.certificates?_eq_some, hcs] at hcertificates
      obtain rfl := TlsType.terminate.inj (Option.some.inj hcertificates)
      have hrecords : RecordsBad (v.validateCertificates gatewayKey supportedRoutes cs (.ofRefs refs)).2 :=
        validateCertificates_conditions supportedRoutes (.inr ⟨c, hc, hbad htls⟩)
      rw [h] at hrecords
      exact ListenerConditions.recordsBad_ofRefs hrecords
    all_goals
      rename_i hcs
      refine ⟨refs, hl, fun _ => rfl, fun _ hbroken => ?_⟩
      obtain ⟨certificates, hcertificates, -⟩ := hbroken
      rw [Listener.certificates?_eq_some, hcs] at hcertificates
      cases hcertificates
  · rw [if_neg htls]
    exact ⟨refs, hl, fun _ => rfl, fun h => absurd h htls⟩

theorem certificates?_validateListener {l : Listener} (htls : l.IsTls) :
    ∃ supportedRoutes, (v.validateListener gatewayKey l).certificates? = l.certificates?.map fun cs =>
      cs.map fun c => (v.validateCertificate gatewayKey supportedRoutes c).1 := by
  refine ⟨(l.data.conditions.resolvedRefs?.map (·.supportedRoutes)).getD [], ?_⟩
  unfold validateListener Listener.certificates?
  rw [if_pos htls]
  rcases hcs : l.data.config.tlsType with _ | (cs | _)
  · simp only [hcs, Option.map_none]
  · simp only [Option.map_some, validateCertificates_map]
  · simp only [hcs, Option.map_none]

/-- The listeners that leave validation with a certificate that is not resolved. -/
theorem exists_unresolved_iff {l : Listener}
    (hfresh : ∀ certificates, l.certificates? = some certificates → ∀ c ∈ certificates, ¬ c.IsResolved) :
    (∃ certificates, (v.validateListener gatewayKey l).certificates? = some certificates ∧
      ∃ c ∈ certificates, ¬ c.IsResolved) ↔ v.LeavesBroken gatewayKey l := by
  unfold LeavesBroken
  by_cases htls : l.IsTls
  · obtain ⟨supportedRoutes, hvalidated⟩ := certificates?_validateListener v gatewayKey htls
    have hresolved (c : Certificate) : (v.validateCertificate gatewayKey supportedRoutes c).1.IsResolved ↔
        v.Usable gatewayKey c.resourceKey :=
      (v.validateCertificate_outcome gatewayKey supportedRoutes c).resolved_iff.2.1
    rw [hvalidated]
    cases l.certificates? with
    | none => simp
    | some cs => simp [hresolved, htls]
  · have hsame : v.validateListener gatewayKey l = l := by
      unfold validateListener
      rw [if_neg htls]
    rw [hsame]
    constructor
    · rintro ⟨certificates, hcertificates, c, hc, -⟩
      exact ⟨certificates, hcertificates, c, hc, fun h => absurd h htls⟩
    · rintro ⟨certificates, hcertificates, c, hc, -⟩
      exact ⟨certificates, hcertificates, c, hc, hfresh certificates hcertificates c hc⟩

end ListenerTlsConfigValidator

section Refused

/-- The route was refused a backend of another namespace. -/
def Route.Refused (r : Route) : Prop := r.resolutionStatus = .notResolved .refNotPermitted

instance : DecidablePred Route.Refused := fun r => inferInstanceAs (Decidable (r.resolutionStatus = _))

/-- The first of the routes was refused. -/
def RouteSet.FirstRefused (s : RouteSet) : Prop := ∃ r, s.routes.head? = some r ∧ r.Refused

theorem isEmpty_eq_isNone_head? (s : RouteSet) : s.isEmpty = s.routes.head?.isNone := by
  rw [← Std.ExtTreeMap.isEmpty_toList, RouteSet.routes]
  cases s.toList <;> rfl

/-- The listener puts `InvalidBackend` on record, in the place of what it has. -/
def recordsRefusal (conditions : ListenerConditions) : ListenerConditions :=
  conditions.replace (.resolvedRefs (.invalidBackend APPROVED_ROUTES))

variable {l : Listener} {resolvedRoutes unresolvedRoutes : RouteSet}

theorem conditions_of_firstRefused (h : unresolvedRoutes.FirstRefused) :
    (l.updateRoutes resolvedRoutes unresolvedRoutes).data.conditions = recordsRefusal l.data.conditions := by
  obtain ⟨r, hr, hrefused⟩ := h
  have hempty : unresolvedRoutes.isEmpty = false := by
    rw [isEmpty_eq_isNone_head?, hr]
    rfl
  unfold Listener.updateRoutes recordsRefusal
  simp only [hempty, Bool.false_eq_true, if_false, hr]
  exact if_pos hrefused

theorem conditions_of_not_firstRefused (h : ¬ unresolvedRoutes.FirstRefused) :
    (l.updateRoutes resolvedRoutes unresolvedRoutes).data.conditions = l.data.conditions := by
  unfold Listener.updateRoutes
  simp only
  rw [isEmpty_eq_isNone_head?]
  cases hr : unresolvedRoutes.routes.head? with
  | none => rfl
  | some r =>
    have hrefused : ¬ r.resolutionStatus = .notResolved .refNotPermitted := fun hrefused => h ⟨r, hr, hrefused⟩
    simp only [Option.isNone_some, Bool.false_eq_true, if_false]
    rw [if_neg hrefused]

end Refused

namespace RouteListenerMatcher

variable (domainPattern : String → Option (String → Bool)) (m : RouteListenerMatcher) (name : String)
variable {l : Listener}

/-- The listener of a name with its routes. -/
def attachTo (l : Listener) : Listener :=
  match m.attachedRoutes? domainPattern name with
  | some routes =>
    l.updateRoutes (routes.filter fun _ r => r.resolutionStatus = .resolved)
      (routes.filter fun _ r => r.resolutionStatus ≠ .resolved)
  | none => l

theorem getElem?_attachRoutes {g : Gateway} :
    (m.attachRoutes domainPattern g).listeners[name]? = g.listeners[name]?.map (m.attachTo domainPattern name) :=
  Std.ExtTreeMap.getElem?_map

theorem attachTo_config : (m.attachTo domainPattern name l).data.config = l.data.config := by
  unfold attachTo
  cases m.attachedRoutes? domainPattern name with
  | none => rfl
  | some routes => rfl

/-- A route that was refused a backend takes the place of what was on record. -/
theorem attachTo_ofRefs {refs : ResolvedRefs} (hl : l.data.conditions = .ofRefs refs) :
    ∃ refs', (m.attachTo domainPattern name l).data.conditions = .ofRefs refs' ∧
      (m.RefusedFirst domainPattern name → refs' = .invalidBackend APPROVED_ROUTES) ∧
      (¬ m.RefusedFirst domainPattern name → refs' = refs) := by
  have hrefusal {routes : RouteSet} (hroutes : m.attachedRoutes? domainPattern name = some routes) :
      m.RefusedFirst domainPattern name ↔
        RouteSet.FirstRefused (routes.filter fun _ r => r.resolutionStatus ≠ .resolved) := by
    unfold RefusedFirst RouteSet.FirstRefused
    simp only [hroutes, Option.some.injEq, exists_and_left, exists_eq_left']
    rfl
  unfold attachTo
  cases hroutes : m.attachedRoutes? domainPattern name with
  | none =>
    refine ⟨refs, hl, ?_, fun _ => rfl⟩
    rintro ⟨_, _, h, -⟩
    rw [hroutes] at h
    cases h
  | some routes =>
    simp only [hrefusal hroutes]
    by_cases hfirst : RouteSet.FirstRefused (routes.filter fun _ r => r.resolutionStatus ≠ .resolved)
    · rw [conditions_of_firstRefused hfirst, hl, recordsRefusal, ListenerConditions.ofRefs_replace]
      exact ⟨_, rfl, fun _ => rfl, fun h => absurd hfirst h⟩
    · rw [conditions_of_not_firstRefused hfirst, hl]
      exact ⟨refs, rfl, fun h => absurd h hfirst, fun _ => rfl⟩

end RouteListenerMatcher

namespace GatewayDeployer

variable {generation : Option Int} {l : Listener}

/-- The types and statuses published for a listener with these references. -/
def reported : ResolvedRefs → List (String × String)
  | .resolved _ | .invalidBackend _ => [("ResolvedRefs", "True"), ("Accepted", "True"), ("Programmed", "True")]
  | .resolvedWithNotAllowedRoutes _ => [("ResolvedRefs", "False"), ("Accepted", "True"), ("Programmed", "True")]
  | .invalidAllowedRoutes | .refNotPermitted _ =>
    [("ResolvedRefs", "False"), ("Accepted", "False"), ("Programmed", "False")]
  | .invalidCertificates _ => [("ResolvedRefs", "False"), ("Programmed", "False")]

theorem shown_ofRefs {resolvedCount : Nat} {refs : ResolvedRefs}
    (hl : l.data.conditions = adjustConditions resolvedCount (.ofRefs refs)) :
    (listenerStatus generation l).shown = reported refs := by
  unfold listenerStatus
  rw [hl]
  cases refs <;> rfl

/-- Nothing good is published exactly if the references are broken. -/
theorem not_reports_iff {resolvedCount : Nat} {refs : ResolvedRefs}
    (hl : l.data.conditions = adjustConditions resolvedCount (.ofRefs refs)) :
    (¬ (listenerStatus generation l).Reports "ResolvedRefs" ∧ ¬ (listenerStatus generation l).Reports "Programmed") ↔
      refs.IsBroken := by
  rw [ListenerStatus.reports_iff, ListenerStatus.reports_iff, shown_ofRefs hl]
  cases refs <;> simp [reported, ResolvedRefs.IsBroken]

theorem listenerStatus_name : (listenerStatus generation l).name = l.name := by
  unfold listenerStatus
  generalize hstatus : ({ name := l.name, attachedRoutes := l.data.attachedRoutes } : ListenerStatus) = status
  have hname : status.name = l.name := by rw [← hstatus]
  rw [← hname]
  generalize l.data.conditions.toList.map (·.2) = conditions
  clear hname hstatus
  induction conditions generalizing status with
  | nil => rfl
  | cons c conditions ih =>
    rw [List.foldl_cons, ih]

/-- The status published under a name is the one of the listener. -/
theorem listenerStatus?_resolveListenersStatuses {g : Gateway} {kube : KubeGateway}
    (hg : ∀ (name : String) (l : Listener), g.listeners[name]? = some l → l.name = name) (name : String) :
    (resolveListenersStatuses g kube).listenerStatus? name =
      g.listeners[name]?.map (listenerStatus kube.metadata.generation) := by
  have hfind : (g.listeners.toList.map (·.2)).find? (fun l => l.name = name) = g.listeners[name]? :=
    Lib.find?_values hg
  have hname : ((fun status : ListenerStatus => decide (status.name = name)) ∘
      listenerStatus kube.metadata.generation) = fun l => decide (l.name = name) := by
    funext l
    show decide ((listenerStatus kube.metadata.generation l).name = name) = decide (l.name = name)
    rw [listenerStatus_name]
  have hmap : (g.listeners.toList.map fun p => listenerStatus kube.metadata.generation p.2) =
      (g.listeners.toList.map (·.2)).map (listenerStatus kube.metadata.generation) := by
    rw [List.map_map]
    rfl
  unfold KubeGateway.listenerStatus? resolveListenersStatuses
  simp only [Option.bind_some, Option.getD_some]
  rw [hmap, List.find?_map, hname, hfind]

end GatewayDeployer

/-! ## All passes together -/

section Health

variable {domainPattern : String → Option (String → Bool)} {v : ListenerTlsConfigValidator}
variable {m : RouteListenerMatcher} {g : Gateway} {name : String}

/-- A listener after the passes before its status. -/
def Listener.processed (domainPattern : String → Option (String → Bool)) (v : ListenerTlsConfigValidator)
    (m : RouteListenerMatcher) (gatewayKey : GatewayKey) (name : String) (l : Listener) : Listener :=
  let attached := m.attachTo domainPattern name (v.validateListener gatewayKey l)
  { attached with data := { attached.data with
      conditions := GatewayDeployer.adjustConditions attached.data.resolvedRoutes.size attached.data.conditions } }

theorem getElem?_processed : (g.processed domainPattern v m).listeners[name]? =
    g.listeners[name]?.map (Listener.processed domainPattern v m g.resourceKey name) := by
  unfold Gateway.processed GatewayDeployer.adjustStatuses
  simp only [Std.ExtTreeMap.getElem?_map, RouteListenerMatcher.getElem?_attachRoutes, ListenerTlsConfigValidator.validate,
    Option.map_map]
  rfl

variable {t : GatewayImplementationType} {l : Listener}

theorem Listener.config_processed {gatewayKey : GatewayKey} :
    (l.processed domainPattern v m gatewayKey name).data.config = (v.validateListener gatewayKey l).data.config :=
  RouteListenerMatcher.attachTo_config domainPattern m name

theorem Listener.name_processed {gatewayKey : GatewayKey} :
    (l.processed domainPattern v m gatewayKey name).name = l.name := by
  unfold Listener.name
  rw [config_processed]
  unfold ListenerTlsConfigValidator.validateListener
  split
  · simp only
    split <;> rfl
  · rfl

theorem Listener.certificates?_processed {gatewayKey : GatewayKey} :
    (l.processed domainPattern v m gatewayKey name).certificates? = (v.validateListener gatewayKey l).certificates? := by
  unfold Listener.certificates?
  rw [config_processed]

/-- What is published of a converted listener with a broken certificate. -/
theorem Listener.not_reports_processed_iff {kl : KubeListener} (hkl : Listener.tryFrom kl = .ok l)
    {gatewayKey : GatewayKey} (hbroken : v.LeavesBroken gatewayKey l) {generation : Option Int} :
    (¬ (GatewayDeployer.listenerStatus generation (l.processed domainPattern v m gatewayKey name)).Reports "ResolvedRefs" ∧
      ¬ (GatewayDeployer.listenerStatus generation (l.processed domainPattern v m gatewayKey name)).Reports "Programmed") ↔
      ¬ m.RefusedFirst domainPattern name ∧
        (l.IsTls ∨ l.data.conditions.resolvedRefs? = some (.resolvedRefs .invalidAllowedRoutes)) := by
  obtain ⟨allowed, hallowed, hinvalid⟩ := validateAllowedRoutes_eq kl
  obtain ⟨tlsType, -, hdata⟩ := Listener.eq_of_tryFrom hkl
  have hconverted : l.data.conditions = .ofRefs allowed := by
    rw [hdata, ListenerConditions.ofRefs, hallowed]
  obtain ⟨validated, hvalidated, hsame, hbad⟩ := v.validateListener_ofRefs gatewayKey hconverted
  obtain ⟨attached, hattached, hrefused, hkept⟩ :=
    RouteListenerMatcher.attachTo_ofRefs domainPattern m name hvalidated
  rw [GatewayDeployer.not_reports_iff (congrArg (GatewayDeployer.adjustConditions _) hattached)]
  by_cases hfirst : m.RefusedFirst domainPattern name
  · rw [hrefused hfirst]
    exact ⟨False.elim, fun h => absurd hfirst h.1⟩
  · rw [hkept hfirst]
    by_cases htls : l.IsTls
    · exact ⟨fun _ => ⟨hfirst, .inl htls⟩, fun _ => hbad htls hbroken⟩
    · rw [hsame htls, hconverted, ListenerConditions.resolvedRefs?_ofRefs]
      constructor
      · intro h
        exact ⟨hfirst, .inr (by rw [hinvalid h])⟩
      · rintro ⟨-, h | h⟩
        · exact absurd h htls
        · obtain rfl := ListenerCondition.resolvedRefs.inj (Option.some.inj h)
          trivial

/-- **A broken certificate is never reported healthy exactly if** no listener with one has, as its
first unresolved route, a route that was refused a backend, and no listener with one that is neither
HTTPS nor TLS allows any kind of route. -/
theorem brokenNeverHealthy_iff (parseUuid : String → Option Uuid) (domainPattern : String → Option (String → Bool))
    (v : ListenerTlsConfigValidator) (m : RouteListenerMatcher) (hg : Gateway.tryFrom parseUuid m.gateway t = .ok g) :
    BrokenNeverHealthy domainPattern v m g ↔
      ∀ name l, g.listeners[name]? = some l → v.LeavesBroken g.resourceKey l →
        ¬ m.RefusedFirst domainPattern name ∧
          (l.IsTls ∨ l.data.conditions.resolvedRefs? = some (.resolvedRefs .invalidAllowedRoutes)) := by
  have hnames : ∀ (name : String) (l : Listener),
      (g.processed domainPattern v m).listeners[name]? = some l → l.name = name := by
    intro name l hl
    rw [getElem?_processed] at hl
    obtain ⟨l', hl', rfl⟩ := Option.map_eq_some_iff.1 hl
    rw [Listener.name_processed]
    exact (Gateway.getElem?_of_tryFrom hg hl').1
  have hstatus (name : String) : (g.published domainPattern v m).listenerStatus? name =
      (g.listeners[name]?.map (Listener.processed domainPattern v m g.resourceKey name)).map
        (GatewayDeployer.listenerStatus m.gateway.metadata.generation) := by
    rw [← getElem?_processed]
    exact GatewayDeployer.listenerStatus?_resolveListenersStatuses hnames name
  have hunresolved {name : String} {l : Listener} (hl : g.listeners[name]? = some l) :
      (∃ certificates, (l.processed domainPattern v m g.resourceKey name).certificates? = some certificates ∧
        ∃ c ∈ certificates, ¬ c.IsResolved) ↔ v.LeavesBroken g.resourceKey l := by
    obtain ⟨-, kl, -, hkl⟩ := Gateway.getElem?_of_tryFrom hg hl
    rw [Listener.certificates?_processed]
    exact v.exists_unresolved_iff g.resourceKey fun certificates => Listener.not_resolved_of_tryFrom hkl
  constructor
  · intro hhealth name l hl hbroken
    obtain ⟨-, kl, -, hkl⟩ := Gateway.getElem?_of_tryFrom hg hl
    obtain ⟨certificates, hcertificates, hbad⟩ := (hunresolved hl).2 hbroken
    obtain ⟨status, hfound, hnot⟩ := hhealth name _ (by rw [getElem?_processed, hl]; rfl) certificates hcertificates hbad
    rw [hstatus, hl] at hfound
    obtain rfl := Option.some.inj hfound
    exact (Listener.not_reports_processed_iff hkl hbroken).1 hnot
  · intro hcond name l' hl' certificates hcertificates hbad
    rw [getElem?_processed] at hl'
    obtain ⟨l, hl, rfl⟩ := Option.map_eq_some_iff.1 hl'
    obtain ⟨-, kl, -, hkl⟩ := Gateway.getElem?_of_tryFrom hg hl
    have hbroken := (hunresolved hl).1 ⟨certificates, hcertificates, hbad⟩
    refine ⟨GatewayDeployer.listenerStatus m.gateway.metadata.generation _, ?_,
      (Listener.not_reports_processed_iff hkl hbroken).2 (hcond name l hl hbroken)⟩
    rw [hstatus, hl]
    rfl

end Health

/-! ## A missing secret and a refused backend -/

/-- An HTTPS listener whose secret is not there. -/
def secretlessKubeGateway : KubeGateway where
  metadata := { name := some "gw", uid := some "1" }
  spec :=
    { gatewayClassName := "kubvernor"
      listeners :=
        [{ name := "https", port := 443, protocol := "HTTPS"
           tls := some { mode := some .terminate, certificateRefs := some [{ name := "missing" }] } }] }

def missingSecret : ResourceKey := { name := "missing" }

/-- The listener as it is converted. -/
def secretlessListener : Listener where
  protocol := .https
  data :=
    { config := { name := "https", port := 443, tlsType := some (.terminate [.notResolved missingSecret]) }
      conditions := ListenerConditions.replace ∅ (.resolvedRefs (.resolved ["HTTPRoute", "GRPCRoute"])) }

def secretlessGateway : Gateway where
  id := 1
  resourceKey := { name := "gw" }
  listeners := .ofList [("https", secretlessListener)]

/-- No secret is there and no reference is granted. -/
def emptyValidator : ListenerTlsConfigValidator where
  getReference := fun _ => none
  isAllowed := fun _ _ _ => false
  certificateFromPem := fun _ => true
  privateKeyFromPem := fun _ => true

/-- A route of the gateway whose one backend is in a namespace that does not grant it. -/
def refusedRoute : Route where
  resourceKey := { name := "route", kind := "HTTPRoute" }
  parents := some [{ name := "gw" }]
  resolutionStatus := .notResolved .refNotPermitted
  routeType := .http
    [{ name := "route-0"
       backends := [.notAllowed (.service { resourceKey := { ns := "other", name := "svc", kind := "Service" } })] }]

/-- Without routes the listener is published as broken. -/
theorem secretlessGateway_neverHealthy :
    BrokenNeverHealthy (fun pattern => some (· = pattern)) emptyValidator
      { gateway := secretlessKubeGateway, routes := [] } secretlessGateway := by
  refine (brokenNeverHealthy_iff (fun _ => some 1) _ _ _ (t := .envoy) rfl).2 ?_
  intro name l hl _
  constructor
  · rintro ⟨routes, -, hroutes, -⟩
    cases hroutes
  · refine .inl ?_
    obtain ⟨hname, hmem⟩ := Prod.mk.inj (List.mem_singleton.1 (Lib.mem_of_getElem?_ofList hl))
    rw [hmem]
    exact .inl rfl

/-- With the route it is published as healthy. -/
theorem secretlessGateway_healthy :
    Gateway.tryFrom (fun _ => some 1) secretlessKubeGateway .envoy = .ok secretlessGateway ∧
    ¬ BrokenNeverHealthy (fun pattern => some (· = pattern)) emptyValidator
      { gateway := secretlessKubeGateway, routes := [refusedRoute] } secretlessGateway := by
  refine ⟨rfl, fun hhealth => ?_⟩
  obtain ⟨status, hstatus, hrefs, -⟩ := hhealth "https" _ rfl _ rfl ⟨.notResolved missingSecret, by decide, by decide⟩
  have hshown : ((secretlessGateway.published (fun pattern => some (· = pattern)) emptyValidator
      { gateway := secretlessKubeGateway, routes := [refusedRoute] }).listenerStatus? "https").map (·.shown) =
        some [("ResolvedRefs", "True"), ("Accepted", "True"), ("Programmed", "True")] := by decide +kernel
  rw [hstatus, Option.map_some] at hshown
  rw [ListenerStatus.reports_iff, Option.some.inj hshown] at hrefs
  exact hrefs List.mem_cons_self

end Kubvernor
