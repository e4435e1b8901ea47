import Kubvernor.Control.GatewayProcessedHandler
import Kubvernor.Controllers.RouteListenerMatcher

/-!
# What is published of a route without listeners

Matching leaves a reason on a route that no listener admits, unless the route only asks for a port that no
listener has: then it keeps the status of its backends. Of the reasons about backends only one, a refused
reference, is published as a route that is not accepted (`orphan_rejected_iff`).
-/

namespace Kubvernor

namespace RouteListenerMatcher

variable (domainPattern : String → Option (String → Bool)) (m : RouteListenerMatcher) (route : Route)

/-- The gateway is the parent, whatever port and section are asked for. -/
def IsParent (parent : ParentReference) : Prop :=
  (parent.routeRefKey route.resourceKey.ns).resourceKey.name = m.gateway.resourceKey.name ∧
    (parent.routeRefKey route.resourceKey.ns).resourceKey.ns = m.gateway.resourceKey.ns

instance (parent : ParentReference) : Decidable (m.IsParent route parent) := inferInstanceAs (Decidable (_ ∧ _))

/-- The listeners of the gateway that admit the namespace of a route. -/
def byNamespace : List KubeListener :=
  m.filterListenersByNamespace m.gateway.spec.listeners m.gateway.resourceKey route.resourceKey

/-- Those of them that admit its hostnames too. -/
def byHostname : List KubeListener := filterListenersByHostnames domainPattern (m.byNamespace route) route

/-- The reason a parent reference leaves on a route when it selects no listener. -/
def reasonOf (parent : ParentReference) : Option NotResolvedReason :=
  if m.IsParent route parent then
    if m.byNamespace route = [] then some .notAllowedByListeners
    else if m.byHostname domainPattern route = [] then some .noMatchingListenerHostname
    else if parent.sectionName.isSome then some .noMatchingParent
    else none
  else none

variable {domainPattern m route}

theorem matchParent_eq (found : List KubeListener × Option ResolutionStatus) (parent : ParentReference) :
    m.matchParent domainPattern route found parent =
      if m.IsParent route parent then
        let matched := (m.byHostname domainPattern route).filter parent.selects
        if m.byNamespace route = [] then (found.1, some (.notResolved .notAllowedByListeners))
        else if m.byHostname domainPattern route = [] then
          (found.1, some (.notResolved .noMatchingListenerHostname))
        else if matched = [] ∧ parent.sectionName.isSome then (found.1, some (.notResolved .noMatchingParent))
        else (found.1 ++ matched, found.2)
      else found := rfl

/-- A round that finds nothing leaves its reason, if it has one. -/
theorem matchParent_of_nil {found : List KubeListener × Option ResolutionStatus} {parent : ParentReference}
    (h : (m.matchParent domainPattern route found parent).1 = []) : found.1 = [] ∧
      (m.matchParent domainPattern route found parent).2 =
        ((m.reasonOf domainPattern route parent).map ResolutionStatus.notResolved).or found.2 := by
  rw [matchParent_eq] at h ⊢
  unfold reasonOf
  by_cases hparent : m.IsParent route parent
  · rw [if_pos hparent] at h ⊢
    rw [if_pos hparent]
    by_cases hns : m.byNamespace route = []
    · simp only [hns, if_true] at h ⊢
      exact ⟨h, rfl⟩
    · by_cases hhost : m.byHostname domainPattern route = []
      · simp only [hns, hhost, if_true, if_false] at h ⊢
        exact ⟨h, rfl⟩
      · by_cases hsection : parent.sectionName.isSome = true
        · by_cases hmatched : (m.byHostname domainPattern route).filter parent.selects = []
          · simp only [hns, hhost, hsection, hmatched, and_self, if_true, if_false] at h ⊢
            exact ⟨h, rfl⟩
          · simp only [hns, hhost, hmatched, false_and, if_false] at h
            exact absurd (List.append_eq_nil_iff.1 h).2 hmatched
        · simp only [hns, hhost, hsection, Bool.false_eq_true, and_false, if_false] at h ⊢
          exact ⟨(List.append_eq_nil_iff.1 h).1, rfl⟩
  · rw [if_neg hparent] at h ⊢
    rw [if_neg hparent]
    exact ⟨h, rfl⟩

/-- Without listeners, a route has the reason of the last parent reference that has one. -/
theorem foldl_matchParent_of_nil (parents : List ParentReference) {found : List KubeListener × Option ResolutionStatus}
    (h : (parents.foldl (m.matchParent domainPattern route) found).1 = []) : found.1 = [] ∧
      (parents.foldl (m.matchParent domainPattern route) found).2 =
        (((parents.filterMap (m.reasonOf domainPattern route)).getLast?).map ResolutionStatus.notResolved).or found.2 := by
  induction parents generalizing found with
  | nil => exact ⟨h, rfl⟩
  | cons parent parents ih =>
    rw [List.foldl_cons] at h ⊢
    obtain ⟨hround, hstatus⟩ := ih h
    obtain ⟨hfound, hleft⟩ := matchParent_of_nil hround
    refine ⟨hfound, ?_⟩
    rw [hstatus, hleft, List.filterMap_cons]
    cases hreason : m.reasonOf domainPattern route parent with
    | none => rfl
    | some reason =>
      simp only [List.getLast?_cons]
      cases (parents.filterMap (m.reasonOf domainPattern route)).getLast? with
      | none => rfl
      | some _ => rfl

/-- A parent reference to the gateway that leaves a reason: no listener admits the route's namespace, none
its hostnames, or a section is asked for. -/
def LeavesReason (domainPattern : String → Option (String → Bool)) (m : RouteListenerMatcher) (route : Route) : Prop :=
  ∃ parent ∈ route.parents.getD [], m.IsParent route parent ∧
    (m.byNamespace route = [] ∨ m.byHostname domainPattern route = [] ∨ parent.sectionName.isSome)

theorem reasonOf_isSome {parent : ParentReference} : (m.reasonOf domainPattern route parent).isSome ↔
    m.IsParent route parent ∧
      (m.byNamespace route = [] ∨ m.byHostname domainPattern route = [] ∨ parent.sectionName.isSome) := by
  unfold reasonOf
  by_cases hparent : m.IsParent route parent
  · rw [if_pos hparent]
    by_cases hns : m.byNamespace route = []
    · simp [hparent, hns]
    · by_cases hhost : m.byHostname domainPattern route = []
      · simp [hparent, hns, hhost]
      · by_cases hsection : parent.sectionName.isSome = true <;> simp [hparent, hns, hhost, hsection]
  · simp [hparent]

end RouteListenerMatcher

/-! ## The conditions -/

/-- A reason about listeners or the one about a refused reference. -/
def ResolutionStatus.IsRejected : ResolutionStatus → Prop
  | .notResolved .notAllowedByListeners | .notResolved .noMatchingListenerHostname
  | .notResolved .noMatchingParent | .notResolved .refNotPermitted => True
  | .resolved | .notResolved .unknown | .notResolved .invalidBackend | .notResolved .backendNotFound => False

theorem RouteListenerMatcher.isRejected_reasonOf {domainPattern : String → Option (String → Bool)}
    {m : RouteListenerMatcher} {route : Route} {parent : ParentReference} {reason : NotResolvedReason}
    (h : m.reasonOf domainPattern route parent = some reason) : (ResolutionStatus.notResolved reason).IsRejected := by
  unfold reasonOf at h
  split at h
  · split at h
    · obtain rfl := Option.some.inj h
      trivial
    · split at h
      · obtain rfl := Option.some.inj h
        trivial
      · split at h
        · obtain rfl := Option.some.inj h
          trivial
        · cases h
  · cases h

namespace GatewayProcessedHandler

/-- The conditions say that the route is not accepted, and none says that it is. -/
structure Rejects (conditions : List Condition) : Prop where
  rejected : ∃ c ∈ conditions, c.type = "Accepted" ∧ c.status = "False"
  never_accepted : ∀ c ∈ conditions, c.type = "Accepted" → c.status ≠ "True"

instance (conditions : List Condition) : Decidable (Rejects conditions) :=
  decidable_of_iff
    ((∃ c ∈ conditions, c.type = "Accepted" ∧ c.status = "False") ∧
      ∀ c ∈ conditions, c.type = "Accepted" → c.status ≠ "True")
    ⟨fun h => ⟨h.1, h.2⟩, fun h => ⟨h.1, h.2⟩⟩

/-- The generation that conditions are written for does not matter. -/
theorem rejects_observed {generation : Option Int} {conditions : List Condition} :
    Rejects (observed generation conditions) ↔ Rejects conditions := by
  constructor
  · rintro ⟨hrejected, hnever⟩
    constructor
    · obtain ⟨c, hc, htype, hstatus⟩ := hrejected
      obtain ⟨c', hc', rfl⟩ := List.mem_map.1 hc
      exact ⟨c', hc', htype, hstatus⟩
    · intro c hc
      exact hnever { c with observedGeneration := generation } (List.mem_map.2 ⟨c, hc, rfl⟩)
  · rintro ⟨⟨c, hc, htype, hstatus⟩, hnever⟩
    refine ⟨⟨_, List.mem_map_of_mem hc, htype, hstatus⟩, ?_⟩
    intro c' hc'
    obtain ⟨c, hc, rfl⟩ := List.mem_map.1 hc'
    exact hnever c hc

theorem rejects_nonAttachedConditions {status : ResolutionStatus} :
    Rejects (nonAttachedConditions status) ↔ status.IsRejected := by
  cases status with
  | resolved => exact iff_of_false (by decide) id
  | notResolved reason =>
    cases reason with
    | notAllowedByListeners | noMatchingListenerHostname | noMatchingParent | refNotPermitted =>
      exact iff_of_true (by decide) trivial
    | unknown | invalidBackend | backendNotFound => exact iff_of_false (by decide) id

end GatewayProcessedHandler

section Orphan

open GatewayProcessedHandler

variable (domainPattern : String → Option (String → Bool)) {m : RouteListenerMatcher} {route : Route}

/-- The status of a route without listeners: rejected by its listeners, or what its backends say. -/
theorem isRejected_matchRoute_iff (hnone : (m.filterMatchingRoute domainPattern route).1 = []) :
    (m.matchRoute domainPattern route).route.resolutionStatus.IsRejected ↔
      m.LeavesReason domainPattern route ∨ route.resolutionStatus.IsRejected := by
  obtain ⟨-, hstatus⟩ := RouteListenerMatcher.foldl_matchParent_of_nil (route.parents.getD []) hnone
  have hroute : (m.matchRoute domainPattern route).route.resolutionStatus =
      (m.filterMatchingRoute domainPattern route).2.getD route.resolutionStatus := rfl
  rw [hroute, RouteListenerMatcher.filterMatchingRoute, hstatus, Option.or_none]
  cases hlast : ((route.parents.getD []).filterMap (m.reasonOf domainPattern route)).getLast? with
  | none =>
    rw [List.getLast?_eq_none_iff, List.filterMap_eq_nil_iff] at hlast
    refine ⟨.inr, ?_⟩
    rintro (⟨parent, hparent, hreason⟩ | hstatus)
    · have hsome := RouteListenerMatcher.reasonOf_isSome.2 hreason
      rw [hlast parent hparent] at hsome
      cases hsome
    · exact hstatus
  | some reason =>
    obtain ⟨parent, hparent, hreason⟩ := List.mem_filterMap.1 (List.mem_of_getLast? hlast)
    refine iff_of_true (RouteListenerMatcher.isRejected_reasonOf hreason) (.inl ⟨parent, hparent, ?_⟩)
    exact RouteListenerMatcher.reasonOf_isSome.1 (by rw [hreason]; rfl)

/-- The entries of an orphaned route, with the conditions its status asks for. -/
def withOrphanEntries {M F : Type} (self : GatewayProcessedHandler) (g : GatewayKey) (written : List Condition)
    (r : KubeRoute M F) : KubeRoute M F :=
  { r with
    status := some
      { parents := self.retainParents g r.statusParents ++ self.newParents written (r.spec.parentRefs.getD []) } }

/-- **A route without listeners is published as not accepted exactly if** one of its references to the gateway
leaves a reason, or its backends left the one about a refused reference. -/
theorem orphan_rejected_iff (hnone : (m.filterMatchingRoute domainPattern route).1 = [])
    (self : GatewayProcessedHandler) (g : GatewayKey) :
    let orphan := (m.matchRoute domainPattern route).route
    let written (generation : Option Int) := observed generation (nonAttachedConditions orphan.resolutionStatus)
    (∀ r, self.attachedHttpRoute? g orphan = some r → self.updateHttpNonAttachedRouteParents g orphan =
      some (withOrphanEntries self g (written r.metadata.generation) r)) ∧
    (∀ r, self.attachedGrpcRoute? g orphan = some r → self.updateGrpcNonAttachedRouteParents g orphan =
      some (withOrphanEntries self g (written r.metadata.generation) r)) ∧
    ∀ generation, Rejects (written generation) ↔
      m.LeavesReason domainPattern route ∨ route.resolutionStatus.IsRejected := by
  refine ⟨fun r hr => ?_, fun r hr => ?_, fun generation => ?_⟩
  · rw [updateHttpNonAttachedRouteParents, updateHttpRouteParents, hr]
    rfl
  · rw [updateGrpcNonAttachedRouteParents, updateGrpcRouteParents, hr]
    rfl
  · rw [rejects_observed, rejects_nonAttachedConditions, isRejected_matchRoute_iff domainPattern hnone]

end Orphan

/-! ## A section and a port that no listener has -/

/-- A gateway with one listener, on port 80. -/
def oneListenerMatcher : RouteListenerMatcher where
  gateway :=
    { metadata := { name := some "gw" }
      spec :=
        { gatewayClassName := "kubvernor"
          listeners := [{ name := "http", port := 80, protocol := "HTTP" }] } }
  routes := []

/-- A route with its backends resolved, and one parent reference. -/
def routeWithParent (parent : ParentReference) : Route where
  resourceKey := { name := "route", kind := "HTTPRoute" }
  parents := some [parent]
  resolutionStatus := .resolved
  routeType := .http []

def anyDomain : String → Option (String → Bool) := fun _ => some fun _ => true

/-- A route that asks for a section no listener has is rejected. -/
theorem unknownSection_rejected :
    GatewayProcessedHandler.Rejects (GatewayProcessedHandler.observed none
      (GatewayProcessedHandler.nonAttachedConditions (oneListenerMatcher.matchRoute anyDomain
        (routeWithParent { name := "gw", sectionName := some "https" })).route.resolutionStatus)) :=
  ((orphan_rejected_iff anyDomain (show (oneListenerMatcher.filterMatchingRoute anyDomain
      (routeWithParent { name := "gw", sectionName := some "https" })).1 = [] by decide +kernel)
    { routes := {}, controllerName := "kubvernor" } (.new "gw")).2.2 none).2
    (.inl ⟨{ name := "gw", sectionName := some "https" }, by decide, by decide, .inr (.inr rfl)⟩)

/-- **A route that asks for a port no listener has is published as accepted.** -/
theorem unknownPort_accepted :
    let route := routeWithParent { name := "gw", port := some 8080 }
    let orphan := (oneListenerMatcher.matchRoute anyDomain route).route
    (oneListenerMatcher.filterMatchingRoute anyDomain route).1 = [] ∧
    (GatewayProcessedHandler.nonAttachedConditions orphan.resolutionStatus).map (fun c => (c.type, c.status)) =
      [("Accepted", "True"), ("ResolvedRefs", "True")] ∧
    ¬ GatewayProcessedHandler.Rejects (GatewayProcessedHandler.nonAttachedConditions orphan.resolutionStatus) := by
  decide +kernel

end Kubvernor
