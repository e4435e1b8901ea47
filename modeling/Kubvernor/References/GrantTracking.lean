import Kubvernor.Controllers.TlsConfigValidator
import Kubvernor.Lib.Transition
import Kubvernor.References.GrantResolution
import Kubvernor.State.Routes

/-!
# Tracking the references that need a grant

When a gateway is added, the grants resolver searches the linked routes and the certificates of the
gateway for the references that may need a grant, and adds them to those it tracks; when it is deleted,
the resolver searches again and takes away what it finds then. Routes change in between. A reference
that the search does not find again stays tracked, so the tracked references follow the gateways exactly
as long as no search misses one that the gateway's last search found (`grants_follow_iff`).
-/

namespace Kubvernor

open Lib

/-! ## The search -/

/-- The object a backend refers to, if that may need a grant. -/
def Backend.grantTarget? : Backend → Option ResourceKey
  | .maybe (.service config) | .maybe (.invalid config) => some config.resourceKey
  | .maybe (.inferencePool _) | .resolved _ | .unresolved _ | .notAllowed _ | .invalid _ => none

/-- The references of some backends of a route. -/
def Route.grantReferencesOf (route : Route) (gatewayKey : GatewayKey) (backends : List Backend) :
    List ReferenceGrantRef :=
  (backends.filterMap Backend.grantTarget?).map fun target => .ofKeys route.resourceKey target gatewayKey

/-- The references of a gateway to its certificates. -/
def Gateway.grantReferences (gateway : Gateway) : List ReferenceGrantRef :=
  gateway.terminateCertificates.map fun certificate =>
    .ofKeys gateway.resourceKey certificate.resourceKey gateway.resourceKey

namespace ReferenceGrantsResolver

variable (isIpAddr : String → Bool) (s : ReferenceGrantsResolver) (routes : RouteStores) (gateway : Gateway)

/-- `search_references`. -/
def searchReferences : Std.ExtTreeSet ReferenceGrantRef :=
  let linkedRoutes := routes.findLinkedRoutes isIpAddr gateway.resourceKey
  .ofList (linkedRoutes.flatMap (fun route => route.grantReferencesOf gateway.resourceKey route.backends) ++
    gateway.grantReferences)

/-- `add_references_by_gateway`. -/
def addReferencesByGateway : ReferenceGrantsResolver :=
  { s with references := s.references ∪ searchReferences isIpAddr routes gateway }

/-- `delete_references_by_gateway`. -/
def deleteReferencesByGateway : ReferenceGrantsResolver :=
  { s with references := s.references \ searchReferences isIpAddr routes gateway }

variable {isIpAddr s routes gateway} {r : ReferenceGrantRef}

theorem mem_searchReferences : r ∈ searchReferences isIpAddr routes gateway ↔
    (∃ route ∈ routes.findLinkedRoutes isIpAddr gateway.resourceKey,
      r ∈ route.grantReferencesOf gateway.resourceKey route.backends) ∨ r ∈ gateway.grantReferences := by
  rw [searchReferences, Std.ExtTreeSet.mem_ofList, List.contains_iff_mem, List.mem_append, List.mem_flatMap]

/-- What is found is for the gateway. -/
theorem gatewayKey_of_mem_searchReferences (h : r ∈ searchReferences isIpAddr routes gateway) :
    r.gatewayKey = gateway.resourceKey := by
  rcases mem_searchReferences.1 h with ⟨route, -, h⟩ | h
  · obtain ⟨target, -, rfl⟩ := List.mem_map.1 h
    rfl
  · obtain ⟨certificate, -, rfl⟩ := List.mem_map.1 h
    rfl

theorem mem_addReferencesByGateway : r ∈ (s.addReferencesByGateway isIpAddr routes gateway).references ↔
    r ∈ s.references ∨ r ∈ searchReferences isIpAddr routes gateway :=
  Std.ExtTreeSet.mem_union_iff

theorem mem_deleteReferencesByGateway : r ∈ (s.deleteReferencesByGateway isIpAddr routes gateway).references ↔
    r ∈ s.references ∧ r ∉ searchReferences isIpAddr routes gateway :=
  Std.ExtTreeSet.mem_diff_iff

/-- References of another gateway stay as they are. -/
theorem mem_addReferencesByGateway_of_ne (h : r.gatewayKey ≠ gateway.resourceKey) :
    r ∈ (s.addReferencesByGateway isIpAddr routes gateway).references ↔ r ∈ s.references := by
  rw [mem_addReferencesByGateway]
  exact or_iff_left fun hfound => h (gatewayKey_of_mem_searchReferences hfound)

theorem mem_deleteReferencesByGateway_of_ne (h : r.gatewayKey ≠ gateway.resourceKey) :
    r ∈ (s.deleteReferencesByGateway isIpAddr routes gateway).references ↔ r ∈ s.references := by
  rw [mem_deleteReferencesByGateway]
  exact and_iff_left fun hfound => h (gatewayKey_of_mem_searchReferences hfound)

end ReferenceGrantsResolver

/-! ## Runs -/

/-- The stores of the routes and the resolver. What the search found when a gateway was added last is
recorded for the statements; a gateway that was deleted since has none. -/
structure GrantTracking where
  routes : RouteStores := {}
  resolver : ReferenceGrantsResolver := {}
  found : GatewayKey → Std.ExtTreeSet ReferenceGrantRef := fun _ => ∅

/-- A controller changes the routes, the validator adds or deletes a gateway, or the grants are resolved. -/
inductive GrantStep
  | changeRoutes (op : RouteStoresOp)
  | addReferencesByGateway (gateway : Gateway)
  | deleteReferencesByGateway (gateway : Gateway)
  | resolveInternal (lister : ReferenceGrantLister)

variable (isIpAddr : String → Bool)

def grantTrackingSystem : System GrantTracking GrantStep where
  init := {}
  step
    | σ, .changeRoutes op => some { σ with routes := σ.routes.apply op }
    | σ, .addReferencesByGateway gateway =>
      some
        { routes := σ.routes
          resolver := σ.resolver.addReferencesByGateway isIpAddr σ.routes gateway
          found := fun g =>
            if g = gateway.resourceKey then ReferenceGrantsResolver.searchReferences isIpAddr σ.routes gateway
            else σ.found g }
    | σ, .deleteReferencesByGateway gateway =>
      some
        { routes := σ.routes
          resolver := σ.resolver.deleteReferencesByGateway isIpAddr σ.routes gateway
          found := fun g => if g = gateway.resourceKey then ∅ else σ.found g }
    | σ, .resolveInternal lister => some { σ with resolver := (σ.resolver.resolveInternal lister).1 }

/-- Of each gateway are tracked the references found when it was added last, and none once it is deleted. -/
def GrantTracking.Follows (σ : GrantTracking) : Prop :=
  ∀ g r, r ∈ σ.resolver.references ∧ r.gatewayKey = g ↔ r ∈ σ.found g

/-- The search for a gateway finds what it found last. -/
def FindsAgain (σ : GrantTracking) : GrantStep → Prop
  | .addReferencesByGateway gateway | .deleteReferencesByGateway gateway =>
    ∀ r ∈ σ.found gateway.resourceKey, r ∈ ReferenceGrantsResolver.searchReferences isIpAddr σ.routes gateway
  | .changeRoutes _ | .resolveInternal _ => True

variable {isIpAddr} {σ σ' : GrantTracking} {step : GrantStep}

namespace GrantTracking.Follows

open ReferenceGrantsResolver

theorem init : (grantTrackingSystem isIpAddr).init.Follows := by
  intro g r
  simp [grantTrackingSystem]

/-- Both searches decide only about the references of their gateway, and they miss none of those that
are tracked exactly if they find again what was found. -/
theorem step_iff (h : σ.Follows) :
    (∀ σ', (grantTrackingSystem isIpAddr).step σ step = some σ' → σ'.Follows) ↔ FindsAgain isIpAddr σ step := by
  cases step with
  | changeRoutes op =>
    simp only [grantTrackingSystem, Option.some.injEq, forall_eq', FindsAgain, iff_true]
    exact h
  | resolveInternal lister =>
    simp only [grantTrackingSystem, Option.some.injEq, forall_eq', FindsAgain, iff_true]
    exact h
  | addReferencesByGateway gateway =>
    simp only [grantTrackingSystem, Option.some.injEq, forall_eq', FindsAgain, Follows]
    constructor
    · intro hfollows r hr
      obtain ⟨hmem, hkey⟩ := (h _ r).2 hr
      have hfound := (hfollows gateway.resourceKey r).1 ⟨mem_addReferencesByGateway.2 (.inl hmem), hkey⟩
      rwa [if_pos rfl] at hfound
    · intro hfinds g r
      by_cases hg : g = gateway.resourceKey
      · subst hg
        rw [if_pos rfl, mem_addReferencesByGateway]
        constructor
        · rintro ⟨hr | hr, hkey⟩
          · exact hfinds r ((h _ r).1 ⟨hr, hkey⟩)
          · exact hr
        · intro hr
          exact ⟨.inr hr, gatewayKey_of_mem_searchReferences hr⟩
      · rw [if_neg hg, ← h g r]
        refine and_congr_left fun hkey => ?_
        subst hkey
        exact mem_addReferencesByGateway_of_ne hg
  | deleteReferencesByGateway gateway =>
    simp only [grantTrackingSystem, Option.some.injEq, forall_eq', FindsAgain, Follows]
    constructor
    · intro hfollows r hr
      obtain ⟨hmem, hkey⟩ := (h _ r).2 hr
      by_contra hmissed
      have hfound := (hfollows gateway.resourceKey r).1 ⟨mem_deleteReferencesByGateway.2 ⟨hmem, hmissed⟩, hkey⟩
      simp at hfound
    · intro hfinds g r
      by_cases hg : g = gateway.resourceKey
      · subst hg
        rw [if_pos rfl, mem_deleteReferencesByGateway]
        constructor
        · rintro ⟨⟨hr, hmissed⟩, hkey⟩
          exact absurd (hfinds r ((h _ r).1 ⟨hr, hkey⟩)) hmissed
        · intro hr
          simp at hr
      · rw [if_neg hg, ← h g r]
        refine and_congr_left fun hkey => ?_
        subst hkey
        exact mem_deleteReferencesByGateway_of_ne hg

end GrantTracking.Follows

/-- **The tracked references follow the gateways** along a run exactly if every search for a gateway finds
what the last one found. -/
theorem grants_follow_iff (isIpAddr : String → Bool) (steps : List GrantStep) :
    (grantTrackingSystem isIpAddr).Along
        (fun σ step => ∀ σ', (grantTrackingSystem isIpAddr).step σ step = some σ' → σ'.Follows)
        (grantTrackingSystem isIpAddr).init steps ↔
      (grantTrackingSystem isIpAddr).Along (FindsAgain isIpAddr) (grantTrackingSystem isIpAddr).init steps :=
  System.along_congr GrantTracking.Follows GrantTracking.Follows.init (fun _ _ h => h.step_iff)
    fun _ _ _ h hfinds hstep => h.step_iff.2 hfinds _ hstep

/-- A route with a backend in another namespace. -/
def otherNamespaceRoute : HTTPRoute where
  metadata := { name := some "route" }
  spec := { rules := some [{ backendRefs := some [{ name := "service", ns := some "other" }] }] }

/-- The route is deleted between the two events of its gateway. -/
def deletedRouteRun : List GrantStep :=
  let gateway : Gateway := { id := 0, resourceKey := .new "gateway" }
  [.changeRoutes (.saveHttpRoute otherNamespaceRoute.resourceKey otherNamespaceRoute),
    .changeRoutes (.attachHttpRouteToGateway (.new "gateway") otherNamespaceRoute.resourceKey),
    .addReferencesByGateway gateway, .changeRoutes (.deleteHttpRoute otherNamespaceRoute.resourceKey),
    .deleteReferencesByGateway gateway]

/-- **The reference of the deleted route stays tracked** for the deleted gateway. -/
theorem deletedRouteRun_still_tracked : ∃ σ,
    (grantTrackingSystem fun _ => false).run (grantTrackingSystem fun _ => false).init deletedRouteRun = some σ ∧
      (∃ r ∈ σ.resolver.references, r.gatewayKey = .new "gateway") ∧ σ.found (.new "gateway") = ∅ ∧
      ¬ σ.Follows := by
  have hrun : ((grantTrackingSystem fun _ => false).run (grantTrackingSystem fun _ => false).init
      deletedRouteRun).map (fun σ => decide (∃ r ∈ σ.resolver.references.toList, r.gatewayKey = .new "gateway") &&
        (σ.found (.new "gateway")).isEmpty) = some true := by decide +kernel
  obtain ⟨σ, hσ, h⟩ := Option.map_eq_some_iff.1 hrun
  rw [Bool.and_eq_true, decide_eq_true_eq, Std.ExtTreeSet.isEmpty_iff] at h
  obtain ⟨⟨r, hr, hkey⟩, hempty⟩ := h
  rw [Std.ExtTreeSet.mem_toList] at hr
  refine ⟨σ, hσ, ⟨r, hr, hkey⟩, hempty, fun hfollows => ?_⟩
  have hfound := (hfollows _ r).1 ⟨hr, hkey⟩
  rw [hempty] at hfound
  simp at hfound

end Kubvernor
