import Kubvernor.References.Polling
import Kubvernor.State.Routes

/-!
# Tracking the backends of routes

`BackendReferenceResolver` has one resolver for Services and one for pools. When a gateway is added, each
is given what the backends of the linked routes refer to, under the keys of the routes; the references are
told apart by the kind their keys have. A reference is polled if some linked route has it, and what is
polled has the value that the API server gives for its namespace and name (`getReference_polled`).
-/

namespace Kubvernor

open Lib

/-! ## References of routes -/

/-- The key of a backend that is still to be resolved. -/
def Backend.maybeKey? : Backend → Option ResourceKey
  | .maybe t => some t.resourceKey
  | .resolved _ | .unresolved _ | .notAllowed _ | .invalid _ => none

/-- The references of some backends to objects of a kind. -/
def referencesOfKind (kind : String) (backends : List Backend) : Std.ExtTreeSet ReferenceKey :=
  .ofList ((backends.filterMap Backend.maybeKey?).filter fun k => k.kind = kind)

namespace Route

def serviceReferences (route : Route) : Std.ExtTreeSet ReferenceKey :=
  referencesOfKind "Service" (route.backends ++ route.filterBackends)

def inferencePoolReferences (route : Route) : Std.ExtTreeSet ReferenceKey :=
  referencesOfKind "InferencePool" route.backends

end Route

theorem mem_referencesOfKind {kind : String} {backends : List Backend} {k : ReferenceKey} :
    k ∈ referencesOfKind kind backends ↔ (∃ b ∈ backends, b.maybeKey? = some k) ∧ k.kind = kind := by
  rw [referencesOfKind, Std.ExtTreeSet.mem_ofList, List.contains_iff_mem, List.mem_filter, List.mem_filterMap,
    decide_eq_true_eq]

/-- What the linked routes refer to, by their keys. -/
def routeReferences (references : Route → Std.ExtTreeSet ReferenceKey) (linkedRoutes : List Route) :
    RouteToReferenceMapping :=
  .ofList (linkedRoutes.map fun route => (route.resourceKey, references route))

theorem mem_referenceKeys {m : RouteToReferenceMapping} {k : ReferenceKey} :
    k ∈ m.referenceKeys ↔ ∃ (r : RouteKey) (refs : Std.ExtTreeSet ReferenceKey), m[r]? = some refs ∧ k ∈ refs := by
  simp only [RouteToReferenceMapping.referenceKeys, List.mem_flatMap, Prod.exists,
    Std.ExtTreeMap.mem_toList_iff_getElem?_eq_some, Std.ExtTreeSet.mem_toList]

/-- Where a key stands for one route, no route's references are lost. -/
theorem mem_referenceKeys_routeReferences {references : Route → Std.ExtTreeSet ReferenceKey}
    {linkedRoutes : List Route} {k : ReferenceKey}
    (hkeys : ∀ a ∈ linkedRoutes, ∀ b ∈ linkedRoutes, a.resourceKey = b.resourceKey → a = b) :
    k ∈ (routeReferences references linkedRoutes).referenceKeys ↔ ∃ route ∈ linkedRoutes, k ∈ references route := by
  rw [mem_referenceKeys]
  constructor
  · rintro ⟨r, refs, hr, hk⟩
    obtain ⟨route, hroute, heq⟩ := List.mem_map.1 (mem_of_getElem?_ofList hr)
    obtain ⟨-, rfl⟩ := Prod.mk.inj heq
    exact ⟨route, hroute, hk⟩
  · rintro ⟨route, hroute, hk⟩
    have hmem : (route.resourceKey, references route) ∈ linkedRoutes.map fun r => (r.resourceKey, references r) :=
      List.mem_map.2 ⟨route, hroute, rfl⟩
    obtain ⟨refs, hrefs⟩ := exists_getElem?_ofList.2 ⟨_, hmem⟩
    obtain ⟨route', hroute', heq⟩ := List.mem_map.1 (mem_of_getElem?_ofList hrefs)
    obtain ⟨hkey, rfl⟩ := Prod.mk.inj heq
    obtain rfl := hkeys route' hroute' route hroute hkey
    exact ⟨_, _, hrefs, hk⟩

/-! ## The resolver -/

structure BackendReferenceResolver where
  referenceResolver : MultiReferencesResolver Service := {}
  inferencePoolReferenceResolver : MultiReferencesResolver InferencePool := {}

/-- `add_references_by_gateway`, with `none` for a counter that underflows. -/
def BackendReferenceResolver.addReferencesByGateway (s : BackendReferenceResolver) (isIpAddr : String → Bool)
    (routes : RouteStores) (gatewayKey : GatewayKey) : Option BackendReferenceResolver :=
  let linkedRoutes := routes.findLinkedRoutes isIpAddr gatewayKey
  (s.referenceResolver.addReferencesForGateway gatewayKey
    (routeReferences Route.serviceReferences linkedRoutes)).bind fun services =>
  (s.inferencePoolReferenceResolver.addReferencesForGateway gatewayKey
    (routeReferences Route.inferencePoolReferences linkedRoutes)).map fun inferencePools =>
  ⟨services, inferencePools⟩

namespace MultiReferencesResolver

variable {R : Type}

/-- One round of `resolve`: every counted reference is fetched, and the answer written. -/
def poll [DecidableEq R] (clearMeta : R → R) (fetch : ReferenceKey → Option R) (s : MultiReferencesResolver R) :
    MultiReferencesResolver R :=
  let check (refs : References R) (k : ReferenceKey) : References R := (refs.answered clearMeta k (fetch k)).1
  { s with references := s.references.parents.keys.foldl check s.references }

/-- A resolver that had nothing counts what it is given first. -/
theorem addReferencesForGateway_empty (g : GatewayKey) (m : RouteToReferenceMapping) :
    ∃ s, ({} : MultiReferencesResolver R).addReferencesForGateway g m = some s ∧
      (∀ k, k ∈ s.references.parents ↔ k ∈ m.referenceKeys) ∧ ∀ k, s.getReference k = none := by
  unfold addReferencesForGateway
  by_cases hempty : m.isEmpty
  · refine ⟨{}, if_pos hempty, fun k => iff_of_false Std.ExtTreeMap.not_mem_empty ?_, fun k => ?_⟩
    · rw [Std.ExtTreeMap.isEmpty_iff] at hempty
      rw [mem_referenceKeys, hempty]
      rintro ⟨r, refs, h, -⟩
      simp at h
    · simp [getReference]
  · have hnone (k : ReferenceKey) : [].count k ≤ ({} : References R).parents.count k := Nat.zero_le _
    obtain ⟨refs, hrefs⟩ := recount_isSome m.referenceKeys hnone
    obtain ⟨hcount, hpos, hresolved⟩ := recount_spec hrefs
    refine ⟨⟨Std.ExtTreeMap.insert ∅ g m, refs⟩, ?_, fun k => ?_, fun k => ?_⟩
    · simp only [if_neg hempty, Std.ExtTreeMap.getElem?_empty, Option.getD_none]
      rw [show RouteToReferenceMapping.referenceKeys ∅ = [] from rfl, hrefs]
      rfl
    · rw [hpos.mem_iff, hcount k, ← List.count_pos_iff]
      simp
    · have hk := hresolved k
      simp only [Std.ExtTreeMap.not_mem_empty, false_and, if_false, Std.ExtTreeMap.getElem?_empty] at hk
      exact hk

variable [DecidableEq R] {clearMeta : R → R} {fetch : ReferenceKey → Option R}

/-- A round leaves the counted references as they are. -/
theorem parents_poll (s : MultiReferencesResolver R) :
    (s.poll clearMeta fetch).references.parents = s.references.parents := by
  unfold poll
  generalize s.references.parents.keys = ks
  simp only
  induction ks generalizing s with
  | nil => rfl
  | cons k ks ih =>
    rw [List.foldl_cons]
    exact (ih { s with references := (s.references.answered clearMeta k (fetch k)).1 }).trans (parents_answered ..)

/-- An answer is what its reference has from then on, if it had nothing else. -/
theorem getElem?_answered_fetch {refs : References R}
    (h : ∀ k v, refs.resolvedReferences[k]? = some v → fetch k = some v) (k k' : ReferenceKey) :
    (refs.answered clearMeta k (fetch k)).1.resolvedReferences[k']? =
      if k = k' then fetch k' else refs.resolvedReferences[k']? := by
  refine Lib.getElem?_answered (h k) ?_ k'
  cases hfetch : fetch k with
  | none => exact .inl ⟨rfl, rfl⟩
  | some v =>
    right
    simp only [References.answered, References.addResolvedReference]
    split
    · exact .inl ⟨v, rfl, rfl⟩
    · next hold =>
      split
      · exact .inl ⟨v, rfl, rfl⟩
      · exact .inr ⟨Std.ExtTreeMap.mem_iff_isSome_getElem?.2 (by rw [hold]; rfl), rfl⟩

/-- **What is polled has its value**, and nothing else has one. -/
theorem getReference_poll {s : MultiReferencesResolver R} (h : ∀ k, s.getReference k = none) (k : ReferenceKey) :
    (s.poll clearMeta fetch).getReference k = if k ∈ s.references.parents then fetch k else none := by
  have hempty : ∀ k v, s.references.resolvedReferences[k]? = some v → fetch k = some v := by
    intro k v hv
    have := h k
    rw [getReference, hv] at this
    cases this
  rw [getReference, poll, foldl_fetch (fun (refs : References R) k => refs.resolvedReferences[k]?) fetch
    (fun _ => getElem?_answered_fetch) _ hempty]
  exact if_congr Std.ExtTreeMap.mem_keys rfl (h k)

end MultiReferencesResolver

end Kubvernor
