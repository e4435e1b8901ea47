import Kubvernor.Control.RouteNotices
import Kubvernor.References.Counting

/-!
# What the resolvers list of the routes

A resolver has the routes of each gateway, with their references. The validator tells it of the requests it takes: a
gateway that is added is listed with the routes that were linked to it when it was read (`lists_of_add`), a route that
is deleted is taken from the lists of all gateways, which are the ones it finds affected, and the list of a deleted
gateway is dropped (`track`). `track_spec` says this of what is listed (`Lists`), and no request makes a counter of the
resolver underflow (`counts_add`, `counts_track`).
-/

namespace Kubvernor

open Lib

namespace MultiReferencesResolver

variable {R : Type} {s s' : MultiReferencesResolver R} {g g' : GatewayKey} {r r' : RouteKey}

/-- The resolver lists the route for the gateway. -/
def Lists (s : MultiReferencesResolver R) (g : GatewayKey) (r : RouteKey) : Prop :=
  ∃ m, s.gatewayRouteReferenceMapping[g]? = some m ∧ r ∈ m

theorem lists_of_add {m : RouteToReferenceMapping} (h : s.addReferencesForGateway g m = some s') :
    (∀ r ∈ m, s'.Lists g r) ∧ ∀ g' r, g' ≠ g → (s'.Lists g' r ↔ s.Lists g' r) := by
  unfold addReferencesForGateway at h
  split_ifs at h with hempty
  · obtain rfl := Option.some.inj h
    rw [Std.ExtTreeMap.isEmpty_iff] at hempty
    subst hempty
    exact ⟨fun r hr => absurd hr Std.ExtTreeMap.not_mem_empty, fun _ _ _ => Iff.rfl⟩
  · obtain ⟨references, -, rfl⟩ := Option.map_eq_some_iff.1 h
    unfold Lists
    simp only [getElem?_insert_ite]
    refine ⟨fun r hr => ⟨m, if_pos trivial, hr⟩, fun g' r hg => ?_⟩
    rw [if_neg hg]

theorem lists_of_delete (h : s.deleteReferencesForGateway g = some s') (hg : g' ≠ g) :
    s'.Lists g' r ↔ s.Lists g' r := by
  unfold deleteReferencesForGateway at h
  split at h
  · rw [Option.some.inj h]
  · obtain ⟨references, -, rfl⟩ := Option.map_eq_some_iff.1 h
    unfold Lists
    simp only [getElem?_erase_ite, if_neg hg]

theorem lists_of_deleteRoute {affected : Std.ExtTreeSet GatewayKey}
    (h : s.deleteRouteReferences r = some (s', affected)) :
    (∀ g r', s'.Lists g r' ↔ s.Lists g r' ∧ r' ≠ r) ∧ ∀ g, s.Lists g r → g ∈ affected := by
  unfold deleteRouteReferences at h
  obtain ⟨references, -, heq⟩ := Option.map_eq_some_iff.1 h
  obtain ⟨rfl, rfl⟩ := Prod.mk.inj heq
  refine ⟨fun g r' => ?_, fun g hg => ?_⟩
  · unfold Lists
    simp only [Std.ExtTreeMap.getElem?_map, Option.map_eq_some_iff]
    constructor
    · rintro ⟨m, ⟨m₀, hm₀, rfl⟩, hr'⟩
      rw [Std.ExtTreeMap.mem_erase, ne_eq, Std.LawfulEqOrd.compare_eq_iff_eq] at hr'
      exact ⟨⟨m₀, hm₀, hr'.2⟩, fun heq => hr'.1 heq.symm⟩
    · rintro ⟨⟨m₀, hm₀, hr'⟩, hne⟩
      refine ⟨_, ⟨m₀, hm₀, rfl⟩, ?_⟩
      rw [Std.ExtTreeMap.mem_erase, ne_eq, Std.LawfulEqOrd.compare_eq_iff_eq]
      exact ⟨fun heq => hne heq.symm, hr'⟩
  · obtain ⟨m, hm, hr⟩ := hg
    rw [Std.ExtTreeSet.mem_ofList, List.contains_iff_mem, List.mem_map]
    obtain ⟨refs, hrefs⟩ := Option.isSome_iff_exists.1 (Std.ExtTreeMap.mem_iff_isSome_getElem?.1 hr)
    refine ⟨(g, refs), ?_, rfl⟩
    unfold listings
    rw [List.mem_filterMap]
    refine ⟨(g, m), Std.ExtTreeMap.mem_toList_iff_getElem?_eq_some.2 hm, ?_⟩
    rw [hrefs]
    rfl

/-! ## Requests -/

/-- What a resolver is told of a request, and the gateways it finds affected. The routes of a gateway that is added
are listed apart, once they are read. -/
def track (s : MultiReferencesResolver R) :
    ReferenceValidateRequest → Option (MultiReferencesResolver R × Std.ExtTreeSet GatewayKey)
  | .deleteGateway gateway => (s.deleteReferencesForGateway gateway.resourceKey).map fun s' => (s', ∅)
  | .deleteRoute routeKey => s.deleteRouteReferences routeKey
  | .addGateway _ | .addRoute _ | .updatedGateways _ | .updatedRoutes _ => some (s, ∅)

/-- What is listed after a request. -/
def Tracked (s s' : MultiReferencesResolver R) (affected : Std.ExtTreeSet GatewayKey) :
    ReferenceValidateRequest → Prop
  | .deleteGateway gateway => ∀ g r, g ≠ gateway.resourceKey → (s'.Lists g r ↔ s.Lists g r)
  | .deleteRoute routeKey =>
    (∀ g r, s'.Lists g r ↔ s.Lists g r ∧ r ≠ routeKey) ∧ ∀ g, s.Lists g routeKey → g ∈ affected
  | .addGateway _ | .addRoute _ | .updatedGateways _ | .updatedRoutes _ => ∀ g r, s'.Lists g r ↔ s.Lists g r

/-- A mapping of routes has the keys of the routes. -/
theorem mem_routeReferences {references : Route → Std.ExtTreeSet ReferenceKey} {linkedRoutes : List Route}
    {r : RouteKey} :
    r ∈ routeReferences references linkedRoutes ↔ ∃ route ∈ linkedRoutes, route.resourceKey = r := by
  rw [routeReferences, Std.ExtTreeMap.mem_ofList, List.contains_iff_mem, List.map_map, List.mem_map]
  rfl

variable {q : ReferenceValidateRequest} {affected : Std.ExtTreeSet GatewayKey}

theorem track_spec (h : s.track q = some (s', affected)) : Tracked s s' affected q := by
  cases q with
  | deleteGateway gateway =>
    obtain ⟨_, hdelete, heq⟩ := Option.map_eq_some_iff.1 h
    obtain ⟨rfl, -⟩ := Prod.mk.inj heq
    exact fun g r hg => lists_of_delete hdelete hg
  | deleteRoute routeKey => exact lists_of_deleteRoute h
  | addGateway _ | addRoute _ | updatedGateways _ | updatedRoutes _ =>
    obtain ⟨rfl, -⟩ := Prod.mk.inj (Option.some.inj h)
    exact fun _ _ => Iff.rfl

/-- **A resolver can list any routes of a gateway**: no counter underflows. -/
theorem counts_add [DecidableEq R] (hs : CountsHolders s) (g : GatewayKey) (m : RouteToReferenceMapping) :
    ∃ s', s.addReferencesForGateway g m = some s' ∧ CountsHolders s' := by
  obtain ⟨s', hs', hcounts, -⟩ := hs.step id (.addReferencesForGateway g m)
  exact ⟨s', hs', hcounts⟩

/-- **A resolver can take any request.** -/
theorem counts_track [DecidableEq R] (hs : CountsHolders s) (q : ReferenceValidateRequest) :
    ∃ p, s.track q = some p ∧ CountsHolders p.1 := by
  cases q with
  | deleteGateway gateway =>
    obtain ⟨s', hs', hcounts, -⟩ := hs.step id (.deleteReferencesForGateway gateway.resourceKey)
    exact ⟨(s', ∅), Option.map_eq_some_iff.2 ⟨s', hs', rfl⟩, hcounts⟩
  | deleteRoute routeKey =>
    obtain ⟨s', hs', hcounts, -⟩ := hs.step id (.deleteRouteReferences routeKey)
    obtain ⟨p, hp, rfl⟩ := Option.map_eq_some_iff.1 hs'
    exact ⟨p, hp, hcounts⟩
  | addGateway _ | addRoute _ | updatedGateways _ | updatedRoutes _ => exact ⟨_, rfl, hs⟩

end MultiReferencesResolver

namespace BackendReferenceResolver

/-- One of the resolvers lists the route for the gateway. -/
def Lists (s : BackendReferenceResolver) (g : GatewayKey) (r : RouteKey) : Prop :=
  s.referenceResolver.Lists g r ∨ s.inferencePoolReferenceResolver.Lists g r

/-- What is counted in both resolvers is enough for what they list. -/
def Counts (s : BackendReferenceResolver) : Prop :=
  CountsHolders s.referenceResolver ∧ CountsHolders s.inferencePoolReferenceResolver

end BackendReferenceResolver

/-- A route that is linked is among the linked routes, under its key. -/
theorem RouteStores.Linked.exists_route {s : RouteStores} {g : GatewayKey} {k : RouteKey} (isIpAddr : String → Bool)
    (hs : s.StoredByKey) (h : s.Linked g k) : ∃ route ∈ s.findLinkedRoutes isIpAddr g, route.resourceKey = k := by
  obtain ⟨hattached, hstored⟩ := h
  rcases hstored with hmem | hmem
  · obtain ⟨r, hr⟩ := Option.isSome_iff_exists.1 (Std.ExtTreeMap.mem_iff_isSome_getElem?.1 hmem)
    refine ⟨_, mem_findLinkedRoutes.2 (.inl ⟨r, mem_getHttpRoutesAttachedToGateway.2 ⟨k, hattached, hr⟩, rfl⟩), ?_⟩
    exact hs.http k r hr
  · obtain ⟨r, hr⟩ := Option.isSome_iff_exists.1 (Std.ExtTreeMap.mem_iff_isSome_getElem?.1 hmem)
    refine ⟨_, mem_findLinkedRoutes.2 (.inr ⟨r, mem_getGrpcRoutesAttachedToGateway.2 ⟨k, hattached, hr⟩, rfl⟩), ?_⟩
    exact hs.grpc k r hr

end Kubvernor
