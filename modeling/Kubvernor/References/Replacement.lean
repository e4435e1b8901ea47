import Kubvernor.References.Counting

/-!
# The replaced mapping of a gateway

Adding the references of a gateway puts a new mapping in the place of the one it has and recounts the
references of both. A mapping without a route is not put anywhere: the call returns before it looks at
the stored one. So a gateway that loses its last route keeps the references it had
(`addReferences_replaces_iff`).
-/

namespace Kubvernor

open Lib

variable {R : Type}

/-- The mapping of the gateway is `m` now, those of the others are as they were, and the counts have
changed by what that takes away and adds. -/
structure Replaces (s s' : MultiReferencesResolver R) (g : GatewayKey) (m : RouteToReferenceMapping) : Prop where
  stored : (s'.gatewayRouteReferenceMapping[g]?).getD ∅ = m
  others : ∀ g', g' ≠ g → s'.gatewayRouteReferenceMapping[g']? = s.gatewayRouteReferenceMapping[g']?
  counted : ∀ k, (s'.references.parents.count k : Int) = s.references.parents.count k + (routeHolders m k).length -
    (routeHolders ((s.gatewayRouteReferenceMapping[g]?).getD ∅) k).length
  removed : ∀ k, 0 < s.references.parents.count k → s'.references.parents.count k = 0 → k ∉ s'.references.parents

variable {s s' : MultiReferencesResolver R} {g : GatewayKey} {m : RouteToReferenceMapping}

/-- A mapping with routes takes the place of the one that is there. -/
theorem addReferences_of_ne (hs : CountsHolders s) (hm : m ≠ ∅) :
    ∃ s', s.addReferencesForGateway g m = some s' ∧ Replaces s s' g m := by
  have hempty : ¬ m.isEmpty = true := by rwa [Std.ExtTreeMap.isEmpty_iff]
  -- the routes of the old mapping are among the holders, so no count underflows
  have hle : ∀ k, (RouteToReferenceMapping.referenceKeys ((s.gatewayRouteReferenceMapping[g]?).getD ∅)).count k ≤
      s.references.parents.count k := by
    intro k
    have hholders := length_holders_erase (m := s.gatewayRouteReferenceMapping) (g := g) (k := k)
    rw [count_referenceKeys]
    exact le_trans (by omega) (hs k)
  obtain ⟨references, hre⟩ := recount_isSome m.referenceKeys hle
  obtain ⟨hcount, hpositive, -⟩ := recount_spec hre
  refine ⟨⟨s.gatewayRouteReferenceMapping.insert g m, references⟩, ?_, ?_, ?_, ?_, ?_⟩
  · simp only [MultiReferencesResolver.addReferencesForGateway, if_neg hempty, hre, Option.map_some]
  · simp
  · intro g' hg'
    simp [Std.ExtTreeMap.getElem?_insert, Ne.symm hg']
  · intro k
    have hk := hle k
    rw [hcount, count_referenceKeys]
    rw [count_referenceKeys] at hk ⊢
    omega
  · intro k _ h0
    rw [hpositive.mem_iff, h0]
    exact lt_irrefl 0

/-- A mapping without routes is not looked at. -/
theorem addReferences_empty : s.addReferencesForGateway g ∅ = some s := by
  rw [MultiReferencesResolver.addReferencesForGateway, if_pos (by simp)]

theorem replaces_empty_self_iff : Replaces s s g ∅ ↔ (s.gatewayRouteReferenceMapping[g]?).getD ∅ = ∅ := by
  constructor
  · exact fun h => h.stored
  · intro h
    refine ⟨h, fun _ _ => rfl, fun k => ?_, fun k hpos h0 => absurd h0 hpos.ne'⟩
    rw [h]
    omega

/-- The mapping of a gateway is replaced exactly if the new one has a route or the old one has none. -/
theorem addReferences_replaces_iff (s : MultiReferencesResolver R) (g : GatewayKey) (m : RouteToReferenceMapping)
    (hs : CountsHolders s) :
    (∃ s', s.addReferencesForGateway g m = some s' ∧ Replaces s s' g m) ↔
      m ≠ ∅ ∨ (s.gatewayRouteReferenceMapping[g]?).getD ∅ = ∅ := by
  by_cases hm : m = ∅
  · subst hm
    rw [addReferences_empty]
    simp [replaces_empty_self_iff]
  · exact iff_of_true (addReferences_of_ne hs hm) (.inl hm)

/-- A route that needs one service. -/
def cartMapping (service : String) : RouteToReferenceMapping :=
  (∅ : RouteToReferenceMapping).insert { ns := "shop", name := "cart", kind := "HTTPRoute" }
    ((∅ : Std.ExtTreeSet ReferenceKey).insert { ns := "shop", name := service, kind := "Service" })

theorem cartMapping_ne (service : String) : cartMapping service ≠ ∅ := by simp [cartMapping]

def shopEdge : GatewayKey := { ns := "shop", name := "edge", kind := "Gateway" }

/-- The gateway has the route, which needs the catalog. -/
theorem cartMapping_added : ∃ s, (resolverSystem (R := Unit) id).run (resolverSystem id).init
    [.addReferencesForGateway shopEdge (cartMapping "catalog")] = some s ∧ CountsHolders s ∧
      Replaces {} s shopEdge (cartMapping "catalog") := by
  obtain ⟨s, hadd, hreplaces⟩ := addReferences_of_ne (g := shopEdge) (CountsHolders.init (R := Unit) id)
    (cartMapping_ne "catalog")
  obtain ⟨s₁, hstep, hcounts, -⟩ := (CountsHolders.init (R := Unit) id).step id
    (.addReferencesForGateway shopEdge (cartMapping "catalog"))
  obtain rfl : s = s₁ := Option.some.inj (hadd.symm.trans hstep)
  exact ⟨s, System.run_cons.2 ⟨s, hstep, rfl⟩, hcounts, hreplaces⟩

/-- When the route needs another service, the catalog is given up. -/
theorem cartMapping_replaced : ∃ s, (resolverSystem (R := Unit) id).run (resolverSystem id).init
    [.addReferencesForGateway shopEdge (cartMapping "catalog")] = some s ∧
      s.gatewayRouteReferenceMapping[shopEdge]? = some (cartMapping "catalog") ∧
      ∃ s', s.addReferencesForGateway shopEdge (cartMapping "prices") = some s' ∧
        Replaces s s' shopEdge (cartMapping "prices") := by
  obtain ⟨s, hrun, hcounts, hreplaces⟩ := cartMapping_added
  refine ⟨s, hrun, ?_, (addReferences_replaces_iff s shopEdge _ hcounts).2 (.inl (cartMapping_ne "prices"))⟩
  have hstored := hreplaces.stored
  cases hmapping : s.gatewayRouteReferenceMapping[shopEdge]? with
  | none =>
    rw [hmapping] at hstored
    exact absurd hstored.symm (cartMapping_ne "catalog")
  | some m =>
    rw [hmapping] at hstored
    exact congrArg some hstored

/-- A gateway that loses its only route keeps the mapping it had. -/
theorem lostRoute_not_replaces :
    ∃ s, (resolverSystem (R := Unit) id).run (resolverSystem id).init
        [.addReferencesForGateway shopEdge (cartMapping "catalog")] = some s ∧
      CountsHolders s ∧
      ¬ ∃ s', s.addReferencesForGateway shopEdge ∅ = some s' ∧ Replaces s s' shopEdge ∅ := by
  obtain ⟨s, hrun, hcounts, hreplaces⟩ := cartMapping_added
  refine ⟨s, hrun, hcounts, ?_⟩
  rw [addReferences_empty]
  rintro ⟨s', hs', hempty⟩
  obtain rfl : s = s' := Option.some.inj hs'
  exact cartMapping_ne "catalog" (hreplaces.stored.symm.trans hempty.stored)

end Kubvernor
