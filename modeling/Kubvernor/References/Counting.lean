import Kubvernor.References.MultiReferences
import Mathlib.Data.List.Nodup
import Mathlib.Tactic.Common

/-!
# What the resolver counts

The holders of a reference are the pairs of a gateway and a route that list it. Each call of the
validator changes the counter by what it changes in the mapping, with one exception: a deleted route
is counted down once for each reference, however many gateways list the reference under it.

So a counter is never below the number of holders (`CountsHolders`), which is what keeps a live
reference, and equals it (`CountsExactly`) along the runs in which no route is deleted while two
gateways list one of its references under it.
-/

namespace Kubvernor

open Lib

/-! ## Holders -/

/-- The routes of a mapping that list the reference. -/
def routeHolders (m : RouteToReferenceMapping) (k : ReferenceKey) : List RouteKey :=
  m.toList.filterMap fun p => if k ∈ p.2 then some p.1 else none

/-- The pairs of a gateway and a route that list the reference. -/
def holders (m : GatewayToRouteReferenceMapping) (k : ReferenceKey) : List (GatewayKey × RouteKey) :=
  m.toList.flatMap fun p => (routeHolders p.2 k).map fun r => (p.1, r)

/-- How many gateways list the reference under the route. -/
def listing (m : GatewayToRouteReferenceMapping) (r : RouteKey) (k : ReferenceKey) : Nat :=
  mapSum (fun _ rm => if k ∈ (rm[r]?).getD ∅ then 1 else 0) m

section Holders

variable {rm : RouteToReferenceMapping} {m : GatewayToRouteReferenceMapping} {k : ReferenceKey}
  {g : GatewayKey} {r : RouteKey}

theorem mem_routeHolders : r ∈ routeHolders rm k ↔ ∃ refs, rm[r]? = some refs ∧ k ∈ refs := by
  simp only [routeHolders, List.mem_filterMap, Prod.exists,
    Std.ExtTreeMap.mem_toList_iff_getElem?_eq_some]
  constructor
  · rintro ⟨r', refs, hr, h⟩
    by_cases hk : k ∈ refs
    · simp only [hk, ↓reduceIte, Option.some.injEq] at h
      exact ⟨refs, h ▸ hr, hk⟩
    · simp [hk] at h
  · rintro ⟨refs, hr, hk⟩
    exact ⟨r, refs, hr, by simp [hk]⟩

theorem mem_holders :
    (g, r) ∈ holders m k ↔
      ∃ (rm : RouteToReferenceMapping) (refs : _), m[g]? = some rm ∧ rm[r]? = some refs ∧ k ∈ refs := by
  simp only [holders, List.mem_flatMap, List.mem_map, Prod.mk.injEq, Prod.exists,
    Std.ExtTreeMap.mem_toList_iff_getElem?_eq_some, mem_routeHolders]
  constructor
  · rintro ⟨g', rm, hg, r', ⟨refs, hr, hk⟩, rfl, rfl⟩
    exact ⟨rm, refs, hg, hr, hk⟩
  · rintro ⟨rm, refs, hg, hr, hk⟩
    exact ⟨g, rm, hg, r, ⟨refs, hr, hk⟩, rfl, rfl⟩

/-- Each pair is listed once, so the number of pairs is the length of the list. -/
theorem holders_nodup (m : GatewayToRouteReferenceMapping) (k : ReferenceKey) : (holders m k).Nodup := by
  have hroutes : ∀ rm : RouteToReferenceMapping, (routeHolders rm k).Nodup := by
    intro rm
    refine List.Pairwise.filterMap _ ?_ rm.distinct_keys_toList
    rintro a b hab r hr r' hr' rfl
    split at hr <;> split at hr' <;> simp_all
  refine List.nodup_flatMap.2 ⟨fun p _ => ?_, m.distinct_keys_toList.imp ?_⟩
  · exact (hroutes p.2).map fun _ _ h => (Prod.mk.inj h).2
  · rintro a b hab x hxa hxb
    obtain ⟨r, -, rfl⟩ := List.mem_map.1 hxa
    obtain ⟨r', -, h⟩ := List.mem_map.1 hxb
    exact hab (by rw [(Prod.mk.inj h).1]; exact Std.ReflCmp.compare_self)

theorem length_routeHolders :
    (routeHolders rm k).length = mapSum (fun _ refs => if k ∈ refs then 1 else 0) rm := by
  simp only [routeHolders, mapSum]
  induction rm.toList with
  | nil => rfl
  | cons p l ih =>
    simp only [List.filterMap_cons, List.map_cons, List.sum_cons, ← ih]
    by_cases hk : k ∈ p.2
    · simp only [hk, ↓reduceIte, List.length_cons]
      omega
    · simp [hk]

theorem length_holders : (holders m k).length = mapSum (fun _ rm => (routeHolders rm k).length) m := by
  simp only [holders, mapSum, List.length_flatMap, List.length_map]

theorem count_toList (refs : Std.ExtTreeSet ReferenceKey) (k : ReferenceKey) :
    refs.toList.count k = if k ∈ refs then 1 else 0 := by
  have hnd : refs.toList.Nodup := by
    refine refs.distinct_toList.imp ?_
    rintro a b hab rfl
    exact hab Std.ReflCmp.compare_self
  rw [hnd.count]
  simp only [Std.ExtTreeSet.mem_toList]

/-- The nested loops visit a reference once for each route that lists it. -/
theorem count_referenceKeys :
    (RouteToReferenceMapping.referenceKeys rm).count k = (routeHolders rm k).length := by
  rw [length_routeHolders]
  simp only [RouteToReferenceMapping.referenceKeys, List.count_flatMap, mapSum]
  congr 1
  exact List.map_congr_left fun p _ => count_toList p.2 k

/-- Taking a route away takes its own share of the holders away. -/
theorem length_routeHolders_erase :
    (routeHolders rm k).length =
      (if k ∈ (rm[r]?).getD ∅ then 1 else 0) + (routeHolders (rm.erase r) k).length := by
  simp only [length_routeHolders]
  rcases hr : rm[r]? with _ | refs
  · rw [erase_of_none hr]
    simp
  · rw [mapSum_eq_add_erase hr]
    rfl

theorem length_holders_insert :
    (holders (m.insert g rm) k).length = (routeHolders rm k).length + (holders (m.erase g) k).length := by
  simp only [length_holders, mapSum_insert]

theorem length_holders_erase :
    (holders m k).length =
      (routeHolders ((m[g]?).getD ∅) k).length + (holders (m.erase g) k).length := by
  simp only [length_holders]
  rcases hg : m[g]? with _ | rm
  · rw [erase_of_none hg, Option.getD_none, length_routeHolders]
    exact (Nat.zero_add _).symm
  · rw [mapSum_eq_add_erase hg]
    rfl

theorem length_holders_eraseRoute :
    (holders m k).length = listing m r k + (holders (m.map fun _ rm => rm.erase r) k).length := by
  simp only [length_holders, listing]
  rw [mapSum_map, ← mapSum_add]
  exact mapSum_congr fun g rm _ => length_routeHolders_erase

theorem listing_pos :
    0 < listing m r k ↔ ∃ (g : GatewayKey) (rm : RouteToReferenceMapping) (refs : _),
      m[g]? = some rm ∧ rm[r]? = some refs ∧ k ∈ refs := by
  rw [listing, mapSum_pos]
  constructor
  · rintro ⟨g, rm, hg, hpos⟩
    by_cases hk : k ∈ (rm[r]?).getD ∅
    · rcases hr : rm[r]? with _ | refs
      · simp [hr] at hk
      · exact ⟨g, rm, refs, hg, hr, by simpa [hr] using hk⟩
    · simp [hk] at hpos
  · rintro ⟨g, rm, refs, hg, hr, hk⟩
    exact ⟨g, rm, hg, by simp [hr, hk]⟩

end Holders

/-! ## What a call does to the counter -/

section Recount

variable {R : Type} {refs refs' : References R} {old new : List ReferenceKey} {k : ReferenceKey}

theorem foldl_remove (l : List ReferenceKey) :
    (l.foldl References.remove refs).parents[k]? = (if k ∈ l then none else refs.parents[k]?) ∧
      (l.foldl References.remove refs).resolvedReferences[k]? =
        if k ∈ l then none else refs.resolvedReferences[k]? := by
  induction l generalizing refs with
  | nil => simp
  | cons x l ih =>
    simp only [List.foldl_cons, ih, References.remove, Std.ExtTreeMap.getElem?_erase,
      Std.LawfulEqOrd.compare_eq_iff_eq, List.mem_cons]
    by_cases hl : k ∈ l
    · simp [hl]
    · by_cases hx : x = k
      · simp [hx]
      · simp [hl, hx, Ne.symm hx]

/-- The counter goes down by the occurrences in `old` and up by those in `new`; a key whose count
reaches zero goes from both maps, and nothing else changes. -/
theorem recount_spec (h : refs.recount old new = some refs') :
    (∀ k, refs'.parents.count k = refs.parents.count k - old.count k + new.count k) ∧
      refs'.parents.Positive ∧
      ∀ k, refs'.resolvedReferences[k]? =
        if k ∈ refs.parents ∧ refs'.parents.count k = 0 then none else refs.resolvedReferences[k]? := by
  obtain ⟨parents, hold, rfl⟩ := Option.map_eq_some_iff.1 h
  have hget := (Counter.decrAll_eq_some.1 hold).2
  have hdead : ∀ k : ReferenceKey, (parents.incrAll new)[k]? = some 0 ↔
      k ∈ refs.parents ∧ (parents.incrAll new).count k = 0 := by
    intro k
    rw [Counter.count_incrAll, Counter.getElem?_incrAll, Std.ExtTreeMap.mem_iff_isSome_getElem?]
    by_cases hk : k ∈ new
    · have := List.count_pos_iff.2 hk
      simp only [hk, ↓reduceIte, Option.some.injEq]
      omega
    · rw [if_neg hk, List.count_eq_zero.2 hk, Counter.count, hget]
      cases refs.parents[k]? <;> simp
  have hcount : ∀ k, (References.removeDead { refs with parents := parents.incrAll new }).parents.count k =
      (parents.incrAll new).count k := by
    intro k
    simp only [Counter.count, References.removeDead, foldl_remove, Counter.mem_dead]
    by_cases h0 : (parents.incrAll new)[k]? = some 0 <;> simp [h0]
  refine ⟨fun k => ?_, fun k => ?_, fun k => ?_⟩
  · rw [hcount, Counter.count_incrAll, Counter.count_decrAll hold]
  · simp only [References.removeDead, foldl_remove, Counter.mem_dead]
    by_cases h0 : (parents.incrAll new)[k]? = some 0 <;> simp [h0]
  · rw [hcount]
    simp only [References.removeDead, foldl_remove, Counter.mem_dead, hdead]

/-- If only counted keys had a value, so it is after a recount. -/
theorem resolved_of_recount (h : refs.recount old new = some refs')
    (hs : ∀ k ∈ refs.resolvedReferences, k ∈ refs.parents) : ∀ k ∈ refs'.resolvedReferences, k ∈ refs'.parents := by
  intro k hk
  have hk' := (recount_spec h).2.2 k
  by_cases hdead : k ∈ refs.parents ∧ refs'.parents.count k = 0
  · rw [if_pos hdead] at hk'
    simp [Std.ExtTreeMap.mem_iff_isSome_getElem?, hk'] at hk
  · rw [if_neg hdead] at hk'
    rw [Std.ExtTreeMap.mem_iff_isSome_getElem?, hk', ← Std.ExtTreeMap.mem_iff_isSome_getElem?] at hk
    have hne : refs'.parents.count k ≠ 0 := fun h0 => hdead ⟨hs k hk, h0⟩
    rw [Std.ExtTreeMap.mem_iff_isSome_getElem?]
    rcases hn : refs'.parents[k]? with _ | n
    · simp [Counter.count, hn] at hne
    · rfl

theorem recount_isSome (new : List ReferenceKey) (h : ∀ k, old.count k ≤ refs.parents.count k) :
    ∃ refs', refs.recount old new = some refs' := by
  have hdecr : ∃ parents, refs.parents.decrAll old = some parents := by
    refine ⟨refs.parents.map fun k n => n - old.count k, Counter.decrAll_eq_some.2 ⟨?_, ?_⟩⟩
    · intro k n hk
      rw [← Counter.count_of_getElem? hk]
      exact h k
    · intro k
      rw [Std.ExtTreeMap.getElem?_map]
  obtain ⟨parents, hparents⟩ := hdecr
  exact ⟨_, Option.map_eq_some_iff.2 ⟨parents, hparents, rfl⟩⟩

end Recount

/-! ## What a step does -/

section Step

variable {R : Type}

/-- The decrements a step owes for the holders it takes away and does not make: one for each
gateway but the first that lists a reference under the deleted route. -/
def missed (s : MultiReferencesResolver R) : ResolverOp R → ReferenceKey → Nat
  | .deleteRouteReferences r, k => listing s.gatewayRouteReferenceMapping r k - 1
  | _, _ => 0

/-- A step that leaves what is listed and counted: it only writes resolved values, or nothing. -/
structure KeepsCounts (s s' : MultiReferencesResolver R) : Prop where
  mapping : s'.gatewayRouteReferenceMapping = s.gatewayRouteReferenceMapping
  parents : s'.references.parents = s.references.parents

/-- A step from `s` that installs `mapping` and recounts: up to the missed decrements, the holders
change by what the counter is told. -/
structure Recounts (s : MultiReferencesResolver R) (op : ResolverOp R)
    (mapping : GatewayToRouteReferenceMapping) (old new : List ReferenceKey) : Prop where
  holders : ∀ k, (holders mapping k).length + old.count k + missed s op k =
    (holders s.gatewayRouteReferenceMapping k).length + new.count k
  old_le : ∀ k, old.count k ≤ (Kubvernor.holders s.gatewayRouteReferenceMapping k).length

theorem count_resourcesToDelete (s : MultiReferencesResolver R) (r : RouteKey) (k : ReferenceKey) :
    (s.resourcesToDelete r).toList.count k = min 1 (listing s.gatewayRouteReferenceMapping r k) := by
  have hmem : k ∈ s.resourcesToDelete r ↔ 0 < listing s.gatewayRouteReferenceMapping r k := by
    simp only [MultiReferencesResolver.resourcesToDelete, MultiReferencesResolver.listings,
      Std.ExtTreeSet.mem_ofList, List.contains_iff_mem, List.mem_flatMap, List.mem_filterMap,
      Option.map_eq_some_iff, Std.ExtTreeSet.mem_toList, Prod.exists, Prod.mk.injEq,
      Std.ExtTreeMap.mem_toList_iff_getElem?_eq_some, listing_pos]
    constructor
    · rintro ⟨g, refs, ⟨g', rm, hg, refs', hr, rfl, rfl⟩, hk⟩
      exact ⟨g', rm, refs', hg, hr, hk⟩
    · rintro ⟨g, rm, refs, hg, hr, hk⟩
      exact ⟨g, refs, ⟨g, rm, hg, refs, hr, rfl, rfl⟩, hk⟩
  rw [count_toList]
  by_cases hk : k ∈ s.resourcesToDelete r
  · have := hmem.1 hk
    rw [if_pos hk]
    omega
  · have := mt hmem.2 hk
    rw [if_neg hk]
    omega

variable [DecidableEq R] {clearMeta : R → R} {s s' : MultiReferencesResolver R} {op : ResolverOp R}

/-- **What a step does.** It leaves what is listed and counted, or it installs a mapping and
recounts. -/
theorem step_eq (clearMeta : R → R) (s : MultiReferencesResolver R) (op : ResolverOp R) :
    (∃ s', (resolverSystem clearMeta).step s op = some s' ∧ KeepsCounts s s' ∧
        (op.IsCall → s' = s) ∧ ∀ k, missed s op k = 0) ∨
      ∃ mapping old new, Recounts s op mapping old new ∧ (resolverSystem clearMeta).step s op =
        (s.references.recount old new).map fun references => ⟨mapping, references⟩ := by
  cases op with
  | addReferencesForGateway g m =>
    simp only [resolverSystem, MultiReferencesResolver.addReferencesForGateway]
    have herase := fun k => length_holders_erase (m := s.gatewayRouteReferenceMapping) (g := g) (k := k)
    by_cases hm : m.isEmpty
    · rw [if_pos hm]
      exact .inl ⟨s, rfl, ⟨rfl, rfl⟩, fun _ => rfl, fun _ => rfl⟩
    · rw [if_neg hm]
      refine .inr ⟨_, _, _, ⟨fun k => ?_, fun k => ?_⟩, rfl⟩
      · simp only [missed, count_referenceKeys, length_holders_insert, herase]
        omega
      · rw [count_referenceKeys, herase]
        omega
  | deleteReferencesForGateway g =>
    simp only [resolverSystem, MultiReferencesResolver.deleteReferencesForGateway]
    have herase := fun k => length_holders_erase (m := s.gatewayRouteReferenceMapping) (g := g) (k := k)
    rcases hg : s.gatewayRouteReferenceMapping[g]? with _ | oldMappings
    · exact .inl ⟨s, rfl, ⟨rfl, rfl⟩, fun _ => rfl, fun _ => rfl⟩
    · simp only [hg, Option.getD_some] at herase
      refine .inr ⟨_, _, _, ⟨fun k => ?_, fun k => ?_⟩, rfl⟩
      · simp only [missed, count_referenceKeys, herase, List.count_nil]
        omega
      · rw [count_referenceKeys, herase]
        omega
  | deleteRouteReferences r =>
    simp only [resolverSystem, MultiReferencesResolver.deleteRouteReferences, Option.map_map]
    have herase := fun k =>
      length_holders_eraseRoute (m := s.gatewayRouteReferenceMapping) (r := r) (k := k)
    refine .inr ⟨_, _, _, ⟨fun k => ?_, fun k => ?_⟩, rfl⟩
    · simp only [missed, count_resourcesToDelete, herase, List.count_nil]
      omega
    · rw [count_resourcesToDelete, herase]
      omega
  | fetched k v =>
    refine .inl ⟨_, rfl, ⟨rfl, ?_⟩, False.elim, fun _ => rfl⟩
    simp only [References.addResolvedReference]
    split
    · rfl
    · split <;> rfl
  | notFetched k => exact .inl ⟨_, rfl, ⟨rfl, rfl⟩, False.elim, fun _ => rfl⟩

/-! ## A live reference is kept -/

/-- Every key is counted at least as often as it has holders. -/
def CountsHolders (s : MultiReferencesResolver R) : Prop :=
  ∀ k, (holders s.gatewayRouteReferenceMapping k).length ≤ s.references.parents.count k

/-- A step from a state that counts its holders goes through, keeps them counted and, if it is a
call, takes no resolved value from a key that still has a holder. -/
theorem CountsHolders.step (hs : CountsHolders s) (clearMeta : R → R) (op : ResolverOp R) :
    ∃ s', (resolverSystem clearMeta).step s op = some s' ∧ CountsHolders s' ∧
      (op.IsCall → ∀ k, holders s'.gatewayRouteReferenceMapping k ≠ [] →
        s'.references.resolvedReferences[k]? = s.references.resolvedReferences[k]?) := by
  rcases step_eq clearMeta s op with ⟨s', hstep, hkeep, hcall, -⟩ | ⟨mapping, old, new, hre, hstep⟩
  · refine ⟨s', hstep, fun k => ?_, fun h k _ => by rw [hcall h]⟩
    rw [hkeep.mapping, hkeep.parents]
    exact hs k
  · obtain ⟨refs, hrefs⟩ := recount_isSome new fun k => (hre.old_le k).trans (hs k)
    obtain ⟨hcount, -, hres⟩ := recount_spec hrefs
    have hle : ∀ k, (holders mapping k).length ≤ refs.parents.count k := by
      intro k
      have := hre.holders k
      have := hre.old_le k
      have := hs k
      rw [hcount]
      omega
    refine ⟨⟨mapping, refs⟩, by rw [hstep, hrefs]; rfl, hle, fun _ k hk => ?_⟩
    have hpos : 0 < refs.parents.count k := (List.length_pos_iff.2 hk).trans_le (hle k)
    rw [hres, if_neg (by omega)]

theorem CountsHolders.init (clearMeta : R → R) : CountsHolders (resolverSystem clearMeta).init :=
  fun _ => Nat.zero_le _

/-- **No live reference is dropped.** Every run of calls and poller writes goes through without an
underflow; at its end a listed reference is counted at least as often as it has holders, and no
next call takes the resolved value of a key that still has one. -/
theorem live_reference_kept (clearMeta : R → R) (ops : List (ResolverOp R)) :
    ∃ s, (resolverSystem clearMeta).run (resolverSystem clearMeta).init ops = some s ∧
      (∀ (g : GatewayKey) (r : RouteKey) (k : ReferenceKey) (m : RouteToReferenceMapping)
          (refs : Std.ExtTreeSet ReferenceKey),
        s.gatewayRouteReferenceMapping[g]? = some m → m[r]? = some refs → k ∈ refs →
          ∃ n, s.references.parents[k]? = some n ∧ 1 ≤ n ∧
            (holders s.gatewayRouteReferenceMapping k).length ≤ n) ∧
      ∀ op, ∃ s', (resolverSystem clearMeta).step s op = some s' ∧
        (op.IsCall → ∀ k, holders s'.gatewayRouteReferenceMapping k ≠ [] →
          s'.references.resolvedReferences[k]? = s.references.resolvedReferences[k]?) := by
  obtain ⟨s, hrun, hs⟩ := System.runs_of_total ops (CountsHolders.init clearMeta)
    fun s op hs => (hs.step clearMeta op).imp fun s' h => ⟨h.1, h.2.1⟩
  refine ⟨s, hrun, fun g r k m refs hg hr hk => ?_, fun op => ?_⟩
  · have hmem : (g, r) ∈ holders s.gatewayRouteReferenceMapping k := mem_holders.2 ⟨m, refs, hg, hr, hk⟩
    have hpos := List.length_pos_of_mem hmem
    have hle := hs k
    rcases hn : s.references.parents[k]? with _ | n
    · simp only [Counter.count, hn, Option.getD_none] at hle
      omega
    · rw [Counter.count_of_getElem? hn] at hle
      exact ⟨n, rfl, by omega, hle⟩
  · obtain ⟨s', hstep, -, hres⟩ := hs.step clearMeta op
    exact ⟨s', hstep, hres⟩

/-! ## Nothing leaks -/

/-- Nothing is counted or resolved that has no holder, and no count exceeds the holders. -/
structure NoLeak (s : MultiReferencesResolver R) : Prop where
  counted : ∀ (k : ReferenceKey) (n : Nat), s.references.parents[k]? = some n →
    holders s.gatewayRouteReferenceMapping k ≠ [] ∧
      n ≤ (holders s.gatewayRouteReferenceMapping k).length
  gone : ∀ k : ReferenceKey, holders s.gatewayRouteReferenceMapping k = [] →
    k ∉ s.references.parents ∧ k ∉ s.references.resolvedReferences

/-- A route is deleted only while no two gateways list one of its references under it, and a fetch
is answered only while its reference is counted. -/
def OneGateway (s : MultiReferencesResolver R) : ResolverOp R → Prop
  | .deleteRouteReferences r => ∀ k, listing s.gatewayRouteReferenceMapping r k ≤ 1
  | .fetched k _ => k ∈ s.references.parents
  | _ => True

/-- The counter is the number of holders, and only counted keys have a value. -/
structure CountsExactly (s : MultiReferencesResolver R) : Prop where
  count : ∀ k, s.references.parents.count k = (holders s.gatewayRouteReferenceMapping k).length
  positive : s.references.parents.Positive
  resolved : ∀ k ∈ s.references.resolvedReferences, k ∈ s.references.parents

theorem CountsExactly.init : CountsExactly (resolverSystem clearMeta).init :=
  ⟨fun _ => rfl, Counter.Positive.empty, fun k hk => by simp [resolverSystem] at hk⟩

omit [DecidableEq R] in
theorem CountsExactly.mem_parents (hs : CountsExactly s) {k : ReferenceKey} :
    k ∈ s.references.parents ↔ holders s.gatewayRouteReferenceMapping k ≠ [] := by
  rw [hs.positive.mem_iff, hs.count k, List.length_pos_iff]

omit [DecidableEq R] in
theorem CountsExactly.noLeak (hs : CountsExactly s) : NoLeak s := by
  refine ⟨fun k n hn => ⟨?_, ?_⟩, fun k hk => ?_⟩
  · exact hs.mem_parents.1 (Std.ExtTreeMap.mem_iff_isSome_getElem?.2 (by simp [hn]))
  · rw [← hs.count k, Counter.count_of_getElem? hn]
  · have hp : k ∉ s.references.parents := fun h => hs.mem_parents.1 h hk
    exact ⟨hp, mt (hs.resolved k) hp⟩

theorem mem_addResolvedReference {refs : References R} {k k' : ReferenceKey} {v : R} :
    k' ∈ (refs.addResolvedReference clearMeta k v).1.resolvedReferences ↔
      k = k' ∨ k' ∈ refs.resolvedReferences := by
  simp only [References.addResolvedReference]
  rcases hk : refs.resolvedReferences[k]? with _ | f
  · simp [Std.ExtTreeMap.mem_insert]
  · have hmem : k ∈ refs.resolvedReferences := Std.ExtTreeMap.mem_iff_isSome_getElem?.2 (by simp [hk])
    simp only
    split
    · simp [Std.ExtTreeMap.mem_insert]
    · exact ⟨.inr, fun h => h.elim (fun h => h ▸ hmem) id⟩

omit [DecidableEq R] in
theorem missed_eq_zero (h : OneGateway s op) (k : ReferenceKey) : missed s op k = 0 := by
  cases op with
  | deleteRouteReferences r =>
    have := h k
    simp only [missed]
    omega
  | _ => rfl

/-- The values after a step: those of before, or the one that was fetched. -/
theorem mem_resolved_of_step (h : (resolverSystem clearMeta).step s op = some s') {k : ReferenceKey}
    (hk : k ∈ s'.references.resolvedReferences) :
    k ∈ s.references.resolvedReferences ∨ ∃ v, op = .fetched k v := by
  have hcall : op.IsCall → k ∈ s.references.resolvedReferences := by
    intro hop
    rcases step_eq clearMeta s op with ⟨s'', hstep, -, heq, -⟩ | ⟨mapping, old, new, -, hstep⟩
    · obtain rfl : s' = s'' := Option.some.inj (h.symm.trans hstep)
      rwa [heq hop] at hk
    · rw [hstep] at h
      obtain ⟨refs, hrefs, rfl⟩ := Option.map_eq_some_iff.1 h
      rw [Std.ExtTreeMap.mem_iff_isSome_getElem?, (recount_spec hrefs).2.2 k] at hk
      rw [Std.ExtTreeMap.mem_iff_isSome_getElem?]
      split at hk
      · simp at hk
      · exact hk
  cases op with
  | fetched k' v =>
    obtain rfl := Option.some.inj h
    rcases mem_addResolvedReference.1 hk with rfl | hk
    · exact .inr ⟨v, rfl⟩
    · exact .inl hk
  | notFetched k' =>
    obtain rfl := Option.some.inj h
    exact .inl (Std.ExtTreeMap.mem_of_mem_erase hk)
  | _ => exact .inl (hcall trivial)

theorem CountsExactly.step (hs : CountsExactly s) (hop : OneGateway s op)
    (h : (resolverSystem clearMeta).step s op = some s') : CountsExactly s' := by
  rcases step_eq clearMeta s op with ⟨s'', hstep, hkeep, -, -⟩ | ⟨mapping, old, new, hre, hstep⟩
  · obtain rfl : s' = s'' := Option.some.inj (h.symm.trans hstep)
    refine ⟨fun k => ?_, ?_, fun k hk => ?_⟩
    · rw [hkeep.mapping, hkeep.parents]
      exact hs.count k
    · rw [hkeep.parents]
      exact hs.positive
    · rw [hkeep.parents]
      rcases mem_resolved_of_step h hk with hk | ⟨v, rfl⟩
      · exact hs.resolved k hk
      · exact hop
  · rw [hstep] at h
    obtain ⟨refs, hrefs, rfl⟩ := Option.map_eq_some_iff.1 h
    obtain ⟨hcount, hpos, -⟩ := recount_spec hrefs
    refine ⟨fun k => ?_, hpos, fun k hk => ?_⟩
    · have := hre.holders k
      have := hre.old_le k
      have := hs.count k
      have := missed_eq_zero hop k
      simp only [hcount]
      omega
    · exact resolved_of_recount hrefs hs.resolved k hk

/-- From a state that counts exactly, a step leaks exactly when it is not covered by `OneGateway`. -/
theorem CountsExactly.noLeak_step_iff (hs : CountsExactly s) :
    (∀ s', (resolverSystem clearMeta).step s op = some s' → NoLeak s') ↔ OneGateway s op := by
  refine ⟨fun hclean => ?_, fun hop s' h => (hs.step hop h).noLeak⟩
  cases op with
  | deleteRouteReferences r =>
    intro k
    by_contra hlist
    rcases step_eq clearMeta s (.deleteRouteReferences r) with
      ⟨s', -, -, -, hmiss⟩ | ⟨mapping, old, new, hre, hstep⟩
    · have := hmiss k
      simp only [missed] at this
      omega
    · obtain ⟨refs, hrefs⟩ := recount_isSome new fun k => (hre.old_le k).trans_eq (hs.count k).symm
      have hleak := hclean ⟨mapping, refs⟩ (by rw [hstep, hrefs]; rfl)
      have hcount := (recount_spec hrefs).1 k
      have hholders := hre.holders k
      have hmiss : missed s (.deleteRouteReferences r) k ≠ 0 := by
        simp only [missed]
        omega
      have hold := hre.old_le k
      rw [← hs.count k] at hold hholders
      rcases hn : refs.parents[k]? with _ | n
      · simp only [Counter.count, hn, Option.getD_none] at hcount
        simp only [Counter.count] at hold hholders
        omega
      · have hle := (hleak.counted k n hn).2
        rw [Counter.count_of_getElem? hn] at hcount
        simp only at hle
        omega
  | fetched k v =>
    by_contra hk
    have hhold : holders s.gatewayRouteReferenceMapping k = [] := by
      by_contra hne
      exact hk (hs.mem_parents.2 hne)
    exact ((hclean _ rfl).gone k hhold).2 (mem_addResolvedReference.2 (.inl rfl))
  | _ => trivial

/-- **When nothing leaks.** Every state along a run is free of leaks exactly when each route is
deleted while no two gateways list one of its references under it and each fetch is answered while
its reference is counted. -/
theorem no_leak_iff (clearMeta : R → R) (ops : List (ResolverOp R)) :
    (resolverSystem clearMeta).Along
        (fun s op => ∀ s', (resolverSystem clearMeta).step s op = some s' → NoLeak s')
        (resolverSystem clearMeta).init ops ↔
      (resolverSystem clearMeta).Along OneGateway (resolverSystem clearMeta).init ops :=
  System.along_congr _ CountsExactly.init (fun _ _ hs => hs.noLeak_step_iff)
    fun _ _ _ hs hop h => hs.step hop h

end Step

/-- Two gateways list one reference under the same route, then the route is deleted: the reference
stays counted, and deleting the gateways does not take it away any more. -/
def sharedRouteRun : List (ResolverOp Nat) :=
  let m : RouteToReferenceMapping :=
    .ofList [(ResourceKey.new "route", Std.ExtTreeSet.ofList [ResourceKey.new "service"])]
  [.addReferencesForGateway (.new "g1") m, .addReferencesForGateway (.new "g2") m,
    .deleteRouteReferences (.new "route"),
    .deleteReferencesForGateway (.new "g1"), .deleteReferencesForGateway (.new "g2")]

theorem sharedRouteRun_leaks :
    ∃ s, (resolverSystem id).run (resolverSystem id).init sharedRouteRun = some s ∧
      s.gatewayRouteReferenceMapping.toList = [] ∧
      s.references.parents[ResourceKey.new "service"]? = some 1 ∧ ¬ NoLeak s := by
  have hrun : ((resolverSystem id).run (resolverSystem id).init sharedRouteRun).map (fun s =>
      (s.gatewayRouteReferenceMapping.toList.length,
        s.references.parents[ResourceKey.new "service"]?)) = some (0, some 1) := by decide
  obtain ⟨s, hs, heq⟩ := Option.map_eq_some_iff.1 hrun
  rw [Prod.mk.injEq, List.length_eq_zero_iff] at heq
  refine ⟨s, hs, heq.1, heq.2, fun h => (h.counted _ _ heq.2).1 ?_⟩
  rw [holders, heq.1]
  rfl

end Kubvernor
