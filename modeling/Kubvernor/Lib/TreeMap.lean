import Mathlib.Algebra.BigOperators.Group.List.Basic
import Mathlib.Algebra.Ring.Nat
import Mathlib.Data.List.Count
import Mathlib.Data.List.Nodup
import Mathlib.Data.List.Pairwise
import Mathlib.Data.List.Perm.Basic

/-!
# Ordered maps

An ordered map read as the list of its entries: inserting and erasing a key permute that list up
to one entry, so a sum over all entries (`mapSum`) changes by that entry's share alone. For maps
built from lists, which of several values offered for one key is kept: the last one where entries
are inserted, the first one where only new keys are.
-/

namespace Lib

variable {κ ν μ : Type} [Ord κ] [Std.TransOrd κ]

section Entries

variable [Std.LawfulEqOrd κ] {m : Std.ExtTreeMap κ ν} {k : κ} {v : ν}

theorem toList_nodup (m : Std.ExtTreeMap κ ν) : m.toList.Nodup := by
  refine (m.distinct_keys_toList).imp ?_
  rintro a b hab rfl
  exact hab Std.ReflCmp.compare_self

theorem mem_values : v ∈ m.toList.map (·.2) ↔ ∃ k : κ, m[k]? = some v := by
  simp only [List.mem_map, Prod.exists, Std.ExtTreeMap.mem_toList_iff_getElem?_eq_some, exists_eq_right]

section Key

variable {key : ν → κ} (h : ∀ (k : κ) (v : ν), m[k]? = some v → key v = k)
include h

/-- In a map whose values know their keys, a value is under its key. -/
theorem mem_values_of_key : v ∈ m.toList.map (·.2) ↔ m[key v]? = some v := by
  rw [mem_values]
  constructor
  · rintro ⟨k, hk⟩
    rw [h k v hk]
    exact hk
  · intro hv
    exact ⟨key v, hv⟩

/-- The keys of its values are all different. -/
theorem nodup_map_values : ((m.toList.map (·.2)).map key).Nodup := by
  rw [List.map_map]
  refine (toList_nodup m).map_on ?_
  rintro ⟨k, v⟩ hk ⟨k', v'⟩ hk' heq
  rw [Std.ExtTreeMap.mem_toList_iff_getElem?_eq_some] at hk hk'
  obtain rfl : k = k' := by
    rw [← h k v hk, ← h k' v' hk']
    exact heq
  rw [hk] at hk'
  rw [Option.some.inj hk']

end Key

/-- A map has one entry at most if it has one key at most. -/
theorem length_toList_le_one {m : Std.ExtTreeMap κ ν} : m.toList.length ≤ 1 ↔
    ∀ (k : κ) (v : ν) (k' : κ) (v' : ν), m[k]? = some v → m[k']? = some v' → k = k' := by
  have hdistinct := m.distinct_keys_toList
  have hmem (k : κ) (v : ν) : m[k]? = some v ↔ (k, v) ∈ m.toList :=
    Std.ExtTreeMap.mem_toList_iff_getElem?_eq_some.symm
  simp only [hmem]
  generalize m.toList = l at hdistinct
  rcases l with _ | ⟨p, _ | ⟨p', l⟩⟩
  · simp
  · refine ⟨fun _ k v k' v' hk hk' => ?_, fun _ => le_refl _⟩
    rw [List.mem_singleton] at hk hk'
    exact congrArg Prod.fst (hk.trans hk'.symm)
  · refine ⟨fun hlen => absurd hlen (by simp), fun hkeys => ?_⟩
    have heq : p.1 = p'.1 :=
      hkeys p.1 p.2 p'.1 p'.2 List.mem_cons_self (List.mem_cons_of_mem _ List.mem_cons_self)
    have hne := (List.pairwise_cons.1 hdistinct).1 p' List.mem_cons_self
    exact absurd (heq ▸ Std.ReflCmp.compare_self) hne

/-- A symmetric relation between the entries of different keys. -/
theorem pairwise_toList {m : Std.ExtTreeMap κ ν} {R : κ × ν → κ × ν → Prop} [Std.Symm R] :
    m.toList.Pairwise R ↔ ∀ (k : κ) (v : ν) (k' : κ) (v' : ν), m[k]? = some v → m[k']? = some v' → k ≠ k' →
      R (k, v) (k', v') := by
  simp only [← Std.ExtTreeMap.mem_toList_iff_getElem?_eq_some]
  constructor
  · intro h k v k' v' hk hk' hne
    exact h.forall hk hk' fun heq => hne (congrArg Prod.fst heq)
  · intro h
    refine (toList_nodup m).pairwise_of_forall_ne ?_
    rintro ⟨k, v⟩ hk ⟨k', v'⟩ hk' hne
    refine h k v k' v' hk hk' ?_
    rintro rfl
    rw [Std.ExtTreeMap.mem_toList_iff_getElem?_eq_some] at hk hk'
    rw [hk] at hk'
    exact hne (by rw [Option.some.inj hk'])

theorem erase_of_none (h : m[k]? = none) : m.erase k = m := by
  apply Std.ExtTreeMap.ext_getElem?
  intro k'
  rw [Std.ExtTreeMap.getElem?_erase]
  by_cases hk : compare k k' = .eq
  · rw [if_pos hk]
    obtain rfl := Std.LawfulEqOrd.eq_of_compare hk
    exact h.symm
  · rw [if_neg hk]

theorem insert_of_getElem? (h : m[k]? = some v) : m.insert k v = m := by
  apply Std.ExtTreeMap.ext_getElem?
  intro k'
  rw [Std.ExtTreeMap.getElem?_insert]
  by_cases hk : compare k k' = .eq
  · obtain rfl := Std.LawfulEqOrd.eq_of_compare hk
    rw [if_pos hk, h]
  · rw [if_neg hk]

/-- What is under a key after an insertion, by equality of the keys. -/
theorem getElem?_insert_ite [DecidableEq κ] (m : Std.ExtTreeMap κ ν) (k k' : κ) (v : ν) :
    (m.insert k v)[k']? = if k' = k then some v else m[k']? := by
  rw [Std.ExtTreeMap.getElem?_insert]
  by_cases hk : k' = k
  · subst hk
    simp
  · have hne : ¬ compare k k' = .eq := fun h => hk (Std.LawfulEqOrd.eq_of_compare h).symm
    simp only [hne, hk, if_false]

/-- What is under a key after an erasure, by equality of the keys. -/
theorem getElem?_erase_ite [DecidableEq κ] (m : Std.ExtTreeMap κ ν) (k k' : κ) :
    (m.erase k)[k']? = if k' = k then none else m[k']? := by
  rw [Std.ExtTreeMap.getElem?_erase]
  by_cases hk : k' = k
  · subst hk
    simp
  · have hne : ¬ compare k k' = .eq := fun h => hk (Std.LawfulEqOrd.eq_of_compare h).symm
    simp only [hne, hk, if_false]

/-- A key keeps the value it has. -/
theorem getElem?_insertIfNew_or (m : Std.ExtTreeMap κ ν) (k k' : κ) (v : ν) :
    (m.insertIfNew k v)[k']? = if compare k k' = .eq then m[k]?.or (some v) else m[k']? := by
  rw [Std.ExtTreeMap.getElem?_insertIfNew]
  by_cases hk : compare k k' = .eq
  · obtain rfl := Std.LawfulEqOrd.eq_of_compare hk
    cases h : m[k]? with
    | none =>
      have hnot : k ∉ m := by simp [Std.ExtTreeMap.mem_iff_isSome_getElem?, h]
      simp [hnot]
    | some w =>
      have hmem : k ∈ m := Std.ExtTreeMap.mem_iff_isSome_getElem?.2 (by simp [h])
      simp [hmem]
  · simp [hk]

/-- Inserting a key puts its entry beside the entries of the other keys. -/
theorem toList_insert_perm (m : Std.ExtTreeMap κ ν) (k : κ) (v : ν) :
    (m.insert k v).toList.Perm ((k, v) :: (m.erase k).toList) := by
  have hk : (k, v) ∉ (m.erase k).toList := by
    rw [Std.ExtTreeMap.mem_toList_iff_getElem?_eq_some, Std.ExtTreeMap.getElem?_erase]
    simp
  refine (List.perm_ext_iff_of_nodup (toList_nodup _) (List.nodup_cons.2 ⟨hk, toList_nodup _⟩)).2 ?_
  rintro ⟨k', v'⟩
  rw [List.mem_cons, Std.ExtTreeMap.mem_toList_iff_getElem?_eq_some,
    Std.ExtTreeMap.mem_toList_iff_getElem?_eq_some, Std.ExtTreeMap.getElem?_insert,
    Std.ExtTreeMap.getElem?_erase, Prod.mk.injEq]
  by_cases hc : compare k k' = .eq
  · obtain rfl := Std.LawfulEqOrd.eq_of_compare hc
    simp [eq_comm]
  · have hne : ¬ k' = k := fun h => hc (h ▸ Std.ReflCmp.compare_self)
    simp [hc, hne]

theorem toList_perm_of_getElem? (h : m[k]? = some v) :
    m.toList.Perm ((k, v) :: (m.erase k).toList) := by
  conv_lhs => rw [← insert_of_getElem? h]
  exact toList_insert_perm m k v

end Entries

/-! ## Collecting and merging -/

section Collect

variable {α : Type} [Std.LawfulEqOrd κ]

/-- Of the values offered for a key the map keeps the one it has, then the first one offered. -/
theorem getElem?_foldl_insertIfNew (key : α → κ) (val : α → ν) (l : List α) (m : Std.ExtTreeMap κ ν) (k : κ) :
    (l.foldl (fun m a => m.insertIfNew (key a) (val a)) m)[k]? =
      m[k]?.or (l.findSome? fun a => if compare (key a) k = .eq then some (val a) else none) := by
  induction l generalizing m with
  | nil => simp
  | cons a l ih =>
    rw [List.foldl_cons, ih, List.findSome?_cons, getElem?_insertIfNew_or]
    by_cases hk : compare (key a) k = .eq
    · obtain rfl := Std.LawfulEqOrd.eq_of_compare hk
      simp
    · simp [hk]

variable [DecidableEq κ]

/-- The entries of a collected map are among those it was collected from. -/
theorem mem_of_getElem?_ofList {l : List (κ × ν)} {k : κ} {v : ν}
    (h : (Std.ExtTreeMap.ofList l)[k]? = some v) : (k, v) ∈ l := by
  rw [Std.ExtTreeMap.ofList_eq_insertMany_empty, Std.ExtTreeMap.getElem?_insertMany_list,
    Std.ExtTreeMap.getElem?_empty, Option.or_none, List.findSomeRev?_eq_findSome?_reverse] at h
  obtain ⟨p, hp, hv⟩ := List.exists_of_findSome?_eq_some h
  simp only [Option.ite_none_right_eq_some, Option.some.injEq] at hv
  obtain ⟨hk, rfl⟩ := hv
  obtain rfl := Std.LawfulEqOrd.eq_of_compare hk
  exact List.mem_reverse.1 hp

theorem exists_getElem?_ofList {l : List (κ × ν)} {k : κ} :
    (∃ v, (Std.ExtTreeMap.ofList l)[k]? = some v) ↔ ∃ v, (k, v) ∈ l := by
  constructor
  · rintro ⟨v, hv⟩
    exact ⟨v, mem_of_getElem?_ofList hv⟩
  · rintro ⟨v, hv⟩
    have hk : k ∈ Std.ExtTreeMap.ofList l := by
      rw [Std.ExtTreeMap.mem_ofList, List.contains_iff_mem]
      exact List.mem_map_of_mem (f := Prod.fst) hv
    exact Option.isSome_iff_exists.1 (Std.ExtTreeMap.mem_iff_isSome_getElem?.1 hk)

/-- A collected map has the last value that was offered for a key. -/
theorem getElem?_ofList_eq_getLast? {l : List (κ × ν)} {k : κ} :
    (Std.ExtTreeMap.ofList l)[k]? = (l.filterMap fun p => if p.1 = k then some p.2 else none).getLast? := by
  have hoffer : (fun p : κ × ν => if compare p.1 k = .eq then some p.2 else none) =
      fun p => if p.1 = k then some p.2 else none := by
    funext p
    exact if_congr Std.LawfulEqOrd.compare_eq_iff_eq rfl rfl
  rw [Std.ExtTreeMap.ofList_eq_insertMany_empty, Std.ExtTreeMap.getElem?_insertMany_list,
    Std.ExtTreeMap.getElem?_empty, Option.or_none, List.findSomeRev?_eq_findSome?_reverse, hoffer,
    ← List.head?_filterMap, List.filterMap_reverse, List.head?_reverse]

/-- The union of two maps, in which the entries of `m'` replace those of `m`. -/
def mapAppend (m m' : Std.ExtTreeMap κ ν) : Std.ExtTreeMap κ ν := m.insertMany m'.toList

theorem getElem?_mapAppend (m m' : Std.ExtTreeMap κ ν) (k : κ) :
    (mapAppend m m')[k]? = m'[k]?.or m[k]? := by
  unfold mapAppend
  rcases hv : m'[k]? with _ | v
  · refine Std.ExtTreeMap.getElem?_insertMany_list_of_contains_eq_false ?_
    rw [Bool.eq_false_iff, ne_eq, List.contains_iff_mem, List.mem_map]
    rintro ⟨⟨k', v'⟩, hmem, rfl⟩
    rw [Std.ExtTreeMap.mem_toList_iff_getElem?_eq_some, hv] at hmem
    cases hmem
  · exact Std.ExtTreeMap.getElem?_insertMany_list_of_mem Std.ReflCmp.compare_self m'.distinct_keys_toList
      (Std.ExtTreeMap.mem_toList_iff_getElem?_eq_some.2 hv)

end Collect

/-- A map after an answer for a key: what is fetched is what the key has from then on, if it had
nothing else, and no other key is touched. -/
theorem getElem?_answered [Std.LawfulEqOrd κ] [DecidableEq κ] {m m' : Std.ExtTreeMap κ ν} {fetch : κ → Option ν}
    {k : κ} (h : ∀ v, m[k]? = some v → fetch k = some v)
    (hm : fetch k = none ∧ m' = m.erase k ∨ (∃ v, fetch k = some v ∧ m' = m.insert k v) ∨ k ∈ m ∧ m' = m)
    (k' : κ) : m'[k']? = if k = k' then fetch k' else m[k']? := by
  rcases hm with ⟨hfetch, rfl⟩ | ⟨v, hfetch, rfl⟩ | ⟨hmem, rfl⟩
  · rw [Std.ExtTreeMap.getElem?_erase]
    refine if_ctx_congr Std.LawfulEqOrd.compare_eq_iff_eq (fun hk => ?_) fun _ => rfl
    rw [← hk, hfetch]
  · rw [Std.ExtTreeMap.getElem?_insert]
    refine if_ctx_congr Std.LawfulEqOrd.compare_eq_iff_eq (fun hk => ?_) fun _ => rfl
    rw [← hk, hfetch]
  · split
    · next hk =>
      have hv := Std.ExtTreeMap.getElem?_eq_some_getElem hmem
      rw [← hk, hv, h _ hv]
    · rfl

theorem nodup_toList_set [Std.LawfulEqOrd κ] (s : Std.ExtTreeSet κ) : s.toList.Nodup := by
  refine s.distinct_toList.imp ?_
  rintro a b hab rfl
  exact hab Std.ReflCmp.compare_self

/-- Steps that each change what is observed at their own key, taken for different keys. -/
theorem foldl_observe {σ κ α : Type} [DecidableEq κ] {f : σ → κ → σ} (obs : σ → κ → α) (upd : α → α)
    (hf : ∀ s k k', obs (f s k) k' = if k = k' then upd (obs s k') else obs s k') {ks : List κ} (hks : ks.Nodup)
    (s : σ) (k : κ) : obs (ks.foldl f s) k = if k ∈ ks then upd (obs s k) else obs s k := by
  induction ks generalizing s with
  | nil => simp
  | cons x ks ih =>
    obtain ⟨hx, hks⟩ := List.nodup_cons.1 hks
    rw [List.foldl_cons, ih hks, hf]
    by_cases hk : x = k
    · subst hk
      simp [hx]
    · simp [hk, Ne.symm hk]

/-- Each step sets what is observed at its key to what is fetched for it, as long as nothing else is
observed anywhere; so does the whole fold. -/
theorem foldl_fetch {σ κ α : Type} [DecidableEq κ] {f : σ → κ → σ} (obs : σ → κ → Option α) (fetch : κ → Option α)
    (hf : ∀ s, (∀ k v, obs s k = some v → fetch k = some v) →
      ∀ k k', obs (f s k) k' = if k = k' then fetch k' else obs s k') (ks : List κ) {s : σ}
    (hs : ∀ k v, obs s k = some v → fetch k = some v) (k : κ) :
    obs (ks.foldl f s) k = if k ∈ ks then fetch k else obs s k := by
  induction ks generalizing s with
  | nil => simp
  | cons x ks ih =>
    rw [List.foldl_cons, ih]
    · rw [hf s hs]
      by_cases hks : k ∈ ks
      · simp [hks]
      · by_cases hx : x = k
        · simp [hx]
        · simp [hks, hx, Ne.symm hx]
    · intro k' v hv
      rw [hf s hs] at hv
      split at hv
      · exact hv
      · exact hs k' v hv

/-! ## Sums over the entries -/

/-- The sum of `f` over the entries of a map. -/
def mapSum (f : κ → ν → Nat) (m : Std.ExtTreeMap κ ν) : Nat :=
  (m.toList.map fun p => f p.1 p.2).sum

variable {f g : κ → ν → Nat} {m : Std.ExtTreeMap κ ν} {k : κ} {v : ν}

theorem mapSum_map (f : κ → μ → Nat) (g : κ → ν → μ) :
    mapSum f (m.map g) = mapSum (fun k v => f k (g k v)) m := by
  simp only [mapSum, Std.ExtTreeMap.toList_map, List.map_map]
  rfl

theorem mapSum_add : mapSum (fun k v => f k v + g k v) m = mapSum f m + mapSum g m := by
  simp only [mapSum]
  induction m.toList with
  | nil => rfl
  | cons p l ih =>
    simp only [List.map_cons, List.sum_cons, ih]
    omega

variable [Std.LawfulEqOrd κ]

theorem mapSum_insert : mapSum f (m.insert k v) = f k v + mapSum f (m.erase k) := by
  simp only [mapSum, ((toList_insert_perm m k v).map _).sum_eq, List.map_cons, List.sum_cons]

theorem mapSum_eq_add_erase (h : m[k]? = some v) : mapSum f m = f k v + mapSum f (m.erase k) := by
  simp only [mapSum, ((toList_perm_of_getElem? h).map _).sum_eq, List.map_cons, List.sum_cons]

theorem mapSum_congr (h : ∀ k v, m[k]? = some v → f k v = g k v) : mapSum f m = mapSum g m := by
  simp only [mapSum]
  congr 1
  refine List.map_congr_left ?_
  rintro ⟨k, v⟩ hkv
  exact h k v (Std.ExtTreeMap.mem_toList_iff_getElem?_eq_some.1 hkv)

theorem le_mapSum (h : m[k]? = some v) : f k v ≤ mapSum f m := by
  rw [mapSum_eq_add_erase h]
  omega

theorem mapSum_pos : 0 < mapSum f m ↔ ∃ k v, m[k]? = some v ∧ 0 < f k v := by
  constructor
  · intro h
    by_contra hn
    have h0 : mapSum f m = mapSum (fun _ _ => 0) m :=
      mapSum_congr fun k v hkv => by
        by_contra hf
        exact hn ⟨k, v, hkv, by omega⟩
    rw [h0] at h
    simp [mapSum] at h
  · rintro ⟨k, v, hkv, hf⟩
    exact Nat.lt_of_lt_of_le hf (le_mapSum hkv)

end Lib
