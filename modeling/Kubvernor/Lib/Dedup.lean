import Kubvernor.Lib.StableSort
import Kubvernor.Lib.TreeMap
import Mathlib.Data.List.Destutter

/-!
# Sorting by a key and dropping repeated keys

A list is sorted by a key and of each run of equal keys the first entry is kept. The sort is stable,
so what is kept under a key is the first entry the list had under it (`filter_sortDedup`); under no
key are there two (`nodup_map_sortDedup`). Without the sort there are none exactly if equal keys stand
side by side (`nodup_destutter_iff`). Collecting a list into a map and reading the map off keeps
the last entry instead (`find?_collect`).
-/

namespace Lib

/-- Between two equal elements are only elements equal to them. -/
def Contiguous {κ : Type} (l : List κ) : Prop := ∀ a b, [a, b, a].Sublist l → a = b

/-- A repeated neighbour does not matter. -/
theorem contiguous_cons_cons_self {κ : Type} {a : κ} {l : List κ} : Contiguous (a :: a :: l) ↔ Contiguous (a :: l) := by
  constructor
  · intro h b c hbc
    exact h b c (hbc.cons a)
  · intro h b c hbc
    cases hbc with
    | cons _ hbc => exact h b c hbc
    | cons_cons _ hca =>
      -- the list starts with `a`, and so does what follows it, or `c` is `a`
      cases hca with
      | cons _ hca => exact h a c (hca.cons_cons a)
      | cons_cons => rfl

/-- An element that is not repeated at once is not repeated at all. -/
theorem contiguous_cons_cons_of_ne {κ : Type} {a b : κ} {l : List κ} (hab : a ≠ b) :
    Contiguous (a :: b :: l) ↔ a ∉ l ∧ Contiguous (b :: l) := by
  constructor
  · intro h
    refine ⟨fun ha => hab (h a b ?_), fun c d hcd => h c d (hcd.cons a)⟩
    exact ((List.singleton_sublist.2 ha).cons_cons b).cons_cons a
  · rintro ⟨ha, h⟩ c d hcd
    cases hcd with
    | cons _ hcd => exact h c d hcd
    | cons_cons _ hda =>
      have hmem : a ∈ l := by
        cases hda with
        | cons _ hda => exact hda.subset (by simp)
        | cons_cons _ hda => exact hda.subset (by simp)
      exact absurd hmem ha

variable {α κ : Type} [Ord κ] [Std.TransOrd κ] [Std.LawfulEqOrd κ] [DecidableEq κ]
variable {key : α → κ} {k : κ} {a : α} {l : List α}

/-- The entries sorted by their keys, the first one of each run. -/
def sortDedup (key : α → κ) (l : List α) : List α :=
  (l.mergeSort fun a b => (compare (key a) (key b)).isLE).destutter fun a b => key a ≠ key b

/-- Dropping repeated neighbours keeps the keys. -/
theorem exists_mem_destutter {κ : Type} [DecidableEq κ] {key : α → κ} {k : κ} :
    (∃ a ∈ l.destutter (fun a b => key a ≠ key b), key a = k) ↔ ∃ a ∈ l, key a = k := by
  constructor
  · rintro ⟨a, ha, hk⟩
    exact ⟨a, (List.destutter_sublist _ _).subset ha, hk⟩
  · rintro ⟨a, ha, hk⟩
    cases l with
    | nil => cases ha
    | cons b l =>
      rw [List.destutter_cons']
      induction l generalizing b with
      | nil => exact ⟨a, ha, hk⟩
      | cons c l ih =>
        by_cases hbc : key b = key c
        · -- `c` is dropped for the sake of `b`, which has its key
          rw [List.destutter'_cons_neg (h := not_not_intro hbc)]
          rcases List.mem_cons.1 ha with rfl | ha
          · exact ⟨a, List.mem_destutter' _ _ _, hk⟩
          · rcases List.mem_cons.1 ha with rfl | ha
            · exact ⟨b, List.mem_destutter' _ _ _, hbc.trans hk⟩
            · exact ih b (List.mem_cons_of_mem _ ha)
        · rw [List.destutter'_cons_pos _ hbc]
          rcases List.mem_cons.1 ha with rfl | ha
          · exact ⟨a, List.mem_cons_self, hk⟩
          · obtain ⟨a', ha', hk'⟩ := ih c ha
            exact ⟨a', List.mem_cons_of_mem _ ha', hk'⟩

section Neighbours

variable {κ : Type} [DecidableEq κ] {a : κ} {l : List κ}

theorem mem_destutter_iff : a ∈ l.destutter (· ≠ ·) ↔ a ∈ l := by
  have h : (∃ b ∈ l.destutter fun b c => id b ≠ id c, id b = a) ↔ ∃ b ∈ l, id b = a := exists_mem_destutter
  simpa using h

theorem nodup_destutter'_iff : (l.destutter' (· ≠ ·) a).Nodup ↔ Contiguous (a :: l) := by
  induction l generalizing a with
  | nil =>
    refine iff_of_true (by simp) ?_
    intro b c hbc
    simpa using hbc.length_le
  | cons b l ih =>
    by_cases hab : a = b
    · subst hab
      rw [List.destutter'_cons_neg (h := not_not_intro rfl), ih, contiguous_cons_cons_self]
    · have hmem : a ∈ l.destutter' (· ≠ ·) b ↔ a ∈ l := by
        rw [← List.destutter_cons', mem_destutter_iff, List.mem_cons, or_iff_right hab]
      rw [List.destutter'_cons_pos _ hab, List.nodup_cons, hmem, ih, contiguous_cons_cons_of_ne hab]

/-- **Dropping repeated neighbours leaves each element once exactly if equal ones stand side by side.** -/
theorem nodup_destutter_iff : (l.destutter (· ≠ ·)).Nodup ↔ Contiguous l := by
  cases l with
  | nil => simp [Contiguous]
  | cons a l => rw [List.destutter_cons', nodup_destutter'_iff]

end Neighbours

section Sorted

/-- What the entries of one key are is not changed by the sort. -/
theorem filter_mergeSort_key (key : α → κ) (k : κ) (l : List α) :
    (l.mergeSort fun a b => (compareOn key a b).isLE).filter (fun a => key a = k) =
      l.filter fun a => key a = k := by
  refine filter_mergeSort l fun a b ha hb => ?_
  rw [compareOn, of_decide_eq_true ha, of_decide_eq_true hb]
  exact Std.ReflOrd.isLE_rfl

theorem filter_destutter' (hl : (a :: l).Pairwise fun a b => (compare (key a) (key b)).isLE) :
    (l.destutter' (fun a b => key a ≠ key b) a).filter (fun a => key a = k) =
      ((a :: l).find? fun a => key a = k).toList := by
  induction l generalizing a with
  | nil =>
    rw [List.destutter'_nil]
    by_cases hk : key a = k <;> simp [hk]
  | cons b l ih =>
    obtain ⟨ha, hbl⟩ := List.pairwise_cons.1 hl
    obtain ⟨hb, hl'⟩ := List.pairwise_cons.1 hbl
    by_cases hab : key a = key b
    · have hal := ih (a := a) (List.pairwise_cons.2 ⟨fun c hc => ha c (List.mem_cons_of_mem _ hc), hl'⟩)
      rw [List.destutter'_cons_neg (h := not_not_intro hab), hal]
      by_cases hk : key a = k
      · simp [hk]
      · have hkb : key b ≠ k := fun h => hk (hab.trans h)
        simp [hk, hkb]
    · rw [List.destutter'_cons_pos _ hab, List.filter_cons, ih hbl]
      by_cases hk : key a = k
      · -- all keys behind `a` are greater
        have hnone : (b :: l).find? (fun a => key a = k) = none := by
          rw [List.find?_eq_none]
          intro c hc hck
          have hkc : key c = key a := (of_decide_eq_true hck).trans hk.symm
          have hbc : (compare (key b) (key c)).isLE := by
            rcases List.mem_cons.1 hc with rfl | hc
            · exact Std.ReflOrd.isLE_rfl
            · exact hb c hc
          rw [hkc] at hbc
          exact hab (Std.LawfulEqOrd.eq_of_compare (Std.OrientedCmp.isLE_antisymm (ha b List.mem_cons_self) hbc))
        simp only [hk, decide_true, ↓reduceIte, hnone, List.find?_cons_of_pos]
        rfl
      · simp only [hk, decide_false, Bool.false_eq_true, ↓reduceIte, not_false_eq_true, List.find?_cons_of_neg]

end Sorted

/-- **Under each key the first entry is kept.** -/
theorem filter_sortDedup : (sortDedup key l).filter (fun a => key a = k) = (l.find? fun a => key a = k).toList := by
  have hfind (l : List α) : l.find? (fun a => key a = k) = (l.filter fun a => key a = k).head? :=
    List.head?_filter.symm
  have hsorted := (@stableSortOf_mergeSort _ (compareOn key) _ l).ordered
  rw [hfind l, ← filter_mergeSort_key key k l, ← hfind]
  change (List.destutter _ (l.mergeSort fun a b => (compareOn key a b).isLE)).filter _ = _
  cases hm : l.mergeSort fun a b => (compareOn key a b).isLE with
  | nil => rfl
  | cons a s =>
    rw [List.destutter_cons']
    exact filter_destutter' (hm ▸ hsorted)

/-- Under no key are there two entries. -/
theorem nodup_map_sortDedup : ((sortDedup key l).map key).Nodup := by
  rw [List.nodup_iff_count_le_one]
  intro k
  rw [List.count_eq_countP, List.countP_map, List.countP_eq_length_filter]
  have h : (sortDedup key l).filter ((· == k) ∘ key) = (sortDedup key l).filter fun a => key a = k :=
    List.filter_congr fun a _ => rfl
  rw [h, filter_sortDedup]
  exact Option.length_toList_le

/-! ## Collecting into a map -/

/-- In a map whose values know their keys, the value under a key is the one that has it. -/
theorem find?_values {m : Std.ExtTreeMap κ α} (hm : ∀ k a, m[k]? = some a → key a = k) :
    (m.toList.map (·.2)).find? (fun a => key a = k) = m[k]? := by
  have hmem {a : α} : a ∈ m.toList.map (·.2) ↔ m[key a]? = some a := mem_values_of_key hm
  cases hf : (m.toList.map (·.2)).find? fun a => key a = k with
  | none =>
    cases ha : m[k]? with
    | none => rfl
    | some a =>
      have hka := hm k a ha
      rw [← hka] at ha
      exact absurd (decide_eq_true hka) (List.find?_eq_none.1 hf a (hmem.2 ha))
  | some a =>
    have hka : key a = k := by simpa using List.find?_some hf
    have ha := hmem.1 (List.mem_of_find?_eq_some hf)
    rw [← hka, ha]

/-- **The map built from a list has under a key the last entry of that key.** -/
theorem find?_collect (key : α → κ) (l : List α) (k : κ) :
    ((Std.ExtTreeMap.ofList (l.map fun a => (key a, a))).toList.map (·.2)).find? (fun a => key a = k) =
      l.reverse.find? fun a => key a = k := by
  rw [find?_values]
  · rw [Std.ExtTreeMap.ofList_eq_insertMany_empty, Std.ExtTreeMap.getElem?_insertMany_list,
      Std.ExtTreeMap.getElem?_empty, Option.or_none, List.findSomeRev?_eq_findSome?_reverse, ← List.map_reverse,
      List.findSome?_map]
    induction l.reverse with
    | nil => rfl
    | cons a l ih =>
      rw [List.findSome?_cons, ih]
      by_cases hk : key a = k
      · simp [hk]
      · have hc : compare (key a) k ≠ .eq := fun h => hk (Std.LawfulEqOrd.eq_of_compare h)
        simp [hk]
  · intro k a ha
    obtain ⟨a', -, heq⟩ := List.mem_map.1 (mem_of_getElem?_ofList ha)
    obtain ⟨hk, rfl⟩ := Prod.mk.inj heq
    exact hk

/-- Collecting entries under their keys keeps the keys. -/
theorem exists_mem_collect {key : α → κ} {l : List α} {k : κ} :
    (∃ a ∈ (Std.ExtTreeMap.ofList (l.map fun a => (key a, a))).toList.map (·.2), key a = k) ↔ ∃ a ∈ l, key a = k := by
  have hfind (l : List α) : (∃ a ∈ l, key a = k) ↔ (l.find? fun a => key a = k).isSome := by
    simp only [List.find?_isSome, decide_eq_true_eq]
  rw [hfind, find?_collect, ← hfind]
  simp only [List.mem_reverse]

end Lib
