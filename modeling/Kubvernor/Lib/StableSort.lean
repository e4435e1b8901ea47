import Mathlib.Data.List.Basic
import Mathlib.Data.List.Sort

/-!
# Sorting by a comparison

A comparison may be sorted by if it obeys the laws of a total preorder (`Preorders`); it may well
tie values that differ. Such comparisons are put together from others: one after the other
(`compareLex`), on a key (`transCmp_on`), or with what is missing last (`missingLast`).

Sorting puts ties in the order they had (`stableSortOf_mergeSort`). What must come first does so in
the sorted list exactly if the comparison never puts it second (`StableSortOf.pairwise_not_iff`).
-/

namespace Lib

variable {α β : Type} {cmp : α → α → Ordering}

/-! ## Comparisons -/

/-- The laws of a total preorder. Each of the three results is transitive, and a tie may be put in
the place of the other. -/
structure Preorders (cmp : α → α → Ordering) : Prop where
  refl : ∀ a, cmp a a = .eq
  swap : ∀ a b, cmp b a = (cmp a b).swap
  trans : ∀ a b c result, cmp a b = result → cmp b c = result → cmp a c = result
  congr : ∀ a b c, cmp a b = .eq → cmp a c = cmp b c

theorem preorders_of_transCmp [Std.TransCmp cmp] : Preorders cmp where
  refl _ := Std.ReflCmp.compare_self
  swap _ _ := Std.OrientedCmp.eq_swap
  trans a b c result hab hbc := by
    cases result with
    | lt => exact Std.TransCmp.lt_trans hab hbc
    | eq => exact Std.TransCmp.eq_trans hab hbc
    | gt => exact Std.TransCmp.gt_trans hab hbc
  congr _ _ _ hab := Std.TransCmp.congr_left hab

theorem transCmp_on [Std.TransCmp cmp] (f : β → α) : Std.TransCmp fun a b => cmp (f a) (f b) where
  eq_swap := Std.OrientedCmp.eq_swap
  isLE_trans hab hbc := @Std.TransCmp.isLE_trans _ cmp _ _ _ _ hab hbc

/-- Compares what is there, and puts what is missing last. -/
def missingLast (cmp : α → α → Ordering) (a b : Option α) : Ordering :=
  match a, b with
  | none, none => .eq
  | none, some _ => .gt
  | some _, none => .lt
  | some a, some b => cmp a b

instance [Std.TransCmp cmp] : Std.TransCmp (missingLast cmp) where
  eq_swap {a b} := by
    cases a <;> cases b
    · rfl
    · rfl
    · rfl
    · exact @Std.OrientedCmp.eq_swap _ cmp _ _ _
  isLE_trans {a b c} hab hbc := by
    cases a <;> cases b <;> cases c <;> first | contradiction | rfl | skip
    exact @Std.TransCmp.isLE_trans _ cmp _ _ _ _ hab hbc

/-! ## Sorting -/

theorem isLE_trans [Std.TransCmp cmp] (a b c : α) (hab : (cmp a b).isLE) (hbc : (cmp b c).isLE) :
    (cmp a c).isLE :=
  Std.TransCmp.isLE_trans hab hbc

theorem isLE_total [Std.TransCmp cmp] (a b : α) : (cmp a b).isLE || (cmp b a).isLE := by
  rw [Bool.or_eq_true, ← Std.OrientedCmp.isGE_iff_isLE (a := a)]
  cases cmp a b <;> simp

/-- The same entries in order, and ties in the order they had. -/
structure StableSortOf (cmp : α → α → Ordering) (sorted l : List α) : Prop where
  perm : sorted.Perm l
  ordered : sorted.Pairwise fun a b => (cmp a b).isLE
  stable : ∀ a, sorted.filter (cmp a · == .eq) = l.filter (cmp a · == .eq)

/-- Entries that tie with each other are not moved by the sort. -/
theorem filter_mergeSort [Std.TransCmp cmp] {p : α → Bool} (l : List α)
    (hp : ∀ a b, p a → p b → (cmp a b).isLE) :
    (l.mergeSort fun a b => (cmp a b).isLE).filter p = l.filter p := by
  have heq : (l.filter p).Pairwise fun a b => (cmp a b).isLE := by
    rw [List.pairwise_filter]
    exact List.pairwise_of_forall fun a b ha hb => hp a b ha hb
  have hsub := (List.sublist_mergeSort isLE_trans isLE_total heq List.filter_sublist).filter p
  rw [List.filter_filter] at hsub
  simp only [Bool.and_self] at hsub
  exact (hsub.eq_of_length ((List.mergeSort_perm l _).filter _).length_eq.symm).symm

theorem stableSortOf_mergeSort [Std.TransCmp cmp] (l : List α) :
    StableSortOf cmp (l.mergeSort fun a b => (cmp a b).isLE) l where
  perm := List.mergeSort_perm l _
  ordered := List.pairwise_mergeSort isLE_trans isLE_total l
  stable a := by
    refine filter_mergeSort l fun b c hb hc => ?_
    have hb := Std.OrientedCmp.eq_symm (beq_iff_eq.1 hb)
    rw [Std.TransCmp.eq_trans hb (beq_iff_eq.1 hc)]
    rfl

variable {sorted l : List α} {First : α → α → Prop}

/-- What must come first, and never ties, does so exactly if it is never compared as second. -/
theorem StableSortOf.pairwise_not_iff [Std.TransCmp cmp] (h : StableSortOf cmp sorted l)
    (hne : ∀ a b, First a b → cmp a b ≠ .eq) :
    sorted.Pairwise (fun a b => ¬ First b a) ↔ ∀ a ∈ l, ∀ b ∈ l, First a b → cmp a b = .lt := by
  constructor
  · intro hfirst a ha b hb hab
    have hboth := h.ordered.and hfirst
    rw [List.pairwise_iff_getElem] at hboth
    obtain ⟨i, hi, rfl⟩ := List.getElem_of_mem (h.perm.mem_iff.2 ha)
    obtain ⟨j, hj, rfl⟩ := List.getElem_of_mem (h.perm.mem_iff.2 hb)
    have hlt := hne _ _ hab
    rcases lt_trichotomy i j with hij | rfl | hij
    · have hle := (hboth i j hi hj hij).1
      revert hlt hle
      cases cmp sorted[i] sorted[j] <;> simp
    · exact absurd Std.ReflCmp.compare_self hlt
    · exact absurd hab (hboth j i hj hi hij).2
  · intro hlt
    refine h.ordered.imp_of_mem fun {a b} ha hb hle hba => ?_
    have hgt := hlt b (h.perm.mem_iff.1 hb) a (h.perm.mem_iff.1 ha) hba
    rw [@Std.OrientedCmp.eq_swap _ cmp, Ordering.swap_eq_lt] at hgt
    rw [hgt] at hle
    exact nomatch hle

end Lib
