import Mathlib.Algebra.BigOperators.Group.List.Lemmas
import Mathlib.Algebra.Order.BigOperators.Group.List
import Mathlib.Data.Rat.Cast.Order

/-!
# Shares by weight

A list whose members have weights gives some of its members a share of the whole. What weighs
nothing does not count (`weightIn_filter`), and two choices of members, one within the other, have
the same share exactly if what only the larger one has weighs nothing (`share_eq_share_iff`).
-/

namespace Lib

variable {α β : Type} {weight : α → Nat} {p q : α → Bool} {l : List α}

/-- The weight of the members that satisfy `p`. -/
def weightIn (weight : α → Nat) (p : α → Bool) (l : List α) : Nat := ((l.filter p).map weight).sum

/-- The share that the members satisfying `p` have of the whole. -/
def share (weight : α → Nat) (p : α → Bool) (l : List α) : ℚ :=
  weightIn weight p l / weightIn weight (fun _ => true) l

theorem weightIn_cons (x : α) :
    weightIn weight p (x :: l) = (if p x then weight x else 0) + weightIn weight p l := by
  unfold weightIn
  by_cases hx : p x
  · rw [List.filter_cons_of_pos hx, List.map_cons, List.sum_cons, if_pos hx]
  · rw [List.filter_cons_of_neg hx, if_neg hx, zero_add]

theorem weightIn_map (g : β → α) (l : List β) :
    weightIn weight p (l.map g) = weightIn (weight ∘ g) (p ∘ g) l := by
  unfold weightIn
  rw [List.filter_map, List.map_map]

/-- Leaving out members without weight changes nothing. -/
theorem weightIn_filter (hq : ∀ x ∈ l, q x = false → weight x = 0) :
    weightIn weight p (l.filter q) = weightIn weight p l := by
  induction l with
  | nil => rfl
  | cons x l ih =>
    have ih := ih fun y hy => hq y (List.mem_cons_of_mem x hy)
    cases hx : q x with
    | true => rw [List.filter_cons_of_pos hx, weightIn_cons, weightIn_cons, ih]
    | false =>
      have hweight := hq x List.mem_cons_self hx
      rw [List.filter_cons_of_neg (by rw [hx]; exact Bool.false_ne_true), weightIn_cons, hweight, ite_self,
        zero_add, ih]

theorem weightIn_le (hpq : ∀ x, p x = true → q x = true) : weightIn weight p l ≤ weightIn weight q l :=
  ((List.monotone_filter_right l hpq).map weight).sum_le_sum fun _ _ => Nat.zero_le _

/-- The larger choice weighs more by what only it has. -/
theorem weightIn_eq_iff (hpq : ∀ x, p x = true → q x = true) :
    weightIn weight q l = weightIn weight p l ↔ ∀ x ∈ l, q x = true → 0 < weight x → p x = true := by
  induction l with
  | nil => exact iff_of_true rfl fun x hx => nomatch hx
  | cons x l ih =>
    have hle : weightIn weight p l ≤ weightIn weight q l := weightIn_le hpq
    rw [weightIn_cons, weightIn_cons, List.forall_mem_cons, ← ih]
    by_cases hp : p x = true
    · rw [if_pos hp, if_pos (hpq x hp)]
      simp only [hp, implies_true, true_and]
      omega
    · by_cases hq : q x = true
      · rw [if_neg hp, if_pos hq]
        have hzero : (q x = true → 0 < weight x → p x = true) ↔ weight x = 0 := by
          rw [forall_prop_of_true hq, iff_false_intro hp, imp_false, Nat.not_lt, Nat.le_zero]
        rw [hzero]
        omega
      · rw [if_neg hp, if_neg hq]
        simp only [hq, Bool.false_eq_true, false_imp_iff, true_and]
        omega

theorem weightIn_pos {x : α} (hx : x ∈ l) (hp : p x = true) (hweight : 0 < weight x) :
    0 < weightIn weight p l := by
  unfold weightIn
  have hmem : weight x ∈ (l.filter p).map weight := List.mem_map_of_mem (List.mem_filter.2 ⟨hx, hp⟩)
  have hle := List.single_le_sum (fun _ _ => Nat.zero_le _) _ hmem
  omega

theorem share_eq_share_iff (hpq : ∀ x, p x = true → q x = true) (hpos : ∃ x ∈ l, 0 < weight x) :
    share weight q l = share weight p l ↔ ∀ x ∈ l, q x = true → 0 < weight x → p x = true := by
  obtain ⟨x, hx, hweight⟩ := hpos
  have htotal : 0 < weightIn weight (fun _ => true) l := weightIn_pos hx rfl hweight
  unfold share
  rw [div_left_inj' (Nat.cast_ne_zero.2 htotal.ne'), Nat.cast_inj, weightIn_eq_iff hpq]

end Lib
