import Mathlib.Data.List.Count
import Mathlib.Data.List.Infix

/-!
# Names joined by separators

Where a separator stands that does not occur in the last part of a name, the name can be taken apart
again. Numbers have no letters, and no sign if they are natural numbers.
-/

namespace Lib

/-- The last part of a list is what follows the last separator. -/
theorem append_cons_inj_right {α : Type} {x x' z z' : List α} {a : α} (hz : a ∉ z) (hz' : a ∉ z') :
    x ++ a :: z = x' ++ a :: z' ↔ x = x' ∧ z = z' := by
  constructor
  · intro h
    rcases List.append_eq_append_iff.1 h with ⟨c, rfl, hc⟩ | ⟨c, rfl, hc⟩
    · cases c with
      | nil => exact ⟨(List.append_nil x).symm, (List.cons.inj hc).2⟩
      | cons b c =>
        have hmem : a ∈ z := by
          rw [(List.cons.inj hc).2]
          exact List.mem_append_right _ List.mem_cons_self
        exact absurd hmem hz
    · cases c with
      | nil => exact ⟨List.append_nil x', (List.cons.inj hc).2.symm⟩
      | cons b c =>
        have hmem : a ∈ z' := by
          rw [(List.cons.inj hc).2]
          exact List.mem_append_right _ List.mem_cons_self
        exact absurd hmem hz'
  · rintro ⟨rfl, rfl⟩
    rfl

/-- What holds a separator once is what stands before it and what stands behind. -/
theorem count_eq_one_iff {α : Type} [DecidableEq α] {l : List α} {a : α} :
    l.count a = 1 ↔ ∃ x z, l = x ++ a :: z ∧ a ∉ x ∧ a ∉ z := by
  constructor
  · intro hone
    have hmem : a ∈ l := List.count_pos_iff.1 (by omega)
    obtain ⟨x, z, rfl⟩ := List.append_of_mem hmem
    rw [List.count_append, List.count_cons_self] at hone
    exact ⟨x, z, rfl, List.count_eq_zero.1 (by omega), List.count_eq_zero.1 (by omega)⟩
  · rintro ⟨x, z, rfl, hx, hz⟩
    rw [List.count_append, List.count_cons_self, List.count_eq_zero.2 hx, List.count_eq_zero.2 hz]

theorem notMem_toList_nat {c : Char} (hc : ¬ c.isDigit) (n : Nat) : c ∉ (toString n).toList := by
  intro h
  rw [Nat.toString_eq_repr, Nat.toList_repr] at h
  exact hc (Nat.isDigit_of_mem_toDigits (by decide) (by decide) h)

theorem notMem_toList_int {c : Char} (hc : ¬ c.isDigit) (hsign : c ≠ '-') (i : Int) : c ∉ (toString i).toList := by
  rw [Int.toString_eq_repr, Int.repr_eq_if]
  split
  · exact notMem_toList_nat hc _
  · rw [String.toList_append, List.mem_append, not_or]
    refine ⟨?_, notMem_toList_nat hc _⟩
    simpa using hsign

end Lib
