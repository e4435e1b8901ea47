import Mathlib.Data.List.Infix

/-!
# Patterns over labels

A pattern is a list of its own labels: one label of the text, any one label, or one label or more.
A pattern with a special label in front matches what ends in the labels behind it
(`isMatch_one_literals`, `isMatch_oneOrMore_literals`).
-/

namespace Lib

inductive LabelPattern (α : Type)
  | literal (label : α)
  | one
  | oneOrMore
deriving DecidableEq, Repr

namespace LabelPattern

variable {α : Type} [DecidableEq α]

/-- The pattern matches the whole text. -/
def isMatch : List (LabelPattern α) → List α → Bool
  | [], [] => true
  | literal label :: pattern, label' :: text => label = label' && isMatch pattern text
  | one :: pattern, _ :: text => isMatch pattern text
  | oneOrMore :: pattern, _ :: text => isMatch pattern text || isMatch (oneOrMore :: pattern) text
  | _, _ => false

variable {labels text : List α}

theorem isMatch_literals : isMatch (labels.map literal) text = true ↔ text = labels := by
  induction labels generalizing text with
  | nil => cases text <;> simp [isMatch]
  | cons label labels ih =>
    cases text with
    | nil => simp [isMatch]
    | cons label' text =>
      rw [List.map_cons, isMatch, Bool.and_eq_true, decide_eq_true_eq, ih, List.cons.injEq, eq_comm (a := label)]

theorem isMatch_one_literals :
    isMatch (one :: labels.map literal) text = true ↔ ∃ label, text = label :: labels := by
  cases text with
  | nil => simp [isMatch]
  | cons label' text => simp [isMatch, isMatch_literals]

theorem isMatch_oneOrMore_literals :
    isMatch (oneOrMore :: labels.map literal) text = true ↔ labels <:+ text ∧ labels ≠ text := by
  induction text with
  | nil => simp [isMatch]
  | cons label' text ih =>
    rw [isMatch, Bool.or_eq_true, isMatch_literals, ih, List.suffix_cons_iff]
    constructor
    · rintro (rfl | ⟨hsuffix, hne⟩)
      · exact ⟨.inr List.suffix_rfl, List.ne_cons_self⟩
      · refine ⟨.inr hsuffix, fun heq => ?_⟩
        have hlength := hsuffix.length_le
        rw [heq, List.length_cons] at hlength
        omega
    · rintro ⟨heq | hsuffix, hne⟩
      · exact absurd heq hne
      · by_cases heq : text = labels
        · exact .inl heq
        · exact .inr ⟨hsuffix, Ne.symm heq⟩

end LabelPattern

end Lib
