import Mathlib.Logic.Function.Basic
import Mathlib.Tactic.Push

/-!
# Matching by parts

A list cut at a separator is a list of elements, and one such list begins with the elements of
another when the uncut lists are equal or the separator follows (`splitOn_prefix_iff`).

Something made of independent parts passes a test when each part passes its own; two such tests are
the same when they are the same in each part, or when neither can be passed
(`forall_parts_iff`).
-/

namespace Lib

section Elements

variable {α : Type}

theorem intercalate_append {sep : List α} {xs ys : List (List α)} (hxs : xs ≠ []) (hys : ys ≠ []) :
    sep.intercalate (xs ++ ys) = sep.intercalate xs ++ sep ++ sep.intercalate ys := by
  induction xs with
  | nil => exact absurd rfl hxs
  | cons x xs ih =>
    cases xs with
    | nil =>
      rw [List.singleton_append, List.intercalate_cons_of_ne_nil hys, List.intercalate_singleton]
    | cons x' xs =>
      rw [List.cons_append, List.intercalate_cons_of_ne_nil (by simp), ih (List.cons_ne_nil _ _),
        List.intercalate_cons_of_ne_nil (List.cons_ne_nil _ _)]
      simp only [List.append_assoc]

/-- The elements of `q` begin with those of `p`. -/
theorem splitOn_prefix_iff [DecidableEq α] {a : α} {p q : List α} :
    p.splitOn a <+: q.splitOn a ↔ q = p ∨ p ++ [a] <+: q := by
  constructor
  · rintro ⟨rest, hrest⟩
    have hq : q = [a].intercalate (p.splitOn a ++ rest) := by
      rw [hrest, List.intercalate_splitOn]
    cases rest with
    | nil =>
      rw [List.append_nil, List.intercalate_splitOn] at hq
      exact .inl hq
    | cons r rest =>
      rw [intercalate_append (List.splitOn_ne_nil a p) (List.cons_ne_nil _ _),
        List.intercalate_splitOn] at hq
      exact .inr ⟨_, hq.symm⟩
  · rintro (rfl | ⟨rest, rfl⟩)
    · exact List.prefix_rfl
    · rw [List.append_assoc, List.singleton_append, List.splitOn_append_cons_self]
      exact List.prefix_append _ _

end Elements

section Parts

variable {α ι : Type} {β : ι → Type} {P P' : α → Prop} {Q Q' : (i : ι) → β i → Prop}

/-- One of the parts cannot pass. -/
def Vacant (P : α → Prop) (Q : (i : ι) → β i → Prop) : Prop := (∀ a, ¬ P a) ∨ ∃ i, ∀ b, ¬ Q i b

/-- An optional test that nothing passes is asked for, and nothing passes it. -/
theorem forall_not_forall_mem_iff {γ : Type} [Nonempty α] {o : Option γ} {P : γ → α → Prop} :
    (∀ a, ¬ ∀ x ∈ o, P x a) ↔ ∃ x ∈ o, ∀ a, ¬ P x a := by
  cases o with
  | none =>
    obtain ⟨a⟩ := ‹Nonempty α›
    refine iff_of_false (fun h => h a fun _ hmem => ?_) ?_
    · cases hmem
    · rintro ⟨_, hmem, -⟩
      cases hmem
  | some x => simp only [Option.mem_some_iff, forall_eq', exists_eq_left']

theorem not_vacant_iff : ¬ Vacant P Q ↔ ∃ a, ∃ f : (i : ι) → β i, P a ∧ ∀ i, Q i (f i) := by
  simp only [Vacant, not_or, not_forall, not_not, not_exists, Classical.skolem, exists_and_left,
    exists_and_right]

theorem vacant_congr (hp : ∀ a, P a ↔ P' a) (hq : ∀ i b, Q i b ↔ Q' i b) :
    Vacant P Q ↔ Vacant P' Q' :=
  or_congr (forall_congr' fun a => not_congr (hp a))
    (exists_congr fun i => forall_congr' fun b => not_congr (hq i b))

/-- The test of one part is seen by changing one part of what passes. -/
theorem part_iff_of_passes (h : ∀ a (f : (i : ι) → β i), (P a ∧ ∀ i, Q i (f i)) ↔ P' a ∧ ∀ i, Q' i (f i))
    {a : α} {f : (i : ι) → β i} (ha : P a) (hf : ∀ i, Q i (f i)) (i : ι) (b : β i) : Q i b ↔ Q' i b := by
  classical
  obtain ⟨ha', hf'⟩ := (h a f).1 ⟨ha, hf⟩
  have hset : ∀ R : (i : ι) → β i → Prop, (∀ j, R j (f j)) →
      ((∀ j, R j (Function.update f i b j)) ↔ R i b) := by
    intro R hR
    rw [Function.forall_update_iff f fun j => R j]
    exact and_iff_left fun j _ => hR j
  rw [← hset Q hf, ← hset Q' hf']
  constructor
  · intro hq
    exact ((h a _).1 ⟨ha, hq⟩).2
  · intro hq
    exact ((h a _).2 ⟨ha', hq⟩).2

theorem forall_parts_iff :
    (∀ a (f : (i : ι) → β i), (P a ∧ ∀ i, Q i (f i)) ↔ P' a ∧ ∀ i, Q' i (f i)) ↔
      ((∀ a, P a ↔ P' a) ∧ ∀ i b, Q i b ↔ Q' i b) ∨ Vacant P Q ∧ Vacant P' Q' := by
  constructor
  · intro h
    by_cases hvacant : Vacant P Q
    · refine .inr ⟨hvacant, ?_⟩
      by_contra hpasses
      obtain ⟨a, f, hp⟩ := not_vacant_iff.1 hpasses
      exact not_vacant_iff.2 ⟨a, f, (h a f).2 hp⟩ hvacant
    · obtain ⟨a, f, ha, hf⟩ := not_vacant_iff.1 hvacant
      have hparts := part_iff_of_passes h ha hf
      refine .inl ⟨fun a' => ?_, hparts⟩
      have hf' : ∀ i, Q' i (f i) := fun i => (hparts i (f i)).1 (hf i)
      have := h a' f
      rwa [and_iff_left hf, and_iff_left hf'] at this
  · rintro (⟨hp, hq⟩ | ⟨hvacant, hvacant'⟩) a f
    · rw [hp a]
      exact and_congr_right fun _ => forall_congr' fun i => hq i (f i)
    · refine iff_of_false (fun h => ?_) fun h => ?_
      · exact not_vacant_iff.2 ⟨a, f, h⟩ hvacant
      · exact not_vacant_iff.2 ⟨a, f, h⟩ hvacant'

end Parts

end Lib
