import Mathlib.Data.List.Induction

/-!
# What holds since an event

`Since p q events`: some event met `p` and no event after it met `q`. A property of the state that an
event of `p` makes true, an event of `q` makes false and all others leave alone is `Since p q` of the
run (`foldl_iff_since`). Where it depends on the events before whether an event makes the property true, this
is `SinceAfter`; the induction is on the last event (`sinceAfter_concat`).
-/

namespace Lib

variable {α σ : Type*} {q : α → Prop} {events : List α} {e : α}

/-- An event has met `p` after those before it, and none after it has met `q`. -/
def SinceAfter (p : List α → α → Prop) (q : α → Prop) (events : List α) : Prop :=
  ∃ before e after, events = before ++ e :: after ∧ p before e ∧ ∀ x ∈ after, ¬ q x

/-- An event has met `p`, and none after it has met `q`. -/
def Since (p q : α → Prop) (events : List α) : Prop :=
  ∃ before e after, events = before ++ e :: after ∧ p e ∧ ∀ x ∈ after, ¬ q x

section SinceAfter

variable {p : List α → α → Prop}

theorem not_sinceAfter_nil : ¬ SinceAfter p q [] := by
  rintro ⟨before, e, after, heq, -⟩
  simp at heq

/-- The last event starts the property, or it goes on. -/
theorem sinceAfter_concat : SinceAfter p q (events ++ [e]) ↔
    p events e ∨ (SinceAfter p q events ∧ ¬ q e) := by
  constructor
  · rintro ⟨before, e', after, heq, hp, hq⟩
    rcases after.eq_nil_or_concat with rfl | ⟨after, x, rfl⟩
    · obtain ⟨rfl, h⟩ := List.append_inj' heq rfl
      obtain rfl : e = e' := by simpa using h
      exact .inl hp
    · rw [List.concat_eq_append, ← List.cons_append, ← List.append_assoc] at heq
      obtain ⟨h, hx⟩ := List.append_inj' heq rfl
      obtain rfl : e = x := by simpa using hx
      refine .inr ⟨⟨before, e', after, h, hp, ?_⟩, hq e (by simp)⟩
      intro y hy
      exact hq y (by simp [hy])
  · rintro (hp | ⟨⟨before, e', after, rfl, hp, hq⟩, he⟩)
    · exact ⟨events, e, [], rfl, hp, by simp⟩
    · refine ⟨before, e', after ++ [e], by simp, hp, ?_⟩
      intro y hy
      rcases List.mem_append.1 hy with hy | hy
      · exact hq y hy
      · rw [List.mem_singleton.1 hy]
        exact he

/-- A property that a run starts without, that some events make true after what was before and one kind of event
makes false, tells at every point of the run whether an event of the first kind has had none of the second since. -/
theorem foldl_iff_sinceAfter {step : σ → α → σ} {init : σ} (holds : σ → Prop) (hinit : ¬ holds init)
    (hstep : ∀ events e, holds (step (events.foldl step init) e) ↔
      p events e ∨ (holds (events.foldl step init) ∧ ¬ q e)) (events : List α) :
    holds (events.foldl step init) ↔ SinceAfter p q events := by
  induction events using List.reverseRecOn with
  | nil => exact iff_of_false hinit not_sinceAfter_nil
  | append_singleton events e ih =>
    rw [List.foldl_append, List.foldl_cons, List.foldl_nil, hstep, sinceAfter_concat, ih]

end SinceAfter

variable {p : α → Prop}

/-- The same where the events before do not matter. -/
theorem foldl_iff_since {step : σ → α → σ} {init : σ} (holds : σ → Prop) (hinit : ¬ holds init)
    (hstep : ∀ s e, holds (step s e) ↔ p e ∨ (holds s ∧ ¬ q e)) (events : List α) :
    holds (events.foldl step init) ↔ Since p q events :=
  foldl_iff_sinceAfter (p := fun _ => p) holds hinit (fun _ e => hstep _ e) events

end Lib
