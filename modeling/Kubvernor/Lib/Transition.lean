import Mathlib.Data.List.Basic

/-!
# Systems that step

A system has an initial state and a partial step function: `step s a = none` says that `a` cannot
happen in `s` (or that it aborts). A run is a list of steps, `Along ok` says that every step of a
run meets the guard `ok` in the state it is taken from, and `Reachable ok` collects the states at
the end of guarded runs. The rules here package the one induction every safety proof needs.
-/

namespace Lib

/-- A labelled transition system with a partial, deterministic step. -/
structure System (σ α : Type*) where
  init : σ
  step : σ → α → Option σ

namespace System

variable {σ α : Type*} (S : System σ α)

/-- The state after the steps `as`, if every one of them can be taken. -/
def run : σ → List α → Option σ
  | s, [] => some s
  | s, a :: as => (S.step s a).bind fun s' => run s' as

/-- Every step of the run `as` from `s` meets `ok` in the state it is taken from. -/
def Along (ok : σ → α → Prop) : σ → List α → Prop
  | _, [] => True
  | s, a :: as => ok s a ∧ ∀ s', S.step s a = some s' → Along ok s' as

/-- A decidable guard is decidable along a run. -/
instance decidableAlong (ok : σ → α → Prop) [∀ s a, Decidable (ok s a)] :
    ∀ s as, Decidable (S.Along ok s as)
  | _, [] => .isTrue trivial
  | s, a :: as =>
    match h : S.step s a with
    | none => decidable_of_iff (ok s a) (by simp [Along, h])
    | some t =>
      have := decidableAlong ok t as
      decidable_of_iff (ok s a ∧ S.Along ok t as) (by simp [Along, h])

/-- The states at the end of a run from the initial state, all of whose steps meet `ok`. -/
def Reachable (ok : σ → α → Prop) (s : σ) : Prop :=
  ∃ as, S.Along ok S.init as ∧ S.run S.init as = some s

/-- The guard that every step meets. -/
def Any : σ → α → Prop := fun _ _ => True

variable {S} {ok P Q : σ → α → Prop} {Inv : σ → Prop} {s s' : σ} {a : α} {as bs : List α}

@[simp] theorem run_nil : S.run s [] = some s := rfl

@[simp] theorem along_nil : S.Along ok s [] := trivial

theorem run_cons : S.run s (a :: as) = some s' ↔ ∃ t, S.step s a = some t ∧ S.run t as = some s' := by
  simp only [run, Option.bind_eq_some_iff]

theorem along_cons :
    S.Along ok s (a :: as) ↔ ok s a ∧ ∀ t, S.step s a = some t → S.Along ok t as := Iff.rfl

theorem run_append :
    S.run s (as ++ bs) = some s' ↔ ∃ t, S.run s as = some t ∧ S.run t bs = some s' := by
  induction as generalizing s with
  | nil => simp
  | cons a as ih =>
    simp only [List.cons_append, run_cons, ih]
    constructor
    · rintro ⟨t, ht, u, hu, hb⟩
      exact ⟨u, ⟨t, ht, hu⟩, hb⟩
    · rintro ⟨u, ⟨t, ht, hu⟩, hb⟩
      exact ⟨t, ht, u, hu, hb⟩

theorem along_append :
    S.Along ok s (as ++ bs) ↔ S.Along ok s as ∧ ∀ t, S.run s as = some t → S.Along ok t bs := by
  induction as generalizing s with
  | nil => simp
  | cons a as ih =>
    simp only [List.cons_append, along_cons, ih, run_cons]
    constructor
    · rintro ⟨ha, h⟩
      refine ⟨⟨ha, fun t ht => (h t ht).1⟩, ?_⟩
      rintro u ⟨t, ht, hu⟩
      exact (h t ht).2 u hu
    · rintro ⟨⟨ha, h⟩, h'⟩
      exact ⟨ha, fun t ht => ⟨h t ht, fun u hu => h' u ⟨t, ht, hu⟩⟩⟩

/-- A guard on the steps alone can be checked step by step. -/
theorem Along.and_forall {Q : α → Prop} (h : S.Along P s as) (hQ : ∀ a ∈ as, Q a) :
    S.Along (fun s a => P s a ∧ Q a) s as := by
  induction as generalizing s with
  | nil => trivial
  | cons a as ih =>
    obtain ⟨ha, has⟩ := List.forall_mem_cons.1 hQ
    exact ⟨⟨h.1, ha⟩, fun t ht => ih (h.2 t ht) has⟩

theorem along_any : S.Along Any s as := by
  induction as generalizing s with
  | nil => trivial
  | cons a as ih => exact ⟨trivial, fun t _ => ih⟩

/-- What one guarded step preserves, a guarded run preserves. -/
theorem inv_run (hstep : ∀ s a s', Inv s → ok s a → S.step s a = some s' → Inv s')
    (hs : Inv s) (hok : S.Along ok s as) (hrun : S.run s as = some s') : Inv s' := by
  induction as generalizing s with
  | nil =>
    simp only [run_nil, Option.some.injEq] at hrun
    exact hrun ▸ hs
  | cons a as ih =>
    obtain ⟨t, ht, hrun⟩ := run_cons.1 hrun
    exact ih (hstep s a t hs hok.1 ht) (hok.2 t ht) hrun

/-- **The invariant rule.** An invariant of the initial state that every guarded step preserves
holds in every state reached under the guard. -/
theorem Reachable.inv (h : S.Reachable ok s) (Inv : σ → Prop) (h0 : Inv S.init)
    (hstep : ∀ s a s', Inv s → ok s a → S.step s a = some s' → Inv s') : Inv s := by
  obtain ⟨as, hok, hrun⟩ := h
  exact inv_run hstep h0 hok hrun

theorem Reachable.init : S.Reachable ok S.init := ⟨[], trivial, rfl⟩

theorem Reachable.step (h : S.Reachable ok s) (ha : ok s a) (hs : S.step s a = some s') :
    S.Reachable ok s' := by
  obtain ⟨as, hok, hrun⟩ := h
  refine ⟨as ++ [a], along_append.2 ⟨hok, ?_⟩, run_append.2 ⟨s, hrun, ?_⟩⟩
  · intro t ht
    obtain rfl : s = t := Option.some.inj (hrun.symm.trans ht)
    exact ⟨ha, fun _ _ => trivial⟩
  · exact run_cons.2 ⟨s', hs, rfl⟩

/-- If an invariant never lets a step abort, every run goes through. -/
theorem runs_of_total (as : List α) (hs : Inv s)
    (hstep : ∀ s a, Inv s → ∃ s', S.step s a = some s' ∧ Inv s') : ∃ s', S.run s as = some s' ∧ Inv s' := by
  induction as generalizing s with
  | nil => exact ⟨s, rfl, hs⟩
  | cons a as ih =>
    obtain ⟨t, ht, hti⟩ := hstep s a hs
    obtain ⟨s', hs', hi⟩ := ih hti
    exact ⟨s', run_cons.2 ⟨t, ht, hs'⟩, hi⟩

/-- Two guards that agree wherever the invariant holds, the invariant being kept by the steps
that meet them, hold along the same runs. -/
theorem along_congr (Inv : σ → Prop) (hs : Inv s) (hPQ : ∀ s a, Inv s → (P s a ↔ Q s a))
    (hstep : ∀ s a s', Inv s → Q s a → S.step s a = some s' → Inv s') :
    S.Along P s as ↔ S.Along Q s as := by
  induction as generalizing s with
  | nil => exact Iff.rfl
  | cons a as ih =>
    simp only [along_cons]
    constructor
    · rintro ⟨hp, h⟩
      have hq := (hPQ s a hs).1 hp
      exact ⟨hq, fun t ht => (ih (hstep s a t hs hq ht)).1 (h t ht)⟩
    · rintro ⟨hq, h⟩
      exact ⟨(hPQ s a hs).2 hq, fun t ht => (ih (hstep s a t hs hq ht)).2 (h t ht)⟩

end System

end Lib
