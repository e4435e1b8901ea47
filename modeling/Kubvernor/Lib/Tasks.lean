import Kubvernor.Lib.Transition
import Mathlib.Logic.Function.Basic

/-!
# Interleaved tasks

A system of tasks that share a state. Every task has a program, the list of the atomic actions it
still has to do; an idle task may start on an event, a busy one may execute its next action, and
any task may be the next to move. What is left of a program may depend on what an action reads.

`Reachable.local_inv` is the rule for invariants of this shape: a fact about the shared state and,
for each task, a fact about its program. It asks what the moving task establishes, and that its move
does not disturb the others.
-/

namespace Lib

variable {σ τ α ε ω : Type*}

/-- A shared state with the programs of the tasks. -/
structure Config (σ τ α : Type*) where
  shared : σ
  program : τ → List α

/-- An idle task starts on an event, or a busy task executes its next action; `ε` are the events and
`ω` what the environment decides during an action. -/
inductive TaskStep (τ ε ω : Type*)
  | start (t : τ) (e : ε)
  | next (t : τ) (w : ω)

/-- The task that moves. -/
def TaskStep.task : TaskStep τ ε ω → τ
  | .start t _ | .next t _ => t

/-- How tasks start and what their actions do: the new shared state and the task's new program, or
`none` where the move is not possible. -/
structure TaskSystem (σ τ α ε ω : Type*) where
  init : σ
  start : τ → ε → σ → Option (σ × List α)
  exec : τ → α → List α → ω → σ → Option (σ × List α)

variable [DecidableEq τ]

namespace Config

/-- The configuration in which task `t` has moved to a shared state and a program. -/
def move (c : Config σ τ α) (t : τ) (r : σ × List α) : Config σ τ α where
  shared := r.1
  program := Function.update c.program t r.2

variable (c : Config σ τ α) {t t' : τ} (r : σ × List α)

@[simp] theorem move_shared : (c.move t r).shared = r.1 := rfl

@[simp] theorem move_program_self : (c.move t r).program t = r.2 := Function.update_self ..

theorem move_program_ne (h : t' ≠ t) : (c.move t r).program t' = c.program t' :=
  Function.update_of_ne h ..

end Config

namespace TaskSystem

variable (S : TaskSystem σ τ α ε ω)

/-- The interleavings of the tasks as a transition system. -/
def system : System (Config σ τ α) (TaskStep τ ε ω) where
  init := { shared := S.init, program := fun _ => [] }
  step c
    | .start t e => if c.program t = [] then (S.start t e c.shared).map (c.move t) else none
    | .next t w =>
      match c.program t with
      | [] => none
      | a :: rest => (S.exec t a rest w c.shared).map (c.move t)

variable {S} {c c' : Config σ τ α} {t : τ} {e : ε} {w : ω}

theorem step_start : S.system.step c (.start t e) = some c' ↔
    c.program t = [] ∧ ∃ r, S.start t e c.shared = some r ∧ c' = c.move t r := by
  simp only [system, Option.ite_none_right_eq_some, Option.map_eq_some_iff]
  constructor
  · rintro ⟨hidle, r, hr, rfl⟩
    exact ⟨hidle, r, hr, rfl⟩
  · rintro ⟨hidle, r, hr, rfl⟩
    exact ⟨hidle, r, hr, rfl⟩

theorem step_next : S.system.step c (.next t w) = some c' ↔
    ∃ a rest, c.program t = a :: rest ∧
      ∃ r, S.exec t a rest w c.shared = some r ∧ c' = c.move t r := by
  simp only [system]
  constructor
  · intro h
    rcases hp : c.program t with _ | ⟨a, rest⟩
    · rw [hp] at h
      cases h
    · rw [hp] at h
      obtain ⟨r, hr, rfl⟩ := Option.map_eq_some_iff.1 h
      exact ⟨a, rest, rfl, r, hr, rfl⟩
  · rintro ⟨a, rest, hp, r, hr, rfl⟩
    rw [hp]
    exact Option.map_eq_some_iff.2 ⟨r, hr, rfl⟩

/-- A task that does not move keeps its program. -/
theorem run_program {as : List (TaskStep τ ε ω)} (h : S.system.run c as = some c')
    (ht : ∀ x ∈ as, x.task ≠ t) : c'.program t = c.program t := by
  induction as generalizing c with
  | nil =>
    simp only [System.run_nil, Option.some.injEq] at h
    rw [h]
  | cons x as ih =>
    obtain ⟨d, hd, hrun⟩ := System.run_cons.1 h
    obtain ⟨hx, has⟩ := List.forall_mem_cons.1 ht
    rw [ih hrun has]
    cases x with
    | start t' e =>
      obtain ⟨-, r, -, rfl⟩ := step_start.1 hd
      exact Config.move_program_ne c r (Ne.symm hx)
    | next t' w =>
      obtain ⟨-, -, -, r, -, rfl⟩ := step_next.1 hd
      exact Config.move_program_ne c r (Ne.symm hx)

/-- An invariant of the shared state with a fact about the program of every task. -/
structure LocalInv (I : σ → Prop) (L : τ → σ → List α → Prop) (c : Config σ τ α) : Prop where
  shared : I c.shared
  task : ∀ t, L t c.shared (c.program t)

/-- **The step rule.** A move keeps a local invariant if the moving task establishes the shared part
and its own, and the parts of the other tasks survive it. -/
theorem LocalInv.step {I : σ → Prop} {L : τ → σ → List α → Prop}
    {a : TaskStep τ ε ω} (ok : Config σ τ α → TaskStep τ ε ω → Prop) (hc : LocalInv I L c) (hok : ok c a)
    (hstart : ∀ c t e r, LocalInv I L c → ok c (.start t e) → c.program t = [] →
      S.start t e c.shared = some r →
      I r.1 ∧ L t r.1 r.2 ∧ ∀ t' p, t' ≠ t → L t' c.shared p → L t' r.1 p)
    (hexec : ∀ c t a rest w r, LocalInv I L c → ok c (.next t w) → c.program t = a :: rest →
      S.exec t a rest w c.shared = some r →
      I r.1 ∧ L t r.1 r.2 ∧ ∀ t' p, t' ≠ t → L t' c.shared p → L t' r.1 p)
    (h : S.system.step c a = some c') : LocalInv I L c' := by
  obtain ⟨t, r, rfl, hI, hL, hothers⟩ : ∃ t r, c' = c.move t r ∧ I r.1 ∧ L t r.1 r.2 ∧
      ∀ t' p, t' ≠ t → L t' c.shared p → L t' r.1 p := by
    cases a with
    | start t e =>
      obtain ⟨hidle, r, hr, rfl⟩ := step_start.1 h
      exact ⟨t, r, rfl, hstart c t e r hc hok hidle hr⟩
    | next t w =>
      obtain ⟨a, rest, hp, r, hr, rfl⟩ := step_next.1 h
      exact ⟨t, r, rfl, hexec c t a rest w r hc hok hp hr⟩
  refine ⟨hI, fun t' => ?_⟩
  by_cases ht : t' = t
  · subst ht
    rw [Config.move_program_self]
    exact hL
  · rw [Config.move_program_ne c r ht]
    exact hothers t' _ ht (hc.task t')

end TaskSystem

end Lib
