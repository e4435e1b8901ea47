import Kubvernor.Lib.Tasks
import Mathlib.Algebra.BigOperators.Group.Finset.Basic
import Mathlib.Algebra.Order.BigOperators.Group.Finset
import Mathlib.Algebra.Ring.Nat

/-!
# Accounts of interleaved tasks

An account weighs what tasks have still to do and what they have left in their shared state, and every step
has a price. Where no step adds more weight than its price (`Account.Paid`), whatever there is at the end of a
run was there before, or a step of the run has paid for it (`Account.Paid.run`). There may be infinitely many
tasks, so weights are compared over finite sets of them.
-/

namespace Lib

/-- What the steps of a run cost. -/
def System.cost {σ α : Type*} (S : System σ α) (price : σ → α → Nat) : σ → List α → Nat
  | _, [] => 0
  | s, a :: as => price s a + (S.step s a).elim 0 fun t => S.cost price t as

section
variable {σ α : Type*} {S : System σ α} {price price' : σ → α → Nat} {s t : σ} {a : α} {as bs : List α}

theorem System.cost_cons (h : S.step s a = some t) :
    S.cost price s (a :: as) = price s a + S.cost price t as := by
  rw [cost, h, Option.elim_some]

theorem System.cost_append (h : S.run s as = some t) :
    S.cost price s (as ++ bs) = S.cost price s as + S.cost price t bs := by
  induction as generalizing s with
  | nil =>
    obtain rfl : s = t := by simpa using h
    rw [List.nil_append, cost, Nat.zero_add]
  | cons a as ih =>
    obtain ⟨u, hu, hrun⟩ := System.run_cons.1 h
    rw [List.cons_append, cost_cons hu, cost_cons hu, ih hrun, Nat.add_assoc]

/-- Where the steps from the states of an invariant cost no more than others, so do runs. -/
theorem System.cost_le_cost {ok : σ → α → Prop} {I : σ → Prop}
    (h : ∀ s a, I s → ok s a → price s a ≤ price' s a)
    (hstep : ∀ s a t, I s → ok s a → S.step s a = some t → I t) (hs : I s) (hok : S.Along ok s as) :
    S.cost price s as ≤ S.cost price' s as := by
  induction as generalizing s with
  | nil => exact Nat.le_refl 0
  | cons a as ih =>
    refine Nat.add_le_add (h s a hs hok.1) ?_
    cases ht : S.step s a with
    | none => exact Nat.le_refl 0
    | some t => exact ih (hstep s a t hs hok.1 ht) (hok.2 t ht)

end

/-- One term of a sum changes. -/
theorem sum_add_le {ι : Type*} [DecidableEq ι] {f g : ι → Nat} {i : ι} (h : ∀ j, j ≠ i → g j = f j)
    (S : Finset ι) : (∑ j ∈ S, g j) + f i ≤ (∑ j ∈ insert i S, f j) + g i := by
  have hrest : ∑ j ∈ (insert i S).erase i, g j = ∑ j ∈ (insert i S).erase i, f j :=
    Finset.sum_congr rfl fun j hj => h j (Finset.ne_of_mem_erase hj)
  have hg := Finset.add_sum_erase (insert i S) g (Finset.mem_insert_self i S)
  have hf := Finset.add_sum_erase (insert i S) f (Finset.mem_insert_self i S)
  have hle : ∑ j ∈ S, g j ≤ ∑ j ∈ insert i S, g j :=
    Finset.sum_le_sum_of_subset (Finset.subset_insert i S)
  omega

/-- What a shared state and an action weigh. -/
structure Account (σ α : Type*) where
  shared : σ → Nat
  action : α → Nat

namespace Account

variable {σ τ α ε ω : Type*} (w : Account σ α)

/-- The weight of a program. -/
def program (p : List α) : Nat := (p.map w.action).sum

/-- The weight of the shared state and of what the tasks `T` have still to do. -/
def total (T : Finset τ) (c : Config σ τ α) : Nat := w.shared c.shared + ∑ t ∈ T, w.program (c.program t)

@[simp] theorem program_nil : w.program [] = 0 := rfl

@[simp] theorem program_cons (a : α) (p : List α) : w.program (a :: p) = w.action a + w.program p := rfl

@[simp] theorem program_append (p q : List α) : w.program (p ++ q) = w.program p + w.program q := by
  simp [program]

theorem shared_le_total (T : Finset τ) (c : Config σ τ α) : w.shared c.shared ≤ w.total T c := Nat.le_add_right ..

variable [DecidableEq τ] (S : TaskSystem σ τ α ε ω)

/-- In the states `I` a step adds no more weight than its price. -/
structure Paid (price : Config σ τ α → TaskStep τ ε ω → Nat) (I : Config σ τ α → Prop) : Prop where
  start : ∀ c t e r, I c → S.start t e c.shared = some r →
    w.shared r.1 + w.program r.2 ≤ w.shared c.shared + price c (.start t e)
  exec : ∀ c t a rest v r, I c → c.program t = a :: rest → S.exec t a rest v c.shared = some r →
    w.shared r.1 + w.program r.2 ≤ w.shared c.shared + w.program (a :: rest) + price c (.next t v)

variable {w S} {price : Config σ τ α → TaskStep τ ε ω → Nat} {I : Config σ τ α → Prop}
  {c c' : Config σ τ α} {x : TaskStep τ ε ω} {n : Nat}

/-- A step adds at most its price, if the weight is taken over enough tasks. -/
theorem Paid.step (hw : w.Paid S price I) (hI : I c) (hn : ∀ T, w.total T c ≤ n)
    (hstep : S.system.step c x = some c') (T : Finset τ) : w.total T c' ≤ n + price c x := by
  obtain ⟨t, r, rfl, hpaid⟩ : ∃ t r, c' = c.move t r ∧
      w.shared r.1 + w.program r.2 ≤ w.shared c.shared + w.program (c.program t) + price c x := by
    cases x with
    | start t e =>
      obtain ⟨hidle, r, hr, rfl⟩ := TaskSystem.step_start.1 hstep
      refine ⟨t, r, rfl, ?_⟩
      rw [hidle, program_nil, Nat.add_zero]
      exact hw.start c t e r hI hr
    | next t v =>
      obtain ⟨a, rest, hp, r, hr, rfl⟩ := TaskSystem.step_next.1 hstep
      refine ⟨t, r, rfl, ?_⟩
      rw [hp]
      exact hw.exec c t a rest v r hI hp hr
  have hall := hn (insert t T)
  have htask := sum_add_le (f := fun u => w.program (c.program u)) (g := fun u => w.program ((c.move t r).program u))
    (i := t) (fun u hu => by rw [Config.move_program_ne c r hu]) T
  rw [Config.move_program_self] at htask
  simp only [total, Config.move_shared] at hall ⊢
  omega

/-- **What there is at the end of a run was there before, or the run has paid for it.** -/
theorem Paid.run {ok : Config σ τ α → TaskStep τ ε ω → Prop} {as : List (TaskStep τ ε ω)} (hw : w.Paid S price I)
    (hkept : ∀ c x c', I c → ok c x → S.system.step c x = some c' → I c') (hI : I c)
    (hn : ∀ T, w.total T c ≤ n) (hok : S.system.Along ok c as) (hrun : S.system.run c as = some c') :
    ∀ T, w.total T c' ≤ n + S.system.cost price c as := by
  induction as generalizing c n with
  | nil =>
    obtain rfl : c = c' := by simpa using hrun
    exact hn
  | cons x as ih =>
    obtain ⟨d, hd, hrun⟩ := System.run_cons.1 hrun
    have hstep := hw.step hI hn hd
    intro T
    rw [System.cost_cons hd, ← Nat.add_assoc]
    exact ih (hkept c x d hI hok.1 hd) hstep (hok.2 d hd) hrun T

theorem total_init (T : Finset τ) : w.total T S.system.init = w.shared S.init := by
  simp [total, TaskSystem.system]

end Account

end Lib
