import Kubvernor.Lib.Tasks
import Mathlib.Data.List.Chain

/-!
# A bounded channel and mutexes

Tasks that lock and unlock mutexes and send into one bounded channel, and the channel's only receiver,
which locks some of the same mutexes while it handles a message. A send waits while the channel is
full and a lock while the mutex is held, so that the receiver and a sender can wait for each other:
the sender holds a mutex, the receiver needs it (`Deadlocked`).

`deadlock_free` gives a condition on the steps of a run that excludes this (`RoomToSend`): neither may
the last slot of the channel be taken, nor a sender get ready to send into a full channel, while the
message that is being handled still locks a mutex whose holder is about to send. The condition cannot be
relaxed: a step that breaks it leads to a state that is lost for good (`doomed_of_not_roomToSend`,
`Doomed.step`).
-/

namespace Lib

inductive LockAction (μ β : Type*)
  | lock (m : μ)
  | unlock (m : μ)
  | send (q : β)
deriving DecidableEq

/-- Who holds which mutex, and what is in the channel. -/
structure LockState (μ τ β : Type*) where
  holder : μ → Option τ
  channel : List β

variable {μ τ β ε : Type*}

namespace LockState

variable [DecidableEq μ] (s : LockState μ τ β)

def acquire (m : μ) (t : τ) : LockState μ τ β := { s with holder := Function.update s.holder m (some t) }

def release (m : μ) : LockState μ τ β := { s with holder := Function.update s.holder m none }

def push (q : β) : LockState μ τ β := { s with channel := s.channel ++ [q] }

@[simp] theorem holder_acquire (m : μ) (t : τ) (m' : μ) :
    (s.acquire m t).holder m' = if m' = m then some t else s.holder m' := Function.update_apply ..

@[simp] theorem holder_release (m m' : μ) :
    (s.release m).holder m' = if m' = m then none else s.holder m' := Function.update_apply ..

@[simp] theorem channel_acquire (m : μ) (t : τ) : (s.acquire m t).channel = s.channel := rfl

@[simp] theorem channel_release (m : μ) : (s.release m).channel = s.channel := rfl

omit [DecidableEq μ] in
@[simp] theorem holder_push (q : β) : (s.push q).holder = s.holder := rfl

omit [DecidableEq μ] in
@[simp] theorem channel_push (q : β) : (s.push q).channel = s.channel ++ [q] := rfl

end LockState

namespace LockAction

/-- Every lock of a program is released later in it. -/
def Released : List (LockAction μ β) → Prop
  | [] => True
  | .lock m :: rest => .unlock m ∈ rest ∧ Released rest
  | _ :: rest => Released rest

/-- A program does not go on to a send once it has released a mutex. -/
def Follows : LockAction μ β → LockAction μ β → Prop
  | .unlock _, .send _ => False
  | _, _ => True

/-- The next action of a program is a send. -/
def AtSend : List (LockAction μ β) → Prop
  | .send _ :: _ => True
  | _ => False

instance : DecidablePred (@AtSend μ β)
  | .send _ :: _ => .isTrue trivial
  | [] | .lock _ :: _ | .unlock _ :: _ => .isFalse id

theorem Released.tail {a : LockAction μ β} {p : List (LockAction μ β)} (h : Released (a :: p)) :
    Released p := by
  cases a with
  | lock m => exact h.2
  | unlock m => exact h
  | send q => exact h

theorem Released.append {p q : List (LockAction μ β)} (hp : Released p) (hq : Released q) :
    Released (p ++ q) := by
  induction p with
  | nil => exact hq
  | cons a p ih =>
    cases a with
    | lock m => exact ⟨List.mem_append_left _ hp.1, ih hp.2⟩
    | unlock m => exact ih hp
    | send r => exact ih hp

theorem released_flatMap {α : Type*} {f : α → List (LockAction μ β)} {l : List α}
    (h : ∀ x ∈ l, Released (f x)) : Released (l.flatMap f) := by
  induction l with
  | nil => trivial
  | cons x l ih =>
    obtain ⟨hx, hl⟩ := List.forall_mem_cons.1 h
    exact hx.append (ih hl)

theorem atSend_iff {p : List (LockAction μ β)} : AtSend p ↔ ∃ q rest, p = .send q :: rest := by
  constructor
  · intro h
    match p, h with
    | .send q :: rest, _ => exact ⟨q, rest, rfl⟩
  · rintro ⟨q, rest, rfl⟩
    trivial

/-- The mutex of a lock action. -/
def locked : LockAction μ β → Option μ
  | .lock m => some m
  | _ => none

/-- What is asked of the mutexes a program locks can be checked action by action. -/
instance decidableForallLock (P : μ → Prop) [DecidablePred P] (l : List (LockAction μ β)) :
    Decidable (∀ m, .lock m ∈ l → P m) :=
  decidable_of_iff (∀ a ∈ l, ∀ m ∈ a.locked, P m) (by
    constructor
    · intro h m hm
      exact h _ hm m rfl
    · intro h a ha m hm
      cases a with
      | lock m' =>
        obtain rfl := Option.some.inj hm
        exact h m' ha
      | unlock m' => cases hm
      | send q => cases hm)

end LockAction

open LockAction

/-- The capacity of the channel, what the receiver does for a message, and the programs that the other
tasks start; `ε` are the circumstances that decide which of several programs it is. -/
structure BoundedChannel (μ τ β ε : Type*) where
  capacity : Nat
  receiver : τ
  handle : β → ε → List (LockAction μ β)
  produce : τ → ε → Option (List (LockAction μ β))
  handle_noSend : ∀ q e r, .send r ∉ handle q e
  handle_released : ∀ q e, Released (handle q e)
  produce_released : ∀ t e p, produce t e = some p → Released p
  produce_follows : ∀ t e p, produce t e = some p → p.IsChain Follows

namespace BoundedChannel

variable [DecidableEq μ] [DecidableEq τ] (B : BoundedChannel μ τ β ε)

/-- The tasks, all of them idle at first. -/
def tasks : TaskSystem (LockState μ τ β) τ (LockAction μ β) ε Unit where
  init := { holder := fun _ => none, channel := [] }
  start t e s :=
    if t = B.receiver then
      match s.channel with
      | [] => none
      | q :: qs => some ({ s with channel := qs }, B.handle q e)
    else (B.produce t e).map fun p => (s, p)
  exec t a rest _ s :=
    match a with
    | .lock m => if (s.holder m).isNone then some (s.acquire m t, rest) else none
    | .unlock m => if s.holder m = some t then some (s.release m, rest) else none
    | .send q => if s.channel.length < B.capacity then some (s.push q, rest) else none

variable {B} {c c' : Config (LockState μ τ β) τ (LockAction μ β)} {x : TaskStep τ ε Unit}

/-- The receiver waits for a mutex whose holder waits for room in the full channel. -/
def Deadlocked (B : BoundedChannel μ τ β ε) (c : Config (LockState μ τ β) τ (LockAction μ β)) : Prop :=
  B.capacity ≤ c.shared.channel.length ∧ ∃ m t, (c.program B.receiver).head? = some (.lock m) ∧
    c.shared.holder m = some t ∧ AtSend (c.program t)

/-- The receiver will have to wait for such a mutex before it is done with its message. -/
def Doomed (B : BoundedChannel μ τ β ε) (c : Config (LockState μ τ β) τ (LockAction μ β)) : Prop :=
  B.capacity ≤ c.shared.channel.length ∧ ∃ m t, .lock m ∈ c.program B.receiver ∧
    c.shared.holder m = some t ∧ AtSend (c.program t)

/-- With `p` to do, task `t` does not bring a sender that holds a mutex before a full channel, as long as
the message that is being handled still locks that mutex. -/
def LeavesRoom (B : BoundedChannel μ τ β ε) (c : Config (LockState μ τ β) τ (LockAction μ β)) (t : τ) :
    List (LockAction μ β) → Prop
  | .send _ :: rest => c.shared.channel.length + 1 = B.capacity →
    ∀ m, .lock m ∈ c.program B.receiver → ∀ t' ∈ c.shared.holder m,
      ¬ AtSend (if t' = t then rest else c.program t')
  | .lock m :: rest => c.shared.channel.length = B.capacity ∧ AtSend rest →
    ∀ m', .lock m' ∈ c.program B.receiver → m' ≠ m ∧ c.shared.holder m' ≠ some t
  | _ => True

/-- No step leaves a sender without room. -/
def RoomToSend (B : BoundedChannel μ τ β ε) (c : Config (LockState μ τ β) τ (LockAction μ β)) :
    TaskStep τ ε Unit → Prop
  | .start _ _ => True
  | .next t _ => B.LeavesRoom c t (c.program t)

instance (c : Config (LockState μ τ β) τ (LockAction μ β)) (t : τ) : ∀ p, Decidable (B.LeavesRoom c t p)
  | .send _ :: rest => inferInstanceAs (Decidable (c.shared.channel.length + 1 = B.capacity →
      ∀ m, .lock m ∈ c.program B.receiver → ∀ t' ∈ c.shared.holder m,
        ¬ AtSend (if t' = t then rest else c.program t')))
  | .lock m :: rest => inferInstanceAs (Decidable (c.shared.channel.length = B.capacity ∧ AtSend rest →
      ∀ m', .lock m' ∈ c.program B.receiver → m' ≠ m ∧ c.shared.holder m' ≠ some t))
  | [] | .unlock _ :: _ => .isTrue trivial

instance : ∀ c x, Decidable (B.RoomToSend c x)
  | _, .start _ _ => .isTrue trivial
  | c, .next t _ => inferInstanceAs (Decidable (B.LeavesRoom c t (c.program t)))

omit [DecidableEq μ] [DecidableEq τ] in
theorem Deadlocked.doomed (h : B.Deadlocked c) : B.Doomed c := by
  obtain ⟨hfull, m, t, hhead, hholder, hsend⟩ := h
  exact ⟨hfull, m, t, List.mem_of_mem_head? hhead, hholder, hsend⟩

/-! ## The moves -/

section
variable {s : LockState μ τ β} {t : τ} {e : ε} {w : Unit} {a : LockAction μ β}
  {rest : List (LockAction μ β)} {r : LockState μ τ β × List (LockAction μ β)}

theorem start_cases (h : B.tasks.start t e s = some r) :
    (t = B.receiver ∧ ∃ q qs, s.channel = q :: qs ∧ r = ({ s with channel := qs }, B.handle q e)) ∨
    (t ≠ B.receiver ∧ ∃ p, B.produce t e = some p ∧ r = (s, p)) := by
  simp only [tasks] at h
  split at h
  · rename_i ht
    split at h
    · cases h
    · rename_i q qs hch
      exact .inl ⟨ht, q, qs, hch, (Option.some.inj h).symm⟩
  · rename_i ht
    obtain ⟨p, hp, rfl⟩ := Option.map_eq_some_iff.1 h
    exact .inr ⟨ht, p, hp, rfl⟩

theorem exec_cases (h : B.tasks.exec t a rest w s = some r) :
    (∃ m, a = .lock m ∧ s.holder m = none ∧ r = (s.acquire m t, rest)) ∨
    (∃ m, a = .unlock m ∧ s.holder m = some t ∧ r = (s.release m, rest)) ∨
    (∃ q, a = .send q ∧ s.channel.length < B.capacity ∧ r = (s.push q, rest)) := by
  cases a with
  | lock m =>
    simp only [tasks, Option.ite_none_right_eq_some, Option.isNone_iff_eq_none] at h
    exact .inl ⟨m, rfl, h.1, (Option.some.inj h.2).symm⟩
  | unlock m =>
    simp only [tasks, Option.ite_none_right_eq_some] at h
    exact .inr (.inl ⟨m, rfl, h.1, (Option.some.inj h.2).symm⟩)
  | send q =>
    simp only [tasks, Option.ite_none_right_eq_some] at h
    exact .inr (.inr ⟨q, rfl, h.1, (Option.some.inj h.2).symm⟩)

end

/-! ## Held mutexes are released -/

/-- What is known of a task's program: the mutexes the task holds are still to be released. -/
structure TaskInv (B : BoundedChannel μ τ β ε) (t : τ) (s : LockState μ τ β)
    (p : List (LockAction μ β)) : Prop where
  released : Released p
  held : ∀ m, s.holder m = some t → .unlock m ∈ p
  noSend : t = B.receiver → ∀ r, .send r ∉ p
  follows : t ≠ B.receiver → p.IsChain Follows

/-- The channel keeps its capacity, and the programs are as they should be. -/
abbrev Inv (B : BoundedChannel μ τ β ε) (c : Config (LockState μ τ β) τ (LockAction μ β)) : Prop :=
  TaskSystem.LocalInv (fun s => s.channel.length ≤ B.capacity) B.TaskInv c

theorem inv_init : B.Inv B.tasks.system.init where
  shared := Nat.zero_le _
  task t :=
    { released := trivial
      held := fun m hm => by simp [TaskSystem.system, tasks] at hm
      noSend := fun _ r hr => by simp [TaskSystem.system] at hr
      follows := fun _ => List.isChain_nil }

omit [DecidableEq μ] [DecidableEq τ] in
/-- An idle task holds no mutex. -/
theorem TaskInv.idle {t : τ} {s : LockState μ τ β} (h : B.TaskInv t s []) (m : μ) :
    s.holder m ≠ some t := by
  intro hm
  cases h.held m hm

theorem inv_step (hc : B.Inv c) (h : B.tasks.system.step c x = some c') : B.Inv c' := by
  refine TaskSystem.LocalInv.step (fun _ _ => True) hc trivial ?_ ?_ h
  · intro c t e r hc _ hidle hr
    have ht := hc.task t
    rw [hidle] at ht
    rcases start_cases hr with ⟨hrec, q, qs, hch, rfl⟩ | ⟨hne, p, hp, rfl⟩
    · refine ⟨?_, ⟨B.handle_released q e, fun m hm => absurd hm (ht.idle m), ?_, ?_⟩,
        fun t' p _ h => ⟨h.released, h.held, h.noSend, h.follows⟩⟩
      · have hlen := hc.shared
        rw [hch, List.length_cons] at hlen
        exact Nat.le_of_succ_le hlen
      · exact fun _ => B.handle_noSend q e
      · exact fun hne => absurd hrec hne
    · exact ⟨hc.shared, ⟨B.produce_released t e p hp, fun m hm => absurd hm (ht.idle m),
        fun hrec => absurd hrec hne, fun _ => B.produce_follows t e p hp⟩, fun _ _ _ h => h⟩
  · intro c t a rest w r hc _ hprog hr
    have ht := hc.task t
    rw [hprog] at ht
    have hnoSend : t = B.receiver → ∀ r, .send r ∉ rest :=
      fun hrec r hr => ht.noSend hrec r (List.mem_cons_of_mem _ hr)
    have hfollows : t ≠ B.receiver → rest.IsChain Follows := fun hne => (ht.follows hne).tail
    rcases exec_cases hr with ⟨m, rfl, hfree, rfl⟩ | ⟨m, rfl, -, rfl⟩ | ⟨q, rfl, hroom, rfl⟩
    · refine ⟨hc.shared, ⟨ht.released.tail, ?_, hnoSend, hfollows⟩, ?_⟩
      · intro m' hm'
        simp only [LockState.holder_acquire] at hm'
        split at hm'
        · rename_i hm
          exact hm ▸ ht.released.1
        · exact (List.mem_cons.1 (ht.held m' hm')).resolve_left (by simp)
      · intro t' p hne h
        refine { h with held := fun m' hm' => ?_ }
        simp only [LockState.holder_acquire] at hm'
        split at hm'
        · exact absurd (Option.some.inj hm').symm hne
        · exact h.held m' hm'
    · refine ⟨hc.shared, ⟨ht.released.tail, ?_, hnoSend, hfollows⟩, ?_⟩
      · intro m' hm'
        simp only [LockState.holder_release] at hm'
        split at hm'
        · cases hm'
        · rename_i hm
          exact (List.mem_cons.1 (ht.held m' hm')).resolve_left (by simpa using hm)
      · intro t' p hne h
        refine { h with held := fun m' hm' => ?_ }
        simp only [LockState.holder_release] at hm'
        split at hm'
        · cases hm'
        · exact h.held m' hm'
    · refine ⟨?_, ⟨ht.released.tail, ?_, hnoSend, hfollows⟩, fun t' p _ h => { h with }⟩
      · rw [LockState.channel_push, List.length_append, List.length_singleton]
        exact hroom
      · intro m' hm'
        exact (List.mem_cons.1 (ht.held m' hm')).resolve_left (by simp)

/-! ## No deadlock -/

/-- A step with room to send does not doom the receiver. -/
theorem not_doomed_step (hc : B.Inv c) (hd : ¬ B.Doomed c) (hx : B.RoomToSend c x)
    (h : B.tasks.system.step c x = some c') : ¬ B.Doomed c' := by
  rintro ⟨hfull, m, t', hwanted, hholder, hsend⟩
  cases x with
  | start t e =>
    obtain ⟨hidle, r, hr, rfl⟩ := TaskSystem.step_start.1 h
    have ht := hc.task t
    rw [hidle] at ht
    rcases start_cases hr with ⟨hrec, q, qs, hch, rfl⟩ | ⟨hne, p, hp, rfl⟩
    · -- the receiver has made room
      have hlen := hc.shared
      rw [hch, List.length_cons] at hlen
      exact absurd (hlen.trans hfull) (Nat.not_succ_le_self _)
    · have hne' : t' ≠ t := fun heq => ht.idle m (heq ▸ hholder)
      rw [Config.move_program_ne c _ (Ne.symm hne)] at hwanted
      rw [Config.move_program_ne c _ hne'] at hsend
      exact hd ⟨hfull, m, t', hwanted, hholder, hsend⟩
  | next t w =>
    obtain ⟨a, rest, hprog, r, hr, rfl⟩ := TaskSystem.step_next.1 h
    have ht := hc.task t
    rw [hprog] at ht
    have hrest : r.2 = rest := by
      rcases exec_cases hr with ⟨m, rfl, hfree, rfl⟩ | ⟨m, rfl, -, rfl⟩ | ⟨q, rfl, hroom, rfl⟩ <;> rfl
    -- the receiver's program has at most become shorter
    have hwanted' : .lock m ∈ c.program B.receiver := by
      by_cases hrec : B.receiver = t
      · rw [hrec, Config.move_program_self, hrest] at hwanted
        rw [hrec, hprog]
        exact List.mem_cons_of_mem _ hwanted
      · rw [Config.move_program_ne c _ hrec] at hwanted
        exact hwanted
    -- the receiver itself does not send
    have hsender : t' = t → t ≠ B.receiver := by
      rintro rfl hrec
      rw [Config.move_program_self, hrest] at hsend
      obtain ⟨q, tl, rfl⟩ := atSend_iff.1 hsend
      exact ht.noSend hrec q (by simp)
    simp only [RoomToSend, LeavesRoom, hprog] at hx
    rcases exec_cases hr with ⟨m₀, rfl, hfree, rfl⟩ | ⟨m₀, rfl, -, rfl⟩ | ⟨q, rfl, hroom, rfl⟩
    · simp only [Config.move_shared, LockState.holder_acquire, LockState.channel_acquire] at hfull hholder
      by_cases heq : t' = t
      · subst heq
        rw [Config.move_program_self] at hsend
        have hfull' := Nat.le_antisymm hc.shared hfull
        obtain ⟨hm, hnot⟩ := hx ⟨hfull', hsend⟩ m hwanted'
        rw [if_neg hm] at hholder
        exact hnot hholder
      · rw [Config.move_program_ne c _ heq] at hsend
        split at hholder
        · exact heq (Option.some.inj hholder).symm
        · exact hd ⟨hfull, m, t', hwanted', hholder, hsend⟩
    · simp only [Config.move_shared, LockState.holder_release, LockState.channel_release] at hfull hholder
      split at hholder
      · cases hholder
      · by_cases heq : t' = t
        · -- a task that has released a mutex does not send next
          have hchain := ht.follows (hsender heq)
          subst heq
          rw [Config.move_program_self] at hsend
          obtain ⟨q, tl, rfl⟩ := atSend_iff.1 hsend
          exact (List.isChain_cons_cons.1 hchain).1
        · rw [Config.move_program_ne c _ heq] at hsend
          exact hd ⟨hfull, m, t', hwanted', hholder, hsend⟩
    · simp only [Config.move_shared, LockState.holder_push, LockState.channel_push, List.length_append,
        List.length_singleton] at hfull hholder
      refine hx (by omega) m hwanted' t' hholder ?_
      by_cases heq : t' = t
      · rw [if_pos heq]
        subst heq
        rw [Config.move_program_self] at hsend
        exact hsend
      · rw [if_neg heq]
        rw [Config.move_program_ne c _ heq] at hsend
        exact hsend

/-- **No deadlock in a run all of whose steps leave room to send.** -/
theorem deadlock_free (h : B.tasks.system.Reachable B.RoomToSend c) : ¬ B.Deadlocked c := by
  have hinv : B.Inv c ∧ ¬ B.Doomed c := by
    refine h.inv (fun c => B.Inv c ∧ ¬ B.Doomed c) ⟨inv_init, ?_⟩
      (fun _ _ _ hc hx hs => ⟨inv_step hc.1 hs, not_doomed_step hc.1 hc.2 hx hs⟩)
    rintro ⟨-, m, t, -, hholder, -⟩
    simp [TaskSystem.system, tasks] at hholder
  exact fun hdead => hinv.2 hdead.doomed

/-! ## The condition cannot be relaxed -/

/-- A step without room to send dooms the receiver. -/
theorem doomed_of_not_roomToSend (hx : ¬ B.RoomToSend c x) (hc : B.Inv c)
    (h : B.tasks.system.step c x = some c') : B.Doomed c' := by
  cases x with
  | start t e => exact absurd trivial hx
  | next t w =>
    obtain ⟨a, rest, hprog, r, hr, rfl⟩ := TaskSystem.step_next.1 h
    have ht := hc.task t
    rw [hprog] at ht
    simp only [RoomToSend, LeavesRoom, hprog] at hx
    rcases exec_cases hr with ⟨m₀, rfl, hfree, rfl⟩ | ⟨m₀, rfl, -, rfl⟩ | ⟨q, rfl, hroom, rfl⟩
    · simp only [not_forall] at hx
      obtain ⟨⟨hfull, hsend⟩, m, hwanted, hm⟩ := hx
      have hrec : B.receiver ≠ t := by
        rintro rfl
        obtain ⟨q, tl, rfl⟩ := atSend_iff.1 hsend
        exact ht.noSend rfl q (by simp)
      refine ⟨hfull.ge, m, t, ?_, ?_, ?_⟩
      · rw [Config.move_program_ne c _ hrec]
        exact hwanted
      · simp only [Config.move_shared, LockState.holder_acquire]
        by_cases heq : m = m₀
        · rw [if_pos heq]
        · rw [if_neg heq]
          exact not_not.1 fun hne => hm ⟨heq, hne⟩
      · rw [Config.move_program_self]
        exact hsend
    · exact absurd trivial hx
    · simp only [not_forall, not_not] at hx
      obtain ⟨hfull, m, hwanted, t', hholder, hsend⟩ := hx
      have hrec : B.receiver ≠ t := by
        rintro rfl
        exact ht.noSend rfl q List.mem_cons_self
      refine ⟨?_, m, t', ?_, hholder, ?_⟩
      · simpa using hfull.ge
      · rw [Config.move_program_ne c _ hrec]
        exact hwanted
      · by_cases heq : t' = t
        · subst heq
          rw [if_pos rfl] at hsend
          rw [Config.move_program_self]
          exact hsend
        · rw [if_neg heq] at hsend
          rw [Config.move_program_ne c _ heq]
          exact hsend

/-- A doomed receiver stays doomed: it cannot get past the lock, and the sender not past the send. -/
theorem Doomed.step (hd : B.Doomed c) (h : B.tasks.system.step c x = some c') : B.Doomed c' := by
  obtain ⟨hfull, m, t', hwanted, hholder, hsend⟩ := hd
  cases x with
  | start t e =>
    obtain ⟨hidle, r, hr, rfl⟩ := TaskSystem.step_start.1 h
    have hne : B.receiver ≠ t := by
      rintro rfl
      rw [hidle] at hwanted
      cases hwanted
    have hne' : t' ≠ t := by
      rintro rfl
      rw [hidle] at hsend
      exact hsend
    rcases start_cases hr with ⟨hrec, -⟩ | ⟨-, p, hp, rfl⟩
    · exact absurd hrec.symm hne
    · refine ⟨hfull, m, t', ?_, hholder, ?_⟩
      · rw [Config.move_program_ne c _ hne]
        exact hwanted
      · rw [Config.move_program_ne c _ hne']
        exact hsend
  | next t w =>
    obtain ⟨a, rest, hprog, r, hr, rfl⟩ := TaskSystem.step_next.1 h
    have hne' : t' ≠ t := by
      rintro rfl
      rw [hprog] at hsend
      obtain ⟨q, tl, heq⟩ := atSend_iff.1 hsend
      obtain ⟨rfl, rfl⟩ := List.cons.inj heq
      rcases exec_cases hr with ⟨_, ha, -⟩ | ⟨_, ha, -⟩ | ⟨_, -, hroom, -⟩
      · cases ha
      · cases ha
      · omega
    -- the moving task is not at the lock of `m`, so that the lock is still to come
    have hwanted' : a ≠ .lock m → .lock m ∈ (c.move t r).program B.receiver := by
      intro ha
      by_cases hrec : B.receiver = t
      · have hrest : r.2 = rest := by
          rcases exec_cases hr with ⟨m, rfl, hfree, rfl⟩ | ⟨m, rfl, -, rfl⟩ | ⟨q, rfl, hroom, rfl⟩ <;> rfl
        rw [hrec, hprog] at hwanted
        rw [hrec, Config.move_program_self, hrest]
        exact (List.mem_cons.1 hwanted).resolve_left (Ne.symm ha)
      · rw [Config.move_program_ne c _ hrec]
        exact hwanted
    have hsend' : AtSend ((c.move t r).program t') := by
      rw [Config.move_program_ne c r hne']
      exact hsend
    rcases exec_cases hr with ⟨m₀, rfl, hfree, rfl⟩ | ⟨m₀, rfl, hheld, rfl⟩ | ⟨q, rfl, hroom, rfl⟩
    · have hm : m ≠ m₀ := by
        rintro rfl
        rw [hfree] at hholder
        cases hholder
      refine ⟨hfull, m, t', hwanted' (by simpa using hm.symm), ?_, hsend'⟩
      rw [Config.move_shared, LockState.holder_acquire, if_neg hm]
      exact hholder
    · have hm : m ≠ m₀ := by
        rintro rfl
        exact hne' (Option.some.inj (hholder.symm.trans hheld))
      refine ⟨hfull, m, t', hwanted' (by simp), ?_, hsend'⟩
      rw [Config.move_shared, LockState.holder_release, if_neg hm]
      exact hholder
    · omega

/-- From a doomed state the receiver never gets to its next message. -/
theorem Doomed.run {as : List (TaskStep τ ε Unit)} (hd : B.Doomed c)
    (h : B.tasks.system.run c as = some c') : B.Doomed c' :=
  System.inv_run (fun _ _ _ hd _ hs => hd.step hs) hd
    (System.along_any : B.tasks.system.Along System.Any c as) h

end BoundedChannel

end Lib
