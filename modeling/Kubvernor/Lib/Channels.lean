import Kubvernor.Lib.Accounts
import Mathlib.Data.List.Basic
import Mathlib.Logic.Relation

/-!
# Tasks that wait for each other at channels

Tasks that send messages into channels. A channel has one receiver, which takes a message when it is
idle, and it may have a capacity: then a send waits for room. Some messages are requests, whose sender
waits until it is answered.

A task that cannot go on waits for another one: for the receiver of a full channel, or for the task that
owes it an answer (`waitsFor_of_blocked`). Where these waits are well founded, every wait ends at a task
that can go on, or at a channel that nobody takes from (`exists_proceeds`).
-/

namespace Lib

/-- What a task does: it sends a message, answers a request, or waits for the answer to its own. -/
inductive ChannelAction (κ τ β : Type*)
  | send (k : κ) (q : β)
  | answer (t : τ)
  | await
deriving DecidableEq

/-- What is in the channels, and which tasks have a request that is not answered. -/
structure Channels (κ τ β : Type*) where
  queue : κ → List β
  pending : τ → Bool

/-- An idle task takes a message, or it starts by itself; `ε` are the circumstances that decide which of
several programs it is. -/
inductive ChannelEvent (κ ε : Type*)
  | receive (k : κ) (e : ε)
  | produce (e : ε)

/-- The channels with their receivers and capacities, what is done for a message, and the programs that
tasks start by themselves. Nobody takes from a channel that is not served. -/
structure Network (κ τ β ε : Type*) where
  capacity : κ → Option Nat
  receiver : κ → τ
  serves : κ → Bool
  asker : β → Option τ
  handle : κ → β → ε → List (ChannelAction κ τ β)
  produce : τ → ε → Option (List (ChannelAction κ τ β))
  capacity_pos : ∀ k n, capacity k = some n → 0 < n
  handle_answers : ∀ k q e t, asker q = some t → .answer t ∈ handle k q e

variable {κ τ β ε : Type*} [DecidableEq κ] [DecidableEq τ]

namespace Channels

variable (s : Channels κ τ β)

/-- A message is queued; with a request its sender has one that is not answered. -/
def push (k : κ) (q : β) (asker : Option τ) : Channels κ τ β where
  queue := Function.update s.queue k (s.queue k ++ [q])
  pending := fun t => s.pending t || decide (asker = some t)

def pop (k : κ) (rest : List β) : Channels κ τ β := { s with queue := Function.update s.queue k rest }

def answer (t : τ) : Channels κ τ β := { s with pending := Function.update s.pending t false }

omit [DecidableEq τ] in
@[simp] theorem queue_pop (k k' : κ) (rest : List β) :
    (s.pop k rest).queue k' = if k' = k then rest else s.queue k' := Function.update_apply ..

@[simp] theorem queue_push (k k' : κ) (q : β) (asker : Option τ) :
    (s.push k q asker).queue k' = if k' = k then s.queue k ++ [q] else s.queue k' := Function.update_apply ..

omit [DecidableEq κ] in
@[simp] theorem queue_answer (t : τ) : (s.answer t).queue = s.queue := rfl

omit [DecidableEq τ] in
@[simp] theorem pending_pop (k : κ) (rest : List β) : (s.pop k rest).pending = s.pending := rfl

omit [DecidableEq κ] in
@[simp] theorem pending_answer (t t' : τ) :
    (s.answer t).pending t' = if t' = t then false else s.pending t' := Function.update_apply ..

end Channels

namespace Network

variable (N : Network κ τ β ε)

/-- A channel without room. -/
def Full (s : Channels κ τ β) (k : κ) : Prop := ∃ n, N.capacity k = some n ∧ n ≤ (s.queue k).length

instance (s : Channels κ τ β) (k : κ) : Decidable (N.Full s k) :=
  match h : N.capacity k with
  | none => .isFalse fun ⟨_, hn, _⟩ => by cases h.symm.trans hn
  | some n => decidable_of_iff (n ≤ (s.queue k).length)
      ⟨fun hn => ⟨n, h, hn⟩, fun ⟨_, hm, hle⟩ => Option.some.inj (h.symm.trans hm) ▸ hle⟩

/-- The tasks, all of them idle at first. -/
def tasks : TaskSystem (Channels κ τ β) τ (ChannelAction κ τ β) (ChannelEvent κ ε) Unit where
  init := { queue := fun _ => [], pending := fun _ => false }
  start t e s :=
    match e with
    | .receive k e =>
      if N.receiver k = t ∧ N.serves k then
        match s.queue k with
        | [] => none
        | q :: rest => some (s.pop k rest, N.handle k q e)
      else none
    | .produce e => (N.produce t e).map fun p => (s, p)
  exec t a rest _ s :=
    match a with
    | .send k q => if N.Full s k then none else some (s.push k q (N.asker q), rest)
    | .answer t' => some (s.answer t', rest)
    | .await => if s.pending t then none else some (s, rest)

abbrev State (_ : Network κ τ β ε) := Config (Channels κ τ β) τ (ChannelAction κ τ β)

abbrev Step (_ : Network κ τ β ε) := TaskStep τ (ChannelEvent κ ε) Unit

variable {N} {c c' : N.State} {x : N.Step} {t t' : τ} {k : κ} {q : β}

/-! ## Steps -/

/-- What a step can be: a task takes a message, starts by itself, sends, answers or has its answer. -/
inductive Moves (c : N.State) : N.Step → N.State → Prop
  | receive (k : κ) (e : ε) (q : β) (rest : List β) (hidle : c.program (N.receiver k) = [])
      (hserves : N.serves k = true) (hqueue : c.shared.queue k = q :: rest) :
      Moves c (.start (N.receiver k) (.receive k e)) (c.move (N.receiver k) (c.shared.pop k rest, N.handle k q e))
  | produce (t : τ) (e : ε) (p : List (ChannelAction κ τ β)) (hidle : c.program t = [])
      (hproduce : N.produce t e = some p) : Moves c (.start t (.produce e)) (c.move t (c.shared, p))
  | send (t : τ) (k : κ) (q : β) (rest : List (ChannelAction κ τ β)) (hprogram : c.program t = .send k q :: rest)
      (hroom : ¬ N.Full c.shared k) : Moves c (.next t ()) (c.move t (c.shared.push k q (N.asker q), rest))
  | answer (t t' : τ) (rest : List (ChannelAction κ τ β)) (hprogram : c.program t = .answer t' :: rest) :
      Moves c (.next t ()) (c.move t (c.shared.answer t', rest))
  | await (t : τ) (rest : List (ChannelAction κ τ β)) (hprogram : c.program t = .await :: rest)
      (hanswered : c.shared.pending t = false) : Moves c (.next t ()) (c.move t (c.shared, rest))

theorem moves_of_step (h : N.tasks.system.step c x = some c') : Moves c x c' := by
  cases x with
  | start t e =>
    obtain ⟨hidle, r, hr, rfl⟩ := TaskSystem.step_start.1 h
    cases e with
    | receive k e =>
      simp only [tasks] at hr
      split at hr
      · rename_i hk
        obtain ⟨rfl, hserves⟩ := hk
        cases hqueue : c.shared.queue k with
        | nil =>
          rw [hqueue] at hr
          cases hr
        | cons q rest =>
          rw [hqueue] at hr
          obtain rfl := Option.some.inj hr
          exact .receive k e q rest hidle hserves hqueue
      · cases hr
    | produce e =>
      obtain ⟨p, hp, rfl⟩ := Option.map_eq_some_iff.1 hr
      exact .produce t e p hidle hp
  | next t w =>
    obtain ⟨a, rest, hprogram, r, hr, rfl⟩ := TaskSystem.step_next.1 h
    cases a with
    | send k q =>
      simp only [tasks] at hr
      split at hr
      · cases hr
      · rename_i hroom
        obtain rfl := Option.some.inj hr
        exact .send t k q rest hprogram hroom
    | answer t' =>
      obtain rfl := Option.some.inj hr
      exact .answer t t' rest hprogram
    | await =>
      simp only [tasks] at hr
      split at hr
      · cases hr
      · rename_i hanswered
        obtain rfl := Option.some.inj hr
        exact .await t rest hprogram (Bool.eq_false_iff.2 hanswered)

theorem step_of_moves (h : Moves c x c') : N.tasks.system.step c x = some c' := by
  cases h with
  | receive k e q rest hidle hserves hqueue =>
    refine TaskSystem.step_start.2 ⟨hidle, _, ?_, rfl⟩
    simp only [tasks, hserves, hqueue, and_self, if_true]
  | produce t e p hidle hproduce =>
    refine TaskSystem.step_start.2 ⟨hidle, _, ?_, rfl⟩
    exact Option.map_eq_some_iff.2 ⟨p, hproduce, rfl⟩
  | send t k q rest hprogram hroom =>
    exact TaskSystem.step_next.2 ⟨_, rest, hprogram, _, if_neg hroom, rfl⟩
  | answer t t' rest hprogram => exact TaskSystem.step_next.2 ⟨_, rest, hprogram, _, rfl, rfl⟩
  | await t rest hprogram hanswered =>
    exact TaskSystem.step_next.2 ⟨_, rest, hprogram, _, if_neg (by rw [hanswered]; exact Bool.false_ne_true), rfl⟩

/-- The other tasks keep their programs. -/
theorem Moves.program_eq (h : Moves c x c') (hx : x.task ≠ t) : c'.program t = c.program t := by
  cases h with
  | receive k e q rest hidle hserves hqueue => exact Config.move_program_ne c _ hx.symm
  | produce t' e p hidle hproduce => exact Config.move_program_ne c _ hx.symm
  | send t' k q rest hprogram hroom => exact Config.move_program_ne c _ hx.symm
  | answer t' u rest hprogram => exact Config.move_program_ne c _ hx.symm
  | await t' rest hprogram hanswered => exact Config.move_program_ne c _ hx.symm

/-- A program after a step: what was left of it, or one that its task has started. -/
theorem Moves.program (h : Moves c x c') (t : τ) :
    (∃ p, c.program t = p ++ c'.program t) ∨
      (∃ k e q, N.receiver k = t ∧ N.serves k = true ∧ q ∈ c.shared.queue k ∧ c'.program t = N.handle k q e) ∨
      ∃ e, N.produce t e = some (c'.program t) := by
  have hkept (t' : τ) (r : Channels κ τ β × List (ChannelAction κ τ β)) (hne : t ≠ t') :
      ∃ p, c.program t = p ++ (c.move t' r).program t :=
    ⟨[], (Config.move_program_ne c r hne).symm⟩
  cases h with
  | receive k e q rest hidle hserves hqueue =>
    by_cases ht : t = N.receiver k
    · refine .inr (.inl ⟨k, e, q, ht.symm, hserves, hqueue ▸ List.mem_cons_self, ?_⟩)
      rw [ht, Config.move_program_self]
    · exact .inl (hkept _ _ ht)
  | produce t' e p hidle hproduce =>
    by_cases ht : t = t'
    · refine .inr (.inr ⟨e, ?_⟩)
      rw [ht, Config.move_program_self, hproduce]
    · exact .inl (hkept _ _ ht)
  | send t' k q rest hprogram hroom =>
    by_cases ht : t = t'
    · exact .inl ⟨[.send k q], by rw [ht, Config.move_program_self, hprogram]; rfl⟩
    · exact .inl (hkept _ _ ht)
  | answer t' u rest hprogram =>
    by_cases ht : t = t'
    · exact .inl ⟨[.answer u], by rw [ht, Config.move_program_self, hprogram]; rfl⟩
    · exact .inl (hkept _ _ ht)
  | await t' rest hprogram hanswered =>
    by_cases ht : t = t'
    · exact .inl ⟨[.await], by rw [ht, Config.move_program_self, hprogram]; rfl⟩
    · exact .inl (hkept _ _ ht)

/-- A message after a step was in its channel, or its task had just to send it. -/
theorem Moves.mem_queue (h : Moves c x c') (hq : q ∈ c'.shared.queue k) :
    q ∈ c.shared.queue k ∨ ∃ t, (.send k q) ∈ c.program t := by
  cases h with
  | receive k' e q' rest hidle hserves hqueue =>
    simp only [Config.move_shared, Channels.queue_pop] at hq
    split at hq
    · rename_i heq
      rw [heq, hqueue]
      exact .inl (List.mem_cons_of_mem _ hq)
    · exact .inl hq
  | produce t e p hidle hproduce => exact .inl hq
  | send t k' q' rest hprogram hroom =>
    simp only [Config.move_shared, Channels.queue_push] at hq
    split at hq
    · rename_i heq
      subst heq
      rcases List.mem_append.1 hq with hq | hq
      · exact .inl hq
      · obtain rfl := List.mem_singleton.1 hq
        exact .inr ⟨t, hprogram ▸ List.mem_cons_self⟩
    · exact .inl hq
  | answer t t' rest hprogram => exact .inl hq
  | await t rest hprogram hanswered => exact .inl hq

/-- A task that sends into a full channel does not move. -/
theorem Moves.task_ne (h : Moves c x c') (hhead : (c.program t).head? = some (.send k q))
    (hfull : N.Full c.shared k) : x.task ≠ t := by
  rintro rfl
  cases h with
  | receive k' e q' rest hidle hserves hqueue =>
    rw [TaskStep.task, hidle] at hhead
    cases hhead
  | produce t e p hidle hproduce =>
    rw [TaskStep.task, hidle] at hhead
    cases hhead
  | send t k' q' rest hprogram hroom =>
    rw [TaskStep.task, hprogram] at hhead
    obtain ⟨rfl, -⟩ := ChannelAction.send.inj (Option.some.inj hhead)
    exact hroom hfull
  | answer t t' rest hprogram =>
    rw [TaskStep.task, hprogram] at hhead
    cases hhead
  | await t rest hprogram hanswered =>
    rw [TaskStep.task, hprogram] at hhead
    cases hhead

/-! ## What is in channels and programs -/

/-- Messages of the kind `V`, and actions of the kind `D`. -/
structure Typed (V : κ → β → Prop) (D : τ → ChannelAction κ τ β → Prop) (c : N.State) : Prop where
  message : ∀ k, ∀ q ∈ c.shared.queue k, V k q
  action : ∀ t, ∀ a ∈ c.program t, D t a

/-- If programs only have actions of one kind when they start, and these only send messages of one kind,
nothing else is ever in a program or a channel. -/
theorem Typed.step {V : κ → β → Prop} {D : τ → ChannelAction κ τ β → Prop} (hc : Typed V D c)
    (hproduce : ∀ t e p, N.produce t e = some p → ∀ a ∈ p, D t a)
    (hhandle : ∀ k q e, V k q → ∀ a ∈ N.handle k q e, D (N.receiver k) a)
    (hsend : ∀ t k q, D t (.send k q) → V k q) (h : Moves c x c') : Typed V D c' where
  message k q hq := by
    rcases h.mem_queue hq with hq | ⟨t, ha⟩
    · exact hc.message k q hq
    · exact hsend t k q (hc.action t _ ha)
  action t a ha := by
    rcases h.program t with ⟨p, hp⟩ | ⟨k, e, q, rfl, -, hq, hp⟩ | ⟨e, hp⟩
    · exact hc.action t a (hp ▸ List.mem_append_right p ha)
    · exact hhandle k q e (hc.message k q hq) a (hp ▸ ha)
    · exact hproduce t e _ hp a ha

/-- Who has asked is owed an answer: its request is in a channel, or somebody is about to answer it. -/
def AnswersOwed (c : N.State) : Prop :=
  ∀ t, c.shared.pending t = true →
    (∃ k, ∃ q ∈ c.shared.queue k, N.asker q = some t) ∨ ∃ u, .answer t ∈ c.program u

theorem AnswersOwed.step (hc : AnswersOwed c) (h : Moves c x c') : AnswersOwed c' := by
  intro t hpending
  cases h with
  | receive k e q rest hidle hserves hqueue =>
    rcases hc t hpending with ⟨k', q', hq', hasker⟩ | ⟨u, hu⟩
    · by_cases hkk : k' = k
      · subst hkk
        rcases List.mem_cons.1 (hqueue ▸ hq') with rfl | hmem
        · exact .inr ⟨N.receiver k', by rw [Config.move_program_self]; exact N.handle_answers _ _ e t hasker⟩
        · exact .inl ⟨k', q', by simpa using hmem, hasker⟩
      · exact .inl ⟨k', q', by simpa [hkk] using hq', hasker⟩
    · have hne : u ≠ N.receiver k := by
        rintro rfl
        rw [hidle] at hu
        exact absurd hu List.not_mem_nil
      exact .inr ⟨u, by rwa [Config.move_program_ne c _ hne]⟩
  | produce t' e p hidle hproduce =>
    rcases hc t hpending with h | ⟨u, hu⟩
    · exact .inl h
    · have hne : u ≠ t' := by
        rintro rfl
        rw [hidle] at hu
        exact absurd hu List.not_mem_nil
      exact .inr ⟨u, by rwa [Config.move_program_ne c _ hne]⟩
  | send t' k q rest hprogram hroom =>
    by_cases hasker : N.asker q = some t
    · exact .inl ⟨k, q, by simp, hasker⟩
    · have hold : c.shared.pending t = true := by simpa [Channels.push, hasker] using hpending
      rcases hc t hold with ⟨k', q', hq', hasker'⟩ | ⟨u, hu⟩
      · refine .inl ⟨k', q', ?_, hasker'⟩
        simp only [Config.move_shared, Channels.queue_push]
        split
        · rename_i heq
          exact List.mem_append_left _ (heq ▸ hq')
        · exact hq'
      · refine .inr ⟨u, ?_⟩
        by_cases hut : u = t'
        · subst hut
          rw [Config.move_program_self]
          rw [hprogram] at hu
          exact (List.mem_cons.1 hu).resolve_left (by simp)
        · rwa [Config.move_program_ne c _ hut]
  | answer t' u rest hprogram =>
    have htu : t ≠ u := by
      rintro rfl
      simp at hpending
    have hold : c.shared.pending t = true := by simpa [htu] using hpending
    rcases hc t hold with h | ⟨v, hv⟩
    · exact .inl h
    · refine .inr ⟨v, ?_⟩
      by_cases hvt : v = t'
      · subst hvt
        rw [Config.move_program_self]
        rw [hprogram] at hv
        exact (List.mem_cons.1 hv).resolve_left (by simpa using htu)
      · rwa [Config.move_program_ne c _ hvt]
  | await t' rest hprogram hanswered =>
    rcases hc t hpending with h | ⟨v, hv⟩
    · exact .inl h
    · refine .inr ⟨v, ?_⟩
      by_cases hvt : v = t'
      · subst hvt
        rw [Config.move_program_self]
        rw [hprogram] at hv
        exact (List.mem_cons.1 hv).resolve_left (by simp)
      · rwa [Config.move_program_ne c _ hvt]

theorem answersOwed_of_reachable {ok : N.State → N.Step → Prop} (hc : N.tasks.system.Reachable ok c) :
    AnswersOwed c := by
  refine hc.inv AnswersOwed ?_ fun _ _ _ h _ hstep => h.step (moves_of_step hstep)
  intro t hpending
  cases hpending

/-! ## Waiting -/

/-- The task can go on with what it has to do: with its program, or with a message of its channels. -/
def Proceeds (c : N.State) (t : τ) : Prop :=
  (∃ c', N.tasks.system.step c (.next t ()) = some c') ∨
    ∃ k e c', N.tasks.system.step c (.start t (.receive k e)) = some c'

/-- The task waits for room in a channel, or for the answer to a request that is in a channel. -/
def WaitsAt (c : N.State) (t : τ) (k : κ) : Prop :=
  (∃ q, (c.program t).head? = some (.send k q) ∧ N.Full c.shared k) ∨
    (c.program t).head? = some .await ∧ c.shared.pending t = true ∧
      ∃ q ∈ c.shared.queue k, N.asker q = some t

/-- The task waits for another one: the receiver of the channel it waits at, or the one that is about to
answer it. -/
def WaitsFor (c : N.State) (t u : τ) : Prop :=
  (∃ k, WaitsAt c t k ∧ N.receiver k = u) ∨
    (c.program t).head? = some .await ∧ c.shared.pending t = true ∧ .answer t ∈ c.program u

/-- The task waits at a channel that nobody takes from. -/
def Unserved (c : N.State) (t : τ) : Prop := ∃ k, WaitsAt c t k ∧ N.serves k = false

omit [DecidableEq κ] [DecidableEq τ] in
theorem WaitsAt.queue_ne_nil (h : WaitsAt c t k) : c.shared.queue k ≠ [] := by
  rintro hnil
  rcases h with ⟨q, -, n, hn, hle⟩ | ⟨-, -, q, hq, -⟩
  · rw [hnil] at hle
    exact absurd (N.capacity_pos k n hn) (Nat.not_lt.2 hle)
  · rw [hnil] at hq
    exact absurd hq List.not_mem_nil

/-- An idle receiver of a channel that is served takes what is in it. -/
theorem proceeds_of_queue [Nonempty ε] (hidle : c.program (N.receiver k) = []) (hserves : N.serves k = true)
    (hqueue : c.shared.queue k ≠ []) : Proceeds c (N.receiver k) := by
  obtain ⟨e⟩ := ‹Nonempty ε›
  obtain ⟨q, rest, hcons⟩ := List.exists_cons_of_ne_nil hqueue
  exact .inr ⟨k, e, _, step_of_moves (.receive k e q rest hidle hserves hcons)⟩

/-- A busy task that cannot go on waits for another one. -/
theorem waitsFor_of_blocked (hc : AnswersOwed c) (hbusy : c.program t ≠ []) (hblocked : ¬ Proceeds c t) :
    ∃ u, WaitsFor c t u := by
  obtain ⟨a, rest, hprogram⟩ := List.exists_cons_of_ne_nil hbusy
  have hhead : (c.program t).head? = some a := by rw [hprogram]; rfl
  cases a with
  | send k q =>
    by_cases hfull : N.Full c.shared k
    · exact ⟨N.receiver k, .inl ⟨k, .inl ⟨q, hhead, hfull⟩, rfl⟩⟩
    · exact absurd (.inl ⟨_, step_of_moves (.send t k q rest hprogram hfull)⟩) hblocked
  | answer t' => exact absurd (.inl ⟨_, step_of_moves (.answer t t' rest hprogram)⟩) hblocked
  | await =>
    cases hpending : c.shared.pending t with
    | false => exact absurd (.inl ⟨_, step_of_moves (.await t rest hprogram hpending)⟩) hblocked
    | true =>
      rcases hc t hpending with ⟨k, q, hq, hasker⟩ | ⟨u, hu⟩
      · exact ⟨N.receiver k, .inl ⟨k, .inr ⟨hhead, hpending, q, hq, hasker⟩, rfl⟩⟩
      · exact ⟨u, .inr ⟨hhead, hpending, hu⟩⟩

/-- Whom a task waits for is busy, or can go on, unless nobody takes from the channel. -/
theorem WaitsFor.busy [Nonempty ε] {u : τ} (h : WaitsFor c t u) :
    c.program u ≠ [] ∨ Proceeds c u ∨ Unserved c t := by
  rcases h with ⟨k, hk, rfl⟩ | ⟨-, -, hu⟩
  · by_cases hidle : c.program (N.receiver k) = []
    · cases hserves : N.serves k with
      | false => exact .inr (.inr ⟨k, hk, hserves⟩)
      | true => exact .inr (.inl (proceeds_of_queue hidle hserves hk.queue_ne_nil))
    · exact .inl hidle
  · refine .inl ?_
    rintro hnil
    rw [hnil] at hu
    exact absurd hu List.not_mem_nil

/-- **Where waits are well founded, no task waits in vain**: there is one that it waits for, directly or
through others, and that can go on or waits at a channel nobody takes from. The waits that start at a task
with `X` need not be well founded; then there may be such a task instead. -/
theorem exists_proceeds [Nonempty ε] {X : τ → Prop} (hc : AnswersOwed c)
    (hacc : Acc (fun u t => WaitsFor c t u ∧ ¬ X t) t) (hbusy : c.program t ≠ []) :
    ∃ u, Relation.ReflTransGen (WaitsFor c) t u ∧ (Proceeds c u ∨ Unserved c u ∨ X u) := by
  induction hacc with
  | intro t hacc ih =>
    by_cases hgo : Proceeds c t
    · exact ⟨t, .refl, .inl hgo⟩
    · by_cases hX : X t
      · exact ⟨t, .refl, .inr (.inr hX)⟩
      · obtain ⟨u, hu⟩ := waitsFor_of_blocked hc hbusy hgo
        rcases hu.busy with hbusy' | hgo' | hvain
        · obtain ⟨v, hv, hend⟩ := ih u ⟨hu, hX⟩ hbusy'
          exact ⟨v, .head hu hv, hend⟩
        · exact ⟨u, .single hu, .inl hgo'⟩
        · exact ⟨t, .refl, .inr (.inl hvain)⟩

/-! ## Accounts -/

/-- What messages and actions weigh. -/
structure Weights (κ τ β : Type*) where
  message : κ → β → Nat
  action : τ → ChannelAction κ τ β → Nat

/-- The weight of what the tasks `S` still have to do and of what is in the channels `K`. -/
def Weights.total (w : Weights κ τ β) (S : Finset τ) (K : Finset κ) (c : N.State) : Nat :=
  (∑ t ∈ S, ((c.program t).map (w.action t)).sum) + ∑ k ∈ K, ((c.shared.queue k).map (w.message k)).sum

/-- In the states `I` the steps pay for the weight they add: what is done for a message weighs no more than
the message and the price of taking it, and so on. -/
structure Paid (w : Weights κ τ β) (price : N.State → N.Step → Nat) (I : N.State → Prop) : Prop where
  receive : ∀ (c : N.State) k e q rest, I c → c.shared.queue k = q :: rest →
    ((N.handle k q e).map (w.action (N.receiver k))).sum ≤
      w.message k q + price c (.start (N.receiver k) (.receive k e))
  produce : ∀ (c : N.State) t e p, I c → N.produce t e = some p →
    (p.map (w.action t)).sum ≤ price c (.start t (.produce e))
  send : ∀ (c : N.State) t k q rest, I c → c.program t = .send k q :: rest →
    w.message k q ≤ w.action t (.send k q) + price c (.next t ())

/-- A step adds at most its price to the total weight, if the total is taken over enough tasks and
channels. -/
theorem Paid.step {w : Weights κ τ β} {price : N.State → N.Step → Nat} {I : N.State → Prop}
    (hw : Paid w price I) (hI : I c) {n : Nat} (hc : ∀ S K, w.total S K c ≤ n) (h : Moves c x c') (S : Finset τ)
    (K : Finset κ) :
    w.total S K c' ≤ n + price c x := by
  -- the task that moves, and what it leaves to be done
  have htask (t : τ) (r : Channels κ τ β × List (ChannelAction κ τ β)) :=
    sum_add_le (f := fun u => ((c.program u).map (w.action u)).sum)
      (g := fun u => (((c.move t r).program u).map (w.action u)).sum) (i := t)
      (fun u hu => by rw [Config.move_program_ne c r hu]) S
  cases h with
  | receive k e q rest hidle hserves hqueue =>
    have hall := hc (insert (N.receiver k) S) (insert k K)
    have hpaid := hw.receive c k e q rest hI hqueue
    have hprogram := htask (N.receiver k) (c.shared.pop k rest, N.handle k q e)
    have hchannel := sum_add_le (f := fun j => ((c.shared.queue j).map (w.message j)).sum)
      (g := fun j => (((c.shared.pop k rest).queue j).map (w.message j)).sum) (i := k)
      (fun j hj => by rw [Channels.queue_pop, if_neg hj]) K
    simp only [Config.move_program_self, hidle, List.map_nil, List.sum_nil, Channels.queue_pop, hqueue,
      List.map_cons, List.sum_cons, if_true] at hprogram hchannel
    simp only [Weights.total, Config.move_shared, Channels.queue_pop] at hall ⊢
    omega
  | produce t e p hidle hproduce =>
    have hall := hc (insert t S) K
    have hpaid := hw.produce c t e p hI hproduce
    have hprogram := htask t (c.shared, p)
    simp only [Config.move_program_self, hidle, List.map_nil, List.sum_nil] at hprogram
    simp only [Weights.total, Config.move_shared] at hall ⊢
    omega
  | send t k q rest hprogram' hroom =>
    have hall := hc (insert t S) (insert k K)
    have hpaid := hw.send c t k q rest hI hprogram'
    have hprogram := htask t (c.shared.push k q (N.asker q), rest)
    have hchannel := sum_add_le (f := fun j => ((c.shared.queue j).map (w.message j)).sum)
      (g := fun j => (((c.shared.push k q (N.asker q)).queue j).map (w.message j)).sum) (i := k)
      (fun j hj => by rw [Channels.queue_push, if_neg hj]) K
    simp only [Config.move_program_self, hprogram', List.map_cons, List.sum_cons, Channels.queue_push,
      if_true, List.map_append, List.sum_append, List.map_nil, List.sum_nil] at hprogram hchannel
    simp only [Weights.total, Config.move_shared, Channels.queue_push] at hall ⊢
    omega
  | answer t t' rest hprogram' =>
    have hall := hc (insert t S) K
    have hprogram := htask t (c.shared.answer t', rest)
    simp only [Config.move_program_self, hprogram', List.map_cons, List.sum_cons] at hprogram
    simp only [Weights.total, Config.move_shared, Channels.queue_answer] at hall ⊢
    omega
  | await t rest hprogram' hanswered =>
    have hall := hc (insert t S) K
    have hprogram := htask t (c.shared, rest)
    simp only [Config.move_program_self, hprogram', List.map_cons, List.sum_cons] at hprogram
    simp only [Weights.total, Config.move_shared] at hall ⊢
    omega

/-- The states that runs from `c₀` with the guard `ok` lead to, with what the steps have cost. -/
inductive Costs (ok : N.State → N.Step → Prop) (price : N.State → N.Step → Nat) (c₀ : N.State) :
    N.State → Nat → Prop
  | refl : Costs ok price c₀ c₀ 0
  | step {c c' : N.State} {x : N.Step} {n : Nat} (h : Costs ok price c₀ c n) (hok : ok c x)
      (hstep : N.tasks.system.step c x = some c') : Costs ok price c₀ c' (n + price c x)

section
variable {ok : N.State → N.Step → Prop} {price : N.State → N.Step → Nat} {c₀ : N.State} {n : Nat}

theorem Costs.reachable (h₀ : N.tasks.system.Reachable System.Any c₀) (h : Costs ok price c₀ c n) :
    N.tasks.system.Reachable System.Any c := by
  induction h with
  | refl => exact h₀
  | step h hok hstep ih => exact ih.step trivial hstep

theorem Costs.moves (h : Costs ok price c₀ c n) (hok : ok c x) (hmove : Moves c x c') :
    Costs ok price c₀ c' (n + price c x) :=
  h.step hok (step_of_moves hmove)

/-- **What is in flight has been paid for.** -/
theorem Costs.total_le {w : Weights κ τ β} {I : N.State → Prop} (hw : Paid w price I)
    (hI : ∀ c, N.tasks.system.Reachable System.Any c → I c)
    (h : Costs System.Any price N.tasks.system.init c n) : ∀ S K, w.total S K c ≤ n := by
  induction h with
  | refl =>
    intro S K
    simp [Weights.total, TaskSystem.system, tasks]
  | step h hok hstep ih =>
    exact hw.step (hI _ (h.reachable System.Reachable.init)) ih (moves_of_step hstep)

end

/-- No channel has more messages than it has room for. -/
theorem length_le_of_reachable {ok : N.State → N.Step → Prop} {n : Nat} (hc : N.tasks.system.Reachable ok c)
    (hk : N.capacity k = some n) :
    (c.shared.queue k).length ≤ n := by
  refine hc.inv (fun c => (c.shared.queue k).length ≤ n) (Nat.zero_le n) fun c x c' hle _ hstep => ?_
  cases moves_of_step hstep with
  | receive k' e q rest hidle hserves hqueue =>
    simp only [Config.move_shared, Channels.queue_pop]
    split
    · rename_i heq
      rw [heq, hqueue, List.length_cons] at hle
      omega
    · exact hle
  | produce t e p hidle hproduce => exact hle
  | send t k' q rest hprogram hroom =>
    simp only [Config.move_shared, Channels.queue_push]
    split
    · rename_i heq
      subst heq
      have hlt : (c.shared.queue k).length < n := Nat.lt_of_not_le fun hfull => hroom ⟨n, hk, hfull⟩
      rw [List.length_append, List.length_singleton]
      omega
    · exact hle
  | answer t t' rest hprogram => exact hle
  | await t rest hprogram hanswered => exact hle

end Network

end Lib
