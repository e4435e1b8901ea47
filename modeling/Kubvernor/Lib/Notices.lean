import Mathlib.Data.List.Basic
import Mathlib.Logic.Function.Basic

/-!
# Copies that notices keep up to date

Readers have copies of what they read, which is made of items, and both come and go. Every change is made by an
owner, who writes down notices of it; an owner makes no change while it has notices left, and may withdraw a notice
to refresh a reader that is gone. Notices are sent over one channel to a keeper, who makes copies again: those of a
reader that is to be refreshed, and those of all readers that an item is listed for when it is gone, which the keeper
may already put aside while it prepares the notice. What is listed is only written when a reader is refreshed, so it
may be behind.

`Board.Told` is what all moves keep (`Told.move`): a copy is right, or something on the board still asks for it. So
once nothing is left to send, to receive and to do, every copy is right (`Told.current_of_quiet`).
-/

namespace Lib

/-- A notice to the keeper: about a reader, about an item, or about neither. -/
inductive Notice (γ ρ : Type*)
  | refresh (g : γ)
  | gone (r : ρ)
  | forget (g : γ)
  | other

/-! ## Properties that messages change -/

/-- What becomes of a property that some messages make true and others make false. -/
def Through {μ : Type*} (on off : μ → Prop) (b : Prop) (messages : List μ) : Prop :=
  messages.foldl (fun b m => on m ∨ (b ∧ ¬ off m)) b

section Through

variable {μ : Type*} {on off : μ → Prop} {b b' : Prop} {m : μ} {messages : List μ}

theorem through_cons : Through on off b (m :: messages) ↔ Through on off (on m ∨ (b ∧ ¬ off m)) messages := Iff.rfl

theorem through_concat : Through on off b (messages ++ [m]) ↔ on m ∨ (Through on off b messages ∧ ¬ off m) := by
  rw [Through, List.foldl_append]
  exact Iff.rfl

theorem Through.mono (h : Through on off b messages) (hb : b → b') : Through on off b' messages := by
  induction messages generalizing b b' with
  | nil => exact hb h
  | cons m messages ih => exact ih h (Or.imp_right (And.imp_left hb))

/-- What is true at the end was true, or some message has made it so. -/
theorem Through.exists_or (h : Through on off b messages) : (∃ m ∈ messages, on m) ∨ b := by
  induction messages generalizing b with
  | nil => exact .inr h
  | cons m messages ih =>
    rcases ih h with ⟨m', hmem, hon⟩ | hon | hb
    · exact .inl ⟨m', List.mem_cons_of_mem _ hmem, hon⟩
    · exact .inl ⟨m, List.mem_cons_self, hon⟩
    · exact .inr hb.1

end Through

/-! ## The board -/

/-- Owners, readers and items, and what there is to do. -/
structure Board (κ γ ρ ν : Type*) where
  live : γ → Prop
  reads : γ → ν
  has : γ → ρ → Prop
  unsent : κ → List (Notice γ ρ)
  channel : List (Notice γ ρ)
  listed : γ → ρ → Prop
  todo : List γ
  copy : γ → Option ν

namespace Board

variable {κ γ ρ ν : Type*} {b b' : Board κ γ ρ ν} {g : γ} {r : ρ} {k : κ}

/-- Nothing changes for the readers, and no copy is made. -/
structure SameView (b b' : Board κ γ ρ ν) : Prop where
  live : b'.live = b.live
  reads : b'.reads = b.reads
  has : b'.has = b.has
  copy : b'.copy = b.copy

variable (itemOwner : ρ → κ) (readerOwner : γ → κ)

/-- An owner changes what there is to read. It tells of every reader that is new or gets an item; of the others
whose reading changes, or of an item they had and that no reader has any more. -/
structure Changes (k : κ) (b b' : Board κ γ ρ ν) : Prop where
  idle : b.unsent k = []
  unsent : ∀ k', k' ≠ k → b'.unsent k' = b.unsent k'
  channel : b'.channel = b.channel
  listed : b'.listed = b.listed
  todo : b'.todo = b.todo
  copy : b'.copy = b.copy
  told : ∀ g, b'.live g → .refresh g ∈ b'.unsent k ∨
    (b.live g ∧ (∀ r, b'.has g r → b.has g r) ∧
      (b'.reads g = b.reads g ∨ ∃ r, b.has g r ∧ .gone r ∈ b'.unsent k))
  came : ∀ g, b'.live g → ¬ b.live g → readerOwner g = k
  gained : ∀ g r, b'.has g r → ¬ b.has g r → itemOwner r = k
  gone : ∀ r, .gone r ∈ b'.unsent k → itemOwner r = k ∧ ∀ g, ¬ b'.has g r
  forgotten : ∀ g, .forget g ∈ b'.unsent k → readerOwner g = k ∧ ¬ b'.live g

/-- An owner sends its first notice. -/
structure Sends (k : κ) (b b' : Board κ γ ρ ν) : Prop extends b.SameView b' where
  unsent : ∀ k', k' ≠ k → b'.unsent k' = b.unsent k'
  listed : b'.listed = b.listed
  todo : b'.todo = b.todo
  sent : ∃ n, b.unsent k = n :: b'.unsent k ∧ b'.channel = b.channel ++ [n]

/-- Notices to refresh readers that are gone are withdrawn. -/
structure Withdraws (b b' : Board κ γ ρ ν) : Prop extends b.SameView b' where
  kept : ∀ k n, n ∈ b'.unsent k → n ∈ b.unsent k
  withdrawn : ∀ k n, n ∈ b.unsent k → n ∈ b'.unsent k ∨ ∃ g, n = .refresh g ∧ ¬ b.live g
  channel : b'.channel = b.channel
  listed : b'.listed = b.listed
  todo : b'.todo = b.todo

/-- Somebody else writes to the channel. -/
structure Tells (b b' : Board κ γ ρ ν) : Prop extends b.SameView b' where
  unsent : b'.unsent = b.unsent
  listed : b'.listed = b.listed
  todo : b'.todo = b.todo
  channel : b'.channel = b.channel ++ [.other]

/-- What the keeper does with a notice: it lists what a refreshed reader has, takes an item that is gone from all
lists, and knows which copies to make again. -/
def Handled (b b' : Board κ γ ρ ν) : Notice γ ρ → Prop
  | .refresh g => g ∈ b'.todo ∧ (∀ r, b.has g r → b'.listed g r) ∧ ∀ g' r, g' ≠ g → b.listed g' r → b'.listed g' r
  | .gone r => (∀ g, b.listed g r → g ∈ b'.todo) ∧ ∀ g r', r' ≠ r → b.listed g r' → b'.listed g r'
  | .forget g => ∀ g' r, g' ≠ g → b.listed g' r → b'.listed g' r
  | .other => ∀ g r, b.listed g r → b'.listed g r

/-- The keeper prepares for the next notice in the channel: it changes the list of the reader that the notice is
about, and takes an item that is gone from lists, where it makes a note of the reader. -/
structure Prepares (b b' : Board κ γ ρ ν) : Prop extends b.SameView b' where
  unsent : b'.unsent = b.unsent
  channel : b'.channel = b.channel
  todo : ∀ g ∈ b.todo, g ∈ b'.todo
  prepared : ∃ n, b.channel.head? = some n ∧ ∀ g r, b.listed g r →
    b'.listed g r ∨ n = .refresh g ∨ n = .forget g ∨ (n = .gone r ∧ g ∈ b'.todo)

/-- The keeper takes a notice from the channel. -/
structure Receives (b b' : Board κ γ ρ ν) : Prop extends b.SameView b' where
  unsent : b'.unsent = b.unsent
  todo : ∀ g ∈ b.todo, g ∈ b'.todo
  received : ∃ n, b.channel = n :: b'.channel ∧ b.Handled b' n

/-- The keeper makes one copy again; that of a reader that is gone may be left out. -/
structure Works (b b' : Board κ γ ρ ν) : Prop where
  live : b'.live = b.live
  reads : b'.reads = b.reads
  has : b'.has = b.has
  unsent : b'.unsent = b.unsent
  channel : b'.channel = b.channel
  listed : b'.listed = b.listed
  worked : ∃ g, b.todo = g :: b'.todo ∧ (b.live g → b'.copy g = some (b.reads g)) ∧
    ∀ g', g' ≠ g → b'.copy g' = b.copy g'

/-- One move on the board. -/
inductive Move (b b' : Board κ γ ρ ν) : Prop
  | changes (k : κ) (h : b.Changes itemOwner readerOwner k b')
  | sends (k : κ) (h : b.Sends k b')
  | withdraws (h : b.Withdraws b')
  | tells (h : b.Tells b')
  | prepares (h : b.Prepares b')
  | receives (h : b.Receives b')
  | works (h : b.Works b')

/-- Nothing is left to send, to receive and to do. -/
structure Quiet (b : Board κ γ ρ ν) : Prop where
  unsent : ∀ k, b.unsent k = []
  channel : b.channel = []
  todo : b.todo = []

/-! ## What all moves keep -/

/-- A refresh of the reader is still to be sent. -/
def Announced (b : Board κ γ ρ ν) (g : γ) : Prop := ∃ k, .refresh g ∈ b.unsent k

/-- The notice is on its way. -/
def Pending (b : Board κ γ ρ ν) (n : Notice γ ρ) : Prop := (∃ k, n ∈ b.unsent k) ∨ n ∈ b.channel

/-- Something asks for the copy of the reader. -/
def Asked (b : Board κ γ ρ ν) (g : γ) : Prop :=
  g ∈ b.todo ∨ b.Pending (.refresh g) ∨ ∃ r, b.listed g r ∧ b.Pending (.gone r)

/-- The reader will be listed for the item when the channel is empty. -/
def WillList (b : Board κ γ ρ ν) (g : γ) (r : ρ) : Prop :=
  Through (· = .refresh g) (fun n => n = .gone r ∨ n = .forget g) (b.listed g r) b.channel

/-- The last notice in the channel that is about the reader itself refreshes it, if there is one. -/
def WillKeep (b : Board κ γ ρ ν) (g : γ) : Prop := Through (· = .refresh g) (· = .forget g) True b.channel

/-- The invariant. -/
structure Told (b : Board κ γ ρ ν) : Prop where
  current : ∀ g, b.live g → b.copy g = some (b.reads g) ∨ b.Asked g
  listed : ∀ g r, b.live g → b.has g r → b.Announced g ∨ b.WillList g r
  kept : ∀ g, b.live g → b.Announced g ∨ b.WillKeep g
  gone : ∀ k r, .gone r ∈ b.unsent k → itemOwner r = k ∧ ∀ g, ¬ b.has g r
  forgotten : ∀ k g, .forget g ∈ b.unsent k → readerOwner g = k ∧ ¬ b.live g

variable {itemOwner readerOwner}

theorem Announced.pending (h : b.Announced g) : b.Pending (.refresh g) := .inl h

/-- What was announced and not sent is announced. -/
theorem Sends.announced (h : b.Sends k b') (hg : b.Announced g) :
    b'.Announced g ∨ b'.channel = b.channel ++ [.refresh g] := by
  obtain ⟨n, hk, hch⟩ := h.sent
  obtain ⟨k', hk'⟩ := hg
  by_cases heq : k' = k
  · rw [heq, hk] at hk'
    rcases List.mem_cons.1 hk' with rfl | hmem
    · exact .inr hch
    · exact .inl ⟨k, hmem⟩
  · rw [← h.unsent k' heq] at hk'
    exact .inl ⟨k', hk'⟩

theorem Sends.pending (h : b.Sends k b') {n : Notice γ ρ} (hn : b.Pending n) : b'.Pending n := by
  obtain ⟨m, hk, hch⟩ := h.sent
  rcases hn with ⟨k', hk'⟩ | hmem
  · by_cases heq : k' = k
    · rw [heq, hk] at hk'
      rcases List.mem_cons.1 hk' with rfl | hmem
      · exact .inr (by rw [hch]; exact List.mem_append_right _ (List.mem_singleton_self _))
      · exact .inl ⟨k, hmem⟩
    · rw [← h.unsent k' heq] at hk'
      exact .inl ⟨k', hk'⟩
  · exact .inr (by rw [hch]; exact List.mem_append_left _ hmem)

/-- What is left to send was there before. -/
theorem Sends.mem_unsent (h : b.Sends k b') {k' : κ} {n : Notice γ ρ} (hn : n ∈ b'.unsent k') : n ∈ b.unsent k' := by
  obtain ⟨m, hk, -⟩ := h.sent
  by_cases heq : k' = k
  · subst heq
    rw [hk]
    exact List.mem_cons_of_mem _ hn
  · rw [← h.unsent k' heq]
    exact hn

theorem Asked.sends (hg : b.Asked g) (h : b.Sends k b') : b'.Asked g := by
  rcases hg with htodo | hrefresh | ⟨r, hr, hgone⟩
  · exact .inl (h.todo ▸ htodo)
  · exact .inr (.inl (h.pending hrefresh))
  · exact .inr (.inr ⟨r, h.listed ▸ hr, h.pending hgone⟩)

theorem Told.sends (hb : b.Told itemOwner readerOwner) (h : b.Sends k b') : b'.Told itemOwner readerOwner := by
  obtain ⟨n, hk, hch⟩ := h.sent
  have hhead : n ∈ b.unsent k := by
    rw [hk]
    exact List.mem_cons_self
  refine ⟨fun g hg => ?_, fun g r hg hr => ?_, fun g hg => ?_, fun k' r hr => ?_, fun k' g hg => ?_⟩
  · rw [h.live] at hg
    rw [h.copy, h.reads]
    exact (hb.current g hg).imp_right fun hask => hask.sends h
  · rw [h.live] at hg
    rw [h.has] at hr
    unfold WillList
    rw [h.listed, hch, through_concat]
    rcases hb.listed g r hg hr with hann | hwill
    · refine (h.announced hann).imp_right fun hlast => .inl ?_
      exact (List.append_inj' (hch.symm.trans hlast) rfl).2 |> List.singleton_inj.1
    · refine .inr (.inr ⟨hwill, ?_⟩)
      -- an item that a reader has is not gone, and a reader that is live not forgotten
      rintro (rfl | rfl)
      · exact (hb.gone k r hhead).2 g hr
      · exact (hb.forgotten k g hhead).2 hg
  · rw [h.live] at hg
    unfold WillKeep
    rw [hch, through_concat]
    rcases hb.kept g hg with hann | hwill
    · refine (h.announced hann).imp_right fun hlast => .inl ?_
      exact (List.append_inj' (hch.symm.trans hlast) rfl).2 |> List.singleton_inj.1
    · refine .inr (.inr ⟨hwill, ?_⟩)
      rintro rfl
      exact (hb.forgotten k g hhead).2 hg
  · rw [h.has]
    exact hb.gone k' r (h.mem_unsent hr)
  · rw [h.live]
    exact hb.forgotten k' g (h.mem_unsent hg)

theorem Told.withdraws (hb : b.Told itemOwner readerOwner) (h : b.Withdraws b') : b'.Told itemOwner readerOwner := by
  have hann (g : γ) (hlive : b.live g) (hg : b.Announced g) : b'.Announced g := by
    obtain ⟨k, hk⟩ := hg
    refine ⟨k, (h.withdrawn k _ hk).resolve_right ?_⟩
    rintro ⟨g', heq, hdead⟩
    rw [← Notice.refresh.inj heq] at hdead
    exact hdead hlive
  have hpending (n : Notice γ ρ) (hn : b.Pending n) (hlive : ∀ g, n = .refresh g → b.live g) : b'.Pending n := by
    refine hn.imp (Exists.imp fun k hk => (h.withdrawn k n hk).resolve_right ?_) fun hmem => h.channel ▸ hmem
    rintro ⟨g, heq, hdead⟩
    exact hdead (hlive g heq)
  refine ⟨fun g hg => ?_, fun g r hg hr => ?_, fun g hg => ?_, fun k r hr => ?_, fun k g hg => ?_⟩
  · rw [h.live] at hg
    rw [h.copy, h.reads]
    refine (hb.current g hg).imp_right fun hask => ?_
    rcases hask with htodo | hrefresh | ⟨r, hr, hgone⟩
    · exact .inl (h.todo ▸ htodo)
    · exact .inr (.inl (hpending _ hrefresh fun g' heq => Notice.refresh.inj heq ▸ hg))
    · exact .inr (.inr ⟨r, h.listed ▸ hr, hpending _ hgone fun g' heq => by cases heq⟩)
  · rw [h.live] at hg
    rw [h.has] at hr
    unfold WillList
    rw [h.listed, h.channel]
    exact (hb.listed g r hg hr).imp_left (hann g hg)
  · rw [h.live] at hg
    unfold WillKeep
    rw [h.channel]
    exact (hb.kept g hg).imp_left (hann g hg)
  · rw [h.has]
    exact hb.gone k r (h.kept k _ hr)
  · rw [h.live]
    exact hb.forgotten k g (h.kept k _ hg)

theorem Told.tells (hb : b.Told itemOwner readerOwner) (h : b.Tells b') : b'.Told itemOwner readerOwner := by
  have hpending (n : Notice γ ρ) (hn : b.Pending n) : b'.Pending n := by
    refine hn.imp (Exists.imp fun k hk => h.unsent ▸ hk) fun hmem => ?_
    rw [h.channel]
    exact List.mem_append_left _ hmem
  have hann (g : γ) (hg : b.Announced g) : b'.Announced g := hg.imp fun k hk => h.unsent ▸ hk
  refine ⟨fun g hg => ?_, fun g r hg hr => ?_, fun g hg => ?_, fun k r hr => ?_, fun k g hg => ?_⟩
  · rw [h.live] at hg
    rw [h.copy, h.reads]
    refine (hb.current g hg).imp_right fun hask => ?_
    rcases hask with htodo | hrefresh | ⟨r, hr, hgone⟩
    · exact .inl (h.todo ▸ htodo)
    · exact .inr (.inl (hpending _ hrefresh))
    · exact .inr (.inr ⟨r, h.listed ▸ hr, hpending _ hgone⟩)
  · rw [h.live] at hg
    rw [h.has] at hr
    unfold WillList
    rw [h.listed, h.channel, through_concat]
    exact (hb.listed g r hg hr).imp (hann g) fun hwill => .inr ⟨hwill, by simp⟩
  · rw [h.live] at hg
    unfold WillKeep
    rw [h.channel, through_concat]
    exact (hb.kept g hg).imp (hann g) fun hwill => .inr ⟨hwill, by simp⟩
  · rw [h.has]
    exact hb.gone k r (h.unsent ▸ hr)
  · rw [h.live]
    exact hb.forgotten k g (h.unsent ▸ hg)

/-! ## The keeper -/

/-- What a reader is listed for after a notice: nothing is taken from its list but an item that is gone, unless the
reader is forgotten. -/
theorem Handled.listed {n : Notice γ ρ} (h : b.Handled b' n) (hlisted : b.listed g r)
    (hn : n ≠ .gone r ∧ n ≠ .forget g) (hhas : n = .refresh g → b.has g r) : b'.listed g r := by
  cases n with
  | refresh g' =>
    by_cases hg : g = g'
    · subst hg
      exact h.2.1 r (hhas rfl)
    · exact h.2.2 g r hg hlisted
  | gone r' => exact h.2 g r (fun hr => hn.1 (by rw [hr])) hlisted
  | forget g' => exact h g r (fun hg => hn.2 (by rw [hg])) hlisted
  | other => exact h g r hlisted

/-- The list of a live reader is lost only before a refresh. -/
theorem Told.pending_of_forget (hb : b.Told itemOwner readerOwner) (hg : b.live g)
    (hforget : b.channel.head? = some (.forget g)) : b.Pending (.refresh g) := by
  obtain ⟨rest, hch⟩ := List.head?_eq_some_iff.1 hforget
  rcases hb.kept g hg with hk | hk
  · exact hk.pending
  · unfold WillKeep at hk
    rw [hch, through_cons] at hk
    rcases hk.exists_or with ⟨m, hmem, rfl⟩ | hor
    · exact .inr (by rw [hch]; exact List.mem_cons_of_mem _ hmem)
    · exact absurd rfl ((or_iff_right (by simp)).1 hor).2

theorem Told.prepares (hb : b.Told itemOwner readerOwner) (h : b.Prepares b') : b'.Told itemOwner readerOwner := by
  obtain ⟨n, hhead, hlisted⟩ := h.prepared
  obtain ⟨rest, hch⟩ := List.head?_eq_some_iff.1 hhead
  have hann (g : γ) (hg : b.Announced g) : b'.Announced g := hg.imp fun k hk => h.unsent ▸ hk
  have hpending (m : Notice γ ρ) (hm : b.Pending m) : b'.Pending m :=
    hm.imp (Exists.imp fun k hk => h.unsent ▸ hk) fun hmem => h.channel ▸ hmem
  refine ⟨fun g hg => ?_, fun g r hg hr => ?_, fun g hg => ?_, fun k r hr => ?_, fun k g hg => ?_⟩
  · rw [h.live] at hg
    rw [h.copy, h.reads]
    refine (hb.current g hg).imp_right fun hask => ?_
    rcases hask with htodo | hrefresh | ⟨r, hr, hgone⟩
    · exact .inl (h.todo g htodo)
    · exact .inr (.inl (hpending _ hrefresh))
    · rcases hlisted g r hr with hr' | rfl | rfl | ⟨-, htodo⟩
      · exact .inr (.inr ⟨r, hr', hpending _ hgone⟩)
      · exact .inr (.inl (hpending _ (.inr (by rw [hch]; exact List.mem_cons_self))))
      · exact .inr (.inl (hpending _ (hb.pending_of_forget hg hhead)))
      · exact .inl htodo
  · rw [h.live] at hg
    rw [h.has] at hr
    refine (hb.listed g r hg hr).imp (hann g) fun hwill => ?_
    unfold WillList at hwill ⊢
    rw [h.channel]
    rw [hch, through_cons] at hwill ⊢
    refine hwill.mono ?_
    rintro (hon | ⟨hl, hoff⟩)
    · exact .inl hon
    · rcases hlisted g r hl with hl' | hon | rfl | ⟨rfl, -⟩
      · exact .inr ⟨hl', hoff⟩
      · exact .inl hon
      · exact absurd (.inr rfl) hoff
      · exact absurd (.inl rfl) hoff
  · rw [h.live] at hg
    unfold WillKeep
    rw [h.channel]
    exact (hb.kept g hg).imp_left (hann g)
  · rw [h.has]
    exact hb.gone k r (h.unsent ▸ hr)
  · rw [h.live]
    exact hb.forgotten k g (h.unsent ▸ hg)

theorem Told.receives (hb : b.Told itemOwner readerOwner) (h : b.Receives b') : b'.Told itemOwner readerOwner := by
  obtain ⟨n, hch, hn⟩ := h.received
  have hann (g : γ) (hg : b.Announced g) : b'.Announced g := hg.imp fun k hk => h.unsent ▸ hk
  have hpending (m : Notice γ ρ) (hm : b.Pending m) : b'.Pending m ∨ m = n := by
    rcases hm with ⟨k, hk⟩ | hmem
    · exact .inl (.inl ⟨k, h.unsent ▸ hk⟩)
    · rw [hch] at hmem
      exact (List.mem_cons.1 hmem).elim .inr fun hmem => .inl (.inr hmem)
  refine ⟨fun g hg => ?_, fun g r hg hr => ?_, fun g hg => ?_, fun k r hr => ?_, fun k g hg => ?_⟩
  · rw [h.live] at hg
    rw [h.copy, h.reads]
    refine (hb.current g hg).imp_right fun hask => ?_
    rcases hask with htodo | hrefresh | ⟨r, hr, hgone⟩
    · exact .inl (h.todo g htodo)
    · rcases hpending _ hrefresh with hrefresh' | rfl
      · exact .inr (.inl hrefresh')
      · exact .inl hn.1
    · rcases hpending _ hgone with hgone' | rfl
      · by_cases hforget : n = .forget g
        · subst hforget
          rcases hpending _ (hb.pending_of_forget hg (by rw [hch]; rfl)) with hrefresh | heq
          · exact .inr (.inl hrefresh)
          · cases heq
        · by_cases hrefreshed : n = .refresh g
          · subst hrefreshed
            exact .inl hn.1
          · by_cases hsame : n = .gone r
            · subst hsame
              exact .inl (hn.1 g hr)
            · exact .inr (.inr ⟨r, hn.listed hr ⟨hsame, hforget⟩ fun heq => absurd heq hrefreshed, hgone'⟩)
      · exact .inl (hn.1 g hr)
  · rw [h.live] at hg
    rw [h.has] at hr
    refine (hb.listed g r hg hr).imp (hann g) fun hwill => ?_
    unfold WillList at hwill ⊢
    rw [hch, through_cons] at hwill
    refine hwill.mono ?_
    rintro (rfl | ⟨hlisted, hoff⟩)
    · exact hn.2.1 r hr
    · exact hn.listed hlisted (not_or.1 hoff) fun _ => hr
  · rw [h.live] at hg
    refine (hb.kept g hg).imp (hann g) fun hwill => ?_
    unfold WillKeep at hwill ⊢
    rw [hch, through_cons] at hwill
    exact hwill.mono fun _ => trivial
  · rw [h.has]
    exact hb.gone k r (h.unsent ▸ hr)
  · rw [h.live]
    exact hb.forgotten k g (h.unsent ▸ hg)

theorem Told.works (hb : b.Told itemOwner readerOwner) (h : b.Works b') : b'.Told itemOwner readerOwner := by
  obtain ⟨g₀, htodo, hcopy, hrest⟩ := h.worked
  have hann (g : γ) (hg : b.Announced g) : b'.Announced g := hg.imp fun k hk => h.unsent ▸ hk
  have hpending (n : Notice γ ρ) (hn : b.Pending n) : b'.Pending n :=
    hn.imp (Exists.imp fun k hk => h.unsent ▸ hk) fun hmem => h.channel ▸ hmem
  refine ⟨fun g hg => ?_, fun g r hg hr => ?_, fun g hg => ?_, fun k r hr => ?_, fun k g hg => ?_⟩
  · rw [h.live] at hg
    rw [h.reads]
    by_cases heq : g = g₀
    · subst heq
      exact .inl (hcopy hg)
    · rw [hrest g heq]
      refine (hb.current g hg).imp_right fun hask => ?_
      rcases hask with hmem | hrefresh | ⟨r, hr, hgone⟩
      · rw [htodo] at hmem
        exact .inl ((List.mem_cons.1 hmem).resolve_left heq)
      · exact .inr (.inl (hpending _ hrefresh))
      · exact .inr (.inr ⟨r, h.listed ▸ hr, hpending _ hgone⟩)
  · rw [h.live] at hg
    rw [h.has] at hr
    unfold WillList
    rw [h.listed, h.channel]
    exact (hb.listed g r hg hr).imp_left (hann g)
  · rw [h.live] at hg
    unfold WillKeep
    rw [h.channel]
    exact (hb.kept g hg).imp_left (hann g)
  · rw [h.has]
    exact hb.gone k r (h.unsent ▸ hr)
  · rw [h.live]
    exact hb.forgotten k g (h.unsent ▸ hg)

/-! ## The owners -/

section Changes

variable (h : b.Changes itemOwner readerOwner k b')
include h

/-- An owner that changes something had nothing left to send. -/
theorem Changes.mem_unsent {k' : κ} {n : Notice γ ρ} (hn : n ∈ b.unsent k') : n ∈ b'.unsent k' := by
  by_cases hk : k' = k
  · rw [hk, h.idle] at hn
    exact absurd hn List.not_mem_nil
  · rw [h.unsent k' hk]
    exact hn

theorem Changes.pending {n : Notice γ ρ} (hn : b.Pending n) : b'.Pending n :=
  hn.imp (Exists.imp fun _ hk => h.mem_unsent hk) fun hmem => h.channel ▸ hmem

theorem Changes.announced (hg : b.Announced g) : b'.Announced g := hg.imp fun _ hk => h.mem_unsent hk

theorem Changes.asked (hg : b.Asked g) : b'.Asked g := by
  rcases hg with htodo | hrefresh | ⟨r, hr, hgone⟩
  · exact .inl (h.todo ▸ htodo)
  · exact .inr (.inl (h.pending hrefresh))
  · exact .inr (.inr ⟨r, h.listed ▸ hr, h.pending hgone⟩)

/-- An item that a reader has had is announced or will be listed, so when it is gone the reader is asked for. -/
theorem Told.asked_of_gone (hb : b.Told itemOwner readerOwner) (hg : b.live g) (hr : b.has g r)
    (hgone : .gone r ∈ b'.unsent k) : b'.Asked g := by
  rcases hb.listed g r hg hr with hann | hwill
  · exact .inr (.inl (h.announced hann).pending)
  · rcases hwill.exists_or with ⟨n, hmem, rfl⟩ | hlisted
    · exact .inr (.inl (.inr (h.channel ▸ hmem)))
    · exact .inr (.inr ⟨r, h.listed ▸ hlisted, .inl ⟨k, hgone⟩⟩)

theorem Told.changes (hb : b.Told itemOwner readerOwner) : b'.Told itemOwner readerOwner := by
  refine ⟨fun g hg => ?_, fun g r hg hr => ?_, fun g hg => ?_, fun k' r hr => ?_, fun k' g hg => ?_⟩
  · rcases h.told g hg with hrefresh | ⟨hlive, -, hsame | ⟨r, hr, hgone⟩⟩
    · exact .inr (.inr (.inl (.inl ⟨k, hrefresh⟩)))
    · rw [h.copy, hsame]
      exact (hb.current g hlive).imp_right h.asked
    · exact .inr (hb.asked_of_gone h hlive hr hgone)
  · rcases h.told g hg with hrefresh | ⟨hlive, hhas, -⟩
    · exact .inl ⟨k, hrefresh⟩
    · unfold WillList
      rw [h.listed, h.channel]
      exact (hb.listed g r hlive (hhas r hr)).imp_left h.announced
  · rcases h.told g hg with hrefresh | ⟨hlive, -⟩
    · exact .inl ⟨k, hrefresh⟩
    · unfold WillKeep
      rw [h.channel]
      exact (hb.kept g hlive).imp_left h.announced
  · by_cases hk : k' = k
    · subst hk
      exact h.gone r hr
    · rw [h.unsent k' hk] at hr
      obtain ⟨howner, hnone⟩ := hb.gone k' r hr
      -- only the owner of an item brings it back, and this owner has a notice left
      exact ⟨howner, fun g hhas => hk (howner.symm.trans (h.gained g r hhas (hnone g)))⟩
  · by_cases hk : k' = k
    · subst hk
      exact h.forgotten g hg
    · rw [h.unsent k' hk] at hg
      obtain ⟨howner, hdead⟩ := hb.forgotten k' g hg
      exact ⟨howner, fun hlive => hk (howner.symm.trans (h.came g hlive hdead))⟩

end Changes

/-- **Every move keeps what has been told.** -/
theorem Told.move (hb : b.Told itemOwner readerOwner) (h : b.Move itemOwner readerOwner b') :
    b'.Told itemOwner readerOwner := by
  cases h with
  | changes k h => exact hb.changes h
  | sends k h => exact hb.sends h
  | withdraws h => exact hb.withdraws h
  | tells h => exact hb.tells h
  | prepares h => exact hb.prepares h
  | receives h => exact hb.receives h
  | works h => exact hb.works h

/-- A board with no readers and nothing to do. -/
theorem Told.of_quiet (hquiet : b.Quiet) (hlive : ∀ g, ¬ b.live g) : b.Told itemOwner readerOwner where
  current g hg := absurd hg (hlive g)
  listed g _ hg := absurd hg (hlive g)
  kept g hg := absurd hg (hlive g)
  gone k r hr := by
    rw [hquiet.unsent] at hr
    exact absurd hr List.not_mem_nil
  forgotten k g hg := by
    rw [hquiet.unsent] at hg
    exact absurd hg List.not_mem_nil

/-- **When nothing is left to do, every copy is what its reader reads.** -/
theorem Told.current_of_quiet (hb : b.Told itemOwner readerOwner) (hquiet : b.Quiet) (hg : b.live g) :
    b.copy g = some (b.reads g) := by
  have hnone (n : Notice γ ρ) : ¬ b.Pending n := by
    rintro (⟨k, hk⟩ | hmem)
    · rw [hquiet.unsent] at hk
      exact absurd hk List.not_mem_nil
    · rw [hquiet.channel] at hmem
      exact absurd hmem List.not_mem_nil
  refine (hb.current g hg).resolve_right ?_
  rintro (htodo | hrefresh | ⟨r, -, hgone⟩)
  · rw [hquiet.todo] at htodo
    exact absurd htodo List.not_mem_nil
  · exact hnone _ hrefresh
  · exact hnone _ hgone

end Board

end Lib
