import Mathlib.Algebra.Order.BigOperators.Group.List
import Mathlib.Algebra.Order.Group.Nat
import Mathlib.Data.List.Infix
import Mathlib.Order.WithBot

/-!
# Host patterns

A pattern for hosts, over any alphabet with a separator: any host, the hosts strictly below a
suffix, or one host. `Includes` compares two patterns as they are written, without looking at
hosts, and covering is monotone in it (`covers_of_includes`). The converse is read off one host: a
letter other than the separator, repeated before the pattern often enough, gives a host that only
the patterns including it cover (`includes_of_covers_fresh`).

Of the patterns that cover a host the one with the greatest `weight` is the most specific, and two
patterns have in common what their `inter` covers.
-/

namespace Lib

variable {α : Type}

inductive HostPattern (α : Type)
  | any
  | below (suffix : List α)
  | exact (host : List α)
deriving DecidableEq, Repr

namespace HostPattern

/-- The pattern covers the host; a suffix alone is not below itself. -/
def Covers : HostPattern α → List α → Prop
  | any, _ => True
  | below s, h => s <:+ h ∧ s ≠ h
  | exact e, h => h = e

instance [DecidableEq α] : ∀ (p : HostPattern α) (h : List α), Decidable (p.Covers h)
  | any, _ => .isTrue trivial
  | below s, h => inferInstanceAs (Decidable (s <:+ h ∧ s ≠ h))
  | exact e, h => inferInstanceAs (Decidable (h = e))

/-- The first pattern covers what the second one does, as the two are written. -/
def Includes : HostPattern α → HostPattern α → Prop
  | any, _ => True
  | below s, below t => s <:+ t
  | below s, exact e => s <:+ e ∧ s ≠ e
  | exact e, exact e' => e = e'
  | below _, any | exact _, any | exact _, below _ => False

/-- What is written of a pattern. -/
def letters : HostPattern α → List α
  | any => []
  | below s => s
  | exact e => e

/-- How specific a pattern is: any host, then the longer suffix, then one host. -/
def weight : HostPattern α → WithTop Nat
  | any => WithTop.some 0
  | below s => WithTop.some s.length
  | exact _ => ⊤

/-- Suffixes start with the separator. -/
def Separated (dot : α) : HostPattern α → Prop
  | below s => ∃ t, s = dot :: t
  | any | exact _ => True

/-- A host of the pattern that other patterns hardly cover. -/
def fresh (c : α) (n : Nat) : HostPattern α → List α
  | any => List.replicate n c
  | below s => List.replicate n c ++ s
  | exact e => e

instance [DecidableEq α] : ∀ p q : HostPattern α, Decidable (p.Includes q)
  | any, _ => .isTrue trivial
  | below s, below t => inferInstanceAs (Decidable (s <:+ t))
  | below s, exact e => inferInstanceAs (Decidable (s <:+ e ∧ s ≠ e))
  | exact e, exact e' => inferInstanceAs (Decidable (e = e'))
  | below _, any | exact _, any | exact _, below _ => .isFalse id

/-- The hosts two patterns have in common, if they have any: those of the more specific one. -/
def inter [DecidableEq α] (p q : HostPattern α) : Option (HostPattern α) :=
  if p.Includes q then some q else if q.Includes p then some p else none

variable {p q : HostPattern α} {h s t : List α} {dot c a : α} {n : Nat}

/-! ## Inclusion -/

/-- Below a suffix there are longer hosts only. -/
theorem length_lt_of_covers (hcovers : (below s).Covers h) : s.length < h.length := by
  obtain ⟨hsuffix, hne⟩ := hcovers
  have hle := hsuffix.length_le
  have hlen : s.length ≠ h.length := fun heq => hne (hsuffix.eq_of_length heq)
  omega

theorem covers_below_of_suffix (hsuffix : s <:+ h) (hlt : s.length < h.length) : (below s).Covers h := by
  refine ⟨hsuffix, ?_⟩
  rintro rfl
  omega

/-- Covering is monotone. -/
theorem covers_of_includes (hincludes : p.Includes q) (hcovers : q.Covers h) : p.Covers h := by
  cases p with
  | any => trivial
  | below s =>
    cases q with
    | any => exact hincludes.elim
    | below t =>
      have hlt := length_lt_of_covers hcovers
      have hle := List.IsSuffix.length_le hincludes
      exact covers_below_of_suffix (List.IsSuffix.trans hincludes hcovers.1) (by omega)
    | exact e =>
      obtain rfl : h = e := hcovers
      exact hincludes
  | exact e =>
    cases q with
    | any | below _ => exact hincludes.elim
    | exact e' =>
      obtain rfl : h = e' := hcovers
      exact Eq.symm hincludes

/-- The more hosts a pattern has the less specific it is. -/
theorem weight_le_of_includes (hincludes : p.Includes q) : p.weight ≤ q.weight := by
  cases p with
  | any =>
    cases q with
    | any => exact le_refl _
    | below t => exact WithTop.coe_le_coe.2 (Nat.zero_le _)
    | exact e => exact le_top
  | below s =>
    cases q with
    | any => exact hincludes.elim
    | below t => exact WithTop.coe_le_coe.2 (List.IsSuffix.length_le hincludes)
    | exact e => exact le_top
  | exact e =>
    cases q with
    | any | below _ => exact hincludes.elim
    | exact e' => exact le_refl _

/-- What is written of a pattern is found in its hosts. -/
theorem letters_subset (hcovers : p.Covers h) : p.letters ⊆ h := by
  cases p with
  | any => exact List.nil_subset h
  | below s => exact hcovers.1.subset
  | exact e =>
    obtain rfl : h = e := hcovers
    exact List.Subset.refl h

/-! ## Fresh hosts -/

theorem covers_fresh (hn : 0 < n) : p.Covers (p.fresh c n) := by
  cases p with
  | any => trivial
  | below s =>
    refine covers_below_of_suffix (List.suffix_append _ s) ?_
    rw [fresh, List.length_append, List.length_replicate]
    omega
  | exact e => rfl

theorem mem_fresh (ha : a ∈ p.fresh c n) : a = c ∨ a ∈ p.letters := by
  cases p with
  | any => exact .inl (List.eq_of_mem_replicate ha)
  | below s =>
    rcases List.mem_append.1 ha with ha | ha
    · exact .inl (List.eq_of_mem_replicate ha)
    · exact .inr ha
  | exact e => exact .inr ha

/-- A suffix that starts with the separator does not reach into the repeated letter. -/
theorem suffix_of_suffix_replicate (hc : c ≠ dot) (hs : s <:+ List.replicate n c ++ t) (hdot : ∃ u, s = dot :: u) :
    s <:+ t := by
  rcases List.suffix_or_suffix_of_suffix hs (List.suffix_append _ t) with h | h
  · exact h
  · obtain ⟨u, rfl⟩ := h
    obtain ⟨w, hw⟩ := hs
    rw [← List.append_assoc] at hw
    have hreplicate := List.append_cancel_right hw
    obtain ⟨v, hv⟩ := hdot
    cases u with
    | nil => exact List.suffix_refl t
    | cons b u =>
      rw [List.cons_append] at hv
      obtain ⟨rfl, -⟩ := List.cons.inj hv
      have hmem : b ∈ List.replicate n c := by
        rw [← hreplicate]
        exact List.mem_append_right w List.mem_cons_self
      exact absurd (List.eq_of_mem_replicate hmem).symm hc

/-- **Only a pattern that includes another covers its fresh host**, if the repeated letter is long
enough and not the separator. -/
theorem includes_of_covers_fresh (hc : c ≠ dot) (hp : p.Separated dot) (hn : p.letters.length < n)
    (hcovers : p.Covers (q.fresh c n)) : p.Includes q := by
  cases p with
  | any => trivial
  | below s =>
    cases q with
    | any =>
      have hs : s <:+ List.replicate n c ++ [] := by
        rw [List.append_nil]
        exact hcovers.1
      obtain ⟨t, rfl⟩ := hp
      have h := suffix_of_suffix_replicate hc hs ⟨t, rfl⟩
      exact absurd (List.suffix_nil.1 h) (List.cons_ne_nil _ _)
    | below t => exact suffix_of_suffix_replicate hc hcovers.1 hp
    | exact e => exact hcovers
  | exact e =>
    have hlen : (q.fresh c n).length = e.length := congrArg List.length hcovers
    have hlt : e.length < n := hn
    cases q with
    | any =>
      rw [fresh, List.length_replicate] at hlen
      omega
    | below t =>
      rw [fresh, List.length_append, List.length_replicate] at hlen
      omega
    | exact e' => exact Eq.symm hcovers

/-- Some length exceeds finitely many patterns. -/
theorem exists_longer (ps : List (HostPattern α)) : ∃ n, 0 < n ∧ ∀ p ∈ ps, p.letters.length < n := by
  refine ⟨(ps.map fun p => p.letters.length).sum + 1, by omega, fun p hp => ?_⟩
  have hle : p.letters.length ≤ (ps.map fun p => p.letters.length).sum :=
    List.le_sum_of_mem (List.mem_map_of_mem hp)
  omega

/-! ## Common hosts -/

/-- Two patterns are nested or have no host in common. -/
theorem includes_or_includes (hp : p.Covers h) (hq : q.Covers h) : p.Includes q ∨ q.Includes p := by
  cases p with
  | any => exact .inl trivial
  | below s =>
    cases q with
    | any => exact .inr trivial
    | below t => exact List.suffix_or_suffix_of_suffix hp.1 hq.1
    | exact e =>
      obtain rfl : h = e := hq
      exact .inl hp
  | exact e =>
    obtain rfl : h = e := hp
    cases q with
    | any => exact .inr trivial
    | below t => exact .inr hq
    | exact e' => exact .inl hq

/-- **The intersection covers the hosts both patterns cover.** -/
theorem covers_inter [DecidableEq α] : (p.Covers h ∧ q.Covers h) ↔ ∃ i, p.inter q = some i ∧ i.Covers h := by
  unfold inter
  constructor
  · rintro ⟨hp, hq⟩
    by_cases hpq : p.Includes q
    · rw [if_pos hpq]
      exact ⟨q, rfl, hq⟩
    · have hqp := (includes_or_includes hp hq).resolve_left hpq
      rw [if_neg hpq, if_pos hqp]
      exact ⟨p, rfl, hp⟩
  · rintro ⟨i, hi, hcovers⟩
    by_cases hpq : p.Includes q
    · rw [if_pos hpq] at hi
      obtain rfl := Option.some.inj hi
      exact ⟨covers_of_includes hpq hcovers, hcovers⟩
    · rw [if_neg hpq] at hi
      by_cases hqp : q.Includes p
      · rw [if_pos hqp] at hi
        obtain rfl := Option.some.inj hi
        exact ⟨hcovers, covers_of_includes hqp hcovers⟩
      · rw [if_neg hqp] at hi
        cases hi

end HostPattern

end Lib
