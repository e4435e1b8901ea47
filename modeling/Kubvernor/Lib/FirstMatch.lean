import Kubvernor.Lib.StableSort

/-!
# The first that passes

Who takes the first entry of a list that passes a test takes, in a list that has been sorted, the best entry that
passes: none that passes is compared as smaller, and of those that tie with it it was the first before the sort
(`StableSortOf.first_iff`).
-/

namespace Lib

variable {α β : Type} {P Q : α → Prop} {l l' : List α} {a b : α}

/-- The first entry that passes. -/
inductive First (P : α → Prop) : List α → α → Prop
  | head {a : α} {l : List α} (ha : P a) : First P (a :: l) a
  | tail {a b : α} {l : List α} (hb : ¬ P b) (h : First P l a) : First P (b :: l) a

namespace First

theorem mem (h : First P l a) : a ∈ l := by
  induction h with
  | head ha => exact List.mem_cons_self
  | tail hb h ih => exact List.mem_cons_of_mem _ ih

theorem holds (h : First P l a) : P a := by
  induction h with
  | head ha => exact ha
  | tail hb h ih => exact ih

theorem unique (h : First P l a) (h' : First P l b) : a = b := by
  induction h with
  | head ha =>
    cases h' with
    | head => rfl
    | tail hb => exact absurd ha hb
  | tail hb h ih =>
    cases h' with
    | head ha => exact absurd ha hb
    | tail _ h' => exact ih h'

/-- Among fewer that pass, it is still the first. -/
theorem and (h : First P l a) (hq : Q a) : First (fun b => P b ∧ Q b) l a := by
  induction h with
  | head ha => exact .head ⟨ha, hq⟩
  | tail hb h ih => exact .tail (fun hboth => hb hboth.1) (ih hq)

/-- In a list in order, no entry that passes is smaller than the first. -/
theorem isLE {cmp : α → α → Ordering} [Std.ReflCmp cmp] (h : First P l a)
    (hordered : l.Pairwise fun a b => (cmp a b).isLE) : ∀ b ∈ l, P b → (cmp a b).isLE := by
  have hself (a : α) : cmp a a = .eq := Std.ReflCmp.compare_self
  induction h with
  | head ha =>
    intro b hb _
    rcases List.mem_cons.1 hb with rfl | hb
    · rw [hself]
      rfl
    · exact (List.pairwise_cons.1 hordered).1 b hb
  | tail hc h ih =>
    intro b hb hpass
    rcases List.mem_cons.1 hb with rfl | hb
    · exact absurd hpass hc
    · exact ih (List.pairwise_cons.1 hordered).2 b hb hpass

end First

theorem exists_first_iff : (∃ a, First P l a) ↔ ∃ a ∈ l, P a := by
  constructor
  · rintro ⟨a, h⟩
    exact ⟨a, h.mem, h.holds⟩
  · rintro ⟨a, ha, hpass⟩
    induction l with
    | nil => cases ha
    | cons c l ih =>
      by_cases hc : P c
      · exact ⟨c, .head hc⟩
      · obtain rfl | ha := List.mem_cons.1 ha
        · exact absurd hpass hc
        · obtain ⟨b, hb⟩ := ih ha
          exact ⟨b, .tail hc hb⟩

theorem First.imp_of_mem (h : First P l a) (hPQ : ∀ b ∈ l, P b ↔ Q b) : First Q l a := by
  induction h with
  | head ha => exact .head ((hPQ _ List.mem_cons_self).1 ha)
  | tail hb h ih =>
    exact .tail (fun hq => hb ((hPQ _ List.mem_cons_self).2 hq)) (ih fun c hc => hPQ c (List.mem_cons_of_mem _ hc))

theorem first_congr (hPQ : ∀ b ∈ l, P b ↔ Q b) : First P l a ↔ First Q l a :=
  ⟨fun h => h.imp_of_mem hPQ, fun h => h.imp_of_mem fun b hb => (hPQ b hb).symm⟩

theorem first_cons : First P (b :: l) a ↔ (P b ∧ b = a) ∨ (¬ P b ∧ First P l a) := by
  constructor
  · intro h
    cases h with
    | head ha => exact .inl ⟨ha, rfl⟩
    | tail hb h => exact .inr ⟨hb, h⟩
  · rintro (⟨hb, rfl⟩ | ⟨hb, h⟩)
    · exact .head hb
    · exact .tail hb h

theorem first_append : First P (l ++ l') a ↔ First P l a ∨ (∀ b ∈ l, ¬ P b) ∧ First P l' a := by
  induction l with
  | nil =>
    constructor
    · exact fun h => .inr ⟨fun _ hb => absurd hb List.not_mem_nil, h⟩
    · rintro (h | ⟨-, h⟩)
      · cases h
      · exact h
  | cons c l ih =>
    rw [List.cons_append, first_cons, first_cons, ih, List.forall_mem_cons]
    tauto

theorem first_flatMap {f : β → List α} {l : List β} :
    First P (l.flatMap f) a ↔ ∃ b, First (fun b => ∃ a ∈ f b, P a) l b ∧ First P (f b) a := by
  induction l with
  | nil =>
    constructor
    · intro h
      cases h
    · rintro ⟨b, h, -⟩
      cases h
  | cons c l ih =>
    rw [List.flatMap_cons, first_append, ih]
    constructor
    · rintro (h | ⟨hnone, b, hb, ha⟩)
      · exact ⟨c, .head ⟨a, h.mem, h.holds⟩, h⟩
      · refine ⟨b, .tail ?_ hb, ha⟩
        rintro ⟨a', ha', hpass⟩
        exact hnone a' ha' hpass
    · rintro ⟨b, hb, ha⟩
      cases hb with
      | head => exact .inl ha
      | tail hc hb =>
        refine .inr ⟨fun a' ha' hpass => hc ⟨a', ha', hpass⟩, b, hb, ha⟩

theorem first_map {f : β → α} {l : List β} : First P (l.map f) a ↔ ∃ b, First (fun b => P (f b)) l b ∧ f b = a := by
  induction l with
  | nil =>
    constructor
    · intro h
      cases h
    · rintro ⟨b, h, -⟩
      cases h
  | cons c l ih =>
    rw [List.map_cons, first_cons, ih]
    simp only [first_cons, or_and_right, exists_or, and_assoc, exists_and_left, exists_eq_left']

theorem first_filter {p : α → Bool} : First P (l.filter p) a ↔ First (fun a => p a = true ∧ P a) l a := by
  induction l with
  | nil =>
    constructor
    · intro h
      cases h
    · intro h
      cases h
  | cons c l ih =>
    cases hp : p c with
    | true => rw [List.filter_cons_of_pos hp, first_cons, first_cons, ih, and_iff_right hp]
    | false =>
      have hnot : ¬ p c = true := by simp [hp]
      rw [List.filter_cons_of_neg hnot, first_cons, ih]
      simp [hp]

/-- Where every entry passes the first is the head. -/
theorem first_iff_head (h : ∀ b ∈ l, P b) : First P l a ↔ l.head? = some a := by
  cases l with
  | nil =>
    constructor
    · intro h
      cases h
    · intro h
      cases h
  | cons b l =>
    rw [first_cons, List.head?_cons, Option.some.injEq]
    have hb := h b List.mem_cons_self
    simp [hb]

/-! ## In a sorted list -/

variable {cmp : α → α → Ordering}

/-- The least entry that passes, the first of those that tie. -/
structure Best (cmp : α → α → Ordering) (P : α → Prop) (l : List α) (a : α) : Prop where
  least : ∀ b ∈ l, P b → (cmp a b).isLE
  first : First (fun b => P b ∧ cmp a b = .eq) l a

/-- **The first entry of the sorted list that passes is the best.** -/
theorem StableSortOf.first_iff [Std.TransCmp cmp] {sorted : List α} (h : StableSortOf cmp sorted l) :
    First P sorted a ↔ Best cmp P l a := by
  have hself (a : α) : cmp a a = .eq := Std.ReflCmp.compare_self
  have hbest {a : α} (hfirst : First P sorted a) : Best cmp P l a := by
    refine ⟨fun b hb => hfirst.isLE h.ordered b (h.perm.mem_iff.2 hb), ?_⟩
    have hties : First P (sorted.filter (cmp a · == .eq)) a := by
      rw [first_filter]
      exact (hfirst.and (Q := fun b => cmp a b == .eq) (beq_iff_eq.2 (hself a))).imp_of_mem fun b _ => and_comm
    rw [h.stable, first_filter] at hties
    refine hties.imp_of_mem fun b _ => ?_
    rw [beq_iff_eq, and_comm]
  refine ⟨hbest, fun ha => ?_⟩
  -- the first one that passes is also the best, and there is only one
  obtain ⟨b, hb⟩ := exists_first_iff.2 ⟨a, h.perm.mem_iff.2 ha.first.mem, ha.first.holds.1⟩
  have hbest := hbest hb
  have heq : cmp a b = .eq :=
    Std.OrientedCmp.isLE_antisymm (ha.least b hbest.first.mem hbest.first.holds.1)
      (hbest.least a ha.first.mem ha.first.holds.1)
  have hties : First (fun c => P c ∧ cmp a c = .eq) l b := by
    refine hbest.first.imp_of_mem fun c _ => and_congr_right fun _ => ?_
    rw [Std.TransCmp.congr_left heq]
  rw [ha.first.unique hties]
  exact hb

end Lib
