import Mathlib.Data.List.Induction
import Mathlib.Data.Set.Function

/-!
# Sets of named items and their deltas

A set of items in which a name stands for one item, and the messages that turn one such set into
another: some names are dropped, and then some items are put in place of those with their names.
`subset_settle` and `mem_settle` say when what is held becomes the set that is wanted, whatever else
is put in on the way.
-/

namespace Lib

variable {ι κ : Type*}

/-- The items of `H` and those of `A`, which take the place of items with their names. -/
def put (name : ι → κ) (A H : Set ι) : Set ι := {i | i ∈ A ∨ i ∈ H ∧ name i ∉ name '' A}

/-- The items of `H` whose names are not in `N`. -/
def drop (name : ι → κ) (N : Set κ) (H : Set ι) : Set ι := {i | i ∈ H ∧ name i ∉ N}

/-- What `H` becomes once the names `N` are dropped and the items `A` put in. -/
def settle (name : ι → κ) (N : Set κ) (A H : Set ι) : Set ι := put name A (drop name N H)

/-- The names to drop on the way from `old` to `new`, and the items to put in are `new \ old`. -/
def gone (name : ι → κ) (old new : Set ι) : Set κ := name '' old \ name '' new

variable {name : ι → κ} {A H K G old new : Set ι} {N : Set κ} {i : ι}

theorem mem_settle_iff : i ∈ settle name N A H ↔ i ∈ A ∨ i ∈ H ∧ name i ∉ N ∧ name i ∉ name '' A := by
  simp only [settle, put, drop, Set.mem_ofPred_eq, and_assoc]

@[simp] theorem settle_empty : settle name ∅ ∅ H = H := by
  ext i
  simp [mem_settle_iff]

/-- Names that are put in anyway may be dropped first. -/
theorem put_drop_union {M : Set κ} (hM : M ⊆ name '' A) :
    put name A (drop name (N ∪ M) H) = settle name N A H := by
  ext i
  rw [mem_settle_iff]
  simp only [put, drop, Set.mem_ofPred_eq, Set.mem_union, not_or]
  constructor
  · rintro (hi | ⟨⟨hi, hN, -⟩, hA⟩)
    · exact .inl hi
    · exact .inr ⟨hi, hN, hA⟩
  · rintro (hi | ⟨hi, hN, hA⟩)
    · exact .inl hi
    · exact .inr ⟨⟨hi, hN, fun h => hA (hM h)⟩, hA⟩

/-- Names that are not put in may be dropped last. -/
theorem drop_put (hA : ∀ i ∈ A, name i ∉ N) : drop name N (put name A H) = settle name N A H := by
  ext i
  rw [mem_settle_iff]
  simp only [put, drop, Set.mem_ofPred_eq]
  constructor
  · rintro ⟨hi | ⟨hi, hiA⟩, hN⟩
    · exact .inl hi
    · exact .inr ⟨hi, hN, hiA⟩
  · rintro (hi | ⟨hi, hN, hiA⟩)
    · exact ⟨.inl hi, hA i hi⟩
    · exact ⟨.inr ⟨hi, hiA⟩, hN⟩

/-- An item of the wanted set that is held stays, when only items of the wanted set are put in and
none of its names dropped. -/
theorem mem_settle (hG : Set.InjOn name G) (hA : A ⊆ G) (hN : ∀ j ∈ G, name j ∉ N) (hi : i ∈ G)
    (hH : i ∈ H) : i ∈ settle name N A H := by
  rw [mem_settle_iff]
  by_cases hiA : i ∈ A
  · exact .inl hiA
  · refine .inr ⟨hH, hN i hi, ?_⟩
    rintro ⟨j, hj, hji⟩
    exact hiA (hG (hA hj) hi hji ▸ hj)

/-- From the old set nothing is left but the new one. -/
theorem settle_subset (hold : Set.InjOn name old) (hH : H ⊆ old) :
    settle name (gone name old new) (new \ old) H ⊆ new := by
  intro i hi
  rcases mem_settle_iff.1 hi with hi | ⟨hi, hN, hA⟩
  · exact hi.1
  · have hiold := hH hi
    by_contra hinew
    -- the name of `i` is used in the new set, so by an item that is put in or by `i`
    have hname : name i ∈ name '' new := by
      by_contra h
      exact hN ⟨⟨i, hiold, rfl⟩, h⟩
    obtain ⟨j, hj, hji⟩ := hname
    by_cases hjold : j ∈ old
    · exact hinew (hold hjold hiold hji ▸ hj)
    · exact hA ⟨j, ⟨hj, hjold⟩, hji⟩

theorem not_mem_gone (hi : i ∈ new) : name i ∉ gone name old new := fun h => h.2 ⟨i, hi, rfl⟩

/-- Of what is held of the old set, what the new one has is left, and the rest of the new one is put in. -/
theorem mem_settle_gone (hold : Set.InjOn name old) (hnew : Set.InjOn name new) (hH : H ⊆ old) :
    i ∈ settle name (gone name old new) (new \ old) H ↔ i ∈ new ∧ (i ∉ old ∨ i ∈ H) := by
  constructor
  · intro hi
    refine ⟨settle_subset hold hH hi, ?_⟩
    rcases mem_settle_iff.1 hi with hi | ⟨hi, -, -⟩
    · exact .inl hi.2
    · exact .inr hi
  · rintro ⟨hi, hiold | hiH⟩
    · exact mem_settle_iff.2 (.inl ⟨hi, hiold⟩)
    · exact mem_settle hnew Set.sdiff_subset (fun j hj => not_mem_gone hj) hi hiH

/-- What is missing of the old set is missing of the new one. -/
theorem settle_gone_sdiff {Q : Set ι} (hold : Set.InjOn name old) (hnew : Set.InjOn name new) (hQ : Q ⊆ old) :
    settle name (gone name old new) (new \ old) (old \ Q) = new \ Q := by
  ext i
  rw [mem_settle_gone hold hnew Set.sdiff_subset]
  refine and_congr_right fun _ => ⟨?_, fun hi => ?_⟩
  · rintro (hi | hi)
    · exact fun hiQ => hi (hQ hiQ)
    · exact hi.2
  · by_cases hiold : i ∈ old
    · exact .inr ⟨hiold, hi⟩
    · exact .inl hiold

/-- The old set becomes the new one. -/
theorem settle_gone (hold : Set.InjOn name old) (hnew : Set.InjOn name new) :
    settle name (gone name old new) (new \ old) old = new := by
  have h := settle_gone_sdiff hold hnew (Set.empty_subset old)
  rwa [Set.sdiff_empty, Set.sdiff_empty] at h

/-- What no message names stays as it is. -/
theorem settle_union (hK : ∀ i ∈ K, name i ∉ N ∧ name i ∉ name '' A) :
    settle name N A (K ∪ H) = K ∪ settle name N A H := by
  ext i
  simp only [mem_settle_iff, Set.mem_union]
  constructor
  · rintro (hi | ⟨hi | hi, hN, hA⟩)
    · exact .inr (.inl hi)
    · exact .inl hi
    · exact .inr (.inr ⟨hi, hN, hA⟩)
  · rintro (hi | hi | ⟨hi, hN, hA⟩)
    · exact .inr ⟨.inl hi, hK i hi⟩
    · exact .inl hi
    · exact .inr ⟨.inr hi, hN, hA⟩

/-- Items may be held in another form, under the same names. -/
theorem settle_image {ι' : Type*} {name' : ι' → κ} {f : ι → ι'} (hname : ∀ i, name' (f i) = name i) :
    settle name' N (f '' A) (f '' H) = f '' settle name N A H := by
  have himage : name' '' (f '' A) = name '' A := by
    rw [Set.image_image]
    simp only [hname]
  ext x
  rw [mem_settle_iff, himage]
  constructor
  · rintro (⟨i, hi, rfl⟩ | ⟨⟨i, hi, rfl⟩, hN, hA⟩)
    · exact ⟨i, mem_settle_iff.2 (.inl hi), rfl⟩
    · rw [hname] at hN hA
      exact ⟨i, mem_settle_iff.2 (.inr ⟨hi, hN, hA⟩), rfl⟩
  · rintro ⟨i, hi, rfl⟩
    rcases mem_settle_iff.1 hi with hi | ⟨hi, hN, hA⟩
    · exact .inl ⟨i, hi, rfl⟩
    · rw [hname]
      exact .inr ⟨⟨i, hi, rfl⟩, hN, hA⟩

/-- A set `K` put in before the rest does no harm if its items are wanted or on their way out. -/
theorem settle_put_subset (hH : settle name N A H ⊆ G)
    (hK : ∀ i ∈ K, i ∈ G ∨ name i ∈ N ∨ name i ∈ name '' A) : settle name N A (put name K H) ⊆ G := by
  intro i hi
  rcases mem_settle_iff.1 hi with hi | ⟨hi, hN, hA⟩
  · exact hH (mem_settle_iff.2 (.inl hi))
  · rcases hi with hi | hi
    · rcases hK i hi with h | h | h
      · exact h
      · exact absurd h hN
      · exact absurd h hA
    · exact hH (mem_settle_iff.2 (.inr ⟨hi.1, hN, hA⟩))

/-- What is wanted is held in the end if it was going to be or is put in now. -/
theorem mem_settle_put (hG : Set.InjOn name G) (hA : A ⊆ G) (hN : ∀ j ∈ G, name j ∉ N)
    (hK : ∀ i ∈ K, i ∈ G ∨ name i ∈ N ∨ name i ∈ name '' A) (hi : i ∈ G)
    (h : i ∈ K ∨ i ∈ settle name N A H) : i ∈ settle name N A (put name K H) := by
  rcases h with h | h
  · exact mem_settle hG hA hN hi (.inl h)
  · rcases mem_settle_iff.1 h with h | ⟨h, hiN, hiA⟩
    · exact mem_settle_iff.2 (.inl h)
    · refine mem_settle hG hA hN hi ?_
      by_cases hiK : name i ∈ name '' K
      · obtain ⟨j, hj, hji⟩ := hiK
        rcases hK j hj with hjG | hjN | hjA
        · exact .inl (hG hjG hi hji ▸ hj)
        · exact absurd (hji ▸ hjN) hiN
        · exact absurd (hji ▸ hjA) hiA
      · exact .inr ⟨h, hiK⟩

/-! ## Lists of items -/

section Lists
variable [DecidableEq κ] (name : ι → κ)

/-- An item is held under its name, in place of the one held under it before. -/
def holdItem (held : List ι) (i : ι) : List ι := held.filter (name · ≠ name i) ++ [i]

/-- The items of `l` are held one after another. -/
def holdAll (held l : List ι) : List ι := l.foldl (holdItem name) held

/-- The names of `N` are given up. -/
def giveUp (held : List ι) (N : List κ) : List ι := held.filter (name · ∉ N)

/-- The elements of a list, as a set. -/
def elems (l : List ι) : Set ι := {i | i ∈ l}

instance [DecidableEq ι] (i : ι) (l : List ι) : Decidable (i ∈ elems l) := inferInstanceAs (Decidable (i ∈ l))

theorem elems_nil : elems ([] : List ι) = ∅ := by
  ext i
  simp [elems]

variable {name} {held l : List ι}

theorem mem_holdAll {i : ι} (h : i ∈ holdAll name held l) : i ∈ held ∨ i ∈ l := by
  induction l generalizing held with
  | nil => exact .inl h
  | cons a l ih =>
    rcases ih h with h | h
    · rcases List.mem_append.1 h with h | h
      · exact .inl (List.mem_filter.1 h).1
      · exact .inr (List.mem_singleton.1 h ▸ List.mem_cons_self)
    · exact .inr (List.mem_cons_of_mem a h)

theorem elems_giveUp {N : List κ} : elems (giveUp name held N) = drop name {n | n ∈ N} (elems held) := by
  ext i
  simp [elems, giveUp, drop]

theorem elems_holdAll (hl : Set.InjOn name (elems l)) :
    elems (holdAll name held l) = put name (elems l) (elems held) := by
  induction l generalizing held with
  | nil =>
    ext i
    simp [elems, holdAll, put]
  | cons a l ih =>
    have hl' : Set.InjOn name (elems l) := hl.mono fun i hi => List.mem_cons_of_mem _ hi
    have hstep : holdAll name held (a :: l) = holdAll name (holdItem name held a) l := rfl
    rw [hstep, ih hl']
    ext i
    simp only [put, elems, holdItem, Set.mem_ofPred_eq, List.mem_append, List.mem_filter, List.mem_cons,
      List.not_mem_nil, or_false, decide_eq_true_eq, Set.mem_image, not_exists, not_and]
    constructor
    · rintro (hi | ⟨⟨hi, hne⟩ | rfl, hnot⟩)
      · exact .inl (.inr hi)
      · refine .inr ⟨hi, fun j hj hji => ?_⟩
        rcases hj with rfl | hj
        · exact hne hji.symm
        · exact hnot j hj hji
      · exact .inl (.inl rfl)
    · rintro ((rfl | hi) | ⟨hi, hnot⟩)
      · by_cases hmem : i ∈ l
        · exact .inl hmem
        · refine .inr ⟨.inr rfl, fun j hj hji => hmem ?_⟩
          -- only `i` itself has its name among the items that are held
          exact hl (List.mem_cons_of_mem _ hj) List.mem_cons_self hji ▸ hj
      · exact .inl hi
      · exact .inr ⟨.inl ⟨hi, fun h => hnot a (.inl rfl) h.symm⟩, fun j hj => hnot j (.inr hj)⟩

/-- Of items of one name only the last is held. -/
theorem holdAll_of_name_eq {k : κ} (h : ∀ i ∈ l, name i = k) : holdAll name [] l = l.getLast?.toList := by
  induction l using List.reverseRecOn with
  | nil => rfl
  | append_singleton l i ih =>
    rw [List.forall_mem_append, List.forall_mem_singleton] at h
    have hstep : holdAll name [] (l ++ [i]) = holdItem name (holdAll name [] l) i := List.foldl_append
    have hgone : l.getLast?.toList.filter (name · ≠ name i) = [] := by
      rw [List.filter_eq_nil_iff]
      intro j hj
      have hj' : j ∈ l := List.mem_of_getLast? (by simpa using hj)
      simp [h.1 j hj', h.2]
    rw [hstep, ih h.1, holdItem, hgone]
    simp

/-- The names of a message are given up first, and then its items are held. -/
theorem elems_holdAll_giveUp {N : List κ} (hl : Set.InjOn name (elems l)) :
    elems (holdAll name (giveUp name held N) l) = settle name {n | n ∈ N} (elems l) (elems held) := by
  rw [elems_holdAll hl, elems_giveUp]
  rfl

/-- And the other way around. -/
theorem elems_giveUp_holdAll {N : List κ} (hl : Set.InjOn name (elems l)) (hN : ∀ i ∈ l, name i ∉ N) :
    elems (giveUp name (holdAll name held l) N) = settle name {n | n ∈ N} (elems l) (elems held) := by
  rw [elems_giveUp, elems_holdAll hl]
  exact drop_put hN

end Lists

end Lib
