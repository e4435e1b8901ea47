import Kubvernor.Lib.TreeMap

/-!
# Reference counters

A counter map holds how many holders each key has. Decrementing a key that is not counted does
nothing, decrementing a count of zero underflows (`none`). A whole list of decrements goes through
exactly when no key occurs in it more often than it is counted, and then subtracts the number of
its occurrences (`decrAll_eq_some`); a list of increments adds them (`count_incrAll`).
-/

namespace Lib

/-- How many holders each counted key has. -/
abbrev Counter (κ : Type) [Ord κ] := Std.ExtTreeMap κ Nat

namespace Counter

variable {κ : Type} [Ord κ] [Std.TransOrd κ]

/-- The count of a key, zero for a key that is not counted. -/
def count (m : Counter κ) (k : κ) : Nat := m[k]?.getD 0

/-- One holder less, if the key is counted; `none` when the subtraction underflows. -/
def decr (m : Counter κ) (k : κ) : Option (Counter κ) :=
  match m[k]? with
  | none => some m
  | some 0 => none
  | some (n + 1) => some (m.insert k n)

/-- One holder more; a key that is not counted starts at one. -/
def incr (m : Counter κ) (k : κ) : Counter κ := m.insert k (m.count k + 1)

/-- One holder less for each occurrence in the list. -/
def decrAll : List κ → Counter κ → Option (Counter κ)
  | [], m => some m
  | k :: ks, m => (m.decr k).bind (decrAll ks)

/-- One holder more for each occurrence in the list. -/
def incrAll : List κ → Counter κ → Counter κ
  | [], m => m
  | k :: ks, m => incrAll ks (m.incr k)

/-- The counted keys that have no holder. -/
def dead (m : Counter κ) : List κ := m.toList.filterMap fun p => if p.2 < 1 then some p.1 else none

/-- No key is counted with zero holders. -/
def Positive (m : Counter κ) : Prop := ∀ k : κ, m[k]? ≠ some 0

variable {m m' : Counter κ} {k k' : κ} {ks : List κ}

@[simp] theorem count_empty : count (∅ : Counter κ) k = 0 := by simp [count]

theorem Positive.empty : Positive (∅ : Counter κ) := by simp [Positive]

theorem count_of_getElem? {n : Nat} (h : m[k]? = some n) : m.count k = n := by simp [count, h]

/-- Without zeros the keys are those that have a count. -/
theorem Positive.mem_iff [Std.LawfulEqOrd κ] (h : Positive m) : k ∈ m ↔ 0 < m.count k := by
  have hk := h k
  rw [Std.ExtTreeMap.mem_iff_isSome_getElem?, count]
  rcases hn : m[k]? with _ | n
  · simp
  · simp only [Option.isSome_some, Option.getD_some, true_iff]
    exact Nat.pos_of_ne_zero fun h0 => hk (h0 ▸ hn)

variable [Std.LawfulEqOrd κ]

theorem mem_dead : k ∈ m.dead ↔ m[k]? = some 0 := by
  simp only [dead, List.mem_filterMap]
  constructor
  · rintro ⟨⟨k', n⟩, hmem, hk⟩
    rw [Std.ExtTreeMap.mem_toList_iff_getElem?_eq_some] at hmem
    by_cases hn : n < 1
    · rw [if_pos hn, Option.some.injEq] at hk
      subst hk
      rw [hmem, Nat.lt_one_iff.1 hn]
    · simp [hn] at hk
  · intro h
    exact ⟨(k, 0), Std.ExtTreeMap.mem_toList_iff_getElem?_eq_some.2 h, by simp⟩

variable [DecidableEq κ]

theorem getElem?_insert (m : Counter κ) (n : Nat) :
    (m.insert k n)[k']? = if k = k' then some n else m[k']? := by
  simp only [Std.ExtTreeMap.getElem?_insert, Std.LawfulEqOrd.compare_eq_iff_eq]

@[simp] theorem getElem?_incr : (m.incr k)[k']? = if k = k' then some (m.count k + 1) else m[k']? := by
  rw [incr, getElem?_insert]

theorem count_incr : (m.incr k).count k' = m.count k' + if k = k' then 1 else 0 := by
  unfold count
  rw [getElem?_incr]
  by_cases hk : k = k'
  · subst hk
    simp [count]
  · simp [hk]

/-- Decrementing goes through exactly when the count is not zero. -/
theorem decr_eq_some :
    m.decr k = some m' ↔ m[k]? ≠ some 0 ∧
      ∀ k', m'[k']? = m[k']?.map fun n => n - if k = k' then 1 else 0 := by
  have hext : ∀ d : Counter κ, d = m' ↔ ∀ k', m'[k']? = d[k']? := fun d =>
    ⟨fun h k' => by rw [h], fun h => (Std.ExtTreeMap.ext_getElem? fun {k'} => h k').symm⟩
  unfold decr
  rcases hk : m[k]? with _ | _ | n
  · simp only [Option.some.injEq, hext, ne_eq, reduceCtorEq, not_false_eq_true, true_and]
    refine forall_congr' fun k' => ?_
    by_cases hkk : k = k'
    · subst hkk
      simp [hk]
    · simp [hkk]
  · simp
  · simp only [Option.some.injEq, hext, ne_eq, Nat.succ_ne_zero, not_false_eq_true, true_and,
      getElem?_insert]
    refine forall_congr' fun k' => ?_
    by_cases hkk : k = k'
    · subst hkk
      simp [hk]
    · simp [hkk]

/-- **A list of decrements.** It goes through exactly when no counted key occurs in the list more
often than its count, and it subtracts the number of occurrences. -/
theorem decrAll_eq_some :
    decrAll ks m = some m' ↔ (∀ k n, m[k]? = some n → ks.count k ≤ n) ∧
      ∀ k, m'[k]? = m[k]?.map fun n => n - ks.count k := by
  induction ks generalizing m with
  | nil =>
    simp only [decrAll, Option.some.injEq, List.count_nil, Nat.zero_le, implies_true, true_and,
      Nat.sub_zero, Option.map_id']
    exact ⟨fun h k => by rw [h], fun h => (Std.ExtTreeMap.ext_getElem? fun {k} => h k).symm⟩
  | cons x ks ih =>
    simp only [decrAll, Option.bind_eq_some_iff, ih, decr_eq_some, List.count_cons, beq_iff_eq]
    constructor
    · rintro ⟨d, ⟨hx, hd⟩, hle, hc'⟩
      refine ⟨fun k n hk => ?_, fun k => ?_⟩
      · have := hle k _ (by rw [hd, hk]; rfl)
        by_cases hxk : x = k
        · subst hxk
          have hn : n ≠ 0 := fun h => hx (h ▸ hk)
          simp only [↓reduceIte] at this ⊢
          omega
        · simp only [hxk, ↓reduceIte, Nat.sub_zero, Nat.add_zero] at this ⊢
          exact this
      · rw [hc', hd, Option.map_map]
        congr 1
        funext n
        simp only [Function.comp]
        omega
    · rintro ⟨hle, hc'⟩
      have hx : m[x]? ≠ some 0 := fun h => by simpa using hle x 0 h
      obtain ⟨d, hd⟩ : ∃ d, m.decr x = some d := by
        unfold decr
        rcases hk : m[x]? with _ | _ | n
        · exact ⟨_, rfl⟩
        · exact absurd hk hx
        · exact ⟨_, rfl⟩
      have hd' := (decr_eq_some.1 hd).2
      refine ⟨d, ⟨hx, hd'⟩, fun k n hk => ?_, fun k => ?_⟩
      · rw [hd', Option.map_eq_some_iff] at hk
        obtain ⟨n', hk, rfl⟩ := hk
        have := hle k n' hk
        omega
      · rw [hc', hd', Option.map_map]
        congr 1
        funext n
        simp only [Function.comp]
        omega

/-- A list of decrements keeps the counted keys and subtracts the occurrences from the counts. -/
theorem count_decrAll (h : decrAll ks m = some m') : m'.count k = m.count k - ks.count k := by
  unfold count
  rw [(decrAll_eq_some.1 h).2 k]
  cases m[k]? <;> simp

/-- **A list of increments** adds the number of occurrences. -/
theorem count_incrAll : (incrAll ks m).count k = m.count k + ks.count k := by
  induction ks generalizing m with
  | nil => rfl
  | cons x ks ih =>
    simp only [incrAll, ih, count_incr, List.count_cons, beq_iff_eq]
    omega

theorem getElem?_incrAll :
    (incrAll ks m)[k]? = if k ∈ ks then some (m.count k + ks.count k) else m[k]? := by
  induction ks generalizing m with
  | nil => simp [incrAll]
  | cons x ks ih =>
    simp only [incrAll, ih, getElem?_incr, List.mem_cons, List.count_cons, beq_iff_eq, count_incr]
    by_cases hk : k ∈ ks
    · simp only [hk, ↓reduceIte, or_true]
      congr 1
      omega
    · by_cases hx : x = k
      · subst hx
        simp [hk, List.count_eq_zero.2 hk]
      · simp [hk, hx, Ne.symm hx]

end Counter

end Lib
