import Mathlib.Data.List.Nodup
import Mathlib.Logic.Function.Basic

/-!
# Sessions and the table of their clients

A table of clients that is searched by an address: the first entry with an address is found, changed
or replaced, and entries are removed by address. `Sessions` says that the table has exactly one entry
for each session, under its address, and `Served` that some copies of entries belong to sessions
whose addresses no other entry has.
-/

namespace Lib

/-! ## The table -/

namespace Table

variable {ε κ : Type*} [DecidableEq κ] (key : ε → κ)

/-- The first entry with the key. -/
def find (l : List ε) (a : κ) : Option ε := l.find? fun e => key e = a

/-- The first entry with the key is changed. -/
def modify (a : κ) (f : ε → ε) : List ε → List ε
  | [] => []
  | e :: l => if key e = a then f e :: l else e :: modify a f l

/-- The first entry with the key of `e` is changed, or `e` is added at the end. -/
def modifyOrAdd (e : ε) (f : ε → ε) : List ε → List ε
  | [] => [e]
  | e' :: l => if key e' = key e then f e' :: l else e' :: modifyOrAdd e f l

/-- The entries with the key are removed. -/
def remove (l : List ε) (a : κ) : List ε := l.filter fun e => key e ≠ a

variable {key} {l : List ε} {e e' : ε} {a b : κ} {f : ε → ε}

theorem mem_of_find (h : find key l a = some e) : e ∈ l ∧ key e = a :=
  ⟨List.mem_of_find?_eq_some h, by simpa using List.find?_some h⟩

theorem find_of_mem (hl : (l.map key).Nodup) (he : e ∈ l) : find key l (key e) = some e := by
  cases hfind : find key l (key e) with
  | none =>
    have := List.find?_eq_none.1 hfind e he
    simp at this
  | some e' =>
    obtain ⟨he', hkey⟩ := mem_of_find hfind
    rw [List.inj_on_of_nodup_map hl he' he hkey]

theorem find_modify (hf : ∀ e, key (f e) = key e) :
    find key (modify key a f l) b = if b = a then (find key l b).map f else find key l b := by
  induction l with
  | nil => simp [modify, find]
  | cons e l ih =>
    simp only [find] at ih
    unfold modify
    by_cases hea : key e = a
    · by_cases hb : b = a
      · simp [find, hea, hb, hf]
      · have hne : ¬ a = b := fun h => hb h.symm
        simp [find, hea, hb, hne, hf]
    · by_cases heb : key e = b
      · have hne : ¬ b = a := fun h => hea (heb.trans h)
        simp [find, heb, hne]
      · simp [find, hea, heb, ih]

theorem find_remove (h : b ≠ a) : find key (remove key l a) b = find key l b := by
  induction l with
  | nil => rfl
  | cons e l ih =>
    simp only [find, remove] at ih ⊢
    by_cases heb : key e = b
    · simp [heb, h]
    · by_cases hea : key e = a
      · have hne : ¬ a = b := fun h' => h h'.symm
        simpa [hea, hne] using ih
      · simpa [hea, heb] using ih

theorem find_append : find key (l ++ [e]) a = (find key l a).or (if key e = a then some e else none) := by
  simp only [find, List.find?_append, List.find?_singleton, decide_eq_true_eq]

theorem mem_remove : e ∈ remove key l a ↔ e ∈ l ∧ key e ≠ a := by
  simp [remove]

theorem map_modify {β : Type*} (g : ε → β) (hg : ∀ e, g (f e) = g e) :
    (modify key a f l).map g = l.map g := by
  induction l with
  | nil => rfl
  | cons e l ih =>
    unfold modify
    split
    · simp [hg]
    · simp [ih]

theorem mem_modify (h : e ∈ modify key a f l) : e ∈ l ∨ ∃ e' ∈ l, key e' = a ∧ e = f e' := by
  induction l with
  | nil => simp [modify] at h
  | cons e' l ih =>
    unfold modify at h
    split at h
    · next heq =>
      cases List.mem_cons.1 h with
      | inl h => exact .inr ⟨e', by simp, heq, h⟩
      | inr h => exact .inl (by simp [h])
    · cases List.mem_cons.1 h with
      | inl h => exact .inl (by simp [h])
      | inr h =>
        rcases ih h with h | ⟨e'', he'', h⟩
        · exact .inl (by simp [h])
        · exact .inr ⟨e'', by simp [he''], h⟩

theorem mem_modifyOrAdd (h : e' ∈ modifyOrAdd key e f l) : e' ∈ l ∨ e' = e ∨ ∃ c ∈ l, e' = f c := by
  induction l with
  | nil => exact .inr (.inl (by simpa [modifyOrAdd] using h))
  | cons c l ih =>
    unfold modifyOrAdd at h
    split at h
    · cases List.mem_cons.1 h with
      | inl h => exact .inr (.inr ⟨c, by simp, h⟩)
      | inr h => exact .inl (by simp [h])
    · cases List.mem_cons.1 h with
      | inl h => exact .inl (by simp [h])
      | inr h =>
        rcases ih h with h | h | ⟨d, hd, h⟩
        · exact .inl (by simp [h])
        · exact .inr (.inl h)
        · exact .inr (.inr ⟨d, by simp [hd], h⟩)

/-- An entry with a new key is added at the end. -/
theorem modifyOrAdd_of_new (h : ∀ e' ∈ l, key e' ≠ key e) : modifyOrAdd key e f l = l ++ [e] := by
  induction l with
  | nil => rfl
  | cons e' l ih =>
    have he' := h e' (by simp)
    have hl := ih fun e'' he'' => h e'' (by simp [he''])
    simp [modifyOrAdd, he', hl]

end Table

/-! ## One entry for each session -/

section
variable {ε S κ : Type*} (key : ε → κ) (sender : ε → S)

/-- `live s` is the address of the session `s`, if it is under way. -/
structure Sessions (live : S → Option κ) (table : List ε) : Prop where
  nodup : (table.map key).Nodup
  entry : ∀ e ∈ table, live (sender e) = some (key e)
  listed : ∀ s a, live s = some a → ∃ e ∈ table, sender e = s

/-- Some copies of entries, each for a session of its own, `address s` being the address of the session
`s` whether or not it is still under way. -/
structure Served (address : S → Option κ) (table copies : List ε) : Prop where
  session : ∀ e ∈ copies, address (sender e) = some (key e)
  entry : ∀ e ∈ copies, ∀ e' ∈ table, key e' = key e → sender e' = sender e
  nodup : (copies.map key).Nodup

end

section
variable {ε S κ : Type*} {key : ε → κ} {sender : ε → S}
  {live address : S → Option κ} {table copies : List ε} {s s' : S} {a a' : κ} {e e' : ε} {f : ε → ε}

namespace Sessions

/-- A session has its address to itself. -/
theorem sender_eq (h : Sessions key sender live table) (hs : live s = some a) (he : e ∈ table)
    (hkey : key e = a) : sender e = s := by
  obtain ⟨e', he', rfl⟩ := h.listed s a hs
  have hkey' := h.entry e' he'
  rw [hs] at hkey'
  rw [List.inj_on_of_nodup_map h.nodup he he' (hkey.trans (Option.some.inj hkey'))]

theorem eq_of_sender (h : Sessions key sender live table) (he : e ∈ table) (he' : e' ∈ table)
    (hsender : sender e = sender e') : e = e' := by
  have hkey := h.entry e he
  rw [hsender, h.entry e' he'] at hkey
  exact List.inj_on_of_nodup_map h.nodup he he' (Option.some.inj hkey).symm

theorem exists_find [DecidableEq κ] (h : Sessions key sender live table) (hs : live s = some a) :
    ∃ e ∈ table, Table.find key table a = some e ∧ sender e = s := by
  obtain ⟨e, he, rfl⟩ := h.listed s a hs
  have hkey := h.entry e he
  rw [hs] at hkey
  exact ⟨e, he, (Option.some.inj hkey) ▸ Table.find_of_mem h.nodup he, rfl⟩

theorem address_ne (h : Sessions key sender live table) (hs : live s = some a) (hs' : live s' = some a')
    (hne : s ≠ s') : a ≠ a' := by
  rintro rfl
  obtain ⟨e, he, rfl⟩ := h.listed s a hs
  have hkey := h.entry e he
  rw [hs] at hkey
  exact hne (h.sender_eq hs' he (Option.some.inj hkey).symm)

/-- An entry keeps its address and its session. -/
theorem modify [DecidableEq κ] (h : Sessions key sender live table) (hkey : ∀ e, key (f e) = key e)
    (hsender : ∀ e, sender (f e) = sender e) : Sessions key sender live (Table.modify key a f table) where
  nodup := by
    rw [Table.map_modify key hkey]
    exact h.nodup
  entry := by
    intro e he
    rcases Table.mem_modify he with he | ⟨e', he', -, rfl⟩
    · exact h.entry e he
    · rw [hsender, hkey]
      exact h.entry e' he'
  listed := by
    intro s b hs
    obtain ⟨e, he, rfl⟩ := h.listed s b hs
    have hmem : sender e ∈ (Table.modify key a f table).map sender := by
      rw [Table.map_modify sender hsender]
      exact List.mem_map_of_mem he
    obtain ⟨e', he', h⟩ := List.mem_map.1 hmem
    exact ⟨e', he', h⟩

/-- A session ends and its entry is removed. -/
theorem remove [DecidableEq S] [DecidableEq κ] (h : Sessions key sender live table) (hs : live s = some a) :
    Sessions key sender (Function.update live s none) (Table.remove key table a) where
  nodup := h.nodup.sublist (List.filter_sublist.map _)
  entry := by
    intro e he
    obtain ⟨he, hne⟩ := Table.mem_remove.1 he
    have hkey := h.entry e he
    by_cases hes : sender e = s
    · rw [hes, hs] at hkey
      exact absurd (Option.some.inj hkey).symm hne
    · simpa [hes] using hkey
  listed := by
    intro s' a' hs'
    by_cases hne : s' = s
    · simp [hne] at hs'
    · rw [Function.update_of_ne hne] at hs'
      obtain ⟨e, he, rfl⟩ := h.listed s' a' hs'
      refine ⟨e, Table.mem_remove.2 ⟨he, fun hkey => hne ?_⟩, rfl⟩
      exact h.sender_eq hs he hkey

/-- A session starts from a new address. -/
theorem append [DecidableEq S] (h : Sessions key sender live table) (hs : live (sender e) = none)
    (hnew : ∀ e' ∈ table, key e' ≠ key e) :
    Sessions key sender (Function.update live (sender e) (some (key e))) (table ++ [e]) where
  nodup := by simpa [List.nodup_append, h.nodup] using hnew
  entry := by
    intro e' he'
    cases List.mem_append.1 he' with
    | inl he' =>
      have hkey := h.entry e' he'
      have hne : sender e' ≠ sender e := by
        intro heq
        rw [heq, hs] at hkey
        simp at hkey
      simpa [hne] using hkey
    | inr he' =>
      obtain rfl := List.mem_singleton.1 he'
      simp
  listed := by
    intro s a ha
    by_cases hne : s = sender e
    · exact ⟨e, by simp, hne.symm⟩
    · rw [Function.update_of_ne hne] at ha
      obtain ⟨e', he', h⟩ := h.listed s a ha
      exact ⟨e', by simp [he'], h⟩

end Sessions

namespace Served

/-- Some of the copies, with sessions that keep their addresses and entries that were there. -/
theorem mono (h : Served key sender address table copies) {address' : S → Option κ} {table' copies' : List ε}
    (haddress : ∀ s a, address s = some a → address' s = some a) (hcopies : copies'.Sublist copies)
    (hentry : ∀ e ∈ copies', ∀ e' ∈ table', key e' = key e →
      ∃ e'' ∈ table, sender e'' = sender e' ∧ key e'' = key e') :
    Served key sender address' table' copies' where
  session e he := haddress _ _ (h.session e (hcopies.subset he))
  entry := by
    intro e he e' he' hkey
    obtain ⟨e'', he'', hsender, hkey'⟩ := hentry e he e' he' hkey
    exact hsender ▸ h.entry e (hcopies.subset he) e'' he'' (hkey'.trans hkey)
  nodup := h.nodup.sublist (hcopies.map _)

/-- Copies of the entries that pass a test. -/
theorem filter (h : Sessions key sender live table) (haddress : ∀ s a, live s = some a → address s = some a)
    (p : ε → Bool) : Served key sender address table (table.filter p) where
  session e he := haddress _ _ (h.entry e (List.mem_filter.1 he).1)
  entry := by
    intro e he e' he' hkey
    rw [List.inj_on_of_nodup_map h.nodup he' (List.mem_filter.1 he).1 hkey]
  nodup := h.nodup.sublist (List.filter_sublist.map _)

/-- There is one copy for a session. -/
theorem sender_ne (h : Served key sender address table (e :: copies)) (he' : e' ∈ copies) :
    sender e' ≠ sender e := by
  intro heq
  have hkey := h.session e (by simp)
  have hkey' := h.session e' (by simp [he'])
  rw [heq, hkey] at hkey'
  have hnodup := h.nodup
  rw [List.map_cons, List.nodup_cons] at hnodup
  exact hnodup.1 (Option.some.inj hkey' ▸ List.mem_map_of_mem he')

end Served

end

end Lib
