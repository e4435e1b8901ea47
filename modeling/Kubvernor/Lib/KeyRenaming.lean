import Kubvernor.Lib.TreeMap
import Mathlib.Logic.Equiv.Basic

/-!
# Maps under other keys

`mapKeys π f m` has the entries of `m` under the images of their keys, each value changed by `f`. An
injective `π` keeps all entries apart: what is stored is the same up to `π` and `f`, and so is the
size. The order of the entries is not: any of them can be made the first one (`exists_first_mapKeys`).
-/

namespace Lib

variable {κ ν ν' : Type} [Ord κ] [Std.TransOrd κ] [Std.LawfulEqOrd κ] {m : Std.ExtTreeMap κ ν} {k : κ} {v : ν}

/-- The entries of a map under the images of their keys. -/
def mapKeys (π : κ → κ) (f : ν → ν') (m : Std.ExtTreeMap κ ν) : Std.ExtTreeMap κ ν' :=
  .ofList (m.toList.map fun p => (π p.1, f p.2))

section Injective

variable {π : κ → κ} (hπ : Function.Injective π) (f : ν → ν')
include hπ

theorem distinct_mapKeys (m : Std.ExtTreeMap κ ν) :
    (m.toList.map fun p => (π p.1, f p.2)).Pairwise fun a b => ¬ compare a.1 b.1 = .eq := by
  refine List.pairwise_map.2 (m.distinct_keys_toList.imp ?_)
  intro a b hab h
  rw [hπ (Std.LawfulEqOrd.eq_of_compare h)] at hab
  exact hab Std.ReflCmp.compare_self

theorem getElem?_mapKeys_eq_some [DecidableEq κ] {k' : κ} {v' : ν'} :
    (mapKeys π f m)[k']? = some v' ↔ ∃ k v, m[k]? = some v ∧ π k = k' ∧ f v = v' := by
  constructor
  · intro h
    obtain ⟨⟨k, v⟩, hp, heq⟩ := List.mem_map.1 (mem_of_getElem?_ofList h)
    obtain ⟨hk, hv⟩ := Prod.mk.inj heq
    exact ⟨k, v, Std.ExtTreeMap.mem_toList_iff_getElem?_eq_some.1 hp, hk, hv⟩
  · rintro ⟨k, v, hk, rfl, rfl⟩
    exact Std.ExtTreeMap.getElem?_ofList_of_mem Std.ReflCmp.compare_self (distinct_mapKeys hπ f m)
      (List.mem_map.2 ⟨(k, v), Std.ExtTreeMap.mem_toList_iff_getElem?_eq_some.2 hk, rfl⟩)

theorem size_mapKeys : (mapKeys π f m).size = m.size := by
  rw [mapKeys, Std.ExtTreeMap.size_ofList (distinct_mapKeys hπ f m), List.length_map, Std.ExtTreeMap.length_toList]

end Injective

/-! ## The first entry -/

/-- The first value is the one under the least key. -/
theorem head?_values_eq_some : (m.toList.map (·.2)).head? = some v ↔
    ∃ k : κ, m[k]? = some v ∧ ∀ (k' : κ) (v' : ν), m[k']? = some v' → (compare k k').isLE := by
  have hordered := m.ordered_keys_toList
  simp only [← Std.ExtTreeMap.mem_toList_iff_getElem?_eq_some]
  cases hl : m.toList with
  | nil => simp
  | cons p l =>
    rw [hl, List.pairwise_cons] at hordered
    have hle : ∀ k' v', (k', v') ∈ p :: l → (compare p.1 k').isLE := by
      intro k' v' h
      rcases List.mem_cons.1 h with rfl | h
      · exact Std.ReflOrd.isLE_rfl
      · rw [hordered.1 _ h]
        rfl
    rw [List.map_cons, List.head?_cons, Option.some.injEq]
    constructor
    · rintro rfl
      exact ⟨p.1, List.mem_cons_self, hle⟩
    · rintro ⟨k, hk, hmin⟩
      -- the least key is the first one
      have hkp : k = p.1 :=
        Std.LawfulEqOrd.eq_of_compare
          (Std.OrientedCmp.isLE_antisymm (hmin p.1 p.2 List.mem_cons_self) (hle k v hk))
      subst hkp
      rcases List.mem_cons.1 hk with heq | hk
      · rw [← heq]
      · have hlt : compare p.1 p.1 = .lt := hordered.1 (p.1, v) hk
        simp at hlt

theorem exists_head?_values (h : m[k]? = some v) : ∃ v', (m.toList.map (·.2)).head? = some v' := by
  rw [← Std.ExtTreeMap.mem_toList_iff_getElem?_eq_some] at h
  cases hl : m.toList with
  | nil =>
    rw [hl] at h
    cases h
  | cons p l => exact ⟨p.2, rfl⟩

/-- Every entry is the first one under some renaming of the keys. -/
theorem exists_first_mapKeys [DecidableEq κ] (h : m[k]? = some v) : ∃ π : κ → κ, Function.Injective π ∧
    ∀ f : ν → ν', ((mapKeys π f m).toList.map (·.2)).head? = some (f v) := by
  obtain ⟨v₀, hv₀⟩ := exists_head?_values h
  obtain ⟨k₀, hk₀, hmin⟩ := head?_values_eq_some.1 hv₀
  -- the key and the least one change places
  refine ⟨Equiv.swap k₀ k, (Equiv.swap k₀ k).injective, fun f => head?_values_eq_some.2 ⟨k₀, ?_, ?_⟩⟩
  · rw [getElem?_mapKeys_eq_some (Equiv.swap k₀ k).injective]
    exact ⟨k, v, h, Equiv.swap_apply_right k₀ k, rfl⟩
  · intro k' v' hk'
    rw [getElem?_mapKeys_eq_some (Equiv.swap k₀ k).injective] at hk'
    obtain ⟨k₁, v₁, hk₁, rfl, -⟩ := hk'
    rw [Equiv.swap_apply_def]
    split
    · exact hmin k v h
    · split
      · exact Std.ReflOrd.isLE_rfl
      · exact hmin k₁ v₁ hk₁

end Lib
