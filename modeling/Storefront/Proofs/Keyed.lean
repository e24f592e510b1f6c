import Storefront.Keyed

namespace Storefront

/-- What stands in a list at some position stood there before the last element was added, or is this element. -/
theorem getElem?_concat {α : Type} {l : List α} {i : Nat} {x y : α} (h : (l ++ [x])[i]? = some y) :
    l[i]? = some y ∨ (i = l.length ∧ y = x) := by
  rcases Nat.lt_trichotomy i l.length with hl | rfl | hl
  · rw [List.getElem?_append_left hl] at h
    exact .inl h
  · rw [List.getElem?_concat_length] at h
    exact .inr ⟨rfl, (Option.some.inj h).symm⟩
  · rw [List.getElem?_eq_none (by simpa using Nat.succ_le_of_lt hl)] at h
    cases h

namespace Keyed

variable {κ ν : Type} [DecidableEq κ]

theorem mem_remove {m : Keyed κ ν} {k : κ} {p : κ × ν} : p ∈ remove m k ↔ p ∈ m ∧ p.1 ≠ k := by
  simp [remove]

theorem mem_put {m : Keyed κ ν} {k : κ} {v : ν} {p : κ × ν} :
    p ∈ put m k v ↔ p = (k, v) ∨ (p ∈ m ∧ p.1 ≠ k) := by
  simp [put, mem_remove]

theorem get?_eq_none {m : Keyed κ ν} {k : κ} : m.get? k = none ↔ ∀ p ∈ m, p.1 ≠ k := by
  induction m with
  | nil => simp [get?]
  | cons p r ih =>
    by_cases h : p.1 = k
    · simp [get?, h]
    · simp [get?, h, ih]

theorem remove_absent {m : Keyed κ ν} {k : κ} (h : m.get? k = none) : m.remove k = m := by
  apply List.filter_eq_self.mpr
  intro p hp
  simpa using get?_eq_none.mp h p hp

/-- No key stands in front of two values. -/
def Distinct (m : Keyed κ ν) : Prop := m.Pairwise fun p q => p.1 ≠ q.1

omit [DecidableEq κ] in
theorem Distinct.filter {m : Keyed κ ν} (h : m.Distinct) (p : κ × ν → Bool) :
    Distinct (m.filter p) := List.Pairwise.filter _ h

theorem Distinct.remove {m : Keyed κ ν} (h : m.Distinct) (k : κ) : (m.remove k).Distinct :=
  h.filter _

theorem Distinct.put {m : Keyed κ ν} (h : m.Distinct) (k : κ) (v : ν) : (m.put k v).Distinct := by
  refine List.pairwise_cons.mpr ⟨?_, h.remove k⟩
  intro p hp
  exact Ne.symm (mem_remove.mp hp).2

theorem Distinct.get?_eq {m : Keyed κ ν} (h : m.Distinct) {k : κ} {v : ν} :
    m.get? k = some v ↔ (k, v) ∈ m := by
  refine ⟨mem_of_get?, ?_⟩
  intro hm
  induction m with
  | nil => cases hm
  | cons p r ih =>
    obtain ⟨hp, hr⟩ := List.pairwise_cons.mp h
    rcases List.mem_cons.mp hm with rfl | hm
    · simp [get?]
    · simp [get?, hp _ hm, ih hr hm]

/-- What is left of a map is found under its key if it was found there before. -/
theorem Distinct.get?_filter {m : Keyed κ ν} (h : m.Distinct) (p : κ × ν → Bool) (k : κ) :
    get? (m.filter p) k = (m.get? k).filter fun v => p (k, v) := by
  apply Option.ext
  intro v
  rw [(h.filter p).get?_eq, Option.filter_eq_some_iff, h.get?_eq]
  exact List.mem_filter

omit [DecidableEq κ] in
theorem Distinct.of_perm {m m' : Keyed κ ν} (h : m.Distinct) (hp : m'.Perm m) : m'.Distinct :=
  hp.symm.pairwise h fun hn => Ne.symm hn

/-- Maps with the same pairs answer alike, in whatever order the pairs stand. -/
theorem Distinct.get?_perm {m m' : Keyed κ ν} (h : m.Distinct) (hp : m'.Perm m) (k : κ) :
    m'.get? k = m.get? k := by
  apply Option.ext
  intro v
  rw [(h.of_perm hp).get?_eq, h.get?_eq]
  exact hp.mem_iff

/-- Each value stands under its own key, and no key in front of two values. -/
structure Own (key : ν → κ) (m : Keyed κ ν) : Prop where
  distinct : m.Distinct
  own : ∀ p ∈ m, key p.2 = p.1

namespace Own

variable {key : ν → κ} {m m' : Keyed κ ν} {k : κ} {v : ν}

theorem key_of_get? (h : m.Own key) (hg : m.get? k = some v) : key v = k := h.own _ (mem_of_get? hg)

theorem mem_values (h : m.Own key) : v ∈ m.values ↔ m.get? (key v) = some v := by
  rw [h.distinct.get?_eq]
  constructor
  · intro hm
    obtain ⟨⟨k, w⟩, hp, rfl⟩ := List.mem_map.mp hm
    have hk : key w = k := h.own _ hp
    subst hk
    exact hp
  · intro hm
    exact List.mem_map.mpr ⟨_, hm, rfl⟩

omit [DecidableEq κ] in
theorem nodup_keys (h : m.Own key) : (m.values.map key).Nodup := by
  have hk : m.values.map key = m.map (·.1) := by
    rw [values, List.map_map]
    exact List.map_congr_left h.own
  rw [hk]
  exact List.pairwise_map.mpr h.distinct

theorem put (h : m.Own key) (hk : key v = k) : (m.put k v).Own key := by
  refine ⟨h.distinct.put _ _, ?_⟩
  intro p hp
  rcases mem_put.mp hp with rfl | ⟨hm, _⟩
  · exact hk
  · exact h.own p hm

omit [DecidableEq κ] in
theorem filter (h : m.Own key) (p : κ × ν → Bool) : Own key (m.filter p) :=
  ⟨h.distinct.filter p, fun q hq => h.own q (List.mem_filter.mp hq).1⟩

omit [DecidableEq κ] in
theorem of_perm (h : m.Own key) (hp : m'.Perm m) : m'.Own key :=
  ⟨h.distinct.of_perm hp, fun p hm => h.own p (hp.mem_iff.mp hm)⟩

end Own

end Keyed

end Storefront
