namespace Storefront

/-- A finite map as a list of pairs, with at most one pair for a key.  `get?` is the view; each operation has one
equation through it. -/
abbrev Keyed (κ ν : Type) := List (κ × ν)

namespace Keyed

variable {κ ν : Type} [DecidableEq κ]

def get? (m : Keyed κ ν) (k : κ) : Option ν :=
  match m with
  | [] => none
  | (k', v) :: r => if k' = k then some v else get? r k

def remove (m : Keyed κ ν) (k : κ) : Keyed κ ν := m.filter fun p => p.1 ≠ k

/-- Stores `v` under `k` in place of what was there. -/
def put (m : Keyed κ ν) (k : κ) (v : ν) : Keyed κ ν := (k, v) :: remove m k

def values (m : Keyed κ ν) : List ν := m.map (·.2)

theorem get?_remove (m : Keyed κ ν) (k j : κ) :
    get? (remove m k) j = if j = k then none else get? m j := by
  induction m with
  | nil => simp [remove, get?]
  | cons p r ih =>
    obtain ⟨i, v⟩ := p
    by_cases hi : i = k
    · have : remove ((i, v) :: r) k = remove r k := by simp [remove, hi]
      rw [this, ih]
      by_cases hj : j = k
      · simp [hj]
      · simp [hj, get?, hi, Ne.symm hj]
    · have : remove ((i, v) :: r) k = (i, v) :: remove r k := by simp [remove, hi]
      rw [this]
      by_cases hj : i = j
      · subst hj; simp [get?, hi]
      · simp only [get?, hj, if_false, ih]

theorem get?_put (m : Keyed κ ν) (k j : κ) (v : ν) :
    get? (put m k v) j = if j = k then some v else get? m j := by
  by_cases h : j = k
  · simp [put, get?, h]
  · simp [put, get?, h, Ne.symm h, get?_remove]

/-- What is found after something was stored is that, or it was there before. -/
theorem get?_put_eq_some {m : Keyed κ ν} {k j : κ} {v w : ν} :
    get? (put m k v) j = some w ↔ (j = k ∧ w = v) ∨ (j ≠ k ∧ get? m j = some w) := by
  rw [get?_put]
  by_cases h : j = k
  · simp [h, eq_comm]
  · simp [h]

/-- What takes the place of something makes nothing new appear. -/
theorem get?_replaced {m : Keyed κ ν} {k j : κ} {v w : ν} (hk : get? m k = some v)
    (hj : get? m j = none) : get? (put m k w) j = none := by
  have hne : j ≠ k := by
    rintro rfl
    cases hj.symm.trans hk
  rw [get?_put, if_neg hne, hj]

theorem get?_of_remove {m : Keyed κ ν} {k j : κ} {w : ν} (h : get? (remove m k) j = some w) :
    get? m j = some w := by
  rw [get?_remove] at h
  split at h
  · cases h
  · exact h

theorem mem_of_get? {m : Keyed κ ν} {k : κ} {v : ν} (h : get? m k = some v) : (k, v) ∈ m := by
  induction m with
  | nil => simp [get?] at h
  | cons p r ih =>
    obtain ⟨i, w⟩ := p
    by_cases hi : i = k
    · simp only [get?, hi, if_true, Option.some.injEq] at h
      simp [hi, h]
    · simp only [get?, hi, if_false] at h
      exact List.mem_cons_of_mem _ (ih h)

end Keyed
end Storefront
