namespace Storefront.Text

/-- The parts between the occurrences of `sep`; there is always at least one. -/
def parts (sep : Char) : List Char → List (List Char)
  | [] => [[]]
  | c :: r =>
    if c = sep then [] :: parts sep r
    else match parts sep r with
      | [] => [[c]]
      | p :: ps => (c :: p) :: ps

/-- Undoes `parts`. -/
def joined (sep : Char) : List (List Char) → List Char
  | [] => []
  | [p] => p
  | p :: ps => p ++ sep :: joined sep ps

/-- What stands before and after the first occurrence of `sep`. -/
def cut? (sep : Char) : List Char → Option (List Char × List Char)
  | [] => none
  | c :: r => if c = sep then some ([], r) else (cut? sep r).map fun p => (c :: p.1, p.2)

theorem parts_ne_nil (sep : Char) (s : List Char) : parts sep s ≠ [] := by
  cases s with
  | nil => simp [parts]
  | cons c r => unfold parts; split <;> (try split) <;> simp

theorem joined_parts (sep : Char) (s : List Char) : joined sep (parts sep s) = s := by
  induction s with
  | nil => rfl
  | cons c r ih =>
    unfold parts
    split
    · rename_i h
      subst h
      cases hp : parts c r with
      | nil => exact absurd hp (parts_ne_nil c r)
      | cons p ps => rw [hp] at ih; simp [joined, ih]
    · cases hp : parts sep r with
      | nil => exact absurd hp (parts_ne_nil sep r)
      | cons p ps =>
        rw [hp] at ih
        cases ps with
        | nil => simpa [joined] using ih
        | cons q qs => simpa [joined] using ih

theorem cut?_eq_some {sep : Char} {s a b : List Char} (h : cut? sep s = some (a, b)) :
    s = a ++ sep :: b ∧ sep ∉ a := by
  induction s generalizing a b with
  | nil => simp [cut?] at h
  | cons c r ih =>
    unfold cut? at h
    split at h
    · rename_i hc
      obtain ⟨rfl, rfl⟩ := Prod.mk.inj (Option.some.inj h)
      simp [hc]
    · rename_i hc
      obtain ⟨⟨x, y⟩, hxy, he⟩ := Option.map_eq_some_iff.mp h
      obtain ⟨rfl, rfl⟩ := Prod.mk.inj he
      obtain ⟨hs, hn⟩ := ih hxy
      exact ⟨by simp [hs], by simp [hn, Ne.symm hc]⟩

/-- Whether `p` occurs somewhere in a text. -/
def occurs (p : List Char) : List Char → Bool
  | [] => p.isEmpty
  | c :: r => p.isPrefixOf (c :: r) || occurs p r

end Storefront.Text
