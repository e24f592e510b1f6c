import Mathlib.Algebra.Group.Nat.Defs
import Storefront.Text.Table

namespace Storefront.Text.Table

theorem mem_of_search {t : Table} {n low high : Nat} {r : Row} (h : search t n low high = some r) :
    r ∈ t ∧ r.first ≤ n ∧ n ≤ r.last := by
  fun_induction search t n low high with
  | case1 => cases h
  | case2 low high _ mid s hs hlt ih => exact ih h
  | case3 low high _ mid s hs _ hgt ih => exact ih h
  | case4 low high _ mid s hs hge hle =>
    obtain rfl := Option.some.inj h
    exact ⟨Array.mem_of_getElem? hs, Nat.not_lt.mp hge, Nat.not_lt.mp hle⟩
  | case5 => cases h

theorem mem_of_find? {t : Table} {c : Char} {r : Row} (h : t.find? c = some r) :
    r ∈ t ∧ r.first ≤ c.toNat ∧ c.toNat ≤ r.last := mem_of_search h

/-- The rows that have been read, the latest first, and what has been read of the next one, last character first.  A
text as long as a table can only be evaluated in pieces. -/
structure Scan where
  rows : List Row
  word : List Char

namespace Scan

def close : Scan → Scan
  | ⟨rows, []⟩ => ⟨rows, []⟩
  | ⟨rows, c :: word⟩ => ⟨row (c :: word).reverse :: rows, []⟩

theorem close_nil (rows : List Row) : close ⟨rows, []⟩ = ⟨rows, []⟩ := rfl

theorem close_cons (rows : List Row) (c : Char) (word : List Char) :
    close ⟨rows, c :: word⟩ = ⟨row (c :: word).reverse :: rows, []⟩ := rfl

def step (s : Scan) (c : Char) : Scan :=
  match s with
  | ⟨rows, word⟩ => if c = ' ' ∨ c = '\n' then close ⟨rows, word⟩ else ⟨rows, c :: word⟩

/-- Reads a text in so many pieces of 256 characters and a rest. -/
def pieces : Nat → Scan → List Char → Scan
  | 0, s, l => l.foldl step s
  | n + 1, s, l => pieces n ((l.take 256).foldl step s) (l.drop 256)

theorem pieces_eq (n : Nat) (s : Scan) (l : List Char) : pieces n s l = l.foldl step s := by
  induction n generalizing s l with
  | zero => rfl
  | succ n ih => rw [pieces, ih, ← List.foldl_append, List.take_append_drop]

/-- The first of some words goes on what was read of it before. -/
def resumed (word : List Char) : List (List Char) → List (List Char)
  | [] => [word.reverse]
  | w :: ws => (word.reverse ++ w) :: ws

theorem rows_foldl (rows : List Row) (word l : List Char) :
    (l.foldl step ⟨rows, word⟩).close.rows =
      (((resumed word (parts ' ' (l.map fun c => if c = '\n' then ' ' else c))).filter
        fun w => !w.isEmpty).map row).reverse ++ rows := by
  induction l generalizing rows word with
  | nil =>
    cases word with
    | nil => rfl
    | cons c word => simp [parts, resumed, close]
  | cons c l ih =>
    obtain ⟨w, ws, hw⟩ := List.exists_cons_of_ne_nil
      (parts_ne_nil ' ' (l.map fun c => if c = '\n' then ' ' else c))
    rw [hw] at ih
    by_cases hc : c = ' ' ∨ c = '\n'
    · have hp : parts ' ' ((c :: l).map fun c => if c = '\n' then ' ' else c) = [] :: w :: ws := by
        rcases hc with rfl | rfl
        · simp [parts, hw]
        · simp [parts, hw]
      rw [hp, List.foldl_cons, step, if_pos hc]
      cases word with
      | nil => simp [close_nil, ih, resumed]
      | cons d word => simp [close_cons, ih, resumed]
    · have hs : c ≠ ' ' ∧ c ≠ '\n' := not_or.mp hc
      have hp : parts ' ' ((c :: l).map fun c => if c = '\n' then ' ' else c) = (c :: w) :: ws := by
        simp [parts, hw, hs]
      rw [hp, List.foldl_cons, step, if_neg hc, ih]
      simp [resumed]

end Scan

/-- The rows that are read in pieces, the last one first. -/
def scanned (l : List Char) : List Row := (Scan.pieces 64 ⟨[], []⟩ l).close.rows

theorem rows_read (l : List Char) : (read (String.ofList l)).toList = (scanned l).reverse := by
  obtain ⟨w, ws, hw⟩ := List.exists_cons_of_ne_nil
    (parts_ne_nil ' ' (l.map fun c => if c = '\n' then ' ' else c))
  simp [scanned, Scan.pieces_eq, Scan.rows_foldl, read, hw, Scan.resumed]

theorem mem_scanned {l : List Char} {r : Row} (h : r ∈ read (String.ofList l)) : r ∈ scanned l := by
  rw [← Array.mem_toList_iff, rows_read, List.mem_reverse] at h
  exact h

/-- The bits from `first` to `last`. -/
def span (first last : Nat) : Nat := (2 ^ (last + 1 - first) - 1) <<< first

theorem testBit_span {first last n : Nat} :
    (span first last).testBit n = true ↔ first ≤ n ∧ n ≤ last := by
  simp only [span, Nat.testBit_shiftLeft, Nat.testBit_two_pow_sub_one, Bool.and_eq_true, decide_eq_true_eq]
  omega

/-- The bits of some sets together. -/
def union (sets : List Nat) : Nat := sets.foldr (· ||| ·) 0

theorem testBit_union {sets : List Nat} {n : Nat} :
    (union sets).testBit n = true ↔ ∃ s ∈ sets, s.testBit n = true := by
  induction sets with
  | nil => simp [union]
  | cons s sets ih =>
    have hu : union (s :: sets) = s ||| union sets := rfl
    simp [hu, ih]

/-- Sets that have nothing in common. -/
theorem testBit_of_land {a b n : Nat} (h : a &&& b = 0) (ha : a.testBit n = true) : ¬b.testBit n = true := by
  intro hb
  have hn := congrArg (·.testBit n) h
  simp [ha, hb] at hn

/-- The code points that some rows cover. -/
def covered (rows : List Row) : Nat := union (rows.map fun r => span r.first r.last)

/-- The code points that belong to those of a row. -/
def imaged (r : Row) : Nat :=
  match r.image with
  | [n] => span n (n + (r.last - r.first))
  | ns => union (ns.map fun n => span n n)

/-- No row of the table covers a code point that is not in the set. -/
theorem find?_eq_none {l : List Char} {c : Char}
    (h : ¬(covered (scanned l)).testBit c.toNat = true) : (read (String.ofList l)).find? c = none := by
  rw [Option.eq_none_iff_forall_ne_some]
  intro r hr
  obtain ⟨hm, hf, hl⟩ := mem_of_find? hr
  apply h
  rw [covered, testBit_union]
  exact ⟨_, List.mem_map.mpr ⟨r, mem_scanned hm, rfl⟩, testBit_span.mpr ⟨hf, hl⟩⟩

/-- The characters that belong to a character are in the set. -/
theorem imaged_of_image? {l : List Char} {c d : Char} {ds : List Char}
    (h : (read (String.ofList l)).image? c = some ds) (hd : d ∈ ds) :
    ∃ n, d = Char.ofNat n ∧ (union ((scanned l).map imaged)).testBit n = true := by
  obtain ⟨r, hr, rfl⟩ := Option.map_eq_some_iff.mp h
  obtain ⟨hm, hf, hl⟩ := mem_of_find? hr
  suffices hs : ∃ n, d = Char.ofNat n ∧ (imaged r).testBit n = true by
    obtain ⟨n, hn, ht⟩ := hs
    exact ⟨n, hn, testBit_union.mpr ⟨_, List.mem_map.mpr ⟨r, mem_scanned hm, rfl⟩, ht⟩⟩
  have hmany {ns : List Nat} (h : d ∈ ns.map Char.ofNat) :
      ∃ n, d = Char.ofNat n ∧ (union (ns.map fun n => span n n)).testBit n = true := by
    obtain ⟨n, hn, rfl⟩ := List.mem_map.mp h
    exact ⟨n, rfl, testBit_union.mpr ⟨_, List.mem_map.mpr ⟨n, hn, rfl⟩,
      testBit_span.mpr ⟨Nat.le_refl n, Nat.le_refl n⟩⟩⟩
  rw [imaged]
  match hi : r.image with
  | [] =>
    rw [hi] at hd
    exact hmany hd
  | [n] =>
    rw [hi] at hd
    refine ⟨_, List.mem_singleton.mp hd, testBit_span.mpr ?_⟩
    omega
  | n :: m :: ns =>
    rw [hi] at hd
    exact hmany hd

end Storefront.Text.Table
