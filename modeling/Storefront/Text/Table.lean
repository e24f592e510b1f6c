import Storefront.Bytes
import Storefront.Text.Split

namespace Storefront.Text

structure Row where
  first : Nat
  last : Nat
  image : List Nat

/-- A table is written as rows with blanks and line ends between them: `41-5A` is a row for a range, and what follows
an equals sign are the code points that belong to the first one of the range. -/
abbrev Table := Array Row

namespace Table

def hexNumber (s : List Char) : Nat := s.foldl (fun n c => 16 * n + (Bytes.hexValue? c).getD 0) 0

def row (s : List Char) : Row :=
  let (range, image) := (cut? '=' s).getD (s, [])
  let (first, last) := (cut? '-' range).getD (range, range)
  ⟨hexNumber first, hexNumber last, if image.isEmpty then [] else (parts ',' image).map hexNumber⟩

/-- Reads a table whose rows are in ascending order. -/
def read (s : String) : Table :=
  let words := (parts ' ' (s.toList.map fun c => if c = '\n' then ' ' else c)).filter fun w => !w.isEmpty
  (words.map row).toArray

/-- The row that covers `n`, among those from `low` up to but not including `high`. -/
def search (t : Table) (n low high : Nat) : Option Row :=
  if low < high then
    let mid := (low + high) / 2
    match t[mid]? with
    | none => none
    | some r =>
      if n < r.first then search t n low mid
      else if r.last < n then search t n (mid + 1) high
      else some r
  else none
termination_by high - low

def find? (t : Table) (c : Char) : Option Row := search t c.toNat 0 t.size

def covers (t : Table) (c : Char) : Bool := (t.find? c).isSome

/-- What belongs to `c`.  In a row for a range the images ascend with the code points. -/
def image? (t : Table) (c : Char) : Option (List Char) :=
  (t.find? c).map fun r => match r.image with
    | [n] => [Char.ofNat (n + (c.toNat - r.first))]
    | ns => ns.map Char.ofNat

/-- The one number that every code point of the row of `c` has. -/
def number? (t : Table) (c : Char) : Option Nat := (t.find? c).bind fun r => r.image.head?

end Table
end Storefront.Text
