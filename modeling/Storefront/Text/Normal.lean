import Storefront.Text.Normal.Decompositions
import Storefront.Text.Normal.Compositions

namespace Storefront.Text.Normal

def combiningClass (c : Char) : Nat :=
  if c.toNat < 0x300 then 0 else (classes.number? c).getD 0

def isSyllable (c : Char) : Bool := 0xAC00 ≤ c.toNat && c.toNat ≤ 0xD7A3

/-- A Hangul syllable is a leading consonant, a vowel and perhaps a trailing consonant. -/
def jamo (c : Char) : List Char :=
  let n := c.toNat - 0xAC00
  let pair := [Char.ofNat (0x1100 + n / 588), Char.ofNat (0x1161 + n % 588 / 28)]
  if n % 28 = 0 then pair else pair ++ [Char.ofNat (0x11A7 + n % 28)]

def decomposed (c : Char) : List Char :=
  if c.toNat < 0xA0 then [c]
  else if isSyllable c then jamo c
  else (decompositions.image? c).getD [c]

/-- Puts a mark in front of an ordered text: it moves past marks of a lower class. -/
def insertMark (c : Char) : List Char → List Char
  | [] => [c]
  | d :: r =>
    if combiningClass c ≠ 0 ∧ combiningClass d ≠ 0 ∧ combiningClass d < combiningClass c
    then d :: insertMark c r
    else c :: d :: r

/-- Sorts every run of marks by class; marks of one class keep their order. -/
def ordered (s : List Char) : List Char := s.foldr insertMark []

def pairIn (second : Nat) : List Nat → Option Nat
  | a :: b :: r => if a = second then some b else pairIn second r
  | _ => none

/-- The character that stands for two. -/
def composite? (a b : Char) : Option Char :=
  let x := a.toNat
  let y := b.toNat
  if 0x1100 ≤ x ∧ x ≤ 0x1112 ∧ 0x1161 ≤ y ∧ y ≤ 0x1175 then
    some (Char.ofNat (0xAC00 + ((x - 0x1100) * 21 + (y - 0x1161)) * 28))
  else if isSyllable a ∧ (x - 0xAC00) % 28 = 0 ∧ 0x11A8 ≤ y ∧ y ≤ 0x11C2 then
    some (Char.ofNat (x + (y - 0x11A7)))
  else do
    let row ← compositions.find? a
    some (Char.ofNat (← pairIn y row.image))

/-- The text so far, last character first: what is finished, the last starter, and the marks after
it that did not combine with it. -/
structure Pending where
  done : List Char
  starter : Option Char
  marks : List Char

def Pending.text (p : Pending) : List Char :=
  (p.marks ++ p.starter.toList ++ p.done).reverse

/-- A mark is kept from the starter by a mark of its class or a higher one between them. -/
def Pending.blocked (p : Pending) (c : Char) : Bool :=
  match p.marks with
  | [] => false
  | m :: _ => combiningClass c ≤ combiningClass m

def Pending.add (p : Pending) (c : Char) : Pending :=
  match p.starter with
  | none => if combiningClass c = 0 then { p with starter := some c } else { p with done := c :: p.done }
  | some s =>
    match if p.blocked c then none else composite? s c with
    | some joined => { p with starter := some joined }
    | none =>
      if combiningClass c = 0 then ⟨p.marks ++ s :: p.done, some c, []⟩
      else { p with marks := c :: p.marks }

def composed (s : List Char) : List Char := (s.foldl Pending.add ⟨[], none, []⟩).text

/-- Normalization form KC: characters are taken apart, marks are put into canonical order, and what combines is put
together again. -/
def nfkc (s : List Char) : List Char := composed (ordered (s.flatMap decomposed))

end Storefront.Text.Normal
