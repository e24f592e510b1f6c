import Storefront.Bytes
import Storefront.Text.Blank

namespace Storefront

/-- An identifier of 128 bits, written as 32 lower-case hexadecimal digits in groups of 8, 4, 4, 4 and 12. -/
structure Uuid where
  bits : BitVec 128
  deriving DecidableEq

namespace Uuid

instance : Inhabited Uuid := ⟨⟨0#128⟩⟩

def ofNat (n : Nat) : Uuid := ⟨.ofNat 128 n⟩

/-- The `width` lowest hexadecimal digits of a number, highest first. -/
def hexDigits : (width : Nat) → Nat → List Char
  | 0, _ => []
  | width + 1, n => hexDigits width (n / 16) ++ [Bytes.hexDigit (n % 16)]

/-- The digits in groups with hyphens between them. -/
def grouped (d : List Char) : List Char :=
  d.take 8 ++ '-' :: (d.drop 8).take 4 ++ '-' :: (d.drop 12).take 4 ++ '-' :: (d.drop 16).take 4
    ++ '-' :: d.drop 20

def chars (u : Uuid) : List Char := grouped (hexDigits 32 u.bits.toNat)

def text (u : Uuid) : String := String.ofList u.chars

/-- An identifier as logs show it. -/
def debugText (u : Uuid) : String := "Id(" ++ u.text ++ ")"

/-- The number written with these digits after those of `n`. -/
def digitsFrom? (n : Nat) : List Char → Option Nat
  | [] => some n
  | c :: r => do digitsFrom? (16 * n + (← Bytes.hexValue? c)) r

def ofDigits? (d : List Char) : Option Uuid :=
  if d.length = 32 then (digitsFrom? 0 d).map ofNat else none

/-- Hyphens stand in their four places and nowhere else. -/
def ofGrouped? (s : List Char) : Option Uuid :=
  if s.length = 36 ∧ s[8]? = some '-' ∧ s[13]? = some '-' ∧ s[18]? = some '-' ∧ s[23]? = some '-' then
    ofDigits? (s.take 8 ++ (s.drop 9).take 4 ++ (s.drop 14).take 4 ++ (s.drop 19).take 4 ++ s.drop 24)
  else none

/-- Bare digits, groups, groups in braces, or groups behind the URN scheme in any case. -/
def ofChars? (s : List Char) : Option Uuid :=
  if s.length = 32 then ofDigits? s
  else if s.length = 36 then ofGrouped? s
  else if s.length = 38 then
    if s.head? = some '\x7b' ∧ s.getLast? = some '\x7d' then ofGrouped? (s.tail.dropLast) else none
  else if s.length = 45 then
    if (s.take 9).map Char.toLower = "urn:uuid:".toList then ofGrouped? (s.drop 9) else none
  else none

def ofText? (s : String) : Option Uuid := ofChars? s.toList

/-- Reads an identifier with blanks around it. -/
def ofPadded? (s : String) : Option Uuid := ofChars? (Text.trim s.toList)

/-- The thirteenth digit. -/
def version (u : Uuid) : Nat := (u.bits.extractLsb 79 76).toNat

/-- A random identifier: version 4 and the standard variant in their places. -/
def random (drawn : BitVec 128) : Uuid :=
  ⟨drawn.extractLsb 127 80 ++ 4#4 ++ drawn.extractLsb 75 64 ++ 2#2 ++ drawn.extractLsb 61 0⟩

end Uuid

/-- Identifiers of users. -/
abbrev UserId := Uuid

end Storefront
