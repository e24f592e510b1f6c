import Storefront.Bytes

namespace Storefront.Base64

/-- The two digits that the alphabets disagree on. -/
structure Alphabet where
  digit62 : Char
  digit63 : Char

def standard : Alphabet := ⟨'+', '/'⟩

def url : Alphabet := ⟨'-', '_'⟩

/-- The digit of a number below 64. -/
def Alphabet.digit (a : Alphabet) (n : Nat) : Char :=
  if n < 26 then Char.ofNat (65 + n)
  else if n < 52 then Char.ofNat (71 + n)
  else if n < 62 then Char.ofNat (n - 4)
  else if n = 62 then a.digit62
  else a.digit63

/-- The number a digit stands for. -/
def Alphabet.value? (a : Alphabet) (c : Char) : Option Nat :=
  if 'A' ≤ c ∧ c ≤ 'Z' then some (c.toNat - 65)
  else if 'a' ≤ c ∧ c ≤ 'z' then some (c.toNat - 71)
  else if '0' ≤ c ∧ c ≤ '9' then some (c.toNat + 4)
  else if c = a.digit62 then some 62
  else if c = a.digit63 then some 63
  else none

/-- Three bytes make four digits; one or two bytes left over make two or three. -/
def encode (a : Alphabet) : Bytes → List Char
  | [] => []
  | [x] => [a.digit (x.toNat / 4), a.digit (x.toNat % 4 * 16)]
  | [x, y] =>
    [a.digit (x.toNat / 4), a.digit (x.toNat % 4 * 16 + y.toNat / 16), a.digit (y.toNat % 16 * 4)]
  | x :: y :: z :: r =>
    a.digit (x.toNat / 4) :: a.digit (x.toNat % 4 * 16 + y.toNat / 16)
      :: a.digit (y.toNat % 16 * 4 + z.toNat / 64) :: a.digit (z.toNat % 64) :: encode a r

/-- Takes only what encoding writes, without padding, so that the unused bits of a last digit must be zero. -/
def decode? (a : Alphabet) : List Char → Option Bytes
  | [] => some []
  | [_] => none
  | [c, d] => do
    let m ← a.value? c
    let n ← a.value? d
    if n % 16 = 0 then some [(m * 4 + n / 16).toUInt8] else none
  | [c, d, e] => do
    let m ← a.value? c
    let n ← a.value? d
    let o ← a.value? e
    if o % 4 = 0 then some [(m * 4 + n / 16).toUInt8, (n % 16 * 16 + o / 4).toUInt8] else none
  | c :: d :: e :: f :: r => do
    let m ← a.value? c
    let n ← a.value? d
    let o ← a.value? e
    let p ← a.value? f
    let rest ← decode? a r
    some ((m * 4 + n / 16).toUInt8 :: (n % 16 * 16 + o / 4).toUInt8 :: (o % 4 * 64 + p).toUInt8 :: rest)

end Storefront.Base64
