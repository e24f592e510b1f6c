import Storefront.Decimal.Integer

namespace Storefront.Decimal

/-- A finite positive number of 64 bits: `mantissa · 2^exponent`. -/
structure Binary where
  mantissa : Nat
  exponent : Int
  /-- The number below is half as far away as the one above. -/
  lowest : Bool

/-- Reads sign, mantissa and exponent off the bits of a finite number. -/
def Binary.ofBits (bits : UInt64) : Binary :=
  let fraction := (bits &&& 0xfffffffffffff).toNat
  let e := ((bits >>> 52) &&& 0x7ff).toNat
  if e = 0 then ⟨fraction, -1074, false⟩
  else ⟨0x10000000000000 + fraction, (e : Int) - 1075, fraction == 0 && e != 1⟩

/-- A decimal `digits · 10^exponent`. -/
structure Digits where
  digits : Nat
  exponent : Int
  deriving Repr, DecidableEq

/-- Compares `a · 10^p` with `b · 2^r` exactly. -/
def compareScaled (a : Nat) (p : Int) (b : Nat) (r : Int) : Ordering :=
  compare (a * Nat.pow 10 p.toNat * Nat.pow 2 (-r).toNat)
    (b * Nat.pow 2 r.toNat * Nat.pow 10 (-p).toNat)

/-- Whether a decimal rounds to the number; the ends of the interval belong to it if the mantissa is
even. -/
def Binary.covers (b : Binary) (d : Digits) : Bool :=
  let low := 4 * b.mantissa - (if b.lowest then 1 else 2)
  let high := 4 * b.mantissa + 2
  let atLow := compareScaled d.digits d.exponent low (b.exponent - 2)
  let atHigh := compareScaled d.digits d.exponent high (b.exponent - 2)
  if b.mantissa % 2 = 0 then atLow != .lt && atHigh != .gt else atLow == .gt && atHigh == .lt

/-- The largest multiple of `10^p` that is not above the number, as a multiple. -/
def Binary.floorAt (b : Binary) (p : Int) : Nat :=
  b.mantissa * Nat.pow 2 b.exponent.toNat * Nat.pow 10 (-p).toNat
    / (Nat.pow 2 (-b.exponent).toNat * Nat.pow 10 p.toNat)

/-- The neighbours of the number on the grid of `10^p` that read back, the nearer one first. -/
def Binary.onGrid (b : Binary) (p : Int) : Option Digits :=
  let f := b.floorAt p
  let below : Digits := ⟨f, p⟩
  let above : Digits := ⟨f + 1, p⟩
  match decide (0 < f) && b.covers below, b.covers above with
  | true, false => some below
  | false, true => some above
  | false, false => none
  | true, true =>
    match compareScaled (2 * f + 1) p (2 * b.mantissa) b.exponent with
    | .lt => some above
    | .gt => some below
    | .eq => some (if f % 2 = 0 then below else above)

/-- The number of decimal places in front of the point: `10^(n-1) ≤ number < 10^n`. -/
def Binary.magnitude (b : Binary) : Int :=
  let p := b.exponent.toNat
  let n := (naturalDigits (b.mantissa * Nat.pow 2 p / Nat.pow 2 (-b.exponent).toNat)).length
  if compareScaled 1 0 b.mantissa b.exponent != .gt then n
  else
    let scaled := b.mantissa * Nat.pow 10 400 / Nat.pow 2 (-b.exponent).toNat
    ((naturalDigits scaled).length : Int) - 400

/-- The first grid that has a point which reads back. -/
def Binary.search (b : Binary) (magnitude : Int) : Nat → Nat → Digits
  | 0, _ => ⟨0, 0⟩
  | fuel + 1, places =>
    match b.onGrid (magnitude - places) with
    | some d => d
    | none => b.search magnitude fuel (places + 1)

/-- The fewest digits that read back as the number, and among those the nearest to it: a search tries the two
neighbours of the number on ever finer decimal grids.  Seventeen digits always read back. -/
def Binary.shortest (b : Binary) : Digits := b.search b.magnitude 18 1

/-- Drops zeros at the end. -/
def Digits.strip (d : Digits) : Nat → Digits
  | 0 => d
  | fuel + 1 => if d.digits % 10 = 0 ∧ d.digits ≠ 0 then strip ⟨d.digits / 10, d.exponent + 1⟩ fuel else d

/-- A point and a fraction are always written between 10^-5 and 10^16, and outside an exponent with its
sign. -/
def Digits.text (d : Digits) : List Char :=
  let ds := naturalDigits d.digits
  let n : Int := ds.length
  let point := n + d.exponent
  if 0 ≤ d.exponent ∧ point ≤ 16 then ds ++ List.replicate d.exponent.toNat '0' ++ ['.', '0']
  else if 0 < point ∧ point ≤ 16 then ds.take point.toNat ++ '.' :: ds.drop point.toNat
  else if -5 < point ∧ point ≤ 0 then '0' :: '.' :: List.replicate (-point).toNat '0' ++ ds
  else
    let e := point - 1
    let sign := if e < 0 then ['-'] else ['+']
    let fraction := if ds.length ≤ 1 then [] else '.' :: ds.drop 1
    ds.take 1 ++ fraction ++ 'e' :: sign ++ naturalDigits e.natAbs

/-- The text of a finite number. -/
def floatText (x : Float) : List Char :=
  let bits := x.toBits
  let sign := if bits >>> 63 == 1 then ['-'] else []
  let b := Binary.ofBits bits
  if b.mantissa = 0 then sign ++ ['0', '.', '0']
  else sign ++ ((b.shortest).strip 20).text

end Storefront.Decimal
