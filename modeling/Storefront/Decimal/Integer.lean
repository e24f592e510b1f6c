namespace Storefront.Decimal

def digitValue? (c : Char) : Option Nat :=
  if '0' ≤ c ∧ c ≤ '9' then some (c.toNat - 48) else none

/-- The number written with these digits after the digits of `acc`. -/
def digitsFrom? (acc : Nat) : List Char → Option Nat
  | [] => some acc
  | c :: r => do digitsFrom? (10 * acc + (← digitValue? c)) r

/-- One or more decimal digits. -/
def natural? : List Char → Option Nat
  | [] => none
  | s => digitsFrom? 0 s

/-- A number from zero to `most`; a plus sign may stand in front. -/
def unsigned? (most : Nat) (s : List Char) : Option Nat := do
  let digits := match s with
    | '+' :: r => r
    | _ => s
  let n ← natural? digits
  if n ≤ most then some n else none

/-- A number from `least` to `most`; a sign may stand in front. -/
def signed? (least most : Int) (s : List Char) : Option Int := do
  let n ← match s with
    | '-' :: r => (natural? r).map fun n => -(n : Int)
    | '+' :: r => (natural? r).map fun n => (n : Int)
    | _ => (natural? s).map fun n => (n : Int)
  if least ≤ n ∧ n ≤ most then some n else none

/-- The digits of a number, highest first, without leading zeros. -/
def naturalDigits (n : Nat) : List Char := Nat.toDigits 10 n

/-- The last `width` digits or all of them, filled up with zeros in front. -/
def padded (width n : Nat) : List Char :=
  let d := naturalDigits n
  List.replicate (width - d.length) '0' ++ d

def integerDigits (n : Int) : List Char :=
  if n < 0 then '-' :: naturalDigits n.natAbs else naturalDigits n.natAbs

/-- The number of 64 bits in two's complement that agrees with `n` in its lowest 64 bits. -/
def wrap64 (n : Int) : Int := n.bmod 0x10000000000000000

def most16 : Nat := 0xffff

def most32 : Nat := 0xffffffff

def most64 : Nat := 0xffffffffffffffff

/-- The bounds of whole numbers with a sign. -/
def leastSigned32 : Int := -0x80000000

def mostSigned32 : Int := 0x7fffffff

def leastSigned64 : Int := -0x8000000000000000

def mostSigned64 : Int := 0x7fffffffffffffff

end Storefront.Decimal
