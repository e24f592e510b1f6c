namespace Storefront

/-- Octet strings are lists, so that a format is a function on a list. -/
abbrev Bytes := List UInt8

namespace Bytes

/-- The bytes of a text in UTF-8. -/
def ofText (s : String) : Bytes := s.toUTF8.data.toList

/-- The text these bytes spell, if they are UTF-8. -/
def toText? (b : Bytes) : Option String := String.fromUTF8? ⟨b.toArray⟩

theorem toText?_ofText (s : String) : toText? (ofText s) = some s := by
  have h : (⟨(ofText s).toArray⟩ : ByteArray) = s.toUTF8 := by simp [ofText]
  simp only [toText?, h, String.fromUTF8?]
  simp [String.toUTF8, s.isValidUTF8, String.fromUTF8]

theorem ofText_inj {s t : String} : ofText s = ofText t ↔ s = t := by
  refine ⟨?_, congrArg _⟩
  intro h
  have ht := toText?_ofText t
  rw [← h, toText?_ofText] at ht
  exact Option.some.inj ht

/-- The byte of an ASCII character. -/
def ascii (c : Char) : UInt8 := c.toNat.toUInt8

theorem toNat_ascii {c : Char} (h : c.toNat < 256) : (ascii c).toNat = c.toNat := by
  simp only [ascii, Nat.toUInt8, UInt8.toNat_ofNat']
  omega

/-- Lower-case hexadecimal digit of a number below sixteen. -/
def hexDigit (n : Nat) : Char :=
  if n < 10 then Char.ofNat (48 + n) else Char.ofNat (87 + n)

/-- Two lower-case digits for every byte. -/
def toHex (b : Bytes) : String :=
  String.ofList (b.flatMap fun x => [hexDigit (x.toNat / 16), hexDigit (x.toNat % 16)])

/-- The value of a hexadecimal digit of either case. -/
def hexValue? (c : Char) : Option Nat :=
  if '0' ≤ c ∧ c ≤ '9' then some (c.toNat - 48)
  else if 'a' ≤ c ∧ c ≤ 'f' then some (c.toNat - 87)
  else if 'A' ≤ c ∧ c ≤ 'F' then some (c.toNat - 55)
  else none

/-- Reads two digits for every byte. -/
def ofHexDigits? : List Char → Option Bytes
  | [] => some []
  | [_] => none
  | a :: b :: r => do
    let x ← hexValue? a
    let y ← hexValue? b
    let rest ← ofHexDigits? r
    some ((16 * x + y).toUInt8 :: rest)

def ofHex? (s : String) : Option Bytes := ofHexDigits? s.toList

/-- Differences are collected over the whole length before the verdict, so that the time taken does
not tell where two secrets of one length first differ. -/
def constantTimeEq (a b : Bytes) : Bool :=
  if a.length = b.length then
    (a.zip b).foldl (fun acc p => acc ||| (p.1 ^^^ p.2)) 0 == 0
  else false

/-- The `n` lowest bytes of a number, lowest first. -/
def littleEndian : (n : Nat) → Nat → Bytes
  | 0, _ => []
  | n + 1, v => (v % 256).toUInt8 :: littleEndian n (v / 256)

/-- The `n` lowest bytes of a number, lowest last. -/
def bigEndian (n v : Nat) : Bytes := (littleEndian n v).reverse

/-- The number whose bytes these are, lowest first. -/
def ofLittleEndian : Bytes → Nat
  | [] => 0
  | b :: r => b.toNat + 256 * ofLittleEndian r

/-- Consecutive groups of `n` bytes; the last one may be shorter. -/
def groups (n : Nat) (b : Bytes) : List Bytes :=
  go b.length b
where
  go : Nat → Bytes → List Bytes
    | 0, _ => []
    | _, [] => []
    | fuel + 1, b => b.take n :: go fuel (b.drop n)

theorem littleEndian_length (n v : Nat) : (littleEndian n v).length = n := by
  induction n generalizing v with
  | zero => rfl
  | succ n ih => simp [littleEndian, ih]

theorem bigEndian_length (n v : Nat) : (bigEndian n v).length = n := by
  simp [bigEndian, littleEndian_length]

end Bytes
end Storefront
