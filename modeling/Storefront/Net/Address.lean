import Storefront.Bytes
import Storefront.Decimal.Integer
import Storefront.Text.Split

namespace Storefront

/-- An internet address.  Version 4 is four numbers with dots between them.  Version 6 is eight groups with colons,
where two colons in a row stand for one or more groups of zero and the last two groups may be written as an address of
version 4. -/
inductive Address where
  | v4 (a b c d : Nat)
  | v6 (groups : List Nat)
  deriving DecidableEq

namespace Address

/-- One to three digits, at most 255, without leading zeros. -/
def octet (s : List Char) : Option (Nat × List Char) :=
  let d := s.takeWhile fun c => '0' ≤ c && c ≤ '9'
  let n := d.foldl (fun n c => 10 * n + (c.toNat - 48)) 0
  if d.isEmpty || 3 < d.length || (d.head? == some '0' && 1 < d.length) || 255 < n then none
  else some (n, s.drop d.length)

def isHexDigit (c : Char) : Bool := (Bytes.hexValue? c).isSome

/-- One to four hexadecimal digits. -/
def group (s : List Char) : Option (Nat × List Char) :=
  let d := s.takeWhile isHexDigit
  if d.isEmpty || 4 < d.length then none
  else some (d.foldl (fun n c => 16 * n + (Bytes.hexValue? c).getD 0) 0, s.drop d.length)

def expect (c : Char) : List Char → Option (List Char)
  | d :: r => if d = c then some r else none
  | [] => none

structure Quad where
  a : Nat
  b : Nat
  c : Nat
  d : Nat

def quad (s : List Char) : Option (Quad × List Char) := do
  let (a, s) ← octet s
  let (b, s) ← octet (← expect '.' s)
  let (c, s) ← octet (← expect '.' s)
  let (d, s) ← octet (← expect '.' s)
  some (⟨a, b, c, d⟩, s)

/-- What has been read of an address of version 6: groups, and whether the last two came as an address
of version 4. -/
structure Groups where
  read : List Nat
  quad : Bool
  rest : List Char

/-- Reads as many groups as there are, at most `most`. -/
def groups : (most : Nat) → (first : Bool) → List Char → Groups
  | 0, _, s => ⟨[], false, s⟩
  | most + 1, first, s =>
    match if first then some s else expect ':' s with
    | none => ⟨[], false, s⟩
    | some r =>
      match if most = 0 then none else quad r with
      | some (q, r) => ⟨[q.a * 256 + q.b, q.c * 256 + q.d], true, r⟩
      | none =>
        match group r with
        | none => ⟨[], false, s⟩
        | some (g, r) =>
          let more := groups most false r
          ⟨g :: more.read, more.quad, more.rest⟩

/-- The eight groups of an address of version 6. -/
def sixteen (s : List Char) : Option (List Nat × List Char) :=
  let head := groups 8 true s
  if head.read.length = 8 then some (head.read, head.rest)
  else if head.quad then none
  else do
    let r ← expect ':' (← expect ':' head.rest)
    let tail := groups (7 - head.read.length) true r
    let zeros := List.replicate (8 - head.read.length - tail.read.length) 0
    some (head.read ++ zeros ++ tail.read, tail.rest)

/-- Reads an address of either version, and nothing else. -/
def ofChars? (s : List Char) : Option Address :=
  match quad s with
  | some (q, r) => if r.isEmpty then some (.v4 q.a q.b q.c q.d) else none
  | none => do
    let (gs, r) ← sixteen s
    if r.isEmpty then some (.v6 gs) else none

/-- The address of a peer that is given with its port; version 6 stands in brackets. -/
def ofPeer? (s : List Char) : Option Address :=
  match s with
  | '[' :: r => do
    let (inside, _) ← Text.cut? ']' r
    ofChars? inside
  | _ => do
    let (host, _) ← Text.cut? ':' s
    ofChars? host

/-- A run of groups of zero: where it starts and how long it is. -/
structure Run where
  start : Nat
  length : Nat

/-- The longest run of zeros, the first of several; `current` is the run that ends here. -/
def longestRun (index : Nat) (current longest : Run) : List Nat → Run
  | [] => longest
  | g :: r =>
    if g = 0 then
      let current := if current.length = 0 then ⟨index, 1⟩ else ⟨current.start, current.length + 1⟩
      let longest := if longest.length < current.length then current else longest
      longestRun (index + 1) current longest r
    else longestRun (index + 1) ⟨0, 0⟩ longest r

def hexText (n : Nat) : List Char := Nat.toDigits 16 n

def colonSeparated (gs : List Nat) : List Char := Text.joined ':' (gs.map hexText)

def quadText (a b c d : Nat) : List Char :=
  Text.joined '.' ([a, b, c, d].map Decimal.naturalDigits)

/-- The last two groups of an address of version 4 that is mapped into version 6. -/
def mapped? (gs : List Nat) : Option (Nat × Nat) :=
  match gs.drop 6 with
  | [x, y] => if gs.take 6 = [0, 0, 0, 0, 0, 0xffff] then some (x, y) else none
  | _ => none

/-- An address of version 4 that is mapped into version 6 keeps its dots; else the longest run of two
or more zero groups is left out. -/
def groupsText (gs : List Nat) : List Char :=
  match mapped? gs with
  | some (x, y) => "::ffff:".toList ++ quadText (x / 256) (x % 256) (y / 256) (y % 256)
  | none =>
    let z := longestRun 0 ⟨0, 0⟩ ⟨0, 0⟩ gs
    if 1 < z.length then
      colonSeparated (gs.take z.start) ++ ':' :: ':' :: colonSeparated (gs.drop (z.start + z.length))
    else colonSeparated gs

def chars : Address → List Char
  | .v4 a b c d => quadText a b c d
  | .v6 gs => groupsText gs

def text (a : Address) : String := String.ofList a.chars

end Address
end Storefront
