import Storefront.Bytes
import Storefront.Decimal.Shortest

namespace Storefront.Json

inductive Value where
  | null
  | bool (b : Bool)
  | int (n : Int)
  | float (x : Float)
  | text (s : String)
  | array (items : List Value)
  | object (members : List (String × Value))

/-- Quotation mark, backslash and controls; five controls have a letter of their own. -/
def escapeByte (b : UInt8) : Bytes :=
  let hex (n : Nat) : UInt8 := Bytes.ascii (Bytes.hexDigit n)
  if b = 0x22 then [0x5c, 0x22]
  else if b = 0x5c then [0x5c, 0x5c]
  else if b = 0x08 then [0x5c, 0x62]
  else if b = 0x0c then [0x5c, 0x66]
  else if b = 0x0a then [0x5c, 0x6e]
  else if b = 0x0d then [0x5c, 0x72]
  else if b = 0x09 then [0x5c, 0x74]
  else if b < 0x20 then [0x5c, 0x75, 0x30, 0x30, hex (b.toNat / 16), hex (b.toNat % 16)]
  else [b]

def textBytes (s : String) : Bytes := 0x22 :: (Bytes.ofText s).flatMap escapeByte ++ [0x22]

/-- Parts with commas between them. -/
def commaSeparated : List Bytes → Bytes
  | [] => []
  | [p] => p
  | p :: ps => p ++ 0x2c :: commaSeparated ps

def asciiBytes (s : List Char) : Bytes := s.map Bytes.ascii

mutual

/-- The compact text of a value: members in their own order, no blanks, and escapes only where JSON asks for them. -/
def Value.bytes : Value → Bytes
  | .null => asciiBytes ['n', 'u', 'l', 'l']
  | .bool true => asciiBytes ['t', 'r', 'u', 'e']
  | .bool false => asciiBytes ['f', 'a', 'l', 's', 'e']
  | .int n => asciiBytes (Decimal.integerDigits n)
  | .float x => asciiBytes (if x.isFinite then Decimal.floatText x else ['n', 'u', 'l', 'l'])
  | .text s => textBytes s
  | .array items => 0x5b :: commaSeparated (itemBytes items) ++ [0x5d]
  | .object members => 0x7b :: commaSeparated (memberBytes members) ++ [0x7d]

def itemBytes : List Value → List Bytes
  | [] => []
  | v :: r => v.bytes :: itemBytes r

def memberBytes : List (String × Value) → List Bytes
  | [] => []
  | (k, v) :: r => (textBytes k ++ 0x3a :: v.bytes) :: memberBytes r

end

def Value.optText : Option String → Value
  | some s => .text s
  | none => .null

end Storefront.Json
