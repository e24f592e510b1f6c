import Storefront.Bytes
import Storefront.Decimal.Shortest
import Storefront.Text.Quoted

namespace Storefront.Json

/-- What stands where something else was expected. -/
inductive Found where
  | null
  | bool (b : Bool)
  | int (n : Int)
  | float (x : Float)
  | text (s : String)
  | sequence
  | map

def Found.told : Found → String
  | .null => "null"
  | .bool true => "boolean \x60true\x60"
  | .bool false => "boolean \x60false\x60"
  | .int n => "integer \x60" ++ String.ofList (Decimal.integerDigits n) ++ "\x60"
  | .float x => "floating point \x60" ++ String.ofList (Decimal.floatText x) ++ "\x60"
  | .text s => "string " ++ Text.quoted s
  | .sequence => "sequence"
  | .map => "map"

inductive Fault where
  | expectedValue
  | expectedColon
  | expectedCommaOrBracket
  | expectedCommaOrBrace
  | expectedWord
  | keyNotText
  | trailingComma
  | trailingCharacters
  | invalidNumber
  | numberOutOfRange
  | invalidEscape
  | unfinishedHexEscape
  | loneSurrogate
  | controlCharacter
  | invalidUnicode
  | tooDeep
  | endInValue
  | endInObject
  | endInList
  | endInText
  | invalidType (found : Found) (expected : String)
  | invalidValue (found : Found) (expected : String)
  | duplicateField (name : String)

/-- A fault is in the writing, an early end, or in the data of a text that is well written. -/
inductive Category where
  | writing
  | early
  | data
  deriving DecidableEq

def Fault.category : Fault → Category
  | .endInValue | .endInObject | .endInList | .endInText => .early
  | .invalidType _ _ | .invalidValue _ _ | .duplicateField _ => .data
  | _ => .writing

def Fault.told : Fault → String
  | .expectedValue => "expected value"
  | .expectedColon => "expected \x60:\x60"
  | .expectedCommaOrBracket => "expected \x60,\x60 or \x60]\x60"
  | .expectedCommaOrBrace => "expected \x60,\x60 or \x60\x7d\x60"
  | .expectedWord => "expected ident"
  | .keyNotText => "key must be a string"
  | .trailingComma => "trailing comma"
  | .trailingCharacters => "trailing characters"
  | .invalidNumber => "invalid number"
  | .numberOutOfRange => "number out of range"
  | .invalidEscape => "invalid escape"
  | .unfinishedHexEscape => "unexpected end of hex escape"
  | .loneSurrogate => "lone leading surrogate in hex escape"
  | .controlCharacter => "control character (\\u0000-\\u001F) found while parsing a string"
  | .invalidUnicode => "invalid unicode code point"
  | .tooDeep => "recursion limit exceeded"
  | .endInValue => "EOF while parsing a value"
  | .endInObject => "EOF while parsing an object"
  | .endInList => "EOF while parsing a list"
  | .endInText => "EOF while parsing a string"
  | .invalidType found expected => "invalid type: " ++ found.told ++ ", expected " ++ expected
  | .invalidValue found expected => "invalid value: " ++ found.told ++ ", expected " ++ expected
  | .duplicateField name => "duplicate field \x60" ++ name ++ "\x60"

/-- What is wrong with a JSON text, and where it was noticed.  The place is given by the bytes that are left: what has
been read is the text without them. -/
structure Failure where
  fault : Fault
  /-- The bytes left when the fault was noticed. -/
  rest : Bytes
  /-- The bytes left where reading stopped, which may be before the byte that was noticed. -/
  left : Bytes
  /-- The field or element the fault is in. -/
  path : Option String

/-- Lines count from one; the column is the number of bytes of the line that have been read. -/
def lineAndColumn (read : Bytes) : Nat × Nat :=
  let step (place : Nat × Nat) (b : UInt8) : Nat × Nat :=
    if b = 0x0a then (place.1 + 1, 0) else (place.1, place.2 + 1)
  read.foldl step (1, 0)

/-- The fault with its place in `text`. -/
def Failure.told (f : Failure) (text : Bytes) : String :=
  let (line, column) := lineAndColumn (text.take (text.length - f.rest.length))
  f.fault.told ++ " at line " ++ toString line ++ " column " ++ toString column

/-- The same with the path in front. -/
def Failure.toldWithPath (f : Failure) (text : Bytes) : String :=
  match f.path with
  | some p => p ++ ": " ++ f.told text
  | none => f.told text

end Storefront.Json
