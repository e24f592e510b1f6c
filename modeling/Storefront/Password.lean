import Storefront.Primitives
import Storefront.Text.Blank

namespace Storefront.Password

inductive CharacterClass where
  | lowercase
  | uppercase
  | digit
  | special
  deriving DecidableEq

def CharacterClass.name : CharacterClass → String
  | .lowercase => "Lowercase"
  | .uppercase => "Uppercase"
  | .digit => "Digit"
  | .special => "Special"

def CharacterClass.told : CharacterClass → String
  | .lowercase => "a lowercase letter"
  | .uppercase => "an uppercase letter"
  | .digit => "a digit"
  | .special => "a special character"

inductive Violation where
  | tooShort (actual : Nat)
  | tooLong (actual : Nat)
  | blank
  | controlCharacter
  | missing (c : CharacterClass)
  | common
  deriving DecidableEq

/-- The violation in one word, with the class that is missing. -/
def Violation.name : Violation → String
  | .tooShort _ => "TooShort"
  | .tooLong _ => "TooLong"
  | .blank => "EmptyOrWhitespace"
  | .controlCharacter => "InvalidCharacter"
  | .missing c => "MissingCharacterClass(" ++ c.name ++ ")"
  | .common => "CommonPattern"

def minLength : Nat := 8

def maxLength : Nat := 128

def Violation.message : Violation → String
  | .tooShort n =>
    "Password must be at least " ++ toString minLength ++ " characters (got " ++ toString n ++ ")"
  | .tooLong n =>
    "Password must be at most " ++ toString maxLength ++ " characters (got " ++ toString n ++ ")"
  | .blank => "Password cannot be empty or contain only whitespace"
  | .controlCharacter => "Password contains invalid control characters"
  | .missing c => "Password must contain " ++ c.told
  | .common => "Password is too common or follows a predictable pattern"

def specials : List Char :=
  ['!', '@', '#', '$', '%', '^', '&', '*', '(', ')', '_', '+', '-', '=', '\x7b', '\x7d', '[', ']',
   '|', ':', ';', '"', '\'', '<', '>', ',', '.', '?', '/']

def isSpecial (c : Char) : Bool := specials.contains c

def isDigit (c : Char) : Bool := '0' ≤ c && c ≤ '9'

/-- The first class of which a password has no character. -/
def missingClass (p : List Char) : Option CharacterClass :=
  if !p.any Text.Case.isLower then some .lowercase
  else if !p.any Text.Case.isUpper then some .uppercase
  else if !p.any isDigit then some .digit
  else if !p.any isSpecial then some .special
  else none

def keyboardPatterns : List (List Char) :=
  ["qwerty".toList, "asdfgh".toList, "zxcvbn".toList, "qazwsx".toList, "1qaz2wsx".toList]

def commonPasswords : List (List Char) :=
  ["password".toList, "password1".toList, "password12".toList, "password123".toList,
   "letmein".toList, "welcome1".toList, "welcome123".toList, "admin123".toList, "iloveyou1".toList,
   "trustno1".toList]

/-- One character over and over. -/
def isRepetition : List Char → Bool
  | [] => false
  | c :: r => r.all (· == c)

/-- Each number follows the one before it, and nine is followed by zero. -/
def ascends : List Nat → Bool
  | a :: b :: r => (b == a + 1 || (a == 9 && b == 0)) && ascends (b :: r)
  | _ => true

def descends : List Nat → Bool
  | a :: b :: r => (a == b + 1 || (a == 0 && b == 9)) && descends (b :: r)
  | _ => true

/-- Four or more digits, and nothing else, in ascending or descending order. -/
def isSequence (p : List Char) : Bool :=
  let numbers := p.map fun c => c.toNat - 48
  4 ≤ p.length && p.all isDigit && (ascends numbers || descends numbers)

/-- Whether a password in lower case follows a pattern; well-known passwords are recognised with special
characters strewn in. -/
def isCommon (p : List Char) : Bool :=
  isRepetition p || isSequence p || keyboardPatterns.any (fun k => Text.occurs k p)
    || commonPasswords.contains (p.filter fun c => !isSpecial c)

/-- A password in its normal form.  The policy is for new ones alone, so that a stricter one locks nobody out. -/
structure Clear where
  chars : List Char
  deriving DecidableEq

def refusedControl (c : Char) : Bool := Text.isControl c && c != '\t' && c != '\n'

/-- Holds a new password in normal form against the policy. -/
def violation? (P : Primitives) (n : List Char) : Option Violation :=
  if (Text.trim n).isEmpty then some .blank
  else if n.length < minLength then some (.tooShort n.length)
  else if maxLength < n.length then some (.tooLong n.length)
  else if n.any refusedControl then some .controlCharacter
  else match missingClass n with
    | some c => some (.missing c)
    | none => if isCommon (P.lower n) then some .common else none

/-- Takes a new password. -/
def Clear.new? (P : Primitives) (raw : String) : Except Violation Clear :=
  let n := P.normal raw.toList
  match violation? P n with
  | some v => .error v
  | none => .ok ⟨n⟩

/-- Takes a password that is only going to be compared. -/
def Clear.forVerification (P : Primitives) (raw : String) : Clear := ⟨P.normal raw.toList⟩

/-- The bytes that are hashed: the password and the pepper behind it. -/
def Clear.bytes (c : Clear) (pepper : Option Bytes) : Bytes :=
  Bytes.ofText (String.ofList c.chars) ++ pepper.getD []

/-- All that a log shows of a password is what holds it. -/
def Clear.debugText (_ : Clear) (holder : String) : String := holder ++ "(\"[REDACTED]\")"

/-- The text of a password hash. -/
structure Hashed where
  phc : String
  deriving DecidableEq

def Clear.hash (P : Primitives) (c : Clear) (pepper : Option Bytes) (salt : Bytes) : Hashed :=
  ⟨P.hashPassword salt (c.bytes pepper)⟩

/-- Takes the text of a stored hash, if it has the form of one. -/
def Hashed.ofPhc? (s : String) : Option Hashed :=
  if (Phc.parse? s).isSome then some ⟨s⟩ else none

def Hashed.verify (P : Primitives) (h : Hashed) (c : Clear) (pepper : Option Bytes) : Bool :=
  P.verifyPassword h.phc (c.bytes pepper)

/-- All that a log shows of a hash is what holds it. -/
def Hashed.debugText (_ : Hashed) (holder : String) : String :=
  holder ++ " \x7b hash: \"[HASH]\" \x7d"

def Hashed.outdated (h : Hashed) : Bool := Phc.outdated h.phc

end Storefront.Password
