import Storefront.Primitives
import Storefront.Problem
import Storefront.Text.Blank

namespace Storefront.Account

/-- An address that a user signs in with, kept without surrounding blanks and in lower case. -/
structure Email where
  text : String
  deriving DecidableEq

inductive EmailFault where
  | empty
  | tooLong
  | malformed
  deriving DecidableEq

namespace Email

/-- The most bytes an address may have, and the part in front of the at sign. -/
def maxBytes : Nat := 254

def maxLocalBytes : Nat := 64

def byteLength (s : List Char) : Nat := (String.ofList s).utf8ByteSize

def isAsciiAlphanumeric (c : Char) : Bool :=
  ('a' ≤ c && c ≤ 'z') || ('A' ≤ c && c ≤ 'Z') || ('0' ≤ c && c ≤ '9')

/-- A word of letters, digits and hyphens that has no hyphen at either end. -/
def isLabel (l : List Char) : Bool :=
  !l.isEmpty && l.head? != some '-' && l.getLast? != some '-'
    && l.all fun c => isAsciiAlphanumeric c || c == '-'

/-- Two or more labels with dots between them. -/
def isDomain (d : List Char) : Bool :=
  let labels := Text.parts '.' d
  2 ≤ labels.length && labels.all isLabel

def isLocal (l : List Char) : Bool :=
  !l.isEmpty && byteLength l ≤ maxLocalBytes && l.all fun c => !Text.isBlank c && !Text.isControl c

def isWellFormed (e : List Char) : Bool :=
  match Text.cut? '@' e with
  | none => false
  | some (l, d) => isLocal l && !d.contains '@' && isDomain d

/-- Takes an address as a user writes it. -/
def parse (P : Primitives) (s : String) : Except EmailFault Email :=
  let e := P.lower (Text.trim s.toList)
  if e.isEmpty then .error .empty
  else if maxBytes < byteLength e then .error .tooLong
  else if isWellFormed e then .ok ⟨String.ofList e⟩
  else .error .malformed

/-- What stands behind the first at sign. -/
def domain (e : Email) : String :=
  match Text.cut? '@' e.text.toList with
  | some (_, d) => String.ofList d
  | none => ""

end Email

def EmailFault.problem : EmailFault → Problem
  | .empty => .badRequest "Email cannot be empty"
  | .tooLong => .badRequest ("Email must be at most " ++ toString Email.maxBytes ++ " characters")
  | .malformed =>
    (Problem.badRequest "Invalid email format").withAction "Please enter a valid email address"

end Storefront.Account
