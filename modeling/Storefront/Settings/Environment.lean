import Storefront.Decimal.Integer
import Storefront.Text.Blank
import Storefront.Text.Split

namespace Storefront

/-- Named variables.  A variable that is blank counts as not set, and blanks around a value do not matter. -/
abbrev Environment := List (String × String)

namespace Environment

/-- The value of a variable that is set and not blank. -/
def get? (e : Environment) (name : String) : Option String :=
  match e.find? fun p => p.1 == name with
  | none => none
  | some (_, v) => let t := Text.trim v.toList; if t.isEmpty then none else some (String.ofList t)

def getD (e : Environment) (name fallback : String) : String := (e.get? name).getD fallback

/-- A value that cannot be read is treated as if it were not set. -/
def parsed {α : Type} (e : Environment) (read : List Char → Option α) (name : String) (fallback : α) :
    α :=
  match e.get? name with
  | none => fallback
  | some v => (read v.toList).getD fallback

/-- The words that switch something on, in upper or lower case. -/
def flag (e : Environment) (name : String) : Bool :=
  match e.get? name with
  | none => false
  | some v =>
    let word := String.ofList (v.toList.map Char.toLower)
    word == "1" || word == "true" || word == "yes" || word == "on"

def bool? (s : List Char) : Option Bool :=
  if s = "true".toList then some true else if s = "false".toList then some false else none

/-- The parts of a list with commas that are not blank, without the blanks around them. -/
def list (s : String) : List String :=
  (((Text.parts ',' s.toList).map Text.trim).filter fun p => !p.isEmpty).map String.ofList

end Environment
end Storefront
