import Storefront.Problem
import Storefront.Text.Blank

namespace Storefront.Account

/-- A name as it is shown.  Unlike addresses, names need not differ from user to user. -/
structure DisplayName where
  text : String
  deriving DecidableEq

inductive NameFault where
  | empty
  | tooLong
  | controlCharacter
  deriving DecidableEq

def DisplayName.maxLength : Nat := 100

/-- Takes a name as a user writes it. -/
def DisplayName.parse (s : String) : Except NameFault DisplayName :=
  let n := Text.trim s.toList
  if n.isEmpty then .error .empty
  else if maxLength < n.length then .error .tooLong
  else if n.any Text.isControl then .error .controlCharacter
  else .ok ⟨String.ofList n⟩

def NameFault.problem : NameFault → Problem
  | .empty => .badRequest "Name cannot be empty"
  | .tooLong =>
    .badRequest ("Name must be at most " ++ toString DisplayName.maxLength ++ " characters")
  | .controlCharacter => .badRequest "Name contains invalid characters"

end Storefront.Account
