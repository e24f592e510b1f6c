import Storefront.Account.Refusal
import Storefront.Account.Role
import Storefront.Http.Message
import Storefront.Text.Blank
import Storefront.Text.Split
import Storefront.Token
import Storefront.Uuid

namespace Storefront.Account

/-- Somebody who calls.  Callers are known by an access token alone, and are what the token says until it expires. -/
structure Caller where
  id : UserId
  email : String
  role : Role
  deriving DecidableEq

/-- The token behind the scheme `Bearer`, which may be written in upper or lower case. -/
def bearerToken? (h : Http.Headers) : Option String := do
  let (scheme, token) ← Text.cut? ' ' (← h.text? "authorization")
  let token := Text.trim token
  if scheme.map Char.toLower = "bearer".toList ∧ token ≠ [] then some (String.ofList token) else none

def Caller.ofClaims? (c : Token.Claims) : Option Caller := do
  some ⟨← Uuid.ofPadded? c.subject.id, c.subject.email, ← Role.ofCode? c.subject.role⟩

/-- Whom the headers of a request identify. -/
def Caller.ofHeaders (P : Primitives) (k : Token.Keys) (h : Http.Headers) (now : Instant) :
    Except Refusal Caller :=
  match bearerToken? h with
  | none => .error .missingAccessToken
  | some t =>
    match k.verify P .access t now with
    | .error _ => .error .invalidAccessToken
    | .ok claims =>
      match Caller.ofClaims? claims with
      | some c => .ok c
      | none => .error .invalidAccessToken

/-- Lets callers of some roles go on. -/
def requireRole (roles : List Role) (caller : Option Caller) : Except Refusal Caller :=
  match caller with
  | none => .error .unauthorized
  | some c => if roles.contains c.role then .ok c else .error .accessDenied

end Storefront.Account
