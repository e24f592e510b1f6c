import Storefront.Account.DisplayName
import Storefront.Account.Email
import Storefront.Account.ResetToken
import Storefront.Account.Role
import Storefront.Password
import Storefront.Time
import Storefront.Token
import Storefront.Uuid

namespace Storefront.Account

open Password (Hashed)

/-- A user account.  Each change of it takes the instant at which it happens. -/
structure User where
  id : UserId
  name : DisplayName
  email : Email
  password : Hashed
  role : Role
  /-- The digest of the token that may be used to reset the password. -/
  resetHash : Option String
  resetExpires : Option Instant
  lastPasswordChange : Option Instant
  passwordChangeCount : Int
  createdAt : Instant
  updatedAt : Instant
  deriving DecidableEq

namespace User

/-- The count of password changes stays at its top. -/
def maxChangeCount : Int := Decimal.mostSigned32

def new (id : UserId) (name : DisplayName) (email : Email) (password : Hashed) (role : Role)
    (now : Instant) : User :=
  ⟨id, name, email, password, role, none, none, none, 0, now, now⟩

def clearReset (u : User) : User := { u with resetHash := none, resetExpires := none }

/-- Replaces the password and makes a pending reset token useless. -/
def changePassword (u : User) (password : Hashed) (now : Instant) : User :=
  { u.clearReset with
    password := password
    lastPasswordChange := some now
    passwordChangeCount := min (u.passwordChangeCount + 1) maxChangeCount
    updatedAt := now }

/-- Starts a reset that ends `ttlMs` milliseconds later, which must be a date; an earlier token no longer works. -/
def issueReset (P : Primitives) (u : User) (t : ResetToken) (ttlMs : Int) (now : Instant) : User :=
  { u with resetHash := some (t.hash P), resetExpires := some (now + ttlMs), updatedAt := now }

/-- Starts a reset of any lifetime, or gives nothing if there is no date for its end.  Clocks tell whole milliseconds,
so that a token expires with the first one at which the lifetime is over. -/
def issueReset? (P : Primitives) (u : User) (t : ResetToken) (ttl : Duration) (now : Instant) : Option User :=
  if now.Reaches ttl then some (u.issueReset P t ttl.roundedUp now) else none

theorem issueReset?_eq_some {P : Primitives} {u v : User} {t : ResetToken} {ttl : Duration} {now : Instant} :
    u.issueReset? P t ttl now = some v ↔ now.Reaches ttl ∧ v = u.issueReset P t ttl.roundedUp now := by
  rw [issueReset?, Option.ite_none_right_eq_some, Option.some.injEq, eq_comm (a := v)]

/-- Whether a token may be used to reset the password at `now`. -/
def resetMatches (P : Primitives) (u : User) (t : ResetToken) (now : Instant) : Bool :=
  match u.resetHash, u.resetExpires with
  | some h, some e => now < e && t.matchesHash P h
  | _, _ => false

/-- Changes what is given. -/
def updateProfile (u : User) (name : Option DisplayName) (email : Option Email) (now : Instant) :
    User :=
  { u with name := name.getD u.name, email := email.getD u.email, updatedAt := now }

def setRole (u : User) (role : Role) (now : Instant) : User :=
  { u with role := role, updatedAt := now }

/-- What tokens say about a user. -/
def subject (u : User) : Token.Subject := ⟨u.id.text, u.email.text, u.role.code⟩

end User

/-- A new password that was refused, with a hint for the next try. -/
def passwordProblem (v : Password.Violation) : Problem :=
  (Problem.badRequest v.message).withAction <|
    match v with
    | .tooShort _ => "Please choose a longer password"
    | .tooLong _ => "Please choose a shorter password"
    | .blank => "Please enter a password"
    | .controlCharacter => "Please remove any control characters"
    | .missing _ => "Use upper and lower case letters, a digit and a special character"
    | .common => "Please choose a more unique password"

/-- The hash of a stored password, if it has the form of one. -/
def storedPassword (phc : String) : Except Problem Hashed :=
  match Hashed.ofPhc? phc with
  | some h => .ok h
  | none => .error ((Problem.internal "Invalid password hash in database").withCause .other)

end Storefront.Account
