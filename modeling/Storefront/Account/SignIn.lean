import Storefront.Account.Command
import Storefront.Account.Plan

namespace Storefront.Account

open Password (Clear)

/-- The data of an account that is going to be opened. -/
structure Opening where
  name : DisplayName
  email : Email
  password : Clear

def allRequired : Refusal := .validation "All fields are required"

/-- Holds a registration against the rules.  The password is taken with its blanks. -/
def Registration.check (P : Primitives) (r : Registration) : Except Refusal Opening :=
  match nonBlank r.name, nonBlank r.email, unlessBlank r.password with
  | some name, some email, some password =>
    if r.confirm.all (· == password) then do
      .ok ⟨← nameOf name, ← emailOf P email, ← passwordOf P password⟩
    else .error (.validation "register.passwordMismatch")
  | _, _, _ => .error allRequired

/-- A user as it is first stored. -/
def Opening.user (P : Primitives) (s : Settings) (d : Draws) (o : Opening) (role : Role)
    (now : Instant) : User :=
  .new d.id o.name o.email (o.password.hash P s.pepper d.salt) role now

/-- Opens an account for a customer, who is signed in at once. -/
def register (P : Primitives) (s : Settings) (d : Draws) (r : Registration) : Plan Outcome := do
  let o ← Plan.ofExcept (r.check P)
  let (now, taken) ← Plan.existsByEmail o.email
  if taken then Plan.refuse .emailInUse
  else do
    let u := o.user P s d .user now
    let (now, _) ← Plan.create u
    pure (.registered u (s.keys.issuePair P u.subject now))

/-- Address and password of somebody who signs in.  An address that is none belongs to nobody. -/
def Credentials.check (P : Primitives) (c : Credentials) : Except Refusal (Email × Clear) :=
  match nonBlank c.email, c.password.filter fun p => !p.isEmpty with
  | some email, some password =>
    match Email.parse P email with
    | .ok e => .ok (e, .forVerification P password)
    | .error _ => .error .invalidCredentials
  | _, _ => .error (.validation "Email and password are required")

def login (P : Primitives) (s : Settings) (c : Credentials) : Plan Outcome := do
  let (email, password) ← Plan.ofExcept (c.check P)
  let (now, found) ← Plan.findByEmail email
  let u ← Plan.orRefuse found .invalidCredentials
  if u.password.verify P password s.pepper then
    pure (.signedIn u (s.keys.issuePair P u.subject now))
  else Plan.refuse .invalidCredentials

/-- The user a refresh token was issued to. -/
def refreshOwner (P : Primitives) (s : Settings) (token : Option String) (now : Instant) :
    Except Refusal UserId :=
  match token with
  | none => .error .missingRefreshToken
  | some t =>
    match s.keys.verify P .refresh t now with
    | .error _ => .error .invalidRefreshToken
    | .ok claims =>
      match Uuid.ofPadded? claims.subject.id with
      | some id => .ok id
      | none => .error .invalidRefreshToken

/-- A new access token for the user as it is stored now. -/
def refresh (P : Primitives) (s : Settings) (now : Instant) (token : Option String) :
    Plan Outcome := do
  let id ← Plan.ofExcept (refreshOwner P s token now)
  let (now, found) ← Plan.findById id
  let u ← Plan.orRefuse found .invalidRefreshToken
  pure (.refreshed (s.keys.issue P .access u.subject now))

end Storefront.Account
