import Storefront.Account.Command
import Storefront.Account.Plan

namespace Storefront.Account

open Password (Clear)

def noProfile : Refusal := .notFound "profile.user_not_found"

def profile (who : UserId) : Plan Outcome := do
  let (_, found) ← Plan.findById who
  let u ← Plan.orRefuse found noProfile
  pure (.profile u)

/-- The address a user asks for must be free, unless it is the user's own. -/
def requireFree (u : User) (email : Option Email) (taken : Refusal) (now : Instant) :
    Plan Instant :=
  match email with
  | none => pure now
  | some e =>
    if e = u.email then pure now
    else do
      let (now, inUse) ← Plan.existsByEmail e
      if inUse then Plan.refuse taken else pure now

/-- The new name and the new address; a blank one stays as it is. -/
def ProfileChange.check (P : Primitives) (c : ProfileChange) :
    Except Refusal (Option DisplayName × Option Email) := do
  let name ← (nonBlank c.name).mapM nameOf
  let email ← (nonBlank c.email).mapM (emailOf P)
  .ok (name, email)

def profileEmailTaken : Refusal := .validation "profile.email_in_use"

def updateProfile (P : Primitives) (who : UserId) (c : ProfileChange) : Plan Outcome := do
  let (name, email) ← Plan.ofExcept (c.check P)
  let (now, found) ← Plan.findById who
  let u ← Plan.orRefuse found noProfile
  let now ← requireFree u email profileEmailTaken now
  let u := u.updateProfile name email now
  let (_, stored) ← Plan.updateUnlessTaken profileEmailTaken u
  if stored then pure (.profileUpdated u) else Plan.refuse noProfile

/-- The old password, to be compared, and the new one.  All three are taken without the blanks around
them. -/
def PasswordChange.check (P : Primitives) (c : PasswordChange) : Except Refusal (Clear × Clear) :=
  match nonBlank c.old, nonBlank c.password, nonBlank c.confirm with
  | some old, some password, some confirm =>
    if password == confirm then
      match Clear.new? P password with
      | .ok p => .ok (.forVerification P old, p)
      | .error _ => .error (.validation "changePassword.error")
    else .error (.validation "changePassword.passwordsMismatch")
  | _, _, _ => .error (.validation "changePassword.error")

def changePassword (P : Primitives) (s : Settings) (d : Draws) (who : UserId) (c : PasswordChange) :
    Plan Outcome := do
  let (old, password) ← Plan.ofExcept (c.check P)
  let (now, found) ← Plan.findById who
  let u ← Plan.orRefuse found noProfile
  if u.password.verify P old s.pepper then do
    let u := u.changePassword (password.hash P s.pepper d.salt) now
    let (_, stored) ← Plan.update u
    if stored then pure .passwordChanged else Plan.refuse noProfile
  else Plan.refuse (.validation "changePassword.oldPasswordIncorrect")

def deleteAccount (who : UserId) : Plan Outcome := do
  let (_, found) ← Plan.delete who
  if found then pure .accountDeleted else Plan.refuse noProfile

end Storefront.Account
