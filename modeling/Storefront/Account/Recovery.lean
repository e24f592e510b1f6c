import Storefront.Account.Command
import Storefront.Account.Plan

namespace Storefront.Account

open Password (Clear)

/-- Issues a reset token.  What is answered does not depend on whether the address is known, as long as there is a date
for the end of the token. -/
def forgotPassword (P : Primitives) (s : Settings) (d : Draws) (email : Option String) :
    Plan Outcome := do
  let text ← Plan.orRefuse (nonBlank email) (.validation "forgotPassword.error")
  match Email.parse P text with
  | .error _ => pure (.resetLink none)
  | .ok e => do
    let (now, found) ← Plan.findByEmail e
    match found with
    | none => pure (.resetLink none)
    | some u => do
      let u ← Plan.orRefuse (u.issueReset? P d.token s.resetLifetime now) .overflow
      let (_, stored) ← Plan.update u
      pure (.resetLink (if stored then some (s.resetLink d.token.text) else none))

/-- Holds the request against the rules.  Token and password are taken without the blanks around them,
and a blank confirmation counts as none. -/
def Reset.check (P : Primitives) (r : Reset) : Except Refusal (ResetToken × Clear) :=
  match nonBlank r.token, nonBlank r.password with
  | some token, some password =>
    if (nonBlank r.confirm).all (· == password) then
      match Clear.new? P password with
      | .ok p => .ok (⟨token⟩, p)
      | .error _ => .error (.validation "ResetPassword.error")
    else .error (.validation "ResetPassword.passwordMismatch")
  | _, _ => .error (.validation "ResetPassword.error")

/-- What is told for every token that does not work. -/
def invalidLink : Refusal := .validation "ResetPassword.invalidLink"

def resetPassword (P : Primitives) (s : Settings) (d : Draws) (r : Reset) : Plan Outcome := do
  let (token, password) ← Plan.ofExcept (r.check P)
  let (now, found) ← Plan.findByResetHash (token.hash P)
  let u ← Plan.orRefuse found invalidLink
  if u.resetMatches P token now then do
    let hashed := password.hash P s.pepper d.salt
    let (_, done) ← Plan.consumeReset u.id (token.hash P) hashed now
    if done then pure .passwordReset else Plan.refuse invalidLink
  else Plan.refuse invalidLink

end Storefront.Account
