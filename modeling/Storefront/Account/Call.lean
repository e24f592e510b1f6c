import Storefront.Account.Refusal
import Storefront.Account.User

namespace Storefront.Account

open Password (Hashed)

/-- What the account service asks of the place where users are kept.  Each call is one step: nothing comes between
what it reads and what it writes. -/
inductive Call where
  /-- Adds a user whose address nobody else has. -/
  | create (u : User)
  | findById (id : UserId)
  | findByEmail (e : Email)
  | findByResetHash (hash : String)
  | existsByEmail (e : Email)
  /-- All users, oldest first. -/
  | list
  /-- Replaces the user of the same identifier, if there still is one. -/
  | update (u : User)
  /-- Changes the password of a user whose reset token has this digest and is good at `asOf`. -/
  | consumeReset (id : UserId) (hash : String) (password : Hashed) (asOf : Instant)
  | delete (id : UserId)

namespace Call

/-- What a call is answered with when it does not fail. -/
@[reducible] def Answer : Call → Type
  | .create _ => Unit
  | .findById _ => Option User
  | .findByEmail _ => Option User
  | .findByResetHash _ => Option User
  | .existsByEmail _ => Bool
  | .list => List User
  | .update _ => Bool
  | .consumeReset _ _ _ _ => Bool
  | .delete _ => Bool

end Call

/-- Answers calls at an instant, and keeps what is needed for later calls. -/
abbrev Backend (σ : Type) := Instant → σ → (c : Call) → Except Refusal c.Answer × σ

end Storefront.Account
