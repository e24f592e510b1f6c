import Storefront.Account.Call
import Storefront.Keyed

namespace Storefront.Account

/-- Users kept in memory, each under its own identifier. -/
abbrev Store := Keyed UserId User

namespace Store

def emailTakenByOther (s : Store) (e : Email) (id : UserId) : Bool :=
  s.values.any fun u => u.email = e ∧ u.id ≠ id

def findByEmail (s : Store) (e : Email) : Option User := s.values.find? fun u => u.email = e

def findByResetHash (s : Store) (hash : String) : Option User :=
  s.values.find? fun u => u.resetHash = some hash

def existsByEmail (s : Store) (e : Email) : Bool := s.values.any fun u => u.email = e

/-- The order of a listing: by creation, and among users created together by identifier. -/
def notAfter (a b : User) : Bool :=
  a.createdAt < b.createdAt ∨ (a.createdAt = b.createdAt ∧ a.id.bits ≤ b.id.bits)

def list (s : Store) : List User := s.values.mergeSort notAfter

def create (s : Store) (u : User) : Except Refusal Store :=
  if s.emailTakenByOther u.email u.id then .error .emailInUse else .ok (s.put u.id u)

/-- Whether the user was there, and the store afterwards. -/
def update (s : Store) (u : User) : Except Refusal (Bool × Store) :=
  if s.emailTakenByOther u.email u.id then .error .emailInUse
  else match s.get? u.id with
    | some _ => .ok (true, s.put u.id u)
    | none => .ok (false, s)

/-- Whether a user has a reset token with this digest that is good at `asOf`. -/
def resetLive (u : User) (hash : String) (asOf : Instant) : Bool :=
  u.resetHash = some hash && match u.resetExpires with
    | some e => asOf < e
    | none => false

def consumeReset (s : Store) (id : UserId) (hash : String) (password : Password.Hashed)
    (asOf now : Instant) : Bool × Store :=
  match s.get? id with
  | none => (false, s)
  | some u =>
    if resetLive u hash asOf then (true, s.put id (u.changePassword password now)) else (false, s)

def delete (s : Store) (id : UserId) : Bool × Store := ((s.get? id).isSome, s.remove id)

/-- Answers one call at `now`. -/
def answer (now : Instant) (s : Store) : (c : Call) → Except Refusal c.Answer × Store
  | .create u => match s.create u with
    | .ok s => (.ok (), s)
    | .error r => (.error r, s)
  | .findById id => (.ok (s.get? id), s)
  | .findByEmail e => (.ok (s.findByEmail e), s)
  | .findByResetHash h => (.ok (s.findByResetHash h), s)
  | .existsByEmail e => (.ok (s.existsByEmail e), s)
  | .list => (.ok s.list, s)
  | .update u => match s.update u with
    | .ok (found, s) => (.ok found, s)
    | .error r => (.error r, s)
  | .consumeReset id h p asOf => let (done, s) := s.consumeReset id h p asOf now; (.ok done, s)
  | .delete id => let (found, s) := s.delete id; (.ok found, s)

end Store
end Storefront.Account
