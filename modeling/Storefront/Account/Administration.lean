import Storefront.Account.Profile
import Storefront.Account.SignIn

namespace Storefront.Account

open Password (Clear)

def noUser : Refusal := .notFound "User not found"

def Appointment.check (P : Primitives) (a : Appointment) : Except Refusal (Opening × Role) :=
  match nonBlank a.name, nonBlank a.email, unlessBlank a.password, nonBlank a.role with
  | some name, some email, some password, some role =>
    match (Role.ofCode? role).filter Role.isAssignable with
    | none => .error .invalidRole
    | some role => do
      .ok (⟨← nameOf name, ← emailOf P email, ← passwordOf P password⟩, role)
  | _, _, _, _ => .error allRequired

/-- Opens an account with a role.  That only superadmins get here is seen to where requests come in. -/
def createAdmin (P : Primitives) (s : Settings) (d : Draws) (a : Appointment) : Plan Outcome := do
  let (o, role) ← Plan.ofExcept (a.check P)
  let (now, taken) ← Plan.existsByEmail o.email
  if taken then Plan.refuse .userExists
  else do
    let u := o.user P s d role now
    let _ ← Plan.createUnlessTaken .userExists u
    pure (.adminCreated u)

def listUsers : Plan Outcome := do
  let (_, us) ← Plan.list
  pure (.users us)

def deleteUser (id : UserId) : Plan Outcome := do
  let (_, found) ← Plan.delete id
  if found then pure .userDeleted else Plan.refuse noUser

def roleOf (code : String) : Except Refusal Role :=
  match Role.ofCode? code with
  | some r => .ok r
  | none => .error .invalidRole

/-- Any role may be given to an account that exists. -/
def UserChange.check (P : Primitives) (c : UserChange) :
    Except Refusal (Option DisplayName × Option Email × Option Role) := do
  let role ← (nonBlank c.role).mapM roleOf
  let name ← (nonBlank c.name).mapM nameOf
  let email ← (nonBlank c.email).mapM (emailOf P)
  .ok (name, email, role)

/-- Changes name and address, and the role if one is given. -/
def User.administer (u : User) (name : Option DisplayName) (email : Option Email)
    (role : Option Role) (now : Instant) : User :=
  let u := u.updateProfile name email now
  match role with
  | some r => u.setRole r now
  | none => u

def updateUser (P : Primitives) (id : UserId) (c : UserChange) : Plan Outcome := do
  let (name, email, role) ← Plan.ofExcept (c.check P)
  let (now, found) ← Plan.findById id
  let u ← Plan.orRefuse found noUser
  let now ← requireFree u email .userExists now
  let u := u.administer name email role now
  let (_, stored) ← Plan.updateUnlessTaken .userExists u
  if stored then pure (.userUpdated u) else Plan.refuse noUser

end Storefront.Account
