import Storefront.Account.Refusal
import Storefront.Account.ResetToken
import Storefront.Account.Settings
import Storefront.Account.User

namespace Storefront.Account

structure Registration where
  name : Option String
  email : Option String
  password : Option String
  confirm : Option String

structure Credentials where
  email : Option String
  password : Option String

/-- A new password in exchange for a reset token. -/
structure Reset where
  token : Option String
  password : Option String
  confirm : Option String

structure ProfileChange where
  name : Option String
  email : Option String

structure PasswordChange where
  old : Option String
  password : Option String
  confirm : Option String

structure Appointment where
  name : Option String
  email : Option String
  password : Option String
  role : Option String

structure UserChange where
  name : Option String
  email : Option String
  role : Option String

/-- What can be asked of the account service.  Values are as the client sent them; each may be missing. -/
inductive Command where
  | register (r : Registration)
  | login (c : Credentials)
  | refresh (token : Option String)
  | logout
  | forgotPassword (email : Option String)
  | resetPassword (r : Reset)
  | profile (who : UserId)
  | updateProfile (who : UserId) (c : ProfileChange)
  | changePassword (who : UserId) (c : PasswordChange)
  | deleteAccount (who : UserId)
  | createAdmin (a : Appointment)
  | listUsers
  | deleteUser (id : UserId)
  | updateUser (id : UserId) (c : UserChange)

inductive Outcome where
  | registered (u : User) (tokens : Token.Pair)
  | signedIn (u : User) (tokens : Token.Pair)
  | refreshed (access : String)
  | signedOut
  /-- The link is for the user's eyes only; there is none for an unknown address. -/
  | resetLink (link : Option String)
  | passwordReset
  | profile (u : User)
  | profileUpdated (u : User)
  | passwordChanged
  | accountDeleted
  | adminCreated (u : User)
  | users (us : List User)
  | userDeleted
  | userUpdated (u : User)

/-- What is drawn at random while a command is carried out; no command needs more than one of each. -/
structure Draws where
  id : UserId
  salt : Bytes
  token : ResetToken

/-- The value without blanks around it, if anything is left. -/
def nonBlank (s : Option String) : Option String :=
  (s.map Text.trimmed).filter fun t => !t.isEmpty

/-- The value as it is, unless it is blank. -/
def unlessBlank (s : Option String) : Option String :=
  s.filter fun t => !(Text.trimmed t).isEmpty

/-- A name as a user writes it, or the refusal of it. -/
def nameOf (s : String) : Except Refusal DisplayName :=
  (DisplayName.parse s).mapError fun f => .ofProblem f.problem

def emailOf (P : Primitives) (s : String) : Except Refusal Email :=
  (Email.parse P s).mapError fun f => .ofProblem f.problem

def passwordOf (P : Primitives) (s : String) : Except Refusal Password.Clear :=
  (Password.Clear.new? P s).mapError fun v => .ofProblem (passwordProblem v)

end Storefront.Account
