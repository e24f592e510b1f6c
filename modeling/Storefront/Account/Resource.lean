import Storefront.Account.Settings
import Storefront.Http.Path

namespace Storefront.Account

open Http (Method)

inductive Entrance where
  | register
  | login
  | refresh
  | logout
  | forgotPassword
  | resetPassword
  deriving DecidableEq

inductive Own where
  | profile
  | updateProfile
  | changePassword
  | deleteAccount
  deriving DecidableEq

inductive Panel where
  | createAdmin
  | users
  /-- The user whose identifier stands in the path, if that is a text. -/
  | user (id : Option String)
  deriving DecidableEq

/-- A resource is at the entrance, which is open to everybody, or belongs to the caller, or to the panel of the
superadmins. -/
inductive Resource where
  | entrance (e : Entrance)
  | own (o : Own)
  | panel (p : Panel)
  deriving DecidableEq

def Entrance.ofName? : String → Option Entrance
  | "register" => some .register
  | "login" => some .login
  | "refresh" => some .refresh
  | "logout" => some .logout
  | "forgot-password" => some .forgotPassword
  | "reset-password" => some .resetPassword
  | _ => none

def Own.ofName? : String → Option Own
  | "profile" => some .profile
  | "update-profile" => some .updateProfile
  | "change-password" => some .changePassword
  | "delete-account" => some .deleteAccount
  | _ => none

def Resource.ofTarget? (target : String) : Option Resource :=
  match Http.segments target with
  | ["", "auth", name] => (Entrance.ofName? name).map .entrance
  | ["", "user", name] => (Own.ofName? name).map .own
  | ["", "superadmin", "create-admin"] => some (.panel .createAdmin)
  | ["", "superadmin", "users"] => some (.panel .users)
  | ["", "superadmin", "user", id] =>
    if id.isEmpty then none else some (.panel (.user (Http.parameter? id)))
  | _ => none

def Resource.methods : Resource → List Method
  | .entrance _ => [.post]
  | .own .profile => [.get]
  | .own .updateProfile => [.put]
  | .own .changePassword => [.post]
  | .own .deleteAccount => [.delete]
  | .panel .createAdmin => [.post]
  | .panel .users => [.get]
  | .panel (.user _) => [.delete, .patch]

/-- A limit on the requests to one resource. -/
structure Throttle where
  /-- Keeps the counters of the resource apart from those of others. -/
  scope : String
  limit : RateLimit.Limit
  /-- The key of the message for those who are turned away. -/
  message : String

/-- The counter of one client or caller. -/
def Throttle.key (t : Throttle) (who : String) : String := t.scope ++ ":" ++ who

/-- The limit for each client. -/
def Entrance.throttle (s : Settings) : Entrance → Option Throttle
  | .login => some ⟨"login", s.loginLimit, "rateLimit.tooManyLogin"⟩
  | .forgotPassword => some ⟨"forgot-password", s.forgotLimit, "rateLimit.tooManyForgot"⟩
  | .resetPassword => some ⟨"reset-password", s.resetLimit, "rateLimit.tooManyReset"⟩
  | _ => none

/-- The limit for each caller. -/
def Own.throttle (s : Settings) : Own → Option Throttle
  | .changePassword => some ⟨"change-password", s.changeLimit, "Too many requests"⟩
  | _ => none

end Storefront.Account
