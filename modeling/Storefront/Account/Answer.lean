import Storefront.Account.Command

namespace Storefront.Account

open Http (Response)

def optInstant : Option Instant → Json.Value
  | some t => .text t.text
  | none => .null

/-- All that is ever told of a user: no password hash and no reset token. -/
def User.value (u : User) : Json.Value := .object
  [("id", .text u.id.text), ("name", .text u.name.text), ("email", .text u.email.text),
   ("role", .text u.role.code), ("lastPasswordChange", optInstant u.lastPasswordChange),
   ("passwordChangeCount", .int u.passwordChangeCount), ("createdAt", .text u.createdAt.text),
   ("updatedAt", .text u.updatedAt.text)]

def told (message : String) : Response := .json 200 (.object [("message", .text message)])

def toldWithUser (message : String) (u : User) : Response :=
  .json 200 (.object [("message", .text message), ("user", u.value)])

/-- A new session: the access token in the body, the refresh token in a cookie. -/
def session (s : Settings) (status : Nat) (message : String) (u : User) (tokens : Token.Pair) :
    Response :=
  (Response.json status <| .object
    [("message", .text message), ("accessToken", .text tokens.access), ("user", u.value)]).withHeader
      "set-cookie" (Http.Cookie.sendable (s.refreshCookie.store tokens.refresh))

/-- Makes the browser forget the refresh token. -/
def droppingSession (s : Settings) (r : Response) : Response :=
  r.withHeader "set-cookie" (Http.Cookie.sendable s.refreshCookie.drop)

def Outcome.response (s : Settings) : Outcome → Response
  | .registered u tokens => session s 201 "User registered successfully" u tokens
  | .signedIn u tokens => session s 200 "Login successful" u tokens
  | .refreshed access => .json 200 (.object [("accessToken", .text access)])
  | .signedOut => droppingSession s (told "Logged out successfully")
  | .resetLink _ => told "forgotPassword.check_email"
  | .passwordReset => told "ResetPassword.success"
  | .profile u => .json 200 (.object [("user", u.value)])
  | .profileUpdated u => toldWithUser "profile.update_success" u
  | .passwordChanged => told "changePassword.success"
  | .accountDeleted => droppingSession s (told "Account deleted successfully")
  | .adminCreated u =>
    .json 201 (.object [("message", .text (u.role.code ++ " created successfully"))])
  | .users us => .json 200 (.object [("users", .array (us.map User.value))])
  | .userDeleted => told "User deleted successfully"
  | .userUpdated u => toldWithUser "User updated successfully" u

/-- The answer to a command. -/
def answerOf (s : Settings) : Except Refusal Outcome → Response
  | .ok o => o.response s
  | .error r => r.response

end Storefront.Account
