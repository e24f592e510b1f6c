import Storefront.Problem

namespace Storefront.Account

/-- Why the account service refuses a request.  The message goes to the client as it is, except that of failures
inside the service, which is the same for all of them. -/
inductive Refusal where
  | validation (message : String)
  | emailInUse
  /-- A superadmin gave an account an address that is taken. -/
  | userExists
  /-- An unknown address and a wrong password are not told apart. -/
  | invalidCredentials
  | missingRefreshToken
  | invalidRefreshToken
  | missingAccessToken
  | invalidAccessToken
  | unauthorized
  | accessDenied
  | invalidRole
  | notFound (message : String)
  | rateLimited (key : String)
  | database (detail : String)
  | internal (detail : String)
  /-- A date that the calendar does not have: the request is given up, and nothing is sent. -/
  | overflow
  deriving DecidableEq

namespace Refusal

/-- The cause in one word. -/
def name : Refusal → String
  | .validation _ => "Validation"
  | .emailInUse => "EmailInUse"
  | .userExists => "UserExists"
  | .invalidCredentials => "InvalidCredentials"
  | .missingRefreshToken => "MissingRefreshToken"
  | .invalidRefreshToken => "InvalidRefreshToken"
  | .missingAccessToken => "MissingAccessToken"
  | .invalidAccessToken => "InvalidAccessToken"
  | .unauthorized => "Unauthorized"
  | .accessDenied => "AccessDenied"
  | .invalidRole => "InvalidRole"
  | .notFound _ => "NotFound"
  | .rateLimited _ => "RateLimited"
  | .database _ => "Database"
  | .internal _ => "Internal"
  | .overflow => "Overflow"

def text : Refusal → String
  | .validation m => m
  | .emailInUse => "Email already in use"
  | .userExists => "User already exists"
  | .invalidCredentials => "Invalid email or password"
  | .missingRefreshToken => "No refresh token provided"
  | .invalidRefreshToken => "Invalid refresh token"
  | .missingAccessToken => "No token provided"
  | .invalidAccessToken => "Invalid or expired token"
  | .unauthorized => "Unauthorized"
  | .accessDenied => "Access denied"
  | .invalidRole => "Invalid role"
  | .notFound m => m
  | .rateLimited k => k
  | .database d => "Database error: " ++ d
  | .internal d => "Internal error: " ++ d
  | .overflow => "Date out of range"

def kind : Refusal → Problem.Kind
  | .validation _ | .emailInUse | .userExists | .invalidCredentials | .invalidRole => .badRequest
  | .missingRefreshToken | .missingAccessToken | .invalidAccessToken | .unauthorized => .unauthorized
  | .invalidRefreshToken | .accessDenied => .forbidden
  | .notFound _ => .notFound
  | .rateLimited _ => .tooManyRequests
  | .database _ | .internal _ | .overflow => .internal

def problem : Refusal → Problem
  | .database _ | .internal _ => .internal "Server error"
  | r => .of r.kind r.text

/-- A limited request gets the key of its message and nothing else. -/
def response : Refusal → Http.Response
  | .overflow => .unsent
  | .rateLimited k => .json 429 (.object [("error", .text k), ("message", .text k)])
  | r => r.problem.response

/-- Problems with the input are passed on, all others are failures inside the service. -/
def ofProblem (p : Problem) : Refusal :=
  match p.kind with
  | .badRequest | .unprocessable => .validation p.message
  | _ => .internal p.text

end Refusal
end Storefront.Account
