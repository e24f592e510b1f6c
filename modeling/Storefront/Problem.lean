import Storefront.Http.Message
import Storefront.Json.Failure
import Storefront.Text.Quoted

namespace Storefront

/-- Every kind has one status of HTTP. -/
inductive Problem.Kind where
  | badRequest
  | unauthorized
  | forbidden
  | notFound
  | conflict
  | unprocessable
  | tooManyRequests
  | internal
  | unavailable
  deriving DecidableEq

namespace Problem.Kind

def all : List Kind :=
  [.badRequest, .unauthorized, .forbidden, .notFound, .conflict, .unprocessable, .tooManyRequests,
   .internal, .unavailable]

def status : Kind → Nat
  | .badRequest => 400
  | .unauthorized => 401
  | .forbidden => 403
  | .notFound => 404
  | .conflict => 409
  | .unprocessable => 422
  | .tooManyRequests => 429
  | .internal => 500
  | .unavailable => 503

def reason : Kind → String
  | .badRequest => "Bad Request"
  | .unauthorized => "Unauthorized"
  | .forbidden => "Forbidden"
  | .notFound => "Not Found"
  | .conflict => "Conflict"
  | .unprocessable => "Unprocessable Entity"
  | .tooManyRequests => "Too Many Requests"
  | .internal => "Internal Server Error"
  | .unavailable => "Service Unavailable"

/-- The reason as one word. -/
def name (k : Kind) : String := String.ofList (k.reason.toList.filter (· != ' '))

/-- The reason in capitals, with underscores for blanks. -/
def code (k : Kind) : String :=
  String.ofList (k.reason.toList.map fun c => if c = ' ' then '_' else c.toUpper)

def ofName? (s : String) : Option Kind := all.find? fun k => k.name == s

def isServer (k : Kind) : Bool := 500 ≤ k.status

def isClient (k : Kind) : Bool := 400 ≤ k.status && k.status < 500

end Problem.Kind

/-- What a file operation fails with, as far as it matters. -/
inductive FileFault where
  | notFound
  | permissionDenied
  | other
  deriving DecidableEq

/-- What a database call fails with. -/
inductive DatabaseFault where
  | rowNotFound
  | poolTimedOut
  | refused (sqlState : Option String)
  | connection
  | other
  deriving DecidableEq

/-- Failures inside the program that turn into problems. -/
inductive Cause where
  | file (f : FileFault)
  | integer
  | identifier
  | json (category : Json.Category) (told : String)
  | database (f : DatabaseFault)
  | other

/-- What is told to a client when something goes wrong.  The message is sent as it is; the cause inside the program
never is. -/
structure Problem where
  kind : Problem.Kind
  message : String
  /-- A hint on what to do next. -/
  action : Option String
  cause : Option Cause

namespace Problem

def of (kind : Kind) (message : String) : Problem := ⟨kind, message, none, none⟩

def withAction (p : Problem) (hint : String) : Problem := { p with action := some hint }

def withCause (p : Problem) (c : Cause) : Problem := { p with cause := some c }

def badRequest (message : String) : Problem := of .badRequest message

def internal (message : String) : Problem := of .internal message

def unavailable (message : String) : Problem := of .unavailable message

/-- The line for a log. -/
def text (p : Problem) : String :=
  "[" ++ p.kind.reason ++ "] " ++ p.message ++
    match p.action with
    | some a => " (Action: " ++ a ++ ")"
    | none => ""

/-- The fields with their names, without the cause. -/
def debugText (p : Problem) : String :=
  "AppError \x7b kind: " ++ p.kind.name ++ ", message: " ++ Text.quoted p.message ++
    (match p.action with
    | some a => ", action: " ++ Text.quoted a
    | none => "") ++ " \x7d"

/-- Problem details for the client; the message is there under two names. -/
def body (p : Problem) : Json.Value := .object
  [("type", .text ("https://httpstatuses.io/" ++ toString p.kind.status)),
   ("title", .text p.kind.reason),
   ("status", .int p.kind.status),
   ("detail", .text p.message),
   ("message", .text p.message),
   ("action", Json.Value.optText p.action)]

def response (p : Problem) : Http.Response := .json p.kind.status p.body

/-- Classes of SQLSTATE codes that clients or operators can act on. -/
def ofSqlState : Option String → Problem
  | some "23505" => of .conflict "Duplicate key value"
  | some "23503" => of .conflict "Foreign key violation"
  | some "23502" => badRequest "Required field is null"
  | some "23514" => badRequest "Check constraint violation"
  | some "53000" | some "53100" | some "53200" | some "53300" =>
    unavailable "Database resource exhausted"
  | some "57000" | some "57014" | some "57P01" | some "57P02" | some "57P03" =>
    unavailable "Database unavailable"
  | _ => internal "Database error"

def ofDatabase : DatabaseFault → Problem
  | .rowNotFound => of .notFound "Record not found"
  | .poolTimedOut => unavailable "Database connection pool exhausted"
  | .refused sqlState => ofSqlState sqlState
  | .connection => unavailable "Database connection error"
  | .other => internal "Database error"

/-- The problem a failure inside the program becomes. -/
def ofCause (c : Cause) : Problem :=
  let p := match c with
    | .file .notFound => of .notFound "I/O operation failed"
    | .file .permissionDenied => of .forbidden "I/O operation failed"
    | .file .other => internal "I/O operation failed"
    | .integer => badRequest "Invalid integer format"
    | .identifier => badRequest "Invalid id"
    | .json .early _ => internal "JSON serialization error"
    | .json _ told => badRequest ("JSON parse error: " ++ told)
    | .database f => ofDatabase f
    | .other => internal "Internal error"
  p.withCause c

end Problem

section Results

variable {ε ε' α β : Type} {x : Except ε α} {a : α} {b : β}

theorem bind_ok {f : α → Except ε β} (h : x >>= f = .ok b) : ∃ a, x = .ok a ∧ f a = .ok b := by
  cases x with
  | error e => cases h
  | ok a => exact ⟨a, rfl, h⟩

theorem mapError_eq_ok {f : ε → ε'} : x.mapError f = .ok a ↔ x = .ok a := by
  cases x with
  | error e => exact ⟨nofun, nofun⟩
  | ok b =>
    constructor
    · intro h
      cases h
      rfl
    · intro h
      cases h
      rfl

end Results

end Storefront
