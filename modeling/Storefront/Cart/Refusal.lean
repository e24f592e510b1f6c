import Storefront.Problem

namespace Storefront.Cart

/-- Why the cart service refuses a request.  Failures inside the service are told to the client with the same message,
whatever they are. -/
inductive Refusal where
  | validation (message : String)
  | notFound
  | database (detail : String)
  | internal (detail : String)
  deriving DecidableEq

namespace Refusal

/-- The cause in one word. -/
def name : Refusal → String
  | .validation _ => "Validation"
  | .notFound => "NotFound"
  | .database _ => "Database"
  | .internal _ => "Internal"

def text : Refusal → String
  | .validation m => m
  | .notFound => "Cart item not found"
  | .database d => "Database error: " ++ d
  | .internal d => "Internal error: " ++ d

def kind : Refusal → Problem.Kind
  | .validation _ => .badRequest
  | .notFound => .notFound
  | .database _ | .internal _ => .internal

def problem : Refusal → Problem
  | .database _ | .internal _ => .internal "Server error"
  | r => .of r.kind r.text

def response (r : Refusal) : Http.Response := r.problem.response

/-- Problems with the input are passed on, something missing is a missing item, and all others are
failures inside the service. -/
def ofProblem (p : Problem) : Refusal :=
  match p.kind with
  | .badRequest | .unprocessable => .validation p.message
  | .notFound => .notFound
  | _ => .internal p.text

end Refusal
end Storefront.Cart
