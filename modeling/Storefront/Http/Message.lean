import Storefront.Json.Value

namespace Storefront.Http

inductive Method where
  | get
  | head
  | post
  | put
  | delete
  | patch
  | other (name : String)
  deriving DecidableEq

def Method.ofName : String → Method
  | "GET" => .get
  | "HEAD" => .head
  | "POST" => .post
  | "PUT" => .put
  | "DELETE" => .delete
  | "PATCH" => .patch
  | name => .other name

def Method.name : Method → String
  | .get => "GET"
  | .head => "HEAD"
  | .post => "POST"
  | .put => "PUT"
  | .delete => "DELETE"
  | .patch => "PATCH"
  | .other name => name

/-- Header fields in the order they were sent; a name may repeat. -/
abbrev Headers := List (String × Bytes)

/-- Names do not tell upper from lower case. -/
def sameName (a b : String) : Bool := a.toList.map Char.toLower == b.toList.map Char.toLower

/-- All values of a field, in order. -/
def Headers.all (h : Headers) (name : String) : List Bytes :=
  (h.filter fun p => sameName p.1 name).map (·.2)

/-- The first value of a field. -/
def Headers.first? (h : Headers) (name : String) : Option Bytes := (h.all name).head?

/-- Values of headers are bytes; only those made of printable ASCII and tabs count as text. -/
def isTextByte (b : UInt8) : Bool := b == 9 || (32 ≤ b && b < 127)

/-- The text of a value, if it is one. -/
def valueText? (v : Bytes) : Option (List Char) :=
  if v.all isTextByte then some (v.map fun b => Char.ofNat b.toNat) else none

/-- The first value of a field, if it is text. -/
def Headers.text? (h : Headers) (name : String) : Option (List Char) :=
  (h.first? name).bind valueText?

/-- What may be sent as a value: no control characters but tabs. -/
def isSendable (s : String) : Bool :=
  (Bytes.ofText s).all fun b => b == 9 || (32 ≤ b && b != 127)

inductive Body where
  | empty
  | json (v : Json.Value)
  | text (s : String)

structure Response where
  status : Nat
  headers : List (String × String)
  body : Body

namespace Response

def json (status : Nat) (v : Json.Value) : Response :=
  ⟨status, [("content-type", "application/json")], .json v⟩

def empty (status : Nat) : Response := ⟨status, [], .empty⟩

/-- No answer: the connection is closed, and nothing of what is added to this is sent. -/
def unsent : Response := .empty 0

/-- No answer that is sent has the status 0. -/
def Sent (r : Response) : Prop := r.status ≠ 0

instance (r : Response) : Decidable r.Sent := inferInstanceAs (Decidable (_ ≠ _))

def plain (status : Nat) (s : String) : Response :=
  ⟨status, [("content-type", "text/plain; charset=utf-8")], .text s⟩

def withHeader (r : Response) (name value : String) : Response :=
  { r with headers := r.headers ++ [(name, value)] }

def withoutBody (r : Response) : Response := { r with body := .empty }

end Response
end Storefront.Http
