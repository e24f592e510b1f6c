import Storefront.Json.Reader

namespace Storefront.Json

inductive FieldKind where
  | text
  | number
  deriving DecidableEq

inductive FieldValue where
  | text (s : String)
  | number (x : Float)

structure Field where
  name : String
  kind : FieldKind

/-- A request body is an object, or a list in the order of the fields, with fields that may all be absent.  Fields
that a form does not have are passed over, so nothing but its own fields reaches the program. -/
structure Form where
  /-- How messages call the form. -/
  title : String
  fields : List Field

/-- The fields that have been read, the latest first; null counts as read. -/
abbrev Entries := List (String × Option FieldValue)

namespace Entries

def has (e : Entries) (name : String) : Bool := e.any fun p => p.1 == name

def text? (e : Entries) (name : String) : Option String :=
  match e.find? fun p => p.1 == name with
  | some (_, some (.text s)) => some s
  | _ => none

def number? (e : Entries) (name : String) : Option Float :=
  match e.find? fun p => p.1 == name with
  | some (_, some (.number x)) => some x
  | _ => none

end Entries

/-- Names the field or element in which something failed. -/
def within {α : Type} (path : String) : Result α → Result α
  | .ok a => .ok a
  | .error f => .error { f with path := some (f.path.getD path) }

def Field.read (f : Field) : Reader (Option FieldValue) := fun s =>
  match f.kind with
  | .text => do
    let (t, r) ← optional readText s
    .ok (t.map .text, r)
  | .number => do
    let (x, r) ← optional readFloat s
    .ok (x.map .number, r)

/-- A repeated field is told where the object could have ended: blanks and a closing brace that follow
the key count as read. -/
def afterRepeated (s : Bytes) : Bytes :=
  match skipBlanks s with
  | 0x7d :: r => r
  | r => r

namespace Form

def member (form : Form) (key : String) (got : Entries) : Reader Entries := fun s =>
  match form.fields.find? fun f => f.name == key with
  | none => do
    let s ← colon s
    .ok (got, ← within key (skipValue s))
  | some f =>
    if got.has key then failAt (.duplicateField key) (afterRepeated s)
    else do
      let s ← colon s
      let (v, r) ← within key (f.read s)
      .ok ((key, v) :: got, r)

def listFrom (index : Nat) (got : Entries) : List Field → Reader Entries
  | [] => fun s => do .ok (got, ← closeList s)
  | f :: fs => fun s => do
    match ← nextElement (index == 0) s with
    | (none, r) => .ok (got, r)
    | (some r, _) =>
      let (v, r) ← within ("[" ++ toString index ++ "]") (f.read r)
      listFrom (index + 1) ((f.name, v) :: got) fs r

/-- Reads a text that holds one object or list for the form. -/
def read (form : Form) (s : Bytes) : Result Entries := do
  let (got, r) ← match skipBlanks s with
    | 0x5b :: r => listFrom 0 [] form.fields r
    | 0x7b :: r => members form.member (r.length + 1) true [] r
    | r => refuse ("struct " ++ form.title) r
  atEnd r
  .ok got

/-- The form read from a body, or what to tell the client. -/
def readBody (form : Form) (body : Bytes) : Except String Entries :=
  match form.read body with
  | .ok got => .ok got
  | .error f =>
    let told := f.toldWithPath body
    match f.fault.category with
    | .data => .error ("Failed to deserialize the JSON body into the target type: " ++ told)
    | _ => .error ("Failed to parse the request body as JSON: " ++ told)

end Form
end Storefront.Json
