import Storefront.Http.Message
import Storefront.Text.Split

namespace Storefront.Http

/-- A media type, as far as it matters whether a body is JSON. -/
structure MediaType where
  kind : List Char
  subtype : List Char
  /-- What stands behind the last plus sign. -/
  suffix : Option (List Char)

namespace MediaType

def isToken (c : Char) : Bool :=
  ('a' ≤ c && c ≤ 'z') || ('A' ≤ c && c ≤ 'Z') || ('0' ≤ c && c ≤ '9') ||
    ['!', '#', '$', '%', '&', '\'', '*', '+', '-', '.', '^', '_', '\x60', '|', '~'].contains c

def isQuotable (c : Char) : Bool := ' ' ≤ c && c != '\x7f'

/-- What follows a quoted value.  The first character of a value belongs to it even if it is a quotation
mark, so that no value is empty; the next quotation mark ends it, for a backslash is a character like any
other. -/
def afterQuoted? (first : Bool) : List Char → Option (List Char)
  | [] => none
  | c :: r =>
    if c = '"' ∧ !first then some r
    else if isQuotable c then afterQuoted? false r
    else none

/-- Whether parameters are well formed: names and values with semicolons between them, where blanks may
precede a name and follow a quoted value.  A value at the end may be missing. -/
def areParameters : (fuel : Nat) → List Char → Bool
  | 0, _ => false
  | _, [] => true
  | fuel + 1, ' ' :: r => areParameters fuel r
  | fuel + 1, s =>
    !(s.takeWhile isToken).isEmpty &&
    match s.dropWhile isToken with
    | '=' :: '"' :: r =>
      match (afterQuoted? true r).map fun r => r.dropWhile (· == ' ') with
      | some [] => true
      | some (';' :: r) => areParameters fuel r
      | _ => false
    | '=' :: r =>
      match r.dropWhile isToken with
      | [] => true
      | ';' :: next => !(r.takeWhile isToken).isEmpty && areParameters fuel next
      | _ => false
    | _ => false

/-- Cuts at the last plus sign that is not the first character. -/
def cutSuffix (s : List Char) : List Char × Option (List Char) :=
  match Text.cut? '+' s.reverse with
  | some (behind, front) =>
    if front.isEmpty then (s, none) else (front.reverse, some behind.reverse)
  | none => (s, none)

def parse? (s : List Char) : Option MediaType :=
  let kind := s.takeWhile isToken
  match s.dropWhile isToken with
  | '/' :: r =>
    let name := r.takeWhile isToken
    let wellFormed := match r.dropWhile isToken with
      | [] => true
      | ';' :: ps => !name.isEmpty && areParameters (ps.length + 1) ps
      | _ => false
    let (subtype, suffix) := cutSuffix (name.map Char.toLower)
    if !kind.isEmpty && wellFormed then some ⟨kind.map Char.toLower, subtype, suffix⟩ else none
  | _ => none

/-- JSON itself, or a format that says of itself to be JSON. -/
def isJson (m : MediaType) : Bool :=
  m.kind == "application".toList &&
    (m.subtype == "json".toList || m.suffix == some "json".toList)

end MediaType
end Storefront.Http
