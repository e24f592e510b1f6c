import Storefront.Bytes.Base64
import Storefront.Crypto.Argon2
import Storefront.Decimal.Integer
import Storefront.Text.Split

namespace Storefront.Phc

/-- The parts of a hash string of the PHC format: an algorithm, then optionally a version, parameters, a salt and a
hash, each after a dollar sign.  Salt and values stay text; the hash is decoded. -/
structure Parsed where
  algorithm : List Char
  version : Option Nat
  parameters : List (List Char × List Char)
  salt : Option (List Char)
  hash : Option Bytes

def lowerOrDigit (c : Char) : Bool := ('a' ≤ c && c ≤ 'z') || ('0' ≤ c && c ≤ '9') || c == '-'

def valueChar (c : Char) : Bool :=
  ('a' ≤ c && c ≤ 'z') || ('A' ≤ c && c ≤ 'Z') || ('0' ≤ c && c ≤ '9') ||
    c == '/' || c == '+' || c == '.' || c == '-'

/-- Names of algorithms and parameters: 1 to 32 lower-case letters, digits and hyphens. -/
def isName (s : List Char) : Bool := 1 ≤ s.length && s.length ≤ 32 && s.all lowerOrDigit

def isValue (s : List Char) : Bool := s.length ≤ 64 && s.all valueChar

/-- A decimal number of 32 bits without leading zeros. -/
def decimal? (s : List Char) : Option Nat :=
  match s with
  | '0' :: _ :: _ => none
  | _ => (Decimal.natural? s).filter (· ≤ Decimal.most32)

def parameter? (s : List Char) : Option (List Char × List Char) :=
  match Text.parts '=' s with
  | [name, value] => if isName name && isValue value then some (name, value) else none
  | _ => none

/-- At most 127 characters of pairs with commas between them. -/
def parameters? (s : List Char) : Option (List (List Char × List Char)) :=
  if 127 < s.length then none else (Text.parts ',' s).mapM parameter?

def salt? (s : List Char) : Option (List Char) :=
  if 4 ≤ s.length && isValue s then some s else none

/-- A hash has 10 to 64 bytes. -/
def hash? (s : List Char) : Option Bytes :=
  (Base64.decode? Base64.standard s).filter fun b => 10 ≤ b.length && b.length ≤ 64

/-- Version and parameters are told from a salt by their form and may be absent. -/
def version? : List (List Char) → Option (Option Nat × List (List Char))
  | field :: rest =>
    match field with
    | 'v' :: '=' :: n => if field.contains ',' then some (none, field :: rest) else do
      if isValue n then some (some (← decimal? n), rest) else none
    | _ => some (none, field :: rest)
  | [] => some (none, [])

def parametersField? : List (List Char) → Option (List (List Char × List Char) × List (List Char))
  | field :: rest =>
    if field.contains '=' then do some (← parameters? field, rest) else some ([], field :: rest)
  | [] => some ([], [])

def parse? (s : String) : Option Parsed :=
  match Text.parts '$' s.toList with
  | [] :: algorithm :: fields => do
    if !isName algorithm then none
    let (version, fields) ← version? fields
    let (parameters, fields) ← parametersField? fields
    match fields with
    | [] => some ⟨algorithm, version, parameters, none, none⟩
    | [salt] => some ⟨algorithm, version, parameters, ← salt? salt, none⟩
    | [salt, hash] => do
      let salt ← salt? salt
      let hash ← hash? hash
      some ⟨algorithm, version, parameters, some salt, some hash⟩
    | _ => none
  | _ => none

def kind? (algorithm : List Char) : Option Argon2.Kind :=
  if algorithm = "argon2id".toList then some .id
  else if algorithm = "argon2i".toList then some .i
  else if algorithm = "argon2d".toList then some .d
  else none

/-- What is used where a string names no parameters: 19 MiB, two passes, one lane. -/
def defaults : Argon2.Parameters := ⟨.id, 19, 19456, 2, 1, 32, []⟩

/-- Takes one parameter over; a later one of the same name wins. -/
def withParameter? (p : Argon2.Parameters) (name value : List Char) : Option Argon2.Parameters :=
  if name = ['m'] then do some { p with memory := ← decimal? value }
  else if name = ['t'] then do some { p with passes := ← decimal? value }
  else if name = ['p'] then do some { p with lanes := ← decimal? value }
  else if name = "keyid".toList then do
    let b ← Base64.decode? Base64.standard value
    if b.length ≤ 8 then some p else none
  else if name = "data".toList then do
    let b ← Base64.decode? Base64.standard value
    if b.length ≤ 32 then some { p with associated := b } else none
  else none

/-- The computation a parsed string describes, if it is one that can be run. -/
def Parsed.argon2? (h : Parsed) (size : Nat) : Option Argon2.Parameters := do
  let kind ← kind? h.algorithm
  let version := h.version.getD 19
  if version ≠ 16 ∧ version ≠ 19 then none
  let p ← h.parameters.foldlM (fun p q => withParameter? p q.1 q.2)
    { defaults with kind := kind, version := version, size := size }
  if p.valid then some p else none

/-- Salts have 8 bytes or more. -/
def Parsed.saltBytes? (h : Parsed) : Option Bytes := do
  let b ← Base64.decode? Base64.standard (← h.salt)
  if 8 ≤ b.length then some b else none

/-- A string that cannot be verified accepts no password. -/
def Parsed.accepts (h : Parsed) (password : Bytes) : Bool :=
  match h.hash with
  | none => false
  | some hash =>
    match h.argon2? hash.length, h.saltBytes? with
    | some p, some salt => Argon2.hash p password salt == hash
    | _, _ => false

/-- The string written for a newly hashed password. -/
def written (salt hash : Bytes) : String :=
  "$argon2id$v=19$m=19456,t=2,p=1$" ++ String.ofList (Base64.encode Base64.standard salt)
    ++ "$" ++ String.ofList (Base64.encode Base64.standard hash)

/-- Hashes a password under the default costs. -/
def hash (salt password : Bytes) : String := written salt (Argon2.hash defaults password salt)

/-- Verifies a password against the text of a hash.  The algorithm, version and parameters are those that the text
names. -/
def verify (phc : String) (password : Bytes) : Bool :=
  match parse? phc with
  | some h => h.accepts password
  | none => false

/-- Every algorithm but Argon2id is out of date. -/
def outdated (phc : String) : Bool :=
  match parse? phc with
  | some h => decide (h.algorithm ≠ "argon2id".toList)
  | none => true

end Storefront.Phc
