import Storefront.Bytes.Base64
import Storefront.Decimal.Integer
import Storefront.Json.Reader
import Storefront.Json.Value
import Storefront.Primitives
import Storefront.Text.Split
import Storefront.Time
import Storefront.Token.PublicKey

namespace Storefront.Token

/-- Access and refresh tokens have a key each and say which kind they are, so that one never passes for the other. -/
inductive Kind where
  | access
  | refresh
  deriving DecidableEq

def Kind.code : Kind → String
  | .access => "access"
  | .refresh => "refresh"

def Kind.title : Kind → String
  | .access => "Access"
  | .refresh => "Refresh"

def Kind.ofCode? : String → Option Kind
  | "access" => some .access
  | "refresh" => some .refresh
  | _ => none

/-- Whom a token is for. -/
structure Subject where
  id : String
  email : String
  role : String
  deriving DecidableEq

structure Claims where
  subject : Subject
  kind : Kind
  /-- In seconds, as is the expiry. -/
  issuedAt : Int
  expiresAt : Int
  deriving DecidableEq

def Claims.value (c : Claims) : Json.Value := .object
  [("id", .text c.subject.id), ("email", .text c.subject.email), ("role", .text c.subject.role),
   ("typ", .text c.kind.code), ("iat", .int c.issuedAt), ("exp", .int c.expiresAt)]

/-- Why a token is refused. -/
inductive Refused where
  | expired
  | invalid
  | wrongKind (expected : Kind)
  deriving DecidableEq

/-- The cause in one word. -/
def Refused.name : Refused → String
  | .expired => "Expired"
  | .invalid => "Invalid"
  | .wrongKind _ => "WrongKind"

def Refused.message : Refused → String
  | .expired => "Token expired"
  | .invalid => "Token invalid"
  | .wrongKind k => "Expected a " ++ k.title ++ " token"

structure Keys where
  accessSecret : Bytes
  refreshSecret : Bytes
  accessTtl : Duration
  refreshTtl : Duration

namespace Keys

def secret (k : Keys) : Kind → Bytes
  | .access => k.accessSecret
  | .refresh => k.refreshSecret

def ttl (k : Keys) : Kind → Duration
  | .access => k.accessTtl
  | .refresh => k.refreshTtl

/-- The lifetimes; secrets are not shown. -/
def debugText (k : Keys) : String :=
  "JwtKeys \x7b access_ttl: " ++ k.accessTtl.text ++ ", refresh_ttl: " ++ k.refreshTtl.text
    ++ ", secrets: \"[REDACTED]\" \x7d"

end Keys

def header : Json.Value := .object [("typ", .text "JWT"), ("alg", .text "HS256")]

def encodePart (b : Bytes) : List Char := Base64.encode Base64.url b

/-- Header and claims with a dot between them: what is signed. -/
def signedPart (header claims : Bytes) : List Char := encodePart header ++ '.' :: encodePart claims

def asciiBytes (s : List Char) : Bytes := s.map Bytes.ascii

/-- A token over any header and claims. -/
def written (P : Primitives) (secret header claims : Bytes) : List Char :=
  let signed := signedPart header claims
  signed ++ '.' :: encodePart (P.sign secret (asciiBytes signed))

/-- The claims of a token issued at the second `iat`. -/
def Keys.claims (k : Keys) (kind : Kind) (s : Subject) (iat : Int) : Claims :=
  ⟨s, kind, iat, Decimal.wrap64 (iat + Decimal.wrap64 (k.ttl kind).seconds)⟩

def Keys.issueAt (P : Primitives) (k : Keys) (kind : Kind) (s : Subject) (iat : Int) : String :=
  String.ofList (written P (k.secret kind) header.bytes (k.claims kind s iat).value.bytes)

/-- A token issued now. -/
def Keys.issue (P : Primitives) (k : Keys) (kind : Kind) (s : Subject) (now : Instant) : String :=
  k.issueAt P kind s now.seconds

/-- What a client gets when it signs in. -/
structure Pair where
  access : String
  refresh : String

def Keys.issuePair (P : Primitives) (k : Keys) (s : Subject) (now : Instant) : Pair :=
  ⟨k.issue P .access s now, k.issue P .refresh s now⟩

open Json

/-- A field that must be there once. -/
def once {α : Type} (old : Option α) (name : String) (read : Reader α) : Reader (Option α) := fun s =>
  match old with
  | some _ => failAt (.duplicateField name) s
  | none => do
    let (a, r) ← read (← colon s)
    .ok (some a, r)

/-- Checks any value. -/
def anyValue : Reader Unit := checkValue (depthLimit - 1)

/-- Whether the value that comes next names an audience: a text or a list of texts. -/
def isAudience (s : Bytes) : Bool := isRead readText s || isRead readTexts s

/-- What may stand where a number of seconds is expected: anything that ends where it begins. -/
def looseNumber : Reader Unit := fun s =>
  match skipBlanks s with
  | 0x5b :: r =>
    match skipBlanks r with
    | 0x5d :: r => .ok ((), r)
    | r => failOn .trailingCharacters r
  | 0x7b :: r =>
    match skipBlanks r with
    | 0x7d :: r => .ok ((), r)
    | r => failOn .trailingCharacters r
  | r => anyValue r

/-- What may stand where a text is expected: any scalar. -/
def looseText : Reader Unit := fun s =>
  match skipBlanks s with
  | 0x5b :: r => refuse "a string" (0x5b :: r)
  | 0x7b :: r => refuse "a string" (0x7b :: r)
  | r => anyValue r

/-- The claims that have been read so far. -/
structure Partial where
  id : Option String := none
  email : Option String := none
  role : Option String := none
  kind : Option Kind := none
  issuedAt : Option Int := none
  expiresAt : Option Int := none
  notBefore : Option (Option Unit) := none
  issuer : Option (Option Unit) := none
  about : Option (Option Unit) := none
  audience : Option (Option Unit) := none
  /-- The token is meant for somebody, and this service is nobody. -/
  addressed : Bool := false

def readKind : Reader Kind := fun s => do
  let (w, r) ← readWord readNull s
  match Kind.ofCode? w with
  | some k => .ok (k, r)
  | none => failAt .expectedValue r

def readSeconds : Reader Int := readInt "i64" Decimal.leastSigned64 Decimal.mostSigned64

/-- Takes one claim; claims that mean nothing here are passed over. -/
def Partial.member (key : String) (p : Partial) : Reader Partial := fun s =>
  match key with
  | "id" => do let (a, r) ← once p.id key readText s; .ok ({ p with id := a }, r)
  | "email" => do let (a, r) ← once p.email key readText s; .ok ({ p with email := a }, r)
  | "role" => do let (a, r) ← once p.role key readText s; .ok ({ p with role := a }, r)
  | "typ" => do let (a, r) ← once p.kind key readKind s; .ok ({ p with kind := a }, r)
  | "iat" => do let (a, r) ← once p.issuedAt key readSeconds s; .ok ({ p with issuedAt := a }, r)
  | "exp" => do let (a, r) ← once p.expiresAt key readSeconds s; .ok ({ p with expiresAt := a }, r)
  | "nbf" => do
    let (a, r) ← once p.notBefore key (overlooking looseNumber) s
    .ok ({ p with notBefore := a }, r)
  | "iss" => do let (a, r) ← once p.issuer key (overlooking anyValue) s; .ok ({ p with issuer := a }, r)
  | "sub" => do let (a, r) ← once p.about key (overlooking looseText) s; .ok ({ p with about := a }, r)
  | "aud" => do
    let (a, r) ← once p.audience key (overlooking anyValue) s
    .ok ({ p with audience := a, addressed := isAudience (← colon s) }, r)
  | _ => do .ok (p, ← skipValue (← colon s))

/-- The claims of a complete payload, and whether it names an audience. -/
def Partial.complete? (p : Partial) : Option (Claims × Bool) := do
  let id ← p.id
  let email ← p.email
  let role ← p.role
  let kind ← p.kind
  let issuedAt ← p.issuedAt
  let expiresAt ← p.expiresAt
  some (⟨⟨id, email, role⟩, kind, issuedAt, expiresAt⟩, p.addressed)

def readClaims? (s : Bytes) : Option (Claims × Bool) :=
  match skipBlanks s with
  | 0x7b :: r =>
    match members Partial.member (r.length + 1) true {} r with
    | .error _ => none
    | .ok (p, r) => match atEnd r with
      | .error _ => none
      | .ok () => p.complete?
  | _ => none

/-- What is known of a header: its algorithm, and the names that have been read. -/
structure HeaderRead where
  algorithm : Option String := none
  seen : List String := []

/-- The fields of a header in their order; most of them hold a text. -/
def headerFields : List String :=
  ["typ", "alg", "cty", "jku", "jwk", "kid", "x5u", "x5c", "x5t", "x5t#S256"]

/-- Takes the value of a field. -/
def HeaderRead.field (name : String) (h : HeaderRead) : Reader HeaderRead := fun s => do
  let h := { h with seen := name :: h.seen }
  if name == "alg" then
    let (a, r) ← readWord readNull s
    .ok ({ h with algorithm := some a }, r)
  else if name == "x5c" then .ok (h, (← optional readTexts s).2)
  else if name == "jwk" then .ok (h, (← optional PublicKey.readKey s).2)
  else .ok (h, (← optional readText s).2)

def HeaderRead.member (key : String) (h : HeaderRead) : Reader HeaderRead := fun s => do
  if h.seen.contains key then failAt (.duplicateField key) s
  else if headerFields.contains key then h.field key (← colon s)
  else .ok (h, ← skipValue (← colon s))

/-- A header may be a list of all its fields. -/
def HeaderRead.listFrom (first : Bool) (h : HeaderRead) : List String → Reader HeaderRead
  | [] => fun s => do .ok (h, ← closeList s)
  | name :: names => fun s => do
    match ← nextElement first s with
    | (none, r) => failAt .expectedValue r
    | (some r, _) =>
      let (h, r) ← h.field name r
      HeaderRead.listFrom false h names r

def readHeader : Reader HeaderRead := fun s =>
  match skipBlanks s with
  | 0x7b :: r => members HeaderRead.member (r.length + 1) true {} r
  | 0x5b :: r => HeaderRead.listFrom true {} headerFields r
  | r => failAt .expectedValue r

/-- Whether a header says that the token is signed with HMAC over SHA-256. -/
def acceptsHeader (s : Bytes) : Bool :=
  match readHeader s with
  | .ok (h, r) => skipBlanks r == [] && h.algorithm == some "HS256"
  | .error _ => false

/-- A token whose header and signature are right gives its claims as bytes. -/
def opened? (P : Primitives) (secret : Bytes) (token : List Char) : Option Bytes :=
  match Text.parts '.' token with
  | [h, p, s] => do
    let header ← Base64.decode? Base64.url h
    if acceptsHeader header && encodePart (P.sign secret (asciiBytes (h ++ '.' :: p))) == s then
      Base64.decode? Base64.url p
    else none
  | _ => none

/-- Checks form and signature, then expiry, then audience, then kind.  A token is good up to and
including the second it expires at. -/
def Keys.verify (P : Primitives) (k : Keys) (kind : Kind) (token : String) (now : Instant) :
    Except Refused Claims :=
  match (opened? P (k.secret kind) token.toList).bind readClaims? with
  | none => .error .invalid
  | some (claims, addressed) =>
    if claims.expiresAt < 0 then .error .invalid
    else if claims.expiresAt < now.seconds then .error .expired
    else if addressed then .error .invalid
    else if claims.kind ≠ kind then .error (.wrongKind kind)
    else .ok claims

end Storefront.Token
