import Storefront.Json.Reader

namespace Storefront.Token.PublicKey
open Json

/-- The fields of an object, each with the bytes where its value begins. -/
abbrev Fields := List (String × Bytes)

/-- Values are checked here, and read where they are wanted. -/
def readFields : Reader Fields := fun s =>
  match skipBlanks s with
  | 0x7b :: r =>
    let member (key : String) (before : Fields) : Reader Fields := fun s => do
      let value ← colon s
      let ((), r) ← checkValue (depthLimit - 2) value
      .ok ((key, value) :: before, r)
    members member (r.length + 1) true [] r
  | r => failAt .expectedValue r

namespace Fields

def values (f : Fields) (name : String) : List Bytes :=
  f.filterMap fun p => if p.1 == name then some p.2 else none

/-- Whether a field is there once. -/
def hasOne {α : Type} (f : Fields) (name : String) (read : Reader α) : Bool :=
  match f.values name with
  | [v] => isRead read v
  | _ => false

/-- Whether a field is there once or not at all; null will do for its value. -/
def mayHave {α : Type} (f : Fields) (name : String) (read : Reader α) : Bool :=
  (f.values name).isEmpty || f.hasOne name (optional read)

end Fields

/-- What a key says it is made for. -/
def algorithms : List String :=
  ["HS256", "HS384", "HS512", "ES256", "ES384", "RS256", "RS384", "RS512", "PS256", "PS384", "PS512",
   "EdDSA", "RSA1_5", "RSA-OAEP", "RSA-OAEP-256"]

def curves : List String := ["P-256", "P-384", "P-521", "Ed25519"]

/-- Keys of a family are points of a curve or not, and are given by some texts. -/
structure Family where
  code : String
  onCurve : Bool
  texts : List String

def families : List Family :=
  [⟨"EC", true, ["x", "y"]⟩, ⟨"RSA", false, ["n", "e"]⟩, ⟨"oct", false, ["k"]⟩, ⟨"OKP", true, ["x"]⟩]

/-- Whether a key has what its family needs. -/
def Family.has (m : Family) (f : Fields) : Bool :=
  f.hasOne "kty" (among [m.code] (readWord readNull))
    && (!m.onCurve || f.hasOne "crv" (among curves (readWord readNull)))
    && m.texts.all fun name => f.hasOne name readText

/-- Null, or an object without members. -/
def readNothing : Reader Unit := fun s =>
  match skipBlanks s with
  | 0x7b :: r => do .ok ((), ← closeObject r)
  | r => readNull r

/-- Whether the fields that all keys share are right; a key needs none of them. -/
def Fields.describe (f : Fields) : Bool :=
  (["use", "kid", "x5u", "x5t", "x5t#S256"].all fun name => f.mayHave name readText)
    && (["key_ops", "x5c"].all fun name => f.mayHave name readTexts)
    && f.mayHave "alg" (among algorithms (readWord readNothing))

/-- Checks a key that comes with a token.  None is ever used, for what a stranger sends is not trusted, but a header
that carries one must carry a good one. -/
def readKey : Reader Unit := fun s => do
  let (f, r) ← readFields s
  if f.describe && families.any fun m => m.has f then .ok ((), r) else failAt .expectedValue r

end Storefront.Token.PublicKey
