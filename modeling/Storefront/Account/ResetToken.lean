import Storefront.Primitives

namespace Storefront.Account

/-- A token that lets a user choose a new password.  The token itself travels only in the link; what is stored is its
digest. -/
structure ResetToken where
  text : String
  deriving DecidableEq

namespace ResetToken

/-- Random bytes in a token, each of which makes two digits. -/
def byteCount : Nat := 32

/-- The token made of random bytes. -/
def ofBytes (b : Bytes) : ResetToken := ⟨Bytes.toHex b⟩

/-- The form in which a token is stored. -/
def hash (P : Primitives) (t : ResetToken) : String := Bytes.toHex (P.digest (Bytes.ofText t.text))

def matchesHash (P : Primitives) (t : ResetToken) (stored : String) : Bool :=
  Bytes.constantTimeEq (Bytes.ofText (t.hash P)) (Bytes.ofText stored)

/-- A log does not show tokens. -/
def debugText (_ : ResetToken) : String := "ResetToken(\"[REDACTED]\")"

end ResetToken
end Storefront.Account
