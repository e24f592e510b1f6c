import Storefront.Crypto.Phc
import Storefront.Crypto.Sha256
import Storefront.Text.Case
import Storefront.Text.Normal

namespace Storefront

/-- The functions of other standards that the service is built on.  What the service does with them is stated for any
such functions; `standard` are the ones that run. -/
structure Primitives where
  /-- Lower case of a text. -/
  lower : List Char → List Char
  /-- Normal form of a text in which its compatible spellings agree. -/
  normal : List Char → List Char
  /-- A digest of bytes. -/
  digest : Bytes → Bytes
  /-- A signature of a message under a key. -/
  sign : Bytes → Bytes → Bytes
  /-- The text of the hash of a password under a salt. -/
  hashPassword : Bytes → Bytes → String
  /-- Whether the text of a hash accepts a password. -/
  verifyPassword : String → Bytes → Bool

def Primitives.standard : Primitives where
  lower := Text.Case.lower
  normal := Text.Normal.nfkc
  digest := Sha256.digest
  sign := Hmac.sign
  hashPassword := Phc.hash
  verifyPassword := Phc.verify

end Storefront
