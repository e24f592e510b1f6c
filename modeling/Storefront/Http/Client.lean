import Storefront.Http.Message
import Storefront.Net.Address
import Storefront.Text.Blank

namespace Storefront.Http

/-- Behind a proxy the first address of X-Forwarded-For is the client's; else it is the peer of the connection. -/
def clientAddress (h : Headers) (peer : Option Address) : Option Address :=
  let forwarded := do
    let v ← h.text? "x-forwarded-for"
    let first ← (Text.parts ',' v).head?
    Address.ofChars? (Text.trim first)
  forwarded.or peer

/-- What counts as one client where requests are limited. -/
def clientKey (h : Headers) (peer : Option Address) : String :=
  match clientAddress h peer with
  | some a => a.text
  | none => "unknown"

end Storefront.Http
