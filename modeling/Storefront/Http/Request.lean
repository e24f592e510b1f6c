import Storefront.Http.MediaType
import Storefront.Http.Path
import Storefront.Json.Form
import Storefront.Net.Address

namespace Storefront.Http

structure Request where
  method : Method
  target : String
  headers : Headers
  body : Bytes
  /-- The other end of the connection, where it is known. -/
  peer : Option Address

namespace Request

/-- Whether the body is said to be JSON. -/
def saysJson (r : Request) : Bool :=
  match (r.headers.text? "content-type").bind MediaType.parse? with
  | some m => m.isJson
  | none => false

/-- The most bytes a body may have. -/
def maxBodyBytes : Nat := 2097152

/-- The fields of a form in the body, or what to tell the client. -/
def read (r : Request) (form : Json.Form) : Except String Json.Entries :=
  if !r.saysJson then .error "Expected request with \x60Content-Type: application/json\x60"
  else if maxBodyBytes < r.body.length then
    .error "Failed to buffer the request body: length limit exceeded"
  else form.readBody r.body

end Request

/-- A resource that can be got can also be asked for without its body. -/
def hasMethod (methods : List Method) (m : Method) : Bool :=
  methods.contains m || (m == .head && methods.contains .get)

/-- The methods of a resource as the client is told. -/
def allowText (methods : List Method) : String :=
  ",".intercalate (methods.flatMap fun m => if m = .get then ["GET", "HEAD"] else [m.name])

/-- The answer where a resource has not the method. -/
def methodNotAllowed : Response := .empty 405

/-- Makes an answer ready to be sent: with the methods of the resource if it has not the one that was
asked for, and without a body if none was asked for. -/
def finish (methods : List Method) (m : Method) (r : Response) : Response :=
  let r := if hasMethod methods m then r else r.withHeader "allow" (allowText methods)
  if m = .head then r.withoutBody else r

/-- The answer to a path parameter that is no text. -/
def unreadableParameter (name : String) : Response :=
  .plain 400 ("Invalid URL: Invalid UTF-8 in \x60" ++ name ++ "\x60")

end Storefront.Http
