import Storefront.Http.Message
import Storefront.Text.Blank
import Storefront.Text.Split

namespace Storefront.Http

inductive SameSite where
  | strict
  | lax
  | none
  deriving DecidableEq

def SameSite.text : SameSite → String
  | .strict => "Strict"
  | .lax => "Lax"
  | .none => "None"

def SameSite.ofText? (s : String) : Option SameSite :=
  [strict, lax, none].find? fun v => v.text == s

/-- What a browser assumes. -/
def SameSite.usual : SameSite := .lax

structure Cookie where
  name : String
  secure : Bool
  httpOnly : Bool
  sameSite : SameSite
  path : String
  /-- In seconds. -/
  maxAge : Option Int

namespace Cookie

/-- The cookie that carries the refresh token. -/
def refreshName : String := "refreshToken"

def standard : Cookie := ⟨refreshName, true, true, .strict, "/", none⟩

/-- It lives as long as the token in it. -/
def refresh (secure : Bool) (maxAge : Int) : Cookie :=
  { standard with secure := secure, maxAge := some maxAge }

/-- The attributes that must agree between storing and dropping, in their order. -/
def attributes (c : Cookie) : String :=
  (if c.httpOnly then "; HttpOnly" else "") ++ (if c.secure then "; Secure" else "")
    ++ "; SameSite=" ++ c.sameSite.text ++ "; Path=" ++ c.path

/-- The header that stores a value. -/
def store (c : Cookie) (value : String) : String :=
  c.name ++ "=" ++ value ++ c.attributes ++
    match c.maxAge with
    | some n => "; Max-Age=" ++ toString n
    | none => ""

/-- The header that drops the cookie. -/
def drop (c : Cookie) : String := c.name ++ "=" ++ c.attributes ++ "; Max-Age=0"

/-- A value that cannot be sent is replaced by an empty one. -/
def sendable (s : String) : String := if isSendable s then s else ""

/-- Name and value of one part of a Cookie header. -/
def pair? (part : List Char) : Option (List Char × List Char) := Text.cut? '=' (Text.trim part)

/-- All pairs of one header, in order; parts without an equals sign are none. -/
def pairs (header : List Char) : List (List Char × List Char) :=
  (Text.parts ';' header).filterMap pair?

/-- The first value under a name that is not empty, over all Cookie headers that are text. -/
def find? (h : Headers) (name : String) : Option String :=
  let all := ((h.all "cookie").filterMap valueText?).flatMap pairs
  (all.find? fun p => p.1 == name.toList && !p.2.isEmpty).map fun p => String.ofList p.2

end Cookie
end Storefront.Http
