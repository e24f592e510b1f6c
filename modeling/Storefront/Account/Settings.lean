import Storefront.Bytes
import Storefront.Http.Cookie
import Storefront.RateLimit
import Storefront.Settings.Environment
import Storefront.Text.Quoted
import Storefront.Token

namespace Storefront.Account

open RateLimit (Limit)

structure Settings where
  accessSecret : Bytes
  refreshSecret : Bytes
  accessTtl : Duration
  refreshTtl : Duration
  resetTtl : Duration
  cookieSecure : Bool
  pepper : Option Bytes
  /-- The first one is where links lead. -/
  frontendOrigins : List String
  loginLimit : Limit
  forgotLimit : Limit
  resetLimit : Limit
  /-- For each user, where the others are for each client. -/
  changeLimit : Limit

/-- A secret that must be set in production. -/
structure MissingSecret where
  name : String
  deriving DecidableEq

def MissingSecret.message (m : MissingSecret) : String :=
  m.name ++ " must be set when APP_ENV=production"

namespace Settings

def usualOrigin : String := "http://localhost:3000"

def usual : Settings where
  accessSecret := []
  refreshSecret := []
  accessTtl := .ofSeconds 900
  refreshTtl := .ofSeconds 604800
  resetTtl := .ofSeconds 3600
  cookieSecure := true
  pepper := none
  frontendOrigins := [usualOrigin]
  loginLimit := .ofMilliseconds 5 900000
  forgotLimit := .ofMilliseconds 3 900000
  resetLimit := .ofMilliseconds 5 900000
  changeLimit := .ofMilliseconds 5 300000

/-- Secrets drawn at random. -/
def withSecrets (access refresh : Bytes) : Settings :=
  { usual with accessSecret := access, refreshSecret := refresh }

/-- For work on a machine without encrypted connections. -/
def development (access refresh : Bytes) : Settings :=
  { withSecrets access refresh with cookieSecure := false }

/-- A secret that is not set is drawn at random, but not in production. -/
def secret (e : Environment) (production : Bool) (name : String) (random : Bytes) :
    Except MissingSecret Bytes :=
  match e.get? name with
  | some s => .ok (Bytes.ofText s)
  | none => if production then .error ⟨name⟩ else .ok random

def limit (e : Environment) (name : String) (fallback : Limit) : Limit :=
  .ofMilliseconds
    (e.parsed (Decimal.unsigned? Decimal.most32) (name ++ "_MAX_ATTEMPTS") fallback.maxRequests)
    (e.parsed (Decimal.unsigned? Decimal.most64) (name ++ "_WINDOW_MS") fallback.window.milliseconds)

def seconds (e : Environment) (name : String) (fallback : Duration) : Duration :=
  .ofSeconds (e.parsed (Decimal.unsigned? Decimal.most64) name fallback.seconds)

def origins (e : Environment) : List String :=
  match Environment.list (e.getD "FRONTEND_URL" usualOrigin) with
  | [] => [usualOrigin]
  | os => os

/-- The settings of a service; the random bytes stand in for secrets that are not set. -/
def ofEnvironment (e : Environment) (access refresh : Bytes) : Except MissingSecret Settings := do
  let production := e.getD "APP_ENV" "development" == "production"
  let accessSecret ← secret e production "JWT_SECRET" access
  let refreshSecret ← secret e production "JWT_REFRESH_SECRET" refresh
  .ok { usual with
    accessSecret := accessSecret
    refreshSecret := refreshSecret
    accessTtl := seconds e "ACCESS_TOKEN_TTL_SECS" usual.accessTtl
    refreshTtl := seconds e "REFRESH_TOKEN_TTL_SECS" usual.refreshTtl
    cookieSecure := production || e.flag "COOKIE_SECURE"
    pepper := (e.get? "PASSWORD_PEPPER").map Bytes.ofText
    frontendOrigins := origins e
    loginLimit := limit e "LOGIN" usual.loginLimit
    forgotLimit := limit e "FORGOT" usual.forgotLimit
    resetLimit := limit e "RESET" usual.resetLimit
    changeLimit := limit e "CHANGE_PASSWORD" usual.changeLimit }

def keys (s : Settings) : Token.Keys :=
  ⟨s.accessSecret, s.refreshSecret, s.accessTtl, s.refreshTtl⟩

/-- The cookie with the refresh token, which lives as long as the token. -/
def refreshCookie (s : Settings) : Http.Cookie :=
  .refresh s.cookieSecure (Decimal.wrap64 s.refreshTtl.seconds)

/-- The link a user follows to choose a new password. -/
def resetLink (s : Settings) (token : String) : String :=
  let base := (s.frontendOrigins.head?.getD usualOrigin).toList
  String.ofList (base.reverse.dropWhile (· == '/')).reverse ++ "/reset-password?token=" ++ token

/-- The lifetime of reset tokens; one that goes past 63 bits of milliseconds is an hour. -/
def resetLifetime (s : Settings) : Duration :=
  if s.resetTtl.nanoseconds ≤ Decimal.mostSigned64 * Duration.perMillisecond then s.resetTtl
  else .ofSeconds 3600

/-- The same as clocks show it, which tell whole milliseconds. -/
def resetTtlMs (s : Settings) : Int := s.resetLifetime.roundedUp

/-- A list of texts in brackets. -/
def quotedList (l : List String) : String := "[" ++ ", ".intercalate (l.map Text.quoted) ++ "]"

/-- All settings but the secrets. -/
def debugText (s : Settings) : String :=
  "AuthConfig \x7b jwt_secrets: \"[REDACTED]\", access_token_ttl: " ++ s.accessTtl.text
    ++ ", refresh_token_ttl: " ++ s.refreshTtl.text ++ ", reset_token_ttl: " ++ s.resetTtl.text
    ++ ", cookie_secure: " ++ (if s.cookieSecure then "true" else "false")
    ++ ", password_pepper: " ++ (if s.pepper.isSome then "Some(\"[REDACTED]\")" else "None")
    ++ ", frontend_origins: " ++ quotedList s.frontendOrigins
    ++ ", login_limit: " ++ s.loginLimit.debugText
    ++ ", forgot_password_limit: " ++ s.forgotLimit.debugText
    ++ ", reset_password_limit: " ++ s.resetLimit.debugText
    ++ ", change_password_limit: " ++ s.changeLimit.debugText ++ " \x7d"

end Settings
end Storefront.Account
