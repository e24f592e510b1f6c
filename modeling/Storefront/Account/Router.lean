import Storefront.Account.Answer
import Storefront.Account.Gate
import Storefront.Account.Reading
import Storefront.Account.Service
import Storefront.Http.Client

namespace Storefront.Account

open Http (Request Response)

/-- What the service works with: its settings, the functions it is built on, and the place where users
are kept. -/
structure Setup (σ : Type) where
  primitives : Primitives
  settings : Settings
  backend : Backend σ

/-- What changes from request to request. -/
structure State (σ : Type) where
  users : σ
  limits : RateLimit.Store

namespace Setup

variable {σ : Type}

/-- A step of the service: what is answered, and the state afterwards. -/
abbrev Step (σ : Type) := State σ → Response × State σ

/-- An answer that leaves everything as it is. -/
def unmoved (r : Response) : Step σ := fun st => (r, st)

/-- Carries out a command, unless there is an answer already. -/
def perform (w : Setup σ) (d : Draws) (now : Instant) (c : Except Response Command) : Step σ :=
  match c with
  | .error r => unmoved r
  | .ok c => fun st =>
    let (result, users) := (c.plan w.primitives w.settings d now).run w.backend now st.users
    (answerOf w.settings result, { st with users := users })

/-- Counts the request and goes on if it is within the limit.  Every answer tells how much is left. -/
def throttled (t : Option Throttle) (who : String) (now : Instant) (inner : Step σ) : Step σ :=
  match t with
  | none => inner
  | some t => fun st =>
    let (v, limits) := st.limits.check (t.key who) t.limit now
    let st := { st with limits := limits }
    let (r, st) := if v.allowed then inner st else ((Refusal.rateLimited t.message).response, st)
    ({ r with headers := r.headers ++ v.headers now }, st)

/-- Goes on only with a method that the resource has. -/
def ifMethod (res : Resource) (r : Request) (inner : Step σ) : Step σ :=
  if Http.hasMethod res.methods r.method then inner else unmoved Http.methodNotAllowed

/-- Goes on with the caller, or answers why not. -/
def withCaller (w : Setup σ) (r : Request) (now : Instant) (inner : Caller → Step σ) : Step σ :=
  match Caller.ofHeaders w.primitives w.settings.keys r.headers now with
  | .ok c => inner c
  | .error e => unmoved e.response

/-- Goes on with a caller of one of some roles. -/
def withRole (roles : List Role) (inner : Step σ) (c : Caller) : Step σ :=
  match requireRole roles (some c) with
  | .ok _ => inner
  | .error e => unmoved e.response

/-- A request passes the limit or the gate of its resource first, then its method is looked at, then the body; only
then is the service asked. -/
def route (w : Setup σ) (d : Draws) (now : Instant) (r : Request) (res : Resource) : Step σ :=
  match res with
  | .entrance e =>
    throttled (e.throttle w.settings) (Http.clientKey r.headers r.peer) now <|
      ifMethod res r (w.perform d now (e.command r))
  | .own o => w.withCaller r now fun c =>
    ifMethod res r <| throttled (o.throttle w.settings) c.id.text now <|
      w.perform d now (o.command r c.id)
  | .panel p => w.withCaller r now <| withRole [.superadmin] <|
    ifMethod res r (w.perform d now (p.command r))

/-- Answers one request. -/
def respond (w : Setup σ) (d : Draws) (now : Instant) (r : Request) : Step σ := fun st =>
  match Resource.ofTarget? r.target with
  | none => (.empty 404, st)
  | some res =>
    let (a, st) := w.route d now r res st
    (Http.finish res.methods r.method a, st)

end Setup
end Storefront.Account
