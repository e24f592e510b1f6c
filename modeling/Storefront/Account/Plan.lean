import Storefront.Account.Call

namespace Storefront.Account

/-- What the service does with a request: a sequence of calls, each of which may depend on the answers to those before
it, and a result at the end.  The answer to a call comes with the instant at which it was given, so that a plan does
not ask for the time.  Between two calls anything may happen to the users. -/
inductive Plan (α : Type) where
  | done (result : Except Refusal α)
  | ask (c : Call) (next : Instant → Except Refusal c.Answer → Plan α)

namespace Plan

variable {α β σ : Type}

def refuse (r : Refusal) : Plan α := .done (.error r)

/-- Goes on with a result; a refusal ends the plan. -/
def bind (p : Plan α) (f : α → Plan β) : Plan β :=
  match p with
  | .done (.ok a) => f a
  | .done (.error r) => .done (.error r)
  | .ask c next => .ask c fun now a => (next now a).bind f

instance : Monad Plan where
  pure a := .done (.ok a)
  bind := bind

/-- One call; if it fails, so does the plan. -/
def call (c : Call) : Plan (Instant × c.Answer) := .ask c fun now a => .done (a.map (now, ·))

/-- One call, with another refusal in place of a taken address. -/
def callUnlessTaken (taken : Refusal) (c : Call) : Plan (Instant × c.Answer) :=
  .ask c fun now a => .done <|
    match a with
    | .error .emailInUse => .error taken
    | .error r => .error r
    | .ok x => .ok (now, x)

def ofExcept (r : Except Refusal α) : Plan α := .done r

/-- The value, or a refusal if there is none. -/
def orRefuse (a : Option α) (r : Refusal) : Plan α :=
  match a with
  | some x => .done (.ok x)
  | none => .done (.error r)

def findById (id : UserId) : Plan (Instant × Option User) := call (.findById id)

def findByEmail (e : Email) : Plan (Instant × Option User) := call (.findByEmail e)

def findByResetHash (h : String) : Plan (Instant × Option User) := call (.findByResetHash h)

def existsByEmail (e : Email) : Plan (Instant × Bool) := call (.existsByEmail e)

def list : Plan (Instant × List User) := call .list

def create (u : User) : Plan (Instant × Unit) := call (.create u)

def createUnlessTaken (taken : Refusal) (u : User) : Plan (Instant × Unit) :=
  callUnlessTaken taken (.create u)

def update (u : User) : Plan (Instant × Bool) := call (.update u)

def updateUnlessTaken (taken : Refusal) (u : User) : Plan (Instant × Bool) :=
  callUnlessTaken taken (.update u)

def consumeReset (id : UserId) (h : String) (p : Password.Hashed) (asOf : Instant) :
    Plan (Instant × Bool) :=
  call (.consumeReset id h p asOf)

def delete (id : UserId) : Plan (Instant × Bool) := call (.delete id)

/-- Carries a plan out at one instant, with nothing in between. -/
def run (answer : Backend σ) (now : Instant) : Plan α → σ → Except Refusal α × σ
  | .done r, s => (r, s)
  | .ask c next, s => let (a, s) := answer now s c; (next now a).run answer now s

/-- A run of two plans one after the other is the run of the second on what the first leaves. -/
theorem run_bind (answer : Backend σ) (now : Instant) (p : Plan α) (f : α → Plan β) (s : σ) :
    (p.bind f).run answer now s =
      match p.run answer now s with
      | (.ok a, s) => (f a).run answer now s
      | (.error r, s) => (.error r, s) := by
  induction p generalizing s with
  | done r => cases r <;> rfl
  | ask c next ih => simp only [bind, run, ih]

end Plan
end Storefront.Account
