import Storefront.Decimal.Integer
import Storefront.Http.Message
import Storefront.Keyed
import Storefront.Time

namespace Storefront.RateLimit

structure Limit where
  maxRequests : Nat
  window : Duration
  deriving DecidableEq

namespace Limit

def ofMilliseconds (maxRequests ms : Nat) : Limit := ⟨maxRequests, .ofMilliseconds ms⟩

def ofSeconds (maxRequests s : Nat) : Limit := ⟨maxRequests, .ofSeconds s⟩

/-- Ten requests in a minute. -/
def usual : Limit := ofSeconds 10 60

/-- The length of a window, at least one millisecond; beyond 63 bits it wraps around. -/
def windowMs (l : Limit) : Int := max 1 (Decimal.wrap64 l.window.milliseconds)

/-- The start of the window that `now` falls into.  Windows are aligned, so that all keys roll over together. -/
def windowStart (l : Limit) (now : Instant) : Instant := now.ediv l.windowMs * l.windowMs

def debugText (l : Limit) : String :=
  "RateLimitConfig \x7b max_requests: " ++ toString l.maxRequests ++ ", window: " ++ l.window.text
    ++ " \x7d"

end Limit

/-- The answer to one request. -/
structure Verdict where
  allowed : Bool
  limit : Nat
  remaining : Nat
  resetAt : Instant
  deriving DecidableEq

namespace Verdict

/-- Seconds until the window closes, rounded up, at least one. -/
def retryAfter (v : Verdict) (now : Instant) : Nat :=
  max 1 (((v.resetAt - now).toNat + 999) / 1000)

def headers (v : Verdict) (now : Instant) : List (String × String) :=
  let reset := toString (v.retryAfter now)
  [("ratelimit-limit", toString v.limit), ("ratelimit-remaining", toString v.remaining),
   ("ratelimit-reset", reset)] ++ if v.allowed then [] else [("retry-after", reset)]

end Verdict

/-- The requests of one key in one window. -/
structure Counter where
  start : Instant
  length : Int
  /-- At most 32 bits; it stays at the top. -/
  count : Nat
  deriving DecidableEq

/-- A counter for each key that has been used and not been purged. -/
abbrev Store := Keyed String Counter

namespace Store

def maxCount : Nat := Decimal.most32

/-- Counts in the window of the counter, or starts a new counter if it is another window. -/
def advance (old : Option Counter) (l : Limit) (now : Instant) : Counter :=
  let fresh : Counter := ⟨l.windowStart now, l.windowMs, 0⟩
  let c := match old with
    | none => fresh
    | some c => if c.start = fresh.start ∧ c.length = fresh.length then c else fresh
  { c with count := min (c.count + 1) maxCount }

def verdict (l : Limit) (c : Counter) : Verdict :=
  ⟨c.count ≤ l.maxRequests, l.maxRequests, l.maxRequests - c.count, c.start + c.length⟩

/-- Counts one request of `key` at `now`. -/
def check (s : Store) (key : String) (l : Limit) (now : Instant) : Verdict × Store :=
  let c := advance (s.get? key) l now
  (verdict l c, s.put key c)

/-- Drops the counters whose window is over. -/
def purge (s : Store) (now : Instant) : Store := s.filter fun p => now < p.2.start + p.2.length

end Store
end Storefront.RateLimit
