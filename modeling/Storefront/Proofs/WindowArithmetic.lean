import Mathlib.Algebra.Group.Int.Defs
import Mathlib.Order.Bounds.Basic
import Storefront.Proofs.RequestLog

namespace Storefront

/-- The number, if it has no more than 64 bits with its sign. -/
def Decimal.exact64? (n : Int) : Option Int :=
  if leastSigned64 ≤ n ∧ n ≤ mostSigned64 then some n else none

theorem Decimal.exact64?_eq {n : Int} (h : -2 ^ 63 ≤ n) (h' : n < 2 ^ 63) : exact64? n = some n := by
  refine if_pos ?_
  simp only [leastSigned64, mostSigned64]
  omega

theorem Decimal.exact64?_nonneg {n : Int} (h : 0 ≤ n) (h' : n < 2 ^ 63) : exact64? n = some n :=
  exact64?_eq (Int.le_trans (by decide) h) h'

/-- From 1970 on, with 62 bits. -/
def Instant.InReach (t : Instant) : Prop := 0 ≤ t ∧ t < 2 ^ 62

instance (t : Instant) : Decidable t.InReach := inferInstanceAs (Decidable (_ ∧ _))

theorem Instant.InReach.exact_le {t : Instant} {n : Int} (h : t.InReach) (hn : 0 ≤ n) (hl : n ≤ t) :
    Decimal.exact64? n = some n :=
  Decimal.exact64?_nonneg hn (Int.lt_trans (Int.lt_of_le_of_lt hl h.2) (by decide))

namespace RateLimit

namespace Limit

/-- The start of a window, if all numbers on the way to it have 64 bits. -/
def windowStart? (l : Limit) (now : Instant) : Option Instant := do
  let index ← Decimal.exact64? (now.ediv l.windowMs)
  Decimal.exact64? (index * l.windowMs)

variable {l : Limit} {t t' : Instant}

theorem windowMs_lt (l : Limit) : l.windowMs < 2 ^ 63 := by
  have h := Int.bmod_lt (x := l.window.milliseconds) (m := 0x10000000000000000) (by decide)
  exact Int.max_lt.mpr ⟨by decide, h⟩

theorem dvd_windowStart (l : Limit) (t : Instant) : l.windowMs ∣ l.windowStart t := Int.dvd_mul_left _ _

theorem windowStart_le (l : Limit) (t : Instant) : l.windowStart t ≤ t :=
  Int.ediv_mul_le t (Int.ne_of_gt l.windowMs_pos)

theorem windowIndex_nonneg (h : 0 ≤ t) : 0 ≤ l.windowIndex t :=
  Int.ediv_nonneg h (Int.le_of_lt l.windowMs_pos)

theorem windowStart_nonneg (h : 0 ≤ t) : 0 ≤ l.windowStart t :=
  Int.mul_nonneg (windowIndex_nonneg h) (Int.le_of_lt l.windowMs_pos)

theorem windowEnd_nonneg (h : 0 ≤ t) : 0 ≤ l.windowStart t + l.windowMs :=
  Int.add_nonneg (windowStart_nonneg h) (Int.le_of_lt l.windowMs_pos)

/-- A window that is longer than an instant begins with the time, and the end of a shorter one is no more
than twice the instant. -/
theorem windowEnd_lt (h : t.InReach) : l.windowStart t + l.windowMs < 2 ^ 63 := by
  by_cases hw : t < l.windowMs
  · have hs : l.windowStart t = 0 := by
      have hq : t.ediv l.windowMs = 0 := Int.ediv_eq_zero_of_lt h.1 hw
      rw [windowStart, hq, Int.zero_mul]
    rw [hs, Int.zero_add]
    exact l.windowMs_lt
  · have hs := l.windowStart_le t
    calc l.windowStart t + l.windowMs
      _ ≤ t + t := Int.add_le_add hs (Int.not_lt.mp hw)
      _ < 2 ^ 62 + 2 ^ 62 := Int.add_lt_add h.2 h.2

theorem windowStart?_eq (h : t.InReach) : l.windowStart? t = some (l.windowStart t) := by
  have hq : Decimal.exact64? (t.ediv l.windowMs) = some (l.windowIndex t) :=
    h.exact_le (windowIndex_nonneg h.1) (Int.ediv_le_self _ h.1)
  have hp : Decimal.exact64? (l.windowIndex t * l.windowMs) = some (l.windowStart t) :=
    h.exact_le (windowStart_nonneg h.1) (l.windowStart_le t)
  rw [windowStart?, hq]
  exact hp

/-- Whoever comes after the end of a window comes into another one. -/
theorem windowStart_ne (h : l.windowStart t + l.windowMs ≤ t') : l.windowStart t' ≠ l.windowStart t := by
  intro he
  have hl := l.lt_windowEnd t'
  rw [he] at hl
  exact absurd (Int.lt_of_lt_of_le hl h) (Int.lt_irrefl t')

end Limit

namespace Verdict

/-- Like `retryAfter`, if the difference has 64 bits. -/
def retryAfter? (v : Verdict) (now : Instant) : Option Nat := do
  let left ← Decimal.exact64? (v.resetAt - now)
  some (max 1 ((left.toNat + 999) / 1000))

variable {v : Verdict} {t : Instant}

theorem retryAfter?_eq (h : 0 ≤ v.resetAt) (h' : v.resetAt < 2 ^ 63) (ht : t.InReach) :
    v.retryAfter? t = some (v.retryAfter t) := by
  have hl : -2 ^ 63 ≤ v.resetAt - t := by
    have hb := ht.2
    grind
  have hm : v.resetAt - t < 2 ^ 63 := Int.lt_of_le_of_lt (Int.sub_le_self _ ht.1) h'
  rw [retryAfter?, Decimal.exact64?_eq hl hm]
  rfl

theorem retryAfter_isLeast (v : Verdict) (t : Instant) :
    IsLeast {r : Nat | 1 ≤ r ∧ v.resetAt ≤ t + 1000 * r} (v.retryAfter t) := by
  -- no more than rounding up; omega does not look through the name of instants
  constructor
  · show 1 ≤ v.retryAfter t ∧ v.resetAt ≤ t + 1000 * (v.retryAfter t : Int)
    grind [retryAfter]
  · rintro r ⟨hr, hl⟩
    grind [retryAfter]

end Verdict

namespace Store

/-- Like `check`, if all numbers on the way have 64 bits. -/
def check? (s : Store) (key : String) (l : Limit) (now : Instant) : Option (Verdict × Store) := do
  let start ← l.windowStart? now
  let fresh : Counter := ⟨start, l.windowMs, 0⟩
  let c := match s.get? key with
    | none => fresh
    | some c => if c.start = start ∧ c.length = l.windowMs then c else fresh
  let c := { c with count := min (c.count + 1) maxCount }
  let resetAt ← Decimal.exact64? (start + l.windowMs)
  some (⟨c.count ≤ l.maxRequests, l.maxRequests, l.maxRequests - c.count, resetAt⟩, s.put key c)

/-- Like `purge`, if the ends of all windows have 64 bits. -/
def purge? (now : Instant) : Store → Option Store
  | [] => some []
  | p :: s => do
    let stop ← Decimal.exact64? (p.2.start + p.2.length)
    let rest ← purge? now s
    some (if now < stop then p :: rest else rest)

/-- The store after a call, if all numbers on the way have 64 bits. -/
def next? (s : Store) : Call → Option Store
  | .check key l now => (s.check? key l now).map (·.2)
  | .purge now => s.purge? now

/-- The store after some calls. -/
def after (s : Store) (cs : List Call) : Store := cs.foldl (fun s c => (s.serve c).2) s

/-- The windows of all counters end at instants of 64 bits. -/
def Bounded (s : Store) : Prop := ∀ p ∈ s, 0 ≤ p.2.start + p.2.length ∧ p.2.start + p.2.length < 2 ^ 63

variable {s : Store} {key : String} {l : Limit} {t : Instant}

theorem resetAt_check (s : Store) (key : String) (l : Limit) (t : Instant) :
    (s.check key l t).1.resetAt = l.windowStart t + l.windowMs := by
  simp only [check, verdict, advance_eq]

theorem check?_eq (ht : t.InReach) : s.check? key l t = some (s.check key l t) := by
  have he : Decimal.exact64? (l.windowStart t + l.windowMs) = some (l.windowStart t + l.windowMs) :=
    Decimal.exact64?_nonneg (Limit.windowEnd_nonneg ht.1) (Limit.windowEnd_lt ht)
  have hr : (verdict l (advance (s.get? key) l t)).resetAt = l.windowStart t + l.windowMs :=
    resetAt_check s key l t
  simp only [check?, Limit.windowStart?_eq ht, he, check, Option.bind_eq_bind, Option.bind_some]
  rw [← hr]
  rfl

theorem purge?_eq (h : s.Bounded) : s.purge? t = some (s.purge t) := by
  induction s with
  | nil => rfl
  | cons p s ih =>
    obtain ⟨hp, hs⟩ := List.forall_mem_cons.mp h
    have he : Decimal.exact64? (p.2.start + p.2.length) = some (p.2.start + p.2.length) :=
      Decimal.exact64?_nonneg hp.1 hp.2
    simp only [purge?, he, ih hs, Option.bind_eq_bind, Option.bind_some, purge, List.filter_cons,
      decide_eq_true_eq]

theorem next?_eq {c : Call} (h : s.Bounded) (hc : c.time.InReach) : s.next? c = some (s.serve c).2 := by
  cases c with
  | check key l now =>
    have he : s.check? key l now = some (s.check key l now) := check?_eq hc
    rw [next?, he]
    rfl
  | purge now => exact purge?_eq h

theorem Bounded.serve {c : Call} (h : s.Bounded) (hc : c.time.InReach) : Bounded (s.serve c).2 := by
  intro p hp
  cases c with
  | check key l now =>
    rcases Keyed.mem_put.mp hp with rfl | ⟨hm, -⟩
    · rw [advance_eq]
      exact ⟨Limit.windowEnd_nonneg hc.1, Limit.windowEnd_lt hc⟩
    · exact h p hm
  | purge now => exact h p (List.mem_filter.mp hp).1

theorem Bounded.after {cs : List Call} (h : s.Bounded) (hc : ∀ c ∈ cs, c.time.InReach) :
    (s.after cs).Bounded := by
  induction cs generalizing s with
  | nil => exact h
  | cons c cs ih =>
    obtain ⟨hc, hcs⟩ := List.forall_mem_cons.mp hc
    exact ih (h.serve hc) hcs

theorem foldlM_next? {cs : List Call} (h : s.Bounded) (hc : ∀ c ∈ cs, c.time.InReach) :
    cs.foldlM next? s = some (s.after cs) := by
  induction cs generalizing s with
  | nil => rfl
  | cons c cs ih =>
    obtain ⟨hc, hcs⟩ := List.forall_mem_cons.mp hc
    rw [List.foldlM_cons, next?_eq h hc]
    exact ih (h.serve hc) hcs

/-- Every counter of a key is the one given. -/
def Holds (key : String) (c : Counter) (s : Store) : Prop := ∀ p ∈ s, p.1 = key → p.2 = c

theorem Holds.check (s : Store) (key : String) (l : Limit) (t : Instant) :
    Holds key (advance (s.get? key) l t) (s.check key l t).2 := by
  intro p hp hk
  rcases Keyed.mem_put.mp hp with rfl | ⟨-, hn⟩
  · rfl
  · exact absurd hk hn

theorem Holds.serve {c : Counter} {e : Call} (h : Holds key c s) (he : e.asks key = false) :
    Holds key c (s.serve e).2 := by
  intro p hp hk
  cases e with
  | check key' l now =>
    rcases Keyed.mem_put.mp hp with rfl | ⟨hm, -⟩
    · simp only [Call.asks_check, decide_eq_false_iff_not] at he
      exact absurd hk he
    · exact h p hm hk
  | purge now => exact h p (List.mem_filter.mp hp).1 hk

/-- The counter of a key that is not asked for may be purged, and stays as it is otherwise. -/
theorem Holds.after {c : Counter} {cs : List Call} (h : Holds key c s)
    (hc : ∀ e ∈ cs, e.asks key = false) : Holds key c (s.after cs) := by
  induction cs generalizing s with
  | nil => exact h
  | cons e cs ih =>
    obtain ⟨he, hcs⟩ := List.forall_mem_cons.mp hc
    exact ih (h.serve he) hcs

/-- The first request in a window is let through. -/
theorem allowed_first (hl : 1 ≤ l.maxRequests) (h : held (s.get? key) l t = 0) :
    (s.check key l t).1.allowed = true := by
  simp only [check, verdict, advance_eq, h, decide_eq_true_eq]
  omega

theorem Holds.allowed {old : Option Counter} {t' : Instant} (h : Holds key (advance old l t) s)
    (ht : l.windowStart t + l.windowMs ≤ t') (hl : 1 ≤ l.maxRequests) :
    (s.check key l t').1.allowed = true := by
  refine allowed_first hl ?_
  cases hc : s.get? key with
  | none => rfl
  | some c =>
    have he : c = advance old l t := h _ (Keyed.mem_of_get? hc) rfl
    simp only [he, advance_eq, held, ite_eq_right_iff]
    rintro ⟨hs, -⟩
    exact absurd hs.symm (Limit.windowStart_ne ht)

/-- At instants of 62 bits all numbers that a limiter computes have 64 bits.  A window begins at a multiple of
its length and its instants are from its start to before its end, at which a verdict says that the counter
starts anew; the seconds to wait are the fewest, at least one, until that.  After them the key is let through
again, whatever other keys were asked for and purges were made in the meantime. -/
theorem retry_admitted {cs : List Call} {t : Instant} (hc : ∀ c ∈ cs, c.time.InReach) (ht : t.InReach)
    (l : Limit) (key : String) :
    let s := after [] cs
    let v := (s.check key l t).1
    (1 ≤ l.windowMs ∧ l.windowMs < 2 ^ 63) ∧
    (cs.foldlM next? [] = some s ∧ l.windowStart? t = some (l.windowStart t) ∧
      s.check? key l t = some (s.check key l t) ∧ s.purge? t = some (s.purge t) ∧
      ∀ now : Instant, now.InReach → v.retryAfter? now = some (v.retryAfter now)) ∧
    (l.windowMs ∣ l.windowStart t ∧ l.windowStart t ≤ t ∧ t < v.resetAt ∧
      v.resetAt = l.windowStart t + l.windowMs) ∧
    IsLeast {r : Nat | 1 ≤ r ∧ v.resetAt ≤ t + 1000 * r} (v.retryAfter t) ∧
    ∀ (between : List Call) (t' : Instant), (∀ c ∈ between, c.asks key = false) →
      t + 1000 * v.retryAfter t ≤ t' → 1 ≤ l.maxRequests →
      ((after (s.check key l t).2 between).check key l t').1.allowed = true := by
  intro s v
  have h0 : Bounded [] := fun _ h => nomatch h
  have hv : v.resetAt = l.windowStart t + l.windowMs := resetAt_check s key l t
  have hr : IsLeast {r : Nat | 1 ≤ r ∧ v.resetAt ≤ t + 1000 * r} (v.retryAfter t) :=
    v.retryAfter_isLeast t
  refine ⟨⟨l.windowMs_pos, l.windowMs_lt⟩,
    ⟨foldlM_next? h0 hc, Limit.windowStart?_eq ht, check?_eq ht, purge?_eq (h0.after hc), ?_⟩,
    ⟨l.dvd_windowStart t, l.windowStart_le t, ?_, hv⟩, hr, ?_⟩
  · intro now hnow
    refine Verdict.retryAfter?_eq ?_ ?_ hnow
    · exact hv ▸ Limit.windowEnd_nonneg ht.1
    · exact hv ▸ Limit.windowEnd_lt ht
  · rw [hv]
    exact l.lt_windowEnd t
  · intro between t' hk hlate hl
    refine ((Holds.check s key l t).after hk).allowed ?_ hl
    rw [← hv]
    exact Int.le_trans hr.1.2 hlate

/-- The second request in a window of a second and a half is turned away, and told to wait for a second.  A
purge in the meantime leaves the counter there. -/
theorem ann_retries :
    let l := Limit.ofMilliseconds 1 1500
    let s := after [] [.check "ann" l 100, .check "bob" l 1600, .purge 600]
    let v := (s.check "ann" l 700).1
    v.allowed = false ∧ v.resetAt = 1500 ∧ v.retryAfter 700 = 1 ∧
      IsLeast {r : Nat | 1 ≤ r ∧ v.resetAt ≤ (700 : Instant) + 1000 * r} (v.retryAfter 700) ∧
      s.check? "ann" l 700 = some (s.check "ann" l 700) ∧
      ((after (s.check "ann" l 700).2 [.purge 1400, .check "bob" l 1650]).check "ann" l 1700).1.allowed =
        true := by
  intro l s v
  have hc : ∀ c ∈ [Call.check "ann" l 100, .check "bob" l 1600, .purge 600], c.time.InReach := by decide
  obtain ⟨-, ⟨-, -, he, -⟩, -, hr, ha⟩ := retry_admitted hc (t := 700) (by decide) l "ann"
  refine ⟨by decide, by decide, by decide, hr, he, ?_⟩
  exact ha [.purge 1400, .check "bob" l 1650] 1700 (by decide) (by decide) (by decide)

/-- Of the instants with 63 bits some lie in windows that end too late. -/
example :
    check? [] "ann" (.ofMilliseconds 1 (2 ^ 62 + 1)) (2 ^ 62 - 1) =
        some (check [] "ann" (.ofMilliseconds 1 (2 ^ 62 + 1)) (2 ^ 62 - 1)) ∧
      check? [] "ann" (.ofMilliseconds 1 (2 ^ 62 + 1)) (2 ^ 63 - 1) = none := by
  decide

end Store
end RateLimit
end Storefront
