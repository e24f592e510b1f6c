import Mathlib.Algebra.Group.Int.Defs
import Storefront.Account.Settings
import Storefront.Proofs.TokenKinds

namespace Storefront

namespace Decimal

/-- A sum of numbers with at most 63 and 64 bits is cut off at 63 bits and a sign. -/
theorem wrap64_of_lt {n : Int} (h : 0 ≤ n) (h' : n < 2 ^ 64 + 2 ^ 63) :
    wrap64 n = if n ≤ mostSigned64 then n else n - 2 ^ 64 := by
  unfold wrap64 mostSigned64
  by_cases hn : n ≤ 0x7fffffffffffffff
  · rw [if_pos hn]
    exact Int.bmod_eq_of_le (by omega) (by omega)
  · rw [if_neg hn, ← Int.sub_bmod_right]
    exact Int.bmod_eq_of_le (by omega) (by omega)

theorem Spells.not_blank {s : List Char} {n : Nat} (h : Spells s n) : ∀ c ∈ s, Text.isBlank c = false := by
  obtain ⟨plus, hp, zeros, rfl⟩ := h
  intro c hc
  simp only [List.mem_append, List.mem_replicate] at hc
  rcases hc with hc | ⟨-, rfl⟩ | hc
  · rcases List.mem_pair.mp hp with rfl | rfl
    · cases hc
    · obtain rfl := List.mem_singleton.mp hc
      decide
  · decide
  · have hb := Json.digit_bounds (mem_naturalDigits hc)
    simp only [Text.isBlank, Bool.or_eq_false_iff, Bool.and_eq_false_iff, decide_eq_false_iff_not,
      beq_eq_false_iff_ne]
    omega

end Decimal

namespace Environment

/-- A variable is set to a number, which may have blanks around it. -/
def Holds (e : Environment) (name : String) (n : Nat) : Prop :=
  ∃ v l s r, e.find? (fun p => p.1 == name) = some (name, v) ∧ v.toList = l ++ s ++ r ∧
    (∀ c ∈ l, Text.isBlank c = true) ∧ (∀ c ∈ r, Text.isBlank c = true) ∧ Decimal.Spells s n

variable {e : Environment} {name : String} {n most : Nat}

theorem parsed_of_holds (h : e.Holds name n) (hn : n ≤ most) (fallback : Nat) :
    e.parsed (Decimal.unsigned? most) name fallback = n := by
  obtain ⟨v, l, s, r, hf, hv, hl, hr, hs⟩ := h
  have ht : Text.trim v.toList = s := by
    rw [hv, Text.trim_append hl hr, Text.trim_of_none_blank hs.not_blank]
  have hu : Decimal.unsigned? most s = some n := Decimal.unsigned?_eq_some.mpr ⟨hs, hn⟩
  have hne : s ≠ [] := by
    intro he
    subst he
    simp [Decimal.unsigned?, Decimal.natural?] at hu
  simp [parsed, get?, hf, ht, hne, hu]

end Environment

theorem Duration.seconds_ofSeconds (n : Nat) : (ofSeconds n).seconds = n :=
  Nat.mul_div_cancel n (by decide)

theorem Duration.milliseconds_ofMilliseconds (n : Nat) : (ofMilliseconds n).milliseconds = n :=
  Nat.mul_div_cancel n (by decide)

namespace Token.Keys

/-- What a token of one kind says, and whether it is addressed to somebody. -/
def read? (P : Primitives) (k : Keys) (kind : Kind) (token : String) : Option (Claims × Bool) :=
  (opened? P (k.secret kind) token.toList).bind readClaims?

theorem read?_issueAt {P : Primitives} {k : Keys} {kind : Kind} {t : Subject} {iat : Int} (h : IsSecond iat) :
    k.read? P kind (k.issueAt P kind t iat) = some (k.claims kind t iat, false) := by
  rw [read?, opened?_issueAt, if_pos rfl]
  exact readClaims?_bytes h (isSecond_wrap64 _)

end Token.Keys

namespace Account

open Decimal (mostSigned64 most64)
open Token (Kind)

/-- The limits with a window of their own. -/
inductive Limiter where
  | login
  | forgot
  | reset
  | change
  deriving DecidableEq

namespace Limiter

def limit (s : Settings) : Limiter → RateLimit.Limit
  | .login => s.loginLimit
  | .forgot => s.forgotLimit
  | .reset => s.resetLimit
  | .change => s.changeLimit

/-- The variable that holds the length of the window in milliseconds. -/
def setting : Limiter → String
  | .login => "LOGIN_WINDOW_MS"
  | .forgot => "FORGOT_WINDOW_MS"
  | .reset => "RESET_WINDOW_MS"
  | .change => "CHANGE_PASSWORD_WINDOW_MS"

end Limiter

/-- The variable that holds the lifetime of tokens in seconds. -/
def lifetimeSetting : Kind → String
  | .access => "ACCESS_TOKEN_TTL_SECS"
  | .refresh => "REFRESH_TOKEN_TTL_SECS"

/-- The durations that can be configured, in the units of their variables. -/
structure Durations where
  window : Limiter → Nat
  lifetime : Kind → Nat

namespace Durations

/-- All of them are set, to numbers of 64 bits. -/
structure ConfiguredIn (d : Durations) (e : Environment) : Prop where
  window : ∀ l, e.Holds l.setting (d.window l) ∧ d.window l ≤ most64
  lifetime : ∀ k, e.Holds (lifetimeSetting k) (d.lifetime k) ∧ d.lifetime k ≤ most64

/-- A service with these settings keeps to the durations, with tokens that it issues at the second `iat`.  Windows
last as long as they are meant to, but one millisecond at least; what is read from a token says that it lives as long
as it is meant to, and no sum on the way is too long; the cookie with the refresh token lives as long as the token. -/
structure Kept (d : Durations) (s : Settings) (iat : Int) : Prop where
  window : ∀ l : Limiter, (l.limit s).windowMs = max 1 (d.window l : Int)
  lifetime : ∀ P k t, ∃ c, s.keys.read? P k (s.keys.issueAt P k t iat) = some (c, false) ∧
    c.expiresAt - c.issuedAt = d.lifetime k
  exact : ∀ k, Token.IsSecond (iat + Decimal.wrap64 (s.keys.ttl k).seconds)
  cookie : s.refreshCookie.maxAge = some (d.lifetime .refresh : Int)

/-- They have 63 bits, as have the ends of tokens that are issued at the second `iat`. -/
structure Fit (d : Durations) (iat : Int) : Prop where
  window : ∀ l, d.window l ≤ mostSigned64
  lifetime : ∀ k, iat + d.lifetime k ≤ mostSigned64

end Durations

namespace Settings

variable {e : Environment} {d : Durations} {access refresh : Bytes} {s : Settings} {l : Limiter} {k : Kind}
  {iat : Int}

/-- Windows and lifetimes are read from their variables. -/
theorem ofEnvironment_durations (hs : ofEnvironment e access refresh = .ok s) :
    (∀ l : Limiter, (l.limit s).window = .ofMilliseconds
      (e.parsed (Decimal.unsigned? most64) l.setting (l.limit usual).window.milliseconds)) ∧
    ∀ k, s.keys.ttl k = seconds e (lifetimeSetting k) (usual.keys.ttl k) := by
  simp only [ofEnvironment, bind, Except.bind] at hs
  split at hs
  · cases hs
  split at hs
  · cases hs
  cases hs
  refine ⟨fun l => ?_, fun k => ?_⟩
  · cases l <;> rfl
  · cases k <;> rfl

theorem window_milliseconds (hd : d.ConfiguredIn e) (hs : ofEnvironment e access refresh = .ok s) (l : Limiter) :
    (l.limit s).window.milliseconds = d.window l := by
  obtain ⟨hh, hn⟩ := hd.window l
  rw [(ofEnvironment_durations hs).1, Environment.parsed_of_holds hh hn, Duration.milliseconds_ofMilliseconds]

theorem ttl_seconds (hd : d.ConfiguredIn e) (hs : ofEnvironment e access refresh = .ok s) (k : Kind) :
    (s.keys.ttl k).seconds = d.lifetime k := by
  obtain ⟨hh, hn⟩ := hd.lifetime k
  rw [(ofEnvironment_durations hs).2, seconds, Environment.parsed_of_holds hh hn, Duration.seconds_ofSeconds]

theorem windowMs_eq (hd : d.ConfiguredIn e) (hs : ofEnvironment e access refresh = .ok s) (l : Limiter) :
    (l.limit s).windowMs = if d.window l ≤ mostSigned64 then max 1 (d.window l : Int) else 1 := by
  have hn : d.window l ≤ most64 := (hd.window l).2
  have hl : (d.window l : Int) < 2 ^ 64 := by
    simp only [most64] at hn
    omega
  rw [RateLimit.Limit.windowMs, window_milliseconds hd hs,
    Decimal.wrap64_of_lt (Int.natCast_nonneg _) (Int.lt_trans hl (by decide))]
  split
  · rfl
  · exact Int.max_eq_left (by omega)

theorem expiresAt_eq (hd : d.ConfiguredIn e) (hs : ofEnvironment e access refresh = .ok s) (hi : 0 ≤ iat)
    (hm : iat ≤ mostSigned64) (k : Kind) (t : Token.Subject) :
    (s.keys.claims k t iat).expiresAt =
      if iat + d.lifetime k ≤ mostSigned64 then iat + d.lifetime k else iat + d.lifetime k - 2 ^ 64 := by
  have hn : d.lifetime k ≤ most64 := (hd.lifetime k).2
  simp only [most64, mostSigned64] at hn hm
  simp only [Token.Keys.claims, ttl_seconds hd hs]
  rw [← Decimal.wrap64_of_lt (by omega) (by omega)]
  exact Int.add_bmod_bmod

theorem maxAge_eq (hd : d.ConfiguredIn e) (hs : ofEnvironment e access refresh = .ok s) :
    s.refreshCookie.maxAge = some (if d.lifetime .refresh ≤ mostSigned64 then (d.lifetime .refresh : Int)
      else d.lifetime .refresh - 2 ^ 64) := by
  have hn : d.lifetime .refresh ≤ most64 := (hd.lifetime .refresh).2
  have ht : s.refreshTtl.seconds = d.lifetime .refresh := ttl_seconds hd hs .refresh
  simp only [most64] at hn
  rw [← Decimal.wrap64_of_lt (by omega) (by omega), ← ht]
  rfl

theorem windowMs_eq_iff (hd : d.ConfiguredIn e) (hs : ofEnvironment e access refresh = .ok s) (l : Limiter) :
    (l.limit s).windowMs = max 1 (d.window l : Int) ↔ d.window l ≤ mostSigned64 := by
  rw [windowMs_eq hd hs]
  by_cases hn : d.window l ≤ mostSigned64
  · simp [hn]
  · have hl : mostSigned64 < d.window l := Int.not_le.mp hn
    simp only [mostSigned64] at hl
    simp only [hn, if_false, iff_false]
    omega

theorem expiresAt_eq_iff (hd : d.ConfiguredIn e) (hs : ofEnvironment e access refresh = .ok s) (hi : 0 ≤ iat)
    (hm : iat ≤ mostSigned64) (k : Kind) (t : Token.Subject) :
    (s.keys.claims k t iat).expiresAt - iat = d.lifetime k ↔ iat + d.lifetime k ≤ mostSigned64 := by
  rw [expiresAt_eq hd hs hi hm]
  split <;> omega

theorem kept_iff (hd : d.ConfiguredIn e) (hs : ofEnvironment e access refresh = .ok s) (hi : 0 ≤ iat)
    (hm : iat ≤ mostSigned64) : d.Kept s iat ↔ d.Fit iat := by
  have hr (P : Primitives) (k : Kind) (t : Token.Subject) :
      s.keys.read? P k (s.keys.issueAt P k t iat) = some (s.keys.claims k t iat, false) :=
    Token.Keys.read?_issueAt ⟨Int.le_trans (by decide) hi, hm⟩
  constructor
  · intro h
    refine ⟨fun l => (windowMs_eq_iff hd hs l).mp (h.window l), fun k => ?_⟩
    obtain ⟨c, hc, he⟩ := h.lifetime .standard k ⟨"", "", ""⟩
    rw [hr] at hc
    cases hc
    exact (expiresAt_eq_iff hd hs hi hm k _).mp he
  · intro h
    refine ⟨fun l => (windowMs_eq_iff hd hs l).mpr (h.window l), fun P k t => ?_, fun k => ?_, ?_⟩
    · exact ⟨_, hr P k t, (expiresAt_eq_iff hd hs hi hm k t).mpr (h.lifetime k)⟩
    · have hl := h.lifetime k
      have hw : Decimal.wrap64 (d.lifetime k : Int) = d.lifetime k := by
        rw [Decimal.wrap64_of_lt (by omega) (by simp only [mostSigned64] at hl; omega), if_pos (by omega)]
      rw [ttl_seconds hd hs, hw]
      exact ⟨Int.le_trans (by decide) (Int.add_nonneg hi (Int.natCast_nonneg _)), hl⟩
    · have hl := h.lifetime .refresh
      rw [maxAge_eq hd hs, if_pos (by omega)]

section Larger

variable {e' : Environment} {d' : Durations} {access' refresh' : Bytes} {s' : Settings}

theorem windowMs_lt_iff (hd : d.ConfiguredIn e) (hs : ofEnvironment e access refresh = .ok s)
    (hd' : d'.ConfiguredIn e') (hs' : ofEnvironment e' access' refresh' = .ok s')
    (hl : d.window l ≤ d'.window l) : (l.limit s').windowMs < (l.limit s).windowMs ↔
      2 ≤ d.window l ∧ d.window l ≤ mostSigned64 ∧ mostSigned64 < d'.window l := by
  rw [windowMs_eq hd hs, windowMs_eq hd' hs']
  split <;> split <;> omega

theorem expiresAt_lt_iff (hd : d.ConfiguredIn e) (hs : ofEnvironment e access refresh = .ok s)
    (hd' : d'.ConfiguredIn e') (hs' : ofEnvironment e' access' refresh' = .ok s') (hi : 0 ≤ iat)
    (hm : iat ≤ mostSigned64) (hk : d.lifetime k ≤ d'.lifetime k) (t : Token.Subject) :
    (s'.keys.claims k t iat).expiresAt < (s.keys.claims k t iat).expiresAt ↔
      iat + d.lifetime k ≤ mostSigned64 ∧ mostSigned64 < iat + d'.lifetime k := by
  have hn : d'.lifetime k ≤ most64 := (hd'.lifetime k).2
  simp only [most64] at hn
  rw [expiresAt_eq hd hs hi hm, expiresAt_eq hd' hs' hi hm]
  split <;> split <;> omega

end Larger

/-- A service keeps to the durations that it is configured with if and only if they have 63 bits, and with them the
ends of its tokens.  Of two settings of a window, or of a lifetime, the larger one makes the window shorter, or the
tokens expire earlier, if and only if it is not kept to and the smaller one is. -/
theorem durations_kept_iff (hd : d.ConfiguredIn e) (hs : ofEnvironment e access refresh = .ok s) (hi : 0 ≤ iat)
    (hm : iat ≤ mostSigned64) :
    (d.Kept s iat ↔ d.Fit iat) ∧
    ∀ {e' d' access' refresh' s'}, Durations.ConfiguredIn d' e' → ofEnvironment e' access' refresh' = .ok s' →
      (∀ l : Limiter, d.window l ≤ d'.window l → ((l.limit s').windowMs < (l.limit s).windowMs ↔
        2 ≤ d.window l ∧ d.window l ≤ mostSigned64 ∧ mostSigned64 < d'.window l)) ∧
      ∀ k t, d.lifetime k ≤ d'.lifetime k →
        ((s'.keys.claims k t iat).expiresAt < (s.keys.claims k t iat).expiresAt ↔
          iat + d.lifetime k ≤ mostSigned64 ∧ mostSigned64 < iat + d'.lifetime k) := by
  refine ⟨kept_iff hd hs hi hm, ?_⟩
  intro e' d' access' refresh' s' hd' hs'
  refine ⟨?_, ?_⟩
  · intro l hl
    exact windowMs_lt_iff hd hs hd' hs' hl
  · intro k t hk
    exact expiresAt_lt_iff hd hs hd' hs' hi hm hk t

section Chosen

/-- All durations are set, two of them to these numbers. -/
def chosen (login lifetime : Nat) : Environment :=
  [("LOGIN_WINDOW_MS", toString login), ("FORGOT_WINDOW_MS", "0"), ("RESET_WINDOW_MS", " +060000 "),
    ("CHANGE_PASSWORD_WINDOW_MS", "300000"), ("ACCESS_TOKEN_TTL_SECS", "900"),
    ("REFRESH_TOKEN_TTL_SECS", toString lifetime)]

def chosenDurations (login lifetime : Nat) : Durations where
  window
    | .login => login
    | .forgot => 0
    | .reset => 60000
    | .change => 300000
  lifetime
    | .access => 900
    | .refresh => lifetime

theorem chosen_configured {login lifetime : Nat} (hl : login ≤ most64) (hr : lifetime ≤ most64) :
    (chosenDurations login lifetime).ConfiguredIn (chosen login lifetime) := by
  have hp (n : Nat) : (toString n).toList = [] ++ Decimal.naturalDigits n ++ [] := by
    rw [List.nil_append, List.append_nil]
    exact String.toList_ofList
  have hd (n : Nat) : Decimal.Spells (Decimal.naturalDigits n) n := ⟨[], by simp, 0, rfl⟩
  have hs : Decimal.Spells "+060000".toList 60000 := ⟨['+'], by simp, 1, by decide⟩
  have hb : ∀ c ∈ [' '], Text.isBlank c = true := List.forall_mem_singleton.mpr rfl
  refine ⟨fun l => ⟨?_, ?_⟩, fun k => ⟨?_, ?_⟩⟩
  · cases l with
    | login => exact ⟨_, [], _, [], rfl, hp login, by simp, by simp, hd login⟩
    | forgot => exact ⟨_, [], _, [], rfl, rfl, by simp, by simp, hd 0⟩
    | reset => exact ⟨_, [' '], "+060000".toList, [' '], rfl, rfl, hb, hb, hs⟩
    | change => exact ⟨_, [], _, [], rfl, rfl, by simp, by simp, hd 300000⟩
  · cases l with
    | login => exact hl
    | _ => simp [chosenDurations, most64]
  · cases k with
    | access => exact ⟨_, [], _, [], rfl, rfl, by simp, by simp, hd 900⟩
    | refresh => exact ⟨_, [], _, [], rfl, hp lifetime, by simp, by simp, hd lifetime⟩
  · cases k with
    | access => simp [chosenDurations, most64]
    | refresh => exact hr

/-- With 64 bits the window for logins lasts for a millisecond, refresh tokens have expired before they are issued,
and the browser is told to drop the cookie. -/
theorem long_durations_fail :
    ∃ s, ofEnvironment (chosen 0x8000000000000000 0x8000000000000000) [] [] = .ok s ∧
      (chosenDurations 0x8000000000000000 0x8000000000000000).ConfiguredIn
        (chosen 0x8000000000000000 0x8000000000000000) ∧
      s.loginLimit.windowMs = 1 ∧ s.refreshCookie.maxAge = some (-0x8000000000000000) ∧
      (∀ t, (s.keys.claims .refresh t 1700000000).expiresAt < 0) ∧
      ¬(chosenDurations 0x8000000000000000 0x8000000000000000).Kept s 1700000000 := by
  have hd : (chosenDurations 0x8000000000000000 0x8000000000000000).ConfiguredIn
      (chosen 0x8000000000000000 0x8000000000000000) := chosen_configured (by decide) (by decide)
  obtain ⟨s, hs⟩ : ∃ s, ofEnvironment (chosen 0x8000000000000000 0x8000000000000000) [] [] = .ok s := ⟨_, rfl⟩
  refine ⟨s, hs, hd, ?_, ?_, ?_, ?_⟩
  · exact windowMs_eq hd hs .login
  · exact maxAge_eq hd hs
  · intro t
    rw [expiresAt_eq hd hs (by decide) (by decide)]
    decide
  · intro hk
    exact absurd (((kept_iff hd hs (by decide) (by decide)).mp hk).window .login) (by decide)

theorem usual_durations_kept :
    ∃ s s', ofEnvironment (chosen 900000 604800) [] [] = .ok s ∧
      ofEnvironment (chosen 0x8000000000000000 0x8000000000000000) [] [] = .ok s' ∧
      (chosenDurations 900000 604800).ConfiguredIn (chosen 900000 604800) ∧
      (0 : Int) ≤ 1700000000 ∧ 1700000000 ≤ mostSigned64 ∧
      (chosenDurations 900000 604800).Kept s 1700000000 ∧
      s'.loginLimit.windowMs < s.loginLimit.windowMs ∧
      ∀ t, (s'.keys.claims .refresh t 1700000000).expiresAt < (s.keys.claims .refresh t 1700000000).expiresAt := by
  have hd : (chosenDurations 900000 604800).ConfiguredIn (chosen 900000 604800) :=
    chosen_configured (by decide) (by decide)
  have hd' : (chosenDurations 0x8000000000000000 0x8000000000000000).ConfiguredIn
      (chosen 0x8000000000000000 0x8000000000000000) := chosen_configured (by decide) (by decide)
  obtain ⟨s, hs⟩ : ∃ s, ofEnvironment (chosen 900000 604800) [] [] = .ok s := ⟨_, rfl⟩
  obtain ⟨s', hs'⟩ : ∃ s, ofEnvironment (chosen 0x8000000000000000 0x8000000000000000) [] [] = .ok s := ⟨_, rfl⟩
  have hi : (0 : Int) ≤ 1700000000 := by decide
  have hm : (1700000000 : Int) ≤ mostSigned64 := by decide
  obtain ⟨hk, hl⟩ := durations_kept_iff hd hs hi hm
  obtain ⟨hw, he⟩ := hl hd' hs'
  refine ⟨s, s', hs, hs', hd, hi, hm, ?_, ?_, ?_⟩
  · refine hk.mpr ⟨fun l => ?_, fun k => ?_⟩
    · cases l <;> decide
    · cases k <;> decide
  · exact (hw .login (by decide)).mpr (by decide)
  · intro t
    exact (he .refresh t (by decide)).mpr (by decide)

end Chosen

end Settings
end Account
end Storefront
