import Storefront.Proofs.Callers
import Storefront.Proofs.History
import Storefront.Proofs.Refusals
import Storefront.Proofs.RequestLog

namespace Storefront

namespace Address

theorem mem_hexText {n : Nat} {c : Char} (h : c ∈ hexText n) : ∃ d < 16, c = Nat.digitChar d := by
  induction n using Nat.strongRecOn with
  | ind n ih =>
    by_cases hn : n < 16
    · rw [hexText, Nat.toDigits_of_lt_base hn] at h
      exact ⟨n, hn, List.mem_singleton.mp h⟩
    · rw [hexText, Nat.toDigits_of_base_le (by omega) (by omega)] at h
      rcases List.mem_append.mp h with h | h
      · exact ih (n / 16) (by omega) h
      · exact ⟨n % 16, by omega, List.mem_singleton.mp h⟩

theorem u_not_mem_hexText (n : Nat) : 'u' ∉ hexText n := by
  have hd : ∀ d < 16, Nat.digitChar d ≠ 'u' := by decide
  intro h
  obtain ⟨d, hlt, he⟩ := mem_hexText h
  exact hd d hlt he.symm

theorem u_not_mem_colonSeparated (gs : List Nat) : 'u' ∉ colonSeparated gs := by
  intro h
  rcases Text.mem_joined h with h | ⟨p, hp, h⟩
  · exact absurd h (by decide)
  · obtain ⟨n, _, rfl⟩ := List.mem_map.mp hp
    exact u_not_mem_hexText n h

theorem u_not_mem_quadText (a b c d : Nat) : 'u' ∉ quadText a b c d := by
  intro h
  rcases Text.mem_joined h with h | ⟨p, hp, h⟩
  · exact absurd h (by decide)
  · obtain ⟨n, _, rfl⟩ := List.mem_map.mp hp
    exact absurd (Decimal.mem_naturalDigits h) (by decide)

theorem u_not_mem_chars (a : Address) : 'u' ∉ a.chars := by
  cases a with
  | v4 a b c d => exact u_not_mem_quadText a b c d
  | v6 gs =>
    rw [chars, groupsText]
    cases mapped? gs with
    | some p =>
      have hm : 'u' ∉ "::ffff:".toList := by decide
      simp only [List.mem_append, not_or]
      exact ⟨hm, u_not_mem_quadText _ _ _ _⟩
    | none =>
      dsimp only
      split
      · simp [u_not_mem_colonSeparated]
      · exact u_not_mem_colonSeparated gs

theorem text_ne_unknown (a : Address) : a.text ≠ "unknown" := by
  have hu : 'u' ∈ "unknown".toList := by decide
  intro h
  rw [← h, text, String.toList_ofList] at hu
  exact u_not_mem_chars a hu

end Address

namespace Account

open Http (Request Response)

theorem Throttle.key_inj {t t' : Throttle} {who who' : String} (ht : ':' ∉ t.scope.toList)
    (ht' : ':' ∉ t'.scope.toList) (h : t.key who = t'.key who') : t.scope = t'.scope ∧ who = who' := by
  have hc : ∀ (t : Throttle) (who : String), ':' ∉ t.scope.toList →
      Text.cut? ':' (t.key who).toList = some (t.scope.toList, who.toList) := by
    intro t who ht
    simpa [key] using Text.cut?_append ht who.toList
  have he := hc t who ht
  rw [h, hc t' who' ht'] at he
  simpa [String.toList_inj, eq_comm] using he

/-- For whom a request is counted: for the client it comes from, or for its caller. -/
inductive Party where
  | client (a : Option Address)
  | caller (id : UserId)
  deriving DecidableEq

/-- What stands for a party in a key. -/
def Party.text : Party → String
  | .client (some a) => a.text
  | .client none => "unknown"
  | .caller id => id.text

def Resource.throttle? (s : Settings) : Resource → Option Throttle
  | .entrance e => e.throttle s
  | .own o => o.throttle s
  | .panel _ => none

def Visit.client (v : Visit) : Option Address := Http.clientAddress v.request.headers v.request.peer

theorem Visit.clientKey_eq (v : Visit) :
    Http.clientKey v.request.headers v.request.peer = (Party.client v.client).text := by
  unfold Http.clientKey client
  cases Http.clientAddress v.request.headers v.request.peer
  all_goals rfl

/-- The limited resource that is asked for, and the party the request is counted for.  To change a password a
caller is needed. -/
def Visit.counted? (P : Primitives) (s : Settings) (v : Visit) : Option (Resource × Party) :=
  match Resource.ofTarget? v.request.target with
  | some (.entrance .login) => some (.entrance .login, .client v.client)
  | some (.entrance .forgotPassword) => some (.entrance .forgotPassword, .client v.client)
  | some (.entrance .resetPassword) => some (.entrance .resetPassword, .client v.client)
  | some (.own .changePassword) =>
    match Caller.ofHeaders P s.keys v.request.headers v.time with
    | .ok c => some (.own .changePassword, .caller c.id)
    | .error _ => none
  | _ => none

section Parties

variable {P : Primitives} {s : Settings} {v v' : Visit} {res res' : Resource} {p p' : Party} {t t' : Throttle}

/-- A counted request is one to an entrance by a client, or one to change the password of a caller. -/
theorem Visit.counted_cases (h : v.counted? P s = some (res, p)) :
    (∃ e, Resource.ofTarget? v.request.target = some (.entrance e) ∧ res = .entrance e ∧ p = .client v.client) ∨
    ∃ c, Resource.ofTarget? v.request.target = some (.own .changePassword) ∧
      Caller.ofHeaders P s.keys v.request.headers v.time = .ok c ∧ res = .own .changePassword ∧ p = .caller c.id := by
  unfold counted? at h
  split at h
  · cases h
    exact .inl ⟨_, ‹_›, rfl, rfl⟩
  · cases h
    exact .inl ⟨_, ‹_›, rfl, rfl⟩
  · cases h
    exact .inl ⟨_, ‹_›, rfl, rfl⟩
  · split at h
    · cases h
      exact .inr ⟨_, ‹_›, ‹_›, rfl, rfl⟩
    · cases h
  · cases h

/-- The limited resources with the scopes of their limits. -/
def Resource.scopes : List (Resource × String) :=
  [(.entrance .login, "login"), (.entrance .forgotPassword, "forgot-password"),
    (.entrance .resetPassword, "reset-password"), (.own .changePassword, "change-password")]

theorem Resource.mem_scopes (h : res.throttle? s = some t) : (res, t.scope) ∈ scopes := by
  rcases res with e | o | q
  · cases e with
    | login | forgotPassword | resetPassword =>
      cases h
      simp [scopes]
    | _ => cases h
  · cases o with
    | changePassword =>
      cases h
      simp [scopes]
    | _ => cases h
  · cases h

theorem Resource.key_inj {who who' : String} (ht : res.throttle? s = some t) (ht' : res'.throttle? s = some t')
    (hk : t.key who = t'.key who') : res = res' ∧ who = who' := by
  have hn : ∀ x ∈ scopes, ':' ∉ x.2.toList := by decide
  have hi : ∀ x ∈ scopes, ∀ y ∈ scopes, x.2 = y.2 → x.1 = y.1 := by decide
  obtain ⟨hs, hw⟩ := Throttle.key_inj (hn _ (mem_scopes ht)) (hn _ (mem_scopes ht')) hk
  exact ⟨hi _ (mem_scopes ht) _ (mem_scopes ht') hs, hw⟩

/-- Two requests share a counter only if they are counted for the same party on the same resource.  All limits share
one store, in which a key is made of the scope of the limit and a text for the party. -/
theorem Visit.counter_inj
    (ha : ∀ a a', v.client = some a → v'.client = some a' → a.text = a'.text → a = a')
    (h : v.counted? P s = some (res, p)) (h' : v'.counted? P s = some (res', p'))
    (ht : res.throttle? s = some t) (ht' : res'.throttle? s = some t') (hk : t.key p.text = t'.key p'.text) :
    res = res' ∧ p = p' := by
  obtain ⟨rfl, hw⟩ := Resource.key_inj ht ht' hk
  refine ⟨rfl, ?_⟩
  rcases counted_cases h with ⟨e, _, rfl, rfl⟩ | ⟨c, _, _, rfl, rfl⟩
  · rcases counted_cases h' with ⟨e', _, _, rfl⟩ | ⟨_, _, _, he, _⟩
    · rw [Party.client.injEq]
      cases hv : v.client with
      | none =>
        cases hv' : v'.client with
        | none => rfl
        | some a' =>
          rw [hv, hv'] at hw
          exact absurd hw.symm (Address.text_ne_unknown a')
      | some a =>
        cases hv' : v'.client with
        | none =>
          rw [hv, hv'] at hw
          exact absurd hw (Address.text_ne_unknown a)
        | some a' =>
          rw [hv, hv'] at hw
          rw [ha a a' hv hv' hw]
    · cases he
  · rcases counted_cases h' with ⟨_, _, he, _⟩ | ⟨c', _, _, _, rfl⟩
    · cases he
    · have hu := Uuid.ofPadded?_text c.id
      rw [show c.id.text = c'.id.text from hw, Uuid.ofPadded?_text] at hu
      rw [Option.some.inj hu]

end Parties

section Requests

variable {P : Primitives} {s : Settings} {v : Visit} {res : Resource} {p : Party} {t : Throttle}
  {st : State Store}

/-- An answer of the service itself, before anything is said about limits. -/
structure Untold (r : Response) : Prop where
  status : r.status ≠ 429
  headers : ∀ h ∈ r.headers, h.1 ≠ "ratelimit-remaining"

theorem untold_refusal {r : Refusal} (h : r.Unlimited) : Untold r.response := by
  refine ⟨h.status, ?_⟩
  cases r with
  | rateLimited k => exact absurd rfl (h k)
  | _ => simp [Refusal.response, Problem.response, Response.json, Response.unsent, Response.empty]

theorem untold_answerOf {r : Except Refusal Outcome} (h : ∀ e, r = .error e → e.Unlimited) :
    Untold (answerOf s r) := by
  cases r with
  | error e => exact untold_refusal (h e rfl)
  | ok o =>
    cases o with
    | _ =>
      constructor
      all_goals simp [answerOf, Outcome.response, told, toldWithUser, session, droppingSession, Response.json,
        Response.withHeader]

/-- What is done for a counted request once it is let through: a form is read, and a command is carried out. -/
theorem untold_perform {d : Draws} {now : Instant} {r : Request} {f : Json.Form} {g : Json.Entries → Command}
    (hg : ∀ x, ((g x).plan P s d now).RefusesBy Refusal.Unlimited) :
    Untold ((Setup.inMemory P s).perform d now (do .ok (g (← readForm r f))) st).1 ∧
      ((Setup.inMemory P s).perform d now (do .ok (g (← readForm r f))) st).2.limits = st.limits := by
  cases hr : readForm r f with
  | error e =>
    obtain ⟨m, rfl⟩ := readForm_error hr
    exact ⟨untold_refusal (Refusal.unlimited_validation m), rfl⟩
  | ok x =>
    refine ⟨untold_answerOf fun e h => ?_, rfl⟩
    exact (hg x).run (Store.answer_unlimited now) h

theorem Visit.counted_throttle (h : v.counted? P s = some (res, p)) : ∃ t, res.throttle? s = some t := by
  unfold counted? at h
  split at h
  · cases h
    exact ⟨_, rfl⟩
  · cases h
    exact ⟨_, rfl⟩
  · cases h
    exact ⟨_, rfl⟩
  · split at h
    · cases h
      exact ⟨_, rfl⟩
    · cases h
  · cases h

/-- A counted request is held against the limit of its resource, and then done. -/
theorem Setup.respond_counted (hm : v.request.method = .post) (h : v.counted? P s = some (res, p))
    (ht : res.throttle? s = some t) :
    ∃ inner : Step Store, (∀ st, Untold (inner st).1 ∧ (inner st).2.limits = st.limits) ∧
      ∀ st, (inMemory P s).respond v.draws v.time v.request st = throttled (some t) p.text v.time inner st := by
  rcases Visit.counted_cases h with ⟨e, hr, rfl, rfl⟩ | ⟨c, hr, hw, rfl, rfl⟩
  · refine ⟨(inMemory P s).perform v.draws v.time (e.command v.request), ?_, ?_⟩
    · intro st
      cases e with
      | login => exact untold_perform fun x => login_unlimited _
      | forgotPassword => exact untold_perform fun x => forgotPassword_unlimited _
      | resetPassword => exact untold_perform fun x => resetPassword_unlimited _
      | _ => cases ht
    · intro st
      rw [respond_entrance st hr hm, v.clientKey_eq, ← ht]
      rfl
  · refine ⟨(inMemory P s).perform v.draws v.time (Own.command v.request c.id .changePassword), ?_, ?_⟩
    · intro st
      exact untold_perform fun x => changePassword_unlimited _ _
    · intro st
      have hh : Http.hasMethod (Resource.own .changePassword).methods .post = true := rfl
      have hw' : Caller.ofHeaders (inMemory P s).primitives (inMemory P s).settings.keys v.request.headers v.time =
        .ok c := hw
      simp only [respond, hr, route, withCaller, hw', ifMethod, hm, hh, if_true, ← ht]
      rfl

/-- A request is turned away on a verdict that does not allow it, and nothing else has that status. -/
theorem Setup.throttled_refused (inner : Step Store) {who : String} {now : Instant} {x : RateLimit.Verdict}
    (hx : (st.limits.check (t.key who) t.limit now).1 = x) (ha : x.allowed = false) :
    (throttled (some t) who now inner st).1.status = 429 ∧
      (throttled (some t) who now inner st).1.body =
        .json (.object [("error", .text t.message), ("message", .text t.message)]) ∧
      (throttled (some t) who now inner st).2.users = st.users := by
  subst hx
  simp only [throttled, ha]
  exact ⟨rfl, rfl, rfl⟩

/-- A request that is let through is told how many are left. -/
theorem Setup.throttled_allowed {inner : Step Store} {who : String} {now : Instant} {x : RateLimit.Verdict}
    (hi : ∀ st, Untold (inner st).1) (hx : (st.limits.check (t.key who) t.limit now).1 = x)
    (ha : x.allowed = true) :
    (throttled (some t) who now inner st).1.status ≠ 429 ∧
      (throttled (some t) who now inner st).1.headers.filter (·.1 = "ratelimit-remaining") =
        [("ratelimit-remaining", toString x.remaining)] := by
  subst hx
  simp only [throttled, ha, if_true]
  generalize { st with limits := (st.limits.check (t.key who) t.limit now).2 } = st₁
  refine ⟨(hi st₁).status, ?_⟩
  have hn : (inner st₁).1.headers.filter (·.1 = "ratelimit-remaining") = [] :=
    List.filter_eq_nil_iff.mpr fun h hm => by simpa using (hi st₁).headers h hm
  rw [List.filter_append, hn, RateLimit.Verdict.headers, ha]
  rfl

theorem Setup.limits_ifMethod {r : Request} {inner : Step Store} (h : (inner st).2.limits = st.limits) :
    (ifMethod res r inner st).2.limits = st.limits := by
  unfold ifMethod
  split
  · exact h
  · rfl

theorem Setup.limits_perform {w : Setup Store} {d : Draws} {now : Instant} {c : Except Response Command} :
    (w.perform d now c st).2.limits = st.limits := by
  cases c with
  | error e => rfl
  | ok x => rfl

/-- A request that is not counted leaves the counters as they are. -/
theorem Setup.limits_uncounted (h : v.counted? P s = none) :
    ((inMemory P s).exchange st v).after.limits = st.limits := by
  change ((inMemory P s).respond v.draws v.time v.request st).2.limits = st.limits
  unfold respond
  split
  · rfl
  · rename_i res hr
    rcases res with e | o | q
    · cases e with
      | login | forgotPassword | resetPassword => simp [Visit.counted?, hr] at h
      | _ => exact limits_ifMethod limits_perform
    · simp only [route, withCaller]
      cases hw : Caller.ofHeaders (inMemory P s).primitives (inMemory P s).settings.keys v.request.headers v.time with
      | error e => rfl
      | ok c =>
        cases o with
        | changePassword =>
          have hw' : Caller.ofHeaders P s.keys v.request.headers v.time = .ok c := hw
          simp [Visit.counted?, hr, hw'] at h
        | _ =>
          refine limits_ifMethod ?_
          simp only [Own.throttle, throttled]
          exact limits_perform
    · simp only [route, withCaller]
      cases Caller.ofHeaders (inMemory P s).primitives (inMemory P s).settings.keys v.request.headers v.time with
      | error e => rfl
      | ok c =>
        simp only [withRole]
        cases requireRole [.superadmin] (some c) with
        | error e => rfl
        | ok c' => exact limits_ifMethod limits_perform

end Requests

/-- What may happen to the service: a request comes in, or counters that are no longer needed are dropped. -/
inductive Happening where
  | visit (v : Visit)
  | purge (now : Instant)

namespace Happening

def time : Happening → Instant
  | .visit v => v.time
  | .purge now => now

def visit? : Happening → Option Visit
  | .visit v => some v
  | .purge _ => none

/-- What it comes to for the counters. -/
def call? (P : Primitives) (s : Settings) : Happening → Option RateLimit.Call
  | .visit v => do
    let (res, p) ← v.counted? P s
    let t ← res.throttle? s
    some (.check (t.key p.text) t.limit v.time)
  | .purge now => some (.purge now)

end Happening

namespace Setup

variable {σ : Type}

def advance (w : Setup σ) (st : State σ) : Happening → State σ
  | .visit v => (w.exchange st v).after
  | .purge now => { st with limits := st.limits.purge now }

/-- The exchanges among all that happens. -/
def exchanges (w : Setup σ) (st : State σ) : List Happening → List (Exchange σ)
  | [] => []
  | .visit v :: hs => w.exchange st v :: w.exchanges (w.advance st (.visit v)) hs
  | .purge now :: hs => w.exchanges (w.advance st (.purge now)) hs

theorem map_visit_exchanges (w : Setup σ) (st : State σ) (hs : List Happening) :
    (w.exchanges st hs).map Exchange.visit = hs.filterMap Happening.visit? := by
  induction hs generalizing st with
  | nil => rfl
  | cons h hs ih =>
    cases h with
    | visit v =>
      rw [exchanges, List.map_cons, ih]
      rfl
    | purge now => exact ih _

/-- An exchange is that of a request in the state that everything before has left. -/
theorem exchanges_split {w : Setup σ} {st : State σ} {hs : List Happening} {past future : List (Exchange σ)}
    {e : Exchange σ} (h : w.exchanges st hs = past ++ e :: future) :
    ∃ before after, hs = before ++ .visit e.visit :: after ∧ past = w.exchanges st before ∧
      e = w.exchange (before.foldl w.advance st) e.visit := by
  induction hs generalizing st past with
  | nil => simp [exchanges] at h
  | cons x hs ih =>
    cases x with
    | visit v =>
      rw [exchanges] at h
      cases past with
      | nil =>
        obtain ⟨rfl, _⟩ := List.cons.inj h
        exact ⟨[], hs, rfl, rfl, rfl⟩
      | cons y past =>
        obtain ⟨rfl, ht⟩ := List.cons.inj h
        obtain ⟨before, after, rfl, rfl, he⟩ := ih ht
        exact ⟨.visit v :: before, after, rfl, rfl, he⟩
    | purge now =>
      obtain ⟨before, after, rfl, rfl, he⟩ := ih h
      exact ⟨.purge now :: before, after, rfl, rfl, he⟩

end Setup

section Counts

open RateLimit (OneLimit)
open RateLimit.Store (Reflects)

variable {P : Primitives} {s : Settings} {st : State Store} {h : Happening} {hs : List Happening}
  {c : RateLimit.Call} {e : Exchange Store} {res : Resource} {p : Party} {t : Throttle} {v : Visit}

def calls (P : Primitives) (s : Settings) (hs : List Happening) : List RateLimit.Call := hs.filterMap (·.call? P s)

theorem call?_visit (hc : v.counted? P s = some (res, p)) (ht : res.throttle? s = some t) :
    (Happening.visit v).call? P s = some (.check (t.key p.text) t.limit v.time) := by
  simp [Happening.call?, hc, ht]

theorem call?_check {key : String} {l : RateLimit.Limit} {now : Instant}
    (hx : h.call? P s = some (.check key l now)) :
    ∃ v res p t, h = .visit v ∧ v.counted? P s = some (res, p) ∧ res.throttle? s = some t ∧
      key = t.key p.text ∧ l = t.limit ∧ now = v.time := by
  cases h with
  | purge => cases hx
  | visit v =>
    cases hc : v.counted? P s with
    | none => simp [Happening.call?, hc] at hx
    | some x =>
      obtain ⟨res, p⟩ := x
      obtain ⟨t, ht⟩ := Visit.counted_throttle hc
      rw [call?_visit hc ht] at hx
      cases hx
      exact ⟨v, res, p, t, rfl, hc, ht, rfl, rfl, rfl⟩

theorem call?_time (hx : h.call? P s = some c) : c.time = h.time := by
  cases c with
  | check key l now =>
    obtain ⟨v, res, p, t, rfl, _, _, _, _, rfl⟩ := call?_check hx
    rfl
  | purge now =>
    cases h with
    | visit v => simp [Happening.call?, Option.bind_eq_some_iff] at hx
    | purge now' =>
      cases hx
      rfl

theorem oneLimit_calls (hs : List Happening) : OneLimit (calls P s hs) := by
  intro key l l' now now' hx hy
  obtain ⟨h, _, hx⟩ := List.mem_filterMap.mp hx
  obtain ⟨h', _, hy⟩ := List.mem_filterMap.mp hy
  obtain ⟨v, res, p, t, rfl, _, ht, rfl, rfl, _⟩ := call?_check hx
  obtain ⟨v', res', p', t', rfl, _, ht', hk, rfl, _⟩ := call?_check hy
  obtain ⟨rfl, _⟩ := Resource.key_inj ht ht' hk
  rw [Option.some.inj (ht.symm.trans ht')]

/-- The counters know of what happens just what is asked of them. -/
theorem limits_advance (hm : ∀ v, h = .visit v → v.request.method = .post) :
    ((Setup.inMemory P s).advance st h).limits =
      match h.call? P s with
      | some c => (st.limits.serve c).2
      | none => st.limits := by
  cases h with
  | purge now => rfl
  | visit v =>
    cases hc : v.counted? P s with
    | none =>
      simp only [Happening.call?, hc]
      exact Setup.limits_uncounted hc
    | some x =>
      obtain ⟨res, p⟩ := x
      obtain ⟨t, ht⟩ := Visit.counted_throttle hc
      obtain ⟨inner, hi, hr⟩ := Setup.respond_counted (hm v rfl) hc ht
      simp only [call?_visit hc ht, Setup.advance, Setup.exchange, hr st, Setup.throttled]
      split
      · exact (hi _).2
      · rfl

theorem calls_concat (hs : List Happening) (h : Happening) :
    calls P s (hs ++ [h]) = calls P s hs ++ (h.call? P s).toList := by
  rw [calls, calls, List.filterMap_append, List.filterMap_cons]
  cases h.call? P s
  all_goals rfl

/-- Whatever has happened, the counters say what the list of all calls says. -/
theorem reflects_calls (h₀ : st.limits = []) (hm : ∀ v, .visit v ∈ hs → v.request.method = .post)
    (hc : hs.Pairwise fun h h' => h.time ≤ h'.time) :
    Reflects (calls P s hs) (hs.foldl (Setup.inMemory P s).advance st).limits := by
  induction hs using List.reverseRecOn with
  | nil =>
    rw [List.foldl_nil, h₀]
    exact .nil
  | append_singleton hs h ih =>
    have hl := ih (fun v hv => hm v (List.mem_append_left _ hv)) (hc.sublist (List.sublist_append_left _ _))
    rw [List.foldl_append, List.foldl_cons, List.foldl_nil, calls_concat,
      limits_advance fun v hv => hm v (by simp [hv])]
    cases hx : h.call? P s with
    | none => simpa using hl
    | some c =>
      have ho : OneLimit (calls P s hs ++ [c]) := by
        have ho := oneLimit_calls (P := P) (s := s) (hs ++ [h])
        rwa [calls_concat, hx] at ho
      have ht : ∀ x ∈ calls P s hs, x.time ≤ c.time := by
        intro x hxm
        obtain ⟨y, hy, hyx⟩ := List.mem_filterMap.mp hxm
        rw [call?_time hyx, call?_time hx]
        exact (List.pairwise_append.mp hc).2.2 y hy h (List.mem_singleton_self h)
      exact hl.serve ht ho

/-- The calls that count for a request are those of the requests of the same party on the same resource. -/
theorem countP_calls {now : Instant} (hc : v.counted? P s = some (res, p)) (ht : res.throttle? s = some t)
    (ha : ∀ x, .visit x ∈ hs → ∀ a a', x.client = some a → v.client = some a' → a.text = a'.text → a = a') :
    (calls P s hs).countP (RateLimit.Call.counts (t.key p.text) t.limit now) =
      (hs.filterMap Happening.visit?).countP fun x =>
        x.counted? P s = some (res, p) ∧ t.limit.windowIndex x.time = t.limit.windowIndex now := by
  rw [calls, List.countP_filterMap, List.countP_filterMap]
  refine List.countP_congr fun h hh => ?_
  cases h with
  | purge => simp [Happening.call?, Happening.visit?]
  | visit x =>
    cases hx : x.counted? P s with
    | none => simp [Happening.call?, Happening.visit?, hx]
    | some y =>
      obtain ⟨res', p'⟩ := y
      obtain ⟨t', ht'⟩ := Visit.counted_throttle hx
      have hk : t'.key p'.text = t.key p.text ↔ (res', p') = (res, p) := by
        constructor
        · intro hk
          obtain ⟨rfl, rfl⟩ := Visit.counter_inj (ha x hh) hx hc ht' ht hk
          rfl
        · rintro ⟨⟩
          rw [Option.some.inj (ht'.symm.trans ht)]
      simp [call?_visit hx ht', Happening.visit?, hx, hk]

/-- How many of some exchanges were counted for a party on a resource in the window of an instant. -/
def tally (P : Primitives) (s : Settings) (es : List (Exchange Store)) (res : Resource) (p : Party)
    (l : RateLimit.Limit) (now : Instant) : Nat :=
  es.countP fun x => x.visit.counted? P s = some (res, p) ∧ l.windowIndex x.visit.time = l.windowIndex now

/-- The verdict on a counted request is the one that follows from the exchanges before it. -/
theorem check_counted (h₀ : st.limits = []) (hm : ∀ x, .visit x ∈ hs → x.request.method = .post)
    (hc : List.Pairwise (fun h h' : Happening => h.time ≤ h'.time) (hs ++ [.visit v]))
    (ha : ∀ x, .visit x ∈ hs → ∀ a a', x.client = some a → v.client = some a' → a.text = a'.text → a = a')
    (hv : v.counted? P s = some (res, p)) (ht : res.throttle? s = some t)
    (hl : t.limit.maxRequests < RateLimit.Store.maxCount) :
    let n := tally P s ((Setup.inMemory P s).exchanges st hs) res p t.limit v.time
    ((hs.foldl (Setup.inMemory P s).advance st).limits.check (t.key p.text) t.limit v.time).1 =
      ⟨n + 1 ≤ t.limit.maxRequests, t.limit.maxRequests,
        t.limit.maxRequests - min (n + 1) t.limit.maxRequests,
        (t.limit.windowIndex v.time + 1) * t.limit.windowMs⟩ := by
  intro n
  have hr := reflects_calls (P := P) (s := s) h₀ hm (List.pairwise_append.mp hc).1
  have hp : ∀ x ∈ calls P s hs, x.time ≤ v.time := by
    intro x hx
    obtain ⟨y, hy, hyx⟩ := List.mem_filterMap.mp hx
    rw [call?_time hyx]
    exact (List.pairwise_append.mp hc).2.2 y hy _ List.mem_cons_self
  have ho : ∀ l' t', RateLimit.Call.check (t.key p.text) l' t' ∈ calls P s hs → l' = t.limit := by
    intro l' t' hx
    have hb := oneLimit_calls (P := P) (s := s) (hs ++ [.visit v])
    rw [calls_concat, call?_visit hv ht] at hb
    exact hb (List.mem_append_left _ hx) (List.mem_append_right _ (.head _))
  have hn : (calls P s hs).countP (RateLimit.Call.counts (t.key p.text) t.limit v.time) = n := by
    rw [countP_calls hv ht ha, ← Setup.map_visit_exchanges (.inMemory P s) st, List.countP_map]
    rfl
  have hj := hr.judged hp ho hl
  rw [RateLimit.Call.judged?, hn] at hj
  exact congrArg Prod.snd (Option.some.inj hj)

/-- A limited request is turned away if there have been as many before it in the same window as the limit allows,
for the same party on the same resource, and for nothing else; an answer tells how many are left. -/
theorem limited_iff (h₀ : st.limits = []) (hc : hs.Pairwise fun h h' => h.time ≤ h'.time)
    (hm : ∀ v, .visit v ∈ hs → v.request.method = .post)
    (ha : ∀ v v', .visit v ∈ hs → .visit v' ∈ hs → ∀ a a', v.client = some a → v'.client = some a' →
      a.text = a'.text → a = a')
    {past future : List (Exchange Store)}
    (he : (Setup.inMemory P s).exchanges st hs = past ++ e :: future)
    (hv : e.visit.counted? P s = some (res, p)) (ht : res.throttle? s = some t)
    (hl : t.limit.maxRequests < RateLimit.Store.maxCount) :
    let n := tally P s past res p t.limit e.visit.time
    (e.answer.status = 429 ↔ t.limit.maxRequests ≤ n) ∧
    (e.answer.status = 429 →
      e.answer.body = .json (.object [("error", .text t.message), ("message", .text t.message)]) ∧
        e.after.users = e.before.users) ∧
    (e.answer.status ≠ 429 → e.answer.headers.filter (·.1 = "ratelimit-remaining") =
      [("ratelimit-remaining", toString (t.limit.maxRequests - (n + 1)))]) := by
  intro n
  obtain ⟨before, after, rfl, rfl, hee⟩ := Setup.exchanges_split he
  have hmid : .visit e.visit ∈ before ++ .visit e.visit :: after := by simp
  have hin : ∀ x ∈ before, x ∈ before ++ .visit e.visit :: after := fun _ => List.mem_append_left _
  have hpre : List.Sublist (before ++ [.visit e.visit]) (before ++ .visit e.visit :: after) :=
    (List.Sublist.refl _).append ((List.nil_sublist _).cons_cons _)
  have hx := check_counted h₀ (fun x hx => hm x (hin _ hx)) (hc.sublist hpre)
    (fun x hx => ha x e.visit (hin _ hx) hmid) hv ht hl
  obtain ⟨inner, hi, hresp⟩ := Setup.respond_counted (hm _ hmid) hv ht
  generalize before.foldl (Setup.inMemory P s).advance st = st₁ at hee hx
  have hans : e.answer = (Setup.throttled (some t) p.text e.visit.time inner st₁).1 :=
    (congrArg Exchange.answer hee).trans (congrArg Prod.fst (hresp st₁))
  have haft : e.after = (Setup.throttled (some t) p.text e.visit.time inner st₁).2 :=
    (congrArg Exchange.after hee).trans (congrArg Prod.snd (hresp st₁))
  have hbef : e.before = st₁ := congrArg Exchange.before hee
  rw [hans, haft, hbef]
  by_cases hle : t.limit.maxRequests ≤ n
  · obtain ⟨hs, hb, hu⟩ := Setup.throttled_refused inner hx (decide_eq_false (by omega))
    exact ⟨⟨fun _ => hle, fun _ => hs⟩, fun _ => ⟨hb, hu⟩, fun h => absurd hs h⟩
  · obtain ⟨hs, hh⟩ := Setup.throttled_allowed (fun st => (hi st).1) hx (decide_eq_true (by omega))
    refine ⟨⟨fun h => absurd h hs, fun h => absurd h hle⟩, fun h => absurd h hs, fun _ => ?_⟩
    rw [hh, Nat.min_eq_left (by omega)]

end Counts

/-- One attempt in a second. -/
def strict : Settings := { Settings.usual with loginLimit := .ofMilliseconds 1 1000 }

def attempt (a : Address) (time : Instant) : Visit :=
  ⟨⟨.post, "/auth/login", [], [], some a⟩, ⟨.ofNat 1, [], ⟨""⟩⟩, time⟩

def host : Address := .v4 10 0 0 7

def otherHost : Address := .v6 [8193, 3512, 0, 0, 0, 0, 0, 1]

/-- The host comes again in the same second, another one in between. -/
def attempts : List Happening :=
  [.visit (attempt host 5000), .purge 5100, .visit (attempt otherHost 5200), .visit (attempt host 5999)]

def noUsers : State Store := ⟨[], []⟩

/-- The second attempt of the host is turned away. -/
theorem attempts_limited :
    attempts.Pairwise (fun h h' => h.time ≤ h'.time) ∧
      (∀ v, .visit v ∈ attempts → v.request.method = .post) ∧
      (∀ v v', .visit v ∈ attempts → .visit v' ∈ attempts → ∀ a a', v.client = some a →
        v'.client = some a' → a.text = a'.text → a = a') ∧
    ∃ past e, (Setup.inMemory .legible strict).exchanges noUsers attempts = past ++ e :: [] ∧
      e.visit.counted? .legible strict = some (.entrance .login, .client (some host)) ∧
      tally .legible strict past (.entrance .login) (.client (some host)) strict.loginLimit e.visit.time = 1 ∧
      e.answer.status = 429 := by
  have hv : ∀ v, .visit v ∈ attempts →
      v = attempt host 5000 ∨ v = attempt otherHost 5200 ∨ v = attempt host 5999 := by
    intro v h
    simpa [attempts] using h
  have hc : attempts.Pairwise fun h h' => h.time ≤ h'.time := by decide
  have hm : ∀ v, .visit v ∈ attempts → v.request.method = .post := by
    intro v h
    rcases hv v h with rfl | rfl | rfl
    all_goals rfl
  have ha : ∀ v v', .visit v ∈ attempts → .visit v' ∈ attempts → ∀ a a', v.client = some a →
      v'.client = some a' → a.text = a'.text → a = a' := by
    have hx : ∀ v, .visit v ∈ attempts → ∀ a, v.client = some a → a = host ∨ a = otherHost := by
      intro v h a he
      rcases hv v h with rfl | rfl | rfl
      · exact .inl (Option.some.inj he).symm
      · exact .inr (Option.some.inj he).symm
      · exact .inl (Option.some.inj he).symm
    intro v v' h h' a a' he he' ht
    have hn : host.text ≠ otherHost.text := by decide +kernel
    rcases hx v h a he with rfl | rfl <;> rcases hx v' h' a' he' with rfl | rfl
    · rfl
    · exact absurd ht hn
    · exact absurd ht.symm hn
    · rfl
  have hl : ∀ v ∈ [attempt host 5000, attempt otherHost 5200, attempt host 5999],
      v.counted? .legible strict = some (.entrance .login, .client v.client) := by decide +kernel
  have hw : (attempt host 5999).counted? .legible strict = some (.entrance .login, .client (some host)) :=
    hl _ (by simp)
  refine ⟨hc, hm, ha, _, _, (rfl : _ = [_, _] ++ _ :: []), hw, by decide +kernel, ?_⟩
  exact (limited_iff rfl hc hm ha (rfl : _ = [_, _] ++ _ :: []) hw rfl (by decide)).1.mpr (by decide +kernel)

end Account
end Storefront
