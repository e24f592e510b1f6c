import Storefront.Proofs.Credentials
import Storefront.Proofs.Performed
import Storefront.Proofs.Privilege

namespace Storefront.Account

open Http (Request Response)

namespace Setup

variable {σ : Type}

/-- The answer to a request, if no limit and no method stands in the way. -/
def answered (w : Setup σ) (d : Draws) (now : Instant) (users : σ) (c : Except Response Command) : Response :=
  match c with
  | .error a => a
  | .ok c => answerOf w.settings (w.result d now users c).1

/-- What there is to see of a request: the answer, and the counters afterwards, which later answers tell. -/
def seen (w : Setup σ) (d : Draws) (now : Instant) (r : Request) (st : State σ) :
    Response × RateLimit.Store :=
  let x := w.respond d now r st
  (x.1, x.2.limits)

end Setup

/-- What there is to see of a request at the entrance, which the service would answer with `a`.  Of the answer nothing
depends on the users but what the service answers to the command of the request. -/
def Entrance.shown (s : Settings) (e : Entrance) (limits : RateLimit.Store) (now : Instant) (r : Request)
    (a : Response) : Response × RateLimit.Store :=
  let inner : Setup.Step Unit :=
    Setup.ifMethod (.entrance e) r (Setup.unmoved a)
  let x := Setup.throttled (e.throttle s) (Http.clientKey r.headers r.peer) now inner ⟨(), limits⟩
  (Http.finish (Resource.entrance e).methods r.method x.1, x.2.limits)

section Entrances

variable {σ : Type} {w : Setup σ} {d : Draws} {now : Instant} {r : Request} {e : Entrance}

/-- Two steps that answer alike and leave the counters alone still do so behind a limit. -/
theorem Setup.throttled_alike {τ : Type} {inner : Setup.Step σ} {inner' : Setup.Step τ} {users : σ} {users' : τ}
    (h : ∀ limits, (inner ⟨users, limits⟩).1 = (inner' ⟨users', limits⟩).1 ∧
      (inner ⟨users, limits⟩).2.limits = (inner' ⟨users', limits⟩).2.limits)
    (t : Option Throttle) (who : String) (now : Instant) (limits : RateLimit.Store) :
    (throttled t who now inner ⟨users, limits⟩).1 = (throttled t who now inner' ⟨users', limits⟩).1 ∧
      (throttled t who now inner ⟨users, limits⟩).2.limits =
        (throttled t who now inner' ⟨users', limits⟩).2.limits := by
  cases t with
  | none => exact h limits
  | some t =>
    simp only [throttled]
    split
    · rw [(h _).1, (h _).2]
      exact ⟨rfl, rfl⟩
    · exact ⟨rfl, rfl⟩

theorem Setup.seen_entrance (ht : Resource.ofTarget? r.target = some (.entrance e)) (st : State σ) :
    w.seen d now r st = e.shown w.settings st.limits now r (w.answered d now st.users (e.command r)) := by
  obtain ⟨users, limits⟩ := st
  have hi (limits : RateLimit.Store) :
      (ifMethod (.entrance e) r (w.perform d now (e.command r)) ⟨users, limits⟩).1 =
          (ifMethod (.entrance e) r (unmoved (w.answered d now users (e.command r)))
            (⟨(), limits⟩ : State Unit)).1 ∧
        (ifMethod (.entrance e) r (w.perform d now (e.command r)) ⟨users, limits⟩).2.limits =
          (ifMethod (.entrance e) r (unmoved (w.answered d now users (e.command r)))
            (⟨(), limits⟩ : State Unit)).2.limits := by
    unfold ifMethod
    split
    · cases e.command r with
      | error a => exact ⟨rfl, rfl⟩
      | ok c => exact ⟨rfl, rfl⟩
    · exact ⟨rfl, rfl⟩
  obtain ⟨ha, hl⟩ := throttled_alike hi (e.throttle w.settings) (Http.clientKey r.headers r.peer) now limits
  simp only [seen, respond, ht, route, Entrance.shown, ha, hl]

/-- Either the answer is seen with its status, or nothing of it is seen and another one is sent. -/
theorem Entrance.shown_cases (s : Settings) (e : Entrance) (limits : RateLimit.Store) (now : Instant)
    (r : Request) :
    (∀ a, (e.shown s limits now r a).1.status = a.status) ∨
      ∃ x : Response × RateLimit.Store, x.1.Sent ∧ ∀ a, e.shown s limits now r a = x := by
  unfold shown
  cases hm : Http.hasMethod (Resource.entrance e).methods r.method with
  | false =>
    right
    simp only [Setup.ifMethod, hm, Bool.false_eq_true, if_false]
    refine ⟨_, ?_, fun a => rfl⟩
    rw [Response.Sent, finish_status]
    cases e.throttle s with
    | none => exact Nat.succ_ne_zero _
    | some t =>
      simp only [Setup.throttled]
      split
      · exact Nat.succ_ne_zero _
      · exact Nat.succ_ne_zero _
  | true =>
    simp only [Setup.ifMethod, hm, if_true, finish_allowed hm]
    cases e.throttle s with
    | none => exact .inl fun a => rfl
    | some t =>
      simp only [Setup.throttled]
      split
      · exact .inl fun a => rfl
      · right
        refine ⟨_, ?_, fun a => rfl⟩
        exact Nat.succ_ne_zero _

/-- Where the service would send its answer, an answer is sent. -/
theorem Entrance.shown_sent {s : Settings} {limits : RateLimit.Store} {a : Response} (ha : a.Sent) :
    (e.shown s limits now r a).1.Sent := by
  rcases e.shown_cases s limits now r with h | ⟨x, hs, h⟩
  · rw [Response.Sent, h]
    exact ha
  · rw [h]
    exact hs

/-- What is seen of an answer depends on who is counted for the request, and on its method. -/
theorem Entrance.shown_congr {s : Settings} {limits : RateLimit.Store} {r r' : Request}
    (hk : Http.clientKey r.headers r.peer = Http.clientKey r'.headers r'.peer)
    (hm : r.method = r'.method) (a : Response) :
    e.shown s limits now r a = e.shown s limits now r' a := by
  simp only [shown, Setup.ifMethod, hk, hm]

end Entrances

section Answers

variable {P : Primitives} {s : Settings} {users users' : Store} {d d' : Draws} {now : Instant}

/-- What is told to somebody who has forgotten a password. -/
def linkAnswer (email : Option String) : Response :=
  match nonBlank email with
  | some _ => told "forgotPassword.check_email"
  | none => (Refusal.validation "forgotPassword.error").response

theorem linkAnswer_sent (email : Option String) : (linkAnswer email).Sent := by
  unfold linkAnswer
  split
  · exact Nat.succ_ne_zero _
  · exact Nat.succ_ne_zero _

/-- Whoever has forgotten a password is told the same, whether the address is known or not.  Only where a token would
have no date for its end is nothing told. -/
theorem forgotPassword_answer (hu : users.Addressed) (email : Option String) :
    answerOf s ((forgotPassword P s d email).run Store.answer now users).1 = linkAnswer email ∨
      answerOf s ((forgotPassword P s d email).run Store.answer now users).1 = .unsent ∧
        ¬now.Reaches s.resetLifetime := by
  cases ht : nonBlank email with
  | none =>
    left
    simp only [forgotPassword, linkAnswer, ht]
    rfl
  | some text =>
    have hl : linkAnswer email = told "forgotPassword.check_email" := by rw [linkAnswer, ht]
    rw [hl]
    cases he : Email.parse P text with
    | error f =>
      left
      simp only [forgotPassword, ht, Plan.run_orRefuse, he]
      rfl
    | ok e =>
      cases hf : users.findByEmail e with
      | none =>
        left
        simp only [forgotPassword, ht, Plan.run_orRefuse, he, Plan.findByEmail]
        rw [Plan.run_call (by rw [Store.answer]), hf]
        rfl
      | some u =>
        have hg : users.get? u.id = some u := hu.get?_of_finds (Store.finds_findByEmail.mpr hf) rfl
        by_cases hr : now.Reaches s.resetLifetime
        · left
          rw [forgotPassword_alone ht he hf hg (hu.own_email hg) hr]
          rfl
        · right
          refine ⟨?_, hr⟩
          simp only [forgotPassword, ht, Plan.run_orRefuse, he, Plan.findByEmail]
          rw [Plan.run_call (by rw [Store.answer]), hf]
          simp only [User.issueReset?, if_neg hr]
          rfl

/-- Why somebody is not signed in. -/
def Credentials.refusal (P : Primitives) (c : Credentials) : Refusal :=
  match c.check P with
  | .error e => e
  | .ok _ => .invalidCredentials

/-- Both an address and a password are given. -/
structure Credentials.Complete (c : Credentials) : Prop where
  email : nonBlank c.email ≠ none
  password : (c.password.filter fun p => !p.isEmpty) ≠ none

theorem Credentials.Complete.refusal {c : Credentials} (h : c.Complete) :
    c.refusal P = .invalidCredentials := by
  obtain ⟨email, he⟩ := Option.ne_none_iff_exists'.mp h.email
  obtain ⟨password, hp⟩ := Option.ne_none_iff_exists'.mp h.password
  simp only [Credentials.refusal, Credentials.check, he, hp]
  cases Email.parse P email with
  | error f => rfl
  | ok e => rfl

theorem login_answer (c : Credentials) :
    (answerOf s ((login P s c).run Store.answer now users).1).status = 200 ∨
      answerOf s ((login P s c).run Store.answer now users).1 = (c.refusal P).response := by
  unfold login Credentials.refusal
  cases c.check P with
  | error e => exact .inr rfl
  | ok x =>
    obtain ⟨e, p⟩ := x
    simp only [Plan.run_ofExcept, Plan.findByEmail]
    rw [Plan.run_call (by rw [Store.answer])]
    cases users.findByEmail e with
    | none => exact .inr rfl
    | some u =>
      dsimp only
      rw [Plan.run_orRefuse]
      split
      · exact .inl rfl
      · exact .inr rfl

end Answers

section Requests

variable {P : Primitives} {s : Settings} {users users' : Store} {d d' : Draws} {now : Instant} {r : Request}

/-- A request for a link is answered in a way that depends on the request alone, if it is answered. -/
theorem answered_forgotPassword (now : Instant) (r : Request) : ∃ a : Response, a.Sent ∧ ∀ d users,
    Store.Addressed users →
      (Setup.inMemory P s).answered d now users (Entrance.forgotPassword.command r) = a ∨
        (Setup.inMemory P s).answered d now users (Entrance.forgotPassword.command r) = .unsent ∧
          ¬now.Reaches s.resetLifetime := by
  cases hc : Entrance.forgotPassword.command r with
  | error a =>
    obtain ⟨m, rfl⟩ := form_error hc
    exact ⟨(Refusal.validation m).response, Nat.succ_ne_zero _, fun _ _ _ => .inl rfl⟩
  | ok c =>
    obtain ⟨e, _, rfl⟩ := form_ok hc
    exact ⟨_, linkAnswer_sent (e.text? "email"), fun d users hu => forgotPassword_answer hu _⟩

/-- A sign-in that fails is answered in a way that depends on the request alone. -/
theorem answered_login (now : Instant) (r : Request) : ∃ a, ∀ d users,
    ((Setup.inMemory P s).answered d now users (Entrance.login.command r)).status = 200 ∨
      (Setup.inMemory P s).answered d now users (Entrance.login.command r) = a := by
  cases hc : Entrance.login.command r with
  | error a => exact ⟨a, fun _ _ => .inr rfl⟩
  | ok c =>
    obtain ⟨e, _, rfl⟩ := form_ok hc
    exact ⟨_, fun d users => login_answer (Credentials.ofEntries e)⟩

/-- An address of nobody, a text that is no address and a wrong password are answered in the same way. -/
theorem answered_complete {c : Credentials} (h : c.Complete) (d : Draws) (users : Store) :
    ((Setup.inMemory P s).answered d now users (.ok (.login c))).status = 200 ∨
      (Setup.inMemory P s).answered d now users (.ok (.login c)) = Refusal.invalidCredentials.response := by
  rw [← h.refusal (P := P)]
  exact login_answer c

theorem Entrance.shown_failed {e : Entrance} {limits : RateLimit.Store} {a a' b : Response}
    (h : a.status = 200 ∨ a = b) (h' : a'.status = 200 ∨ a' = b)
    (hs : (e.shown s limits now r a).1.status ≠ 200) (hs' : (e.shown s limits now r a').1.status ≠ 200) :
    e.shown s limits now r a = e.shown s limits now r a' := by
  rcases e.shown_cases s limits now r with hx | ⟨x, _, hx⟩
  · rw [hx] at hs hs'
    rw [h.resolve_left hs, h'.resolve_left hs']
  · rw [hx, hx]

/-- Two answers to a request, of which each is the answer `a` or none, look the same if both are sent. -/
theorem Entrance.shown_unless {e : Entrance} {limits : RateLimit.Store} {a x y : Response}
    (hx : x = a ∨ x = .unsent) (hy : y = a ∨ y = .unsent) (sx : (e.shown s limits now r x).1.Sent)
    (sy : (e.shown s limits now r y).1.Sent) : e.shown s limits now r x = e.shown s limits now r y := by
  rcases e.shown_cases s limits now r with h | ⟨b, _, h⟩
  · rw [Response.Sent, h] at sx sy
    have hxa : x = a := hx.resolve_right fun hn => sx (by rw [hn]; rfl)
    have hya : y = a := hy.resolve_right fun hn => sy (by rw [hn]; rfl)
    rw [hxa, hya]
  · rw [h, h]

/-- What is seen of a request for a reset link does not depend on the users.  The calendar has an end: only where
the lifetime of a token leads beyond it, a link is asked for without an answer, and any two answers still look the
same.  What is seen of a sign-in depends on the users only if it succeeds, and any two sign-ins of one client with
an address and a password look the same when they fail. -/
theorem accounts_undisclosed (hu : users.Addressed) (hu' : users'.Addressed) (limits : RateLimit.Store)
    (now : Instant) (d d' : Draws) :
    (∀ r, Resource.ofTarget? r.target = some (.entrance .forgotPassword) →
      (now.Reaches s.resetLifetime →
        ((Setup.inMemory P s).seen d now r ⟨users, limits⟩).1.Sent ∧
          (Setup.inMemory P s).seen d now r ⟨users, limits⟩ =
            (Setup.inMemory P s).seen d' now r ⟨users', limits⟩) ∧
      (((Setup.inMemory P s).seen d now r ⟨users, limits⟩).1.Sent →
        ((Setup.inMemory P s).seen d' now r ⟨users', limits⟩).1.Sent →
        (Setup.inMemory P s).seen d now r ⟨users, limits⟩ =
          (Setup.inMemory P s).seen d' now r ⟨users', limits⟩)) ∧
    (∀ r, Resource.ofTarget? r.target = some (.entrance .login) →
      ((Setup.inMemory P s).seen d now r ⟨users, limits⟩).1.status ≠ 200 →
      ((Setup.inMemory P s).seen d' now r ⟨users', limits⟩).1.status ≠ 200 →
      (Setup.inMemory P s).seen d now r ⟨users, limits⟩ =
        (Setup.inMemory P s).seen d' now r ⟨users', limits⟩) ∧
    ∀ r r' c c', Resource.ofTarget? r.target = some (.entrance .login) →
      Resource.ofTarget? r'.target = some (.entrance .login) → r.method = r'.method →
      Http.clientKey r.headers r.peer = Http.clientKey r'.headers r'.peer →
      Entrance.login.command r = .ok (.login c) → Entrance.login.command r' = .ok (.login c') →
      c.Complete → c'.Complete →
      ((Setup.inMemory P s).seen d now r ⟨users, limits⟩).1.status ≠ 200 →
      ((Setup.inMemory P s).seen d' now r' ⟨users', limits⟩).1.status ≠ 200 →
      (Setup.inMemory P s).seen d now r ⟨users, limits⟩ =
        (Setup.inMemory P s).seen d' now r' ⟨users', limits⟩ := by
  refine ⟨?_, ?_, ?_⟩
  · intro r ht
    rw [Setup.seen_entrance ht, Setup.seen_entrance ht]
    obtain ⟨a, ha, h⟩ := answered_forgotPassword (P := P) (s := s) now r
    have hx := h d users hu
    have hy := h d' users' hu'
    refine ⟨fun hr => ?_, Entrance.shown_unless (hx.imp_right And.left) (hy.imp_right And.left)⟩
    rw [hx.resolve_right fun hn => hn.2 hr, hy.resolve_right fun hn => hn.2 hr]
    exact ⟨Entrance.shown_sent ha, rfl⟩
  · intro r ht hs hs'
    rw [Setup.seen_entrance ht] at hs hs' ⊢
    rw [Setup.seen_entrance ht]
    obtain ⟨a, ha⟩ := answered_login (P := P) (s := s) now r
    exact Entrance.shown_failed (ha d users) (ha d' users') hs hs'
  · intro r r' c c' ht ht' hm hk hc hc' hx hx' hs hs'
    rw [Setup.seen_entrance ht, hc] at hs ⊢
    rw [Setup.seen_entrance ht', hc'] at hs' ⊢
    rw [← Entrance.shown_congr hk hm] at hs' ⊢
    exact Entrance.shown_failed (answered_complete hx d users) (answered_complete hx' d' users') hs hs'

end Requests

def asksFor (target body : String) : Request :=
  ⟨.post, target, [("content-type", Bytes.ofText "application/json")], Bytes.ofText body, none⟩

def asksForLink : Request := asksFor "/auth/forgot-password" "\x7b\"email\":\"root@b.co\"\x7d"

-- where no token can be issued any more, the calendar being at its end, somebody who is known is not answered
example :
    let w := Setup.inMemory .legible { Settings.usual with resetTtl := .ofSeconds 9000000000000 }
    ¬(w.seen ⟨.ofNat 1, [], ⟨"0f1e2d3c"⟩⟩ 1000 asksForLink rootOnly).1.Sent ∧
      (w.seen ⟨.ofNat 1, [], ⟨"0f1e2d3c"⟩⟩ 1000 asksForLink noUsers).1.Sent := by decide +kernel

def guesses : Request := asksFor "/auth/login" "\x7b\"email\":\"root@b.co\",\"password\":\"Violet-78\"\x7d"

def guessesWildly : Request := asksFor "/auth/login" "\x7b\"email\":\"root\",\"password\":\"Indigo-88\"\x7d"

theorem rootOnly_addressed : rootOnly.users.Addressed :=
  ⟨Store.Kept.nil.put root, List.pairwise_singleton _ _⟩

/-- What is seen of a request that comes in a second after the epoch. -/
def seenWith (st : State Store) (r : Request) : Response × RateLimit.Store :=
  (Setup.inMemory .legible .usual).seen ⟨.ofNat 1, [], ⟨"0f1e2d3c"⟩⟩ 1000 r st

/-- Nobody can tell from a link that was asked for, or from a wrong password, whether there is a root. -/
theorem root_undisclosed : rootOnly.users.Addressed ∧ noUsers.users.Addressed ∧
    seenWith rootOnly asksForLink = seenWith noUsers asksForLink ∧
    seenWith rootOnly guesses = seenWith noUsers guesses ∧
    seenWith rootOnly guesses = seenWith noUsers guessesWildly := by
  have hn : noUsers.users.Addressed := ⟨.nil, .nil⟩
  have hf : Resource.ofTarget? "/auth/forgot-password" = some (.entrance .forgotPassword) := by
    decide +kernel
  have hl : Resource.ofTarget? "/auth/login" = some (.entrance .login) := by decide +kernel
  have hs : (seenWith rootOnly guesses).1.status ≠ 200 ∧ (seenWith noUsers guesses).1.status ≠ 200 ∧
      (seenWith noUsers guessesWildly).1.status ≠ 200 := by decide +kernel
  obtain ⟨hforgot, hlogin, hany⟩ := accounts_undisclosed (P := .legible) (s := .usual)
    rootOnly_addressed hn [] 1000 ⟨.ofNat 1, [], ⟨"0f1e2d3c"⟩⟩ ⟨.ofNat 1, [], ⟨"0f1e2d3c"⟩⟩
  refine ⟨rootOnly_addressed, hn, ((hforgot asksForLink hf).1 (by decide)).2, hlogin guesses hl hs.1 hs.2.1, ?_⟩
  exact hany guesses guessesWildly ⟨some "root@b.co", some "Violet-78"⟩ ⟨some "root", some "Indigo-88"⟩
    hl hl rfl rfl rfl rfl ⟨by decide, by decide⟩ ⟨by decide, by decide⟩ hs.1 hs.2.2

end Storefront.Account
