import Storefront.Account.Router
import Storefront.Proofs.Users

namespace Storefront.Account

/-- What is kept by each call a plan may make holds at its end. -/
theorem Plan.Follows.run {α σ : Type} {asks : Progress → Call → Prop}
    {ends : Progress → Except Refusal α → Prop} {answer : Backend σ} {now : Instant}
    {inv : Progress → σ → Prop} {p : Plan α} {k : Progress} {s : σ} (h : p.Follows asks ends k)
    (hi : inv k s)
    (step : ∀ k s c, asks k c → inv k s →
      inv (k.learn now c (answer now s c).1) (answer now s c).2) :
    ∃ k, ends k (p.run answer now s).1 ∧ inv k (p.run answer now s).2 := by
  induction p generalizing k s with
  | done r => exact ⟨k, h, hi⟩
  | ask c next ih => exact ih now _ (h.2 now _) (step k s c h.1 hi)

namespace Arrival

variable {P : Primitives} {s : Settings} {a : Arrival} {users users' : Store} {now : Instant}
  {k : Progress}

/-- Where a request is that has done nothing but at the instant `now`: it has found a stored user, if any,
and has changed the users once, if at all. -/
structure Within (P : Primitives) (s : Settings) (a : Arrival) (now : Instant) (users : Store)
    (k : Progress) (users' : Store) : Prop where
  at_now : k.now = now
  found : ∀ u, k.found = some (some u) → users.get? u.id = some u
  change : (users' = users ∧ ∀ c, k.wrote ≠ some (c, true)) ∨
    ∃ k₀ c, a.Writes P s k₀ c ∧ k₀.now = now ∧ k₀.found = k.found ∧ users.Written now c users' ∧
      k.wrote = some (c, true)

theorem Within.start (users : Store) (now : Instant) : a.Within P s now users (.start now) users :=
  ⟨rfl, by rintro u ⟨⟩, .inl ⟨rfl, by rintro c ⟨⟩⟩⟩

theorem Within.unmoved (h : a.Within P s now users k users')
    (hw : ∀ c, k.wrote ≠ some (c, true)) : users' = users := by
  rcases h.change with ⟨he, _⟩ | ⟨_, c, _, _, _, _, hc⟩
  · exact he
  · exact absurd hc (hw c)

/-- A call of a request that has not changed the users yet. -/
theorem Within.step (hk : users.Kept) (h : a.Within P s now users k users') {c : Call}
    (ha : a.Asks P s k c) :
    a.Within P s now users (k.learn now c (users'.answer now c).1) (users'.answer now c).2 := by
  have hw := ha.wrote_none
  obtain rfl : users' = users := h.unmoved (by simp [hw])
  rcases users'.answer_cases now c k with ⟨hd, hl⟩ | ⟨hs, hf, hl⟩
  · have hx : a.Writes P s k c := ha.writes_of_learn (by rw [hl]; simp)
    rw [hl]
    exact ⟨rfl, h.found, .inr ⟨k, c, hx, h.at_now, rfl, hd, rfl⟩⟩
  · refine ⟨k.learn_now now c _, ?_, .inl ⟨hs, ?_⟩⟩
    · intro u hu
      rcases hf with hf | ⟨v, hv, hf⟩
      · exact h.found u (hf ▸ hu)
      · rw [hf] at hu
        exact hk.get?_of_finds hv (Option.some.inj hu)
    · intro c' hc
      rcases hl with hl | hl
      · rw [hl, hw] at hc
        cases hc
      · rw [hl] at hc
        cases hc

/-- What a request does that is carried out at one instant. -/
theorem run_within (hk : users.Kept) (a : Arrival) :
    ∃ k, a.Ends P s k ((a.plan P s).run Store.answer a.since users).1 ∧
      a.Within P s a.since users k ((a.plan P s).run Store.answer a.since users).2 :=
  (a.plan_conducts (P := P) (s := s)).run (.start users a.since) fun _ _ _ ha h => h.step hk ha

theorem Within.kept (hk : users.Kept) (h : a.Within P s now users k users') : users'.Kept := by
  rcases h.change with ⟨rfl, _⟩ | ⟨_, _, _, _, _, hw, _⟩
  · exact hk
  · exact hk.written hw

theorem Within.addressed (hu : users.Addressed) (h : a.Within P s now users k users') :
    users'.Addressed := by
  rcases h.change with ⟨rfl, _⟩ | ⟨_, _, _, _, _, hw, _⟩
  · exact hu
  · exact hu.written hw

end Arrival

end Storefront.Account

namespace Storefront

/-- The value under a name in an answer. -/
def Http.Body.member? (b : Body) (name : String) : Option Json.Value :=
  match b with
  | .json (.object ms) => (ms.find? fun p => p.1 == name).map (·.2)
  | _ => none

namespace Account

open Http (Request Response Body)

/-- What is told to nobody but those who are let in: access tokens, and the list of all users. -/
def Silent (b : Body) : Prop := b.member? "accessToken" = none ∧ b.member? "users" = none

theorem silent_empty : Silent .empty := ⟨rfl, rfl⟩

theorem silent_refusal (r : Refusal) : Silent r.response.body := by
  have hp (p : Problem) : Silent p.response.body := by
    constructor
    all_goals simp [Problem.response, Problem.body, Response.json, Body.member?]
  cases r with
  | rateLimited k =>
    constructor
    all_goals simp [Refusal.response, Response.json, Body.member?]
  | overflow => exact silent_empty
  | _ => exact hp _

/-- The access token that is given to the client. -/
def Outcome.access? : Outcome → Option String
  | .registered _ p => some p.access
  | .signedIn _ p => some p.access
  | .refreshed t => some t
  | _ => none

theorem answerOf_accessToken {s : Settings} {r : Except Refusal Outcome} {v : Json.Value}
    (h : (answerOf s r).body.member? "accessToken" = some v) :
    ∃ o t, r = .ok o ∧ o.access? = some t ∧ v = .text t := by
  cases r with
  | error r =>
    rw [answerOf, (silent_refusal r).1] at h
    cases h
  | ok o =>
    refine ⟨o, ?_⟩
    cases o with
    | registered u p | signedIn u p =>
      simp [answerOf, Outcome.response, session, Response.json, Response.withHeader, Body.member?] at h
      exact ⟨p.access, rfl, rfl, h.symm⟩
    | refreshed t =>
      simp [answerOf, Outcome.response, Response.json, Body.member?] at h
      exact ⟨t, rfl, rfl, h.symm⟩
    | _ =>
      simp [answerOf, Outcome.response, told, toldWithUser, droppingSession, Response.json,
        Response.withHeader, Body.member?] at h

theorem answerOf_users {s : Settings} {r : Except Refusal Outcome} {v : Json.Value}
    (h : (answerOf s r).body.member? "users" = some v) : ∃ us, r = .ok (.users us) := by
  cases r with
  | error r =>
    rw [answerOf, (silent_refusal r).2] at h
    cases h
  | ok o =>
    cases o with
    | users us => exact ⟨us, rfl⟩
    | _ =>
      simp [answerOf, Outcome.response, told, toldWithUser, session, droppingSession, Response.json,
        Response.withHeader, Body.member?] at h

theorem readForm_error {r : Request} {f : Json.Form} {e : Response} (h : readForm r f = .error e) :
    ∃ m, e = (Refusal.validation m).response := by
  unfold readForm at h
  cases hr : r.read f with
  | error m =>
    rw [hr] at h
    cases h
    exact ⟨m, rfl⟩
  | ok x =>
    rw [hr] at h
    cases h

theorem silent_readForm {r : Request} {f : Json.Form} {e : Response} (h : readForm r f = .error e) :
    Silent e.body := by
  obtain ⟨m, rfl⟩ := readForm_error h
  exact silent_refusal _

theorem silent_userIdOf {id : String} {e : Response} (h : userIdOf id = .error e) :
    Silent e.body := by
  unfold userIdOf at h
  split at h
  · cases h
  · cases h
    exact silent_refusal _

/-- A command is refused where one of the parts it is made of is. -/
theorem silent_bind {α : Type} {x : Except Response α} {f : α → Except Response Command}
    {e : Response} (hx : ∀ e, x = .error e → Silent e.body)
    (hf : ∀ a e, f a = .error e → Silent e.body) (h : x >>= f = .error e) : Silent e.body := by
  cases x with
  | error y =>
    cases h
    exact hx _ rfl
  | ok a => exact hf a e h

/-- A form is read and made into a command, or refused. -/
theorem form_error {r : Request} {f : Json.Form} {g : Json.Entries → Command} {e : Response}
    (h : (do .ok (g (← readForm r f)) : Except Response Command) = .error e) :
    ∃ m, e = (Refusal.validation m).response := by
  cases hr : readForm r f with
  | error x =>
    rw [hr] at h
    cases h
    exact readForm_error hr
  | ok e =>
    rw [hr] at h
    cases h

theorem silent_form {r : Request} {f : Json.Form} {g : Json.Entries → Command} {e : Response}
    (h : (do .ok (g (← readForm r f)) : Except Response Command) = .error e) : Silent e.body := by
  obtain ⟨m, rfl⟩ := form_error h
  exact silent_refusal _

theorem form_ok {r : Request} {f : Json.Form} {g : Json.Entries → Command} {c : Command}
    (h : (do .ok (g (← readForm r f)) : Except Response Command) = .ok c) :
    ∃ e, readForm r f = .ok e ∧ c = g e := by
  cases hr : readForm r f with
  | error x =>
    rw [hr] at h
    cases h
  | ok e =>
    rw [hr] at h
    cases h
    exact ⟨e, rfl, rfl⟩

theorem Entrance.silent {r : Request} {t : Entrance} {e : Response} (h : t.command r = .error e) :
    Silent e.body := by
  cases t with
  | refresh => cases h
  | logout => cases h
  | register | login | forgotPassword | resetPassword => exact silent_form h

theorem Own.silent {r : Request} {who : UserId} {o : Own} {e : Response}
    (h : o.command r who = .error e) : Silent e.body := by
  cases o with
  | profile => cases h
  | deleteAccount => cases h
  | updateProfile | changePassword => exact silent_form h

theorem Panel.silent {r : Request} {p : Panel} {e : Response} (h : p.command r = .error e) :
    Silent e.body := by
  cases p with
  | createAdmin => exact silent_form h
  | users => cases h
  | user id =>
    cases id with
    | none =>
      cases h
      exact ⟨rfl, rfl⟩
    | some id =>
      simp only [Panel.command] at h
      have hu (g : UserId → Command) (e : Response)
          (h : (do .ok (g (← userIdOf id)) : Except Response Command) = .error e) : Silent e.body :=
        silent_bind (fun _ hu => silent_userIdOf hu) (fun _ _ hg => by cases hg) h
      split at h
      · exact hu _ _ h
      · exact silent_bind (fun _ hr => silent_readForm hr) (fun _ e h => hu _ e h) h

namespace Setup

variable {σ : Type} {w : Setup σ} {d : Draws} {now : Instant} {r : Request} {st : State σ}

/-- A command that a request may give. -/
inductive Admits (w : Setup σ) (now : Instant) (r : Request) : Command → Prop where
  | entrance {e c} (ht : Resource.ofTarget? r.target = some (.entrance e)) (hc : e.command r = .ok c) :
    Admits w now r c
  | own {o caller c} (ht : Resource.ofTarget? r.target = some (.own o))
    (hw : Caller.ofHeaders w.primitives w.settings.keys r.headers now = .ok caller)
    (hc : o.command r caller.id = .ok c) : Admits w now r c
  | panel {p caller c} (ht : Resource.ofTarget? r.target = some (.panel p))
    (hw : Caller.ofHeaders w.primitives w.settings.keys r.headers now = .ok caller)
    (hr : caller.role = .superadmin) (hc : p.command r = .ok c) : Admits w now r c

/-- What a command comes to at one instant. -/
def result (w : Setup σ) (d : Draws) (now : Instant) (users : σ) (c : Command) :
    Except Refusal Outcome × σ :=
  (c.plan w.primitives w.settings d now).run w.backend now users

/-- An answer and the state afterwards are explained by a request that was turned away, or by one of
some commands; a body need not be sent. -/
def Explained (w : Setup σ) (d : Draws) (now : Instant) (users : σ) (admits : Command → Prop)
    (x : Response × State σ) : Prop :=
  (x.2.users = users ∧ Silent x.1.body) ∨
  ∃ c, admits c ∧ x.2.users = (w.result d now users c).2 ∧
    (x.1.body = (answerOf w.settings (w.result d now users c).1).body ∨ x.1.body = .empty)

variable {users : σ} {admits : Command → Prop}

theorem explained_unmoved {a : Response} (ha : Silent a.body) (hs : st.users = users) :
    w.Explained d now users admits (unmoved a st) := .inl ⟨hs, ha⟩

theorem explained_perform {c : Except Response Command} (he : ∀ e, c = .error e → Silent e.body)
    (hc : ∀ x, c = .ok x → admits x) (hs : st.users = users) :
    w.Explained d now users admits (w.perform d now c st) := by
  subst hs
  cases c with
  | error e => exact explained_unmoved (he e rfl) rfl
  | ok x => exact .inr ⟨x, hc x rfl, rfl, .inl rfl⟩

theorem explained_throttled {t : Option Throttle} {who : String} {inner : Step σ}
    (h : ∀ st : State σ, st.users = users → w.Explained d now users admits (inner st))
    (hs : st.users = users) :
    w.Explained d now users admits (throttled t who now inner st) := by
  cases t with
  | none => exact h st hs
  | some t =>
    simp only [throttled]
    split
    · exact h _ hs
    · exact .inl ⟨hs, silent_refusal _⟩

theorem explained_ifMethod {res : Resource} {inner : Step σ}
    (h : w.Explained d now users admits (inner st)) (hs : st.users = users) :
    w.Explained d now users admits (ifMethod res r inner st) := by
  unfold ifMethod
  split
  · exact h
  · exact explained_unmoved silent_empty hs

theorem explained_withCaller {inner : Caller → Step σ}
    (h : ∀ c, Caller.ofHeaders w.primitives w.settings.keys r.headers now = .ok c →
      w.Explained d now users admits (inner c st)) (hs : st.users = users) :
    w.Explained d now users admits (w.withCaller r now inner st) := by
  cases hc : Caller.ofHeaders w.primitives w.settings.keys r.headers now with
  | ok c =>
    simp only [withCaller, hc]
    exact h c hc
  | error e =>
    simp only [withCaller, hc]
    exact explained_unmoved (silent_refusal _) hs

theorem explained_withRole {roles : List Role} {c : Caller} {inner : Step σ}
    (h : c.role ∈ roles → w.Explained d now users admits (inner st)) (hs : st.users = users) :
    w.Explained d now users admits (withRole roles inner c st) := by
  by_cases hc : roles.contains c.role = true
  · simp only [withRole, requireRole, hc, if_true]
    exact h (List.contains_iff_mem.mp hc)
  · simp only [withRole, requireRole, hc, Bool.false_eq_true, if_false]
    exact explained_unmoved (silent_refusal _) hs

theorem explained_finish {ms : List Http.Method} {m : Http.Method} {x : Response × State σ}
    (h : w.Explained d now users admits x) :
    w.Explained d now users admits (Http.finish ms m x.1, x.2) := by
  have hb : (Http.finish ms m x.1).body = x.1.body ∨ (Http.finish ms m x.1).body = .empty := by
    simp only [Http.finish]
    split
    · exact .inr rfl
    · split
      · exact .inl rfl
      · exact .inl rfl
  rcases h with ⟨hs, hq⟩ | ⟨c, hc, hs, ha⟩
  · refine .inl ⟨hs, ?_⟩
    rcases hb with hb | hb
    · rw [hb]
      exact hq
    · rw [hb]
      exact silent_empty
  · refine .inr ⟨c, hc, hs, ?_⟩
    rcases hb with hb | hb
    · rw [hb]
      exact ha
    · exact .inr hb

/-- Every answer comes from a command that the request may give, or turns the request away. -/
theorem respond_explained (w : Setup σ) (d : Draws) (now : Instant) (r : Request) (st : State σ) :
    w.Explained d now st.users (w.Admits now r) (w.respond d now r st) := by
  unfold respond
  split
  · exact .inl ⟨rfl, silent_empty⟩
  · rename_i res ht
    apply explained_finish
    cases res with
    | entrance e =>
      refine explained_throttled (fun st hs => explained_ifMethod ?_ hs) rfl
      exact explained_perform (fun _ h => e.silent h) (fun _ h => .entrance ht h) hs
    | own o =>
      refine explained_withCaller (fun c hw => explained_ifMethod ?_ rfl) rfl
      refine explained_throttled (fun st hs => ?_) rfl
      exact explained_perform (fun _ h => o.silent h) (fun _ h => .own ht hw h) hs
    | panel p =>
      refine explained_withCaller (fun c hw => ?_) rfl
      refine explained_withRole (fun hr => explained_ifMethod ?_ rfl) rfl
      have hr : c.role = .superadmin := List.mem_singleton.mp hr
      exact explained_perform (fun _ h => p.silent h) (fun _ h => .panel ht hw hr h) rfl

/-- A superadmin is let in, and what the request asks for is done. -/
theorem respond_panel {p : Panel} {caller : Caller} {c : Command} (st : State σ)
    (ht : Resource.ofTarget? r.target = some (.panel p))
    (hw : Caller.ofHeaders w.primitives w.settings.keys r.headers now = .ok caller)
    (hr : caller.role = .superadmin)
    (hm : Http.hasMethod (Resource.panel p).methods r.method = true) (hc : p.command r = .ok c) :
    w.respond d now r st =
      (Http.finish (Resource.panel p).methods r.method
        (answerOf w.settings (w.result d now st.users c).1),
        { st with users := (w.result d now st.users c).2 }) := by
  have hs : [Role.superadmin].contains caller.role = true := by rw [hr]; rfl
  simp only [respond, ht, route, withCaller, hw, withRole, requireRole, hs, if_true, ifMethod, hm, hc]
  rfl

/-- A caller is let in, and what the request asks for is done where there is no limit on it. -/
theorem respond_own {o : Own} {caller : Caller} {c : Command} (st : State σ)
    (ht : Resource.ofTarget? r.target = some (.own o))
    (hw : Caller.ofHeaders w.primitives w.settings.keys r.headers now = .ok caller)
    (hm : Http.hasMethod (Resource.own o).methods r.method = true) (hl : o.throttle w.settings = none)
    (hc : o.command r caller.id = .ok c) :
    w.respond d now r st =
      (Http.finish (Resource.own o).methods r.method (answerOf w.settings (w.result d now st.users c).1),
        { st with users := (w.result d now st.users c).2 }) := by
  simp only [respond, ht, route, withCaller, hw, ifMethod, hm, if_true, hl, hc]
  rfl

/-- A request at the entrance is counted, and what it asks for is done. -/
theorem respond_entrance {e : Entrance} (st : State σ)
    (ht : Resource.ofTarget? r.target = some (.entrance e)) (hm : r.method = .post) :
    w.respond d now r st = throttled (e.throttle w.settings) (Http.clientKey r.headers r.peer) now
      (w.perform d now (e.command r)) st := by
  have hh : Http.hasMethod (Resource.entrance e).methods .post = true := rfl
  simp only [respond, ht, route, ifMethod, hm, hh, if_true]
  rfl

end Setup

/-- A request that comes in at some time, with what is drawn for it. -/
structure Visit where
  request : Request
  draws : Draws
  time : Instant

/-- A request with what it is answered and the states around it. -/
structure Exchange (σ : Type) where
  visit : Visit
  before : State σ
  answer : Response
  after : State σ

namespace Setup

variable {σ : Type}

def exchange (w : Setup σ) (st : State σ) (v : Visit) : Exchange σ :=
  let x := w.respond v.draws v.time v.request st
  ⟨v, st, x.1, x.2⟩

/-- The exchanges of requests that come in one after the other. -/
def history (w : Setup σ) (st : State σ) : List Visit → List (Exchange σ)
  | [] => []
  | v :: vs => w.exchange st v :: w.history (w.exchange st v).after vs

/-- The service with its users in memory. -/
def inMemory (P : Primitives) (s : Settings) : Setup Store := ⟨P, s, Store.answer⟩

theorem map_visit (w : Setup σ) (st : State σ) (vs : List Visit) :
    (w.history st vs).map Exchange.visit = vs := by
  induction vs generalizing st with
  | nil => rfl
  | cons v vs ih =>
    rw [history, List.map_cons, ih]
    rfl

/-- Requests come in at the times of their visits, in the order of the exchanges. -/
theorem time_le {w : Setup σ} {st : State σ} {vs : List Visit} {past future : List (Exchange σ)}
    {e x : Exchange σ} (hc : vs.Pairwise fun v v' => v.time ≤ v'.time)
    (h : w.history st vs = past ++ e :: future) (hx : x ∈ past) : x.visit.time ≤ e.visit.time := by
  rw [← map_visit w st vs, h, List.pairwise_map, List.pairwise_append] at hc
  exact hc.2.2 x hx e List.mem_cons_self

variable {P : Primitives} {s : Settings}

/-- What an exchange is of a request that gave the command `c`: it has been told `k`. -/
structure Carried (P : Primitives) (s : Settings) (e : Exchange Store) (c : Command) (k : Progress) :
    Prop where
  admits : (inMemory P s).Admits e.visit.time e.visit.request c
  within : Arrival.Within P s ⟨c, e.visit.draws, e.visit.time⟩ e.visit.time e.before.users k
    e.after.users
  answer : ∃ r, Arrival.Ends P s ⟨c, e.visit.draws, e.visit.time⟩ k r ∧
    (e.answer.body = (answerOf s r).body ∨ e.answer.body = .empty)

/-- An exchange of a request that was turned away, or that gave a command. -/
theorem exchange_cases {st : State Store} (hk : st.users.Kept) (v : Visit) :
    (((inMemory P s).exchange st v).after.users = st.users ∧
      Silent ((inMemory P s).exchange st v).answer.body) ∨
    ∃ c k, Carried P s ((inMemory P s).exchange st v) c k := by
  rcases (inMemory P s).respond_explained v.draws v.time v.request st with h | ⟨c, hc, hu, ha⟩
  · exact .inl h
  · right
    obtain ⟨k, he, hw⟩ := Arrival.run_within (P := P) (s := s) hk ⟨c, v.draws, v.time⟩
    refine ⟨c, k, hc, ?_, _, he, ha⟩
    change Arrival.Within _ _ _ _ st.users k (((inMemory P s).respond v.draws v.time v.request st).2.users)
    rw [hu]
    exact hw

/-- Every exchange is one with a kept store. -/
theorem history_exchange {st : State Store} (hk : st.users.Kept) {vs : List Visit}
    {e : Exchange Store} (he : e ∈ (inMemory P s).history st vs) :
    e.before.users.Kept ∧ e = (inMemory P s).exchange e.before e.visit := by
  induction vs generalizing st with
  | nil => cases he
  | cons v vs ih =>
    rcases List.mem_cons.mp he with rfl | he
    · exact ⟨hk, rfl⟩
    · refine ih ?_ he
      rcases exchange_cases (P := P) (s := s) hk v with ⟨hs, _⟩ | ⟨c, k, hc⟩
      · rw [hs]
        exact hk
      · exact hc.within.kept hk

theorem history_cases {st : State Store} (hk : st.users.Kept) {vs : List Visit}
    {e : Exchange Store} (he : e ∈ (inMemory P s).history st vs) :
    (e.after.users = e.before.users ∧ Silent e.answer.body) ∨ ∃ c k, Carried P s e c k := by
  obtain ⟨hb, hx⟩ := history_exchange hk he
  have h := exchange_cases (P := P) (s := s) hb e.visit
  rw [← hx] at h
  exact h

end Setup

end Account
end Storefront
