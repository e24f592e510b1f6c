import Storefront.Proofs.Cookies
import Storefront.Proofs.Privilege
import Storefront.Proofs.Undisturbed

namespace Storefront

namespace Token.Keys

/-- A token issued now expires at a time that can be written in it and is read again. -/
structure Fits (k : Keys) (kind : Kind) (now : Instant) : Prop where
  issued : IsSecond now.seconds
  expiry : IsSecond (now.seconds + (k.ttl kind).seconds)
  late : 0 ≤ now.seconds + (k.ttl kind).seconds

instance (k : Keys) (kind : Kind) (now : Instant) : Decidable (k.Fits kind now) :=
  decidable_of_iff (IsSecond now.seconds ∧ IsSecond (now.seconds + (k.ttl kind).seconds) ∧
      0 ≤ now.seconds + (k.ttl kind).seconds)
    ⟨fun h => ⟨h.1, h.2.1, h.2.2⟩, fun h => ⟨h.issued, h.expiry, h.late⟩⟩

theorem verify_issue {P : Primitives} {k : Keys} {kind : Kind} {s : Subject} {t now : Instant}
    (h : k.Fits kind t) :
    k.verify P kind (k.issue P kind s t) now =
      if t.seconds + (k.ttl kind).seconds < now.seconds then .error .expired
      else .ok (k.claims kind s t.seconds) := by
  rw [issue, verify_issueAt h.issued, expiresAt_claims h.expiry, if_neg (Int.not_lt.mpr h.late)]

end Token.Keys

namespace Account

open Http (Response)

variable {P : Primitives} {s : Settings} {users : Store} {now t : Instant} {u : User} {token : Option String}
  {id : UserId}

theorem refreshOwner_issued (h : s.keys.Fits .refresh t) :
    refreshOwner P s (some (s.keys.issue P .refresh u.subject t)) now =
      if t.seconds + s.refreshTtl.seconds < now.seconds then .error .invalidRefreshToken else .ok u.id := by
  have hid : Uuid.ofPadded? u.subject.id = some u.id := Uuid.ofPadded?_text u.id
  have hl : (s.keys.ttl .refresh).seconds = s.refreshTtl.seconds := rfl
  by_cases hx : t.seconds + s.refreshTtl.seconds < now.seconds
  · simp only [refreshOwner, Token.Keys.verify_issue h, hl, hx, if_true]
  · simp only [refreshOwner, Token.Keys.verify_issue h, hl, hx, if_false, Token.Keys.claims, hid]

theorem refresh_refused {r : Refusal} (h : refreshOwner P s token now = .error r) :
    (refresh P s now token).run Store.answer now users = (.error r, users) := by
  rw [refresh, h]
  rfl

theorem refresh_granted (h : refreshOwner P s token now = .ok id) :
    (refresh P s now token).run Store.answer now users =
      match users.get? id with
      | some u => (.ok (.refreshed (s.keys.issue P .access u.subject now)), users)
      | none => (.error .invalidRefreshToken, users) := by
  rw [refresh, h, Plan.run_ofExcept]
  cases hg : users.get? id with
  | none =>
    have hl : Store.answer now users (.findById id) = (.ok none, users) := by rw [Store.answer, hg]
    rw [Plan.findById, Plan.run_call hl]
    rfl
  | some u =>
    have hl : Store.answer now users (.findById id) = (.ok (some u), users) := by rw [Store.answer, hg]
    rw [Plan.findById, Plan.run_call hl]
    rfl

/-- An answer has the browser store this. -/
def Stores (r : Response) (cookie : String) : Prop := ("set-cookie", cookie) ∈ r.headers

variable {cookie : String}

theorem not_stores_refusal (r : Refusal) : ¬ Stores r.response cookie := by
  cases r with
  | rateLimited k => simp [Stores, Refusal.response, Response.json]
  | overflow => exact List.not_mem_nil
  | _ => simp [Stores, Refusal.response, Problem.response, Response.json]

theorem not_mem_verdict (v : RateLimit.Verdict) : ("set-cookie", cookie) ∉ v.headers now := by
  cases ha : v.allowed
  all_goals simp [RateLimit.Verdict.headers, ha]

theorem session_stores {n : Nat} {m : String} {p : Token.Pair} (h : Stores (session s n m u p) cookie) :
    cookie = Http.Cookie.sendable (s.refreshCookie.store p.refresh) := by
  simpa [Stores, session, Response.json, Response.withHeader] using h

/-- The cookie of a session goes out as it is. -/
theorem sendable_session (t : Instant) :
    Http.Cookie.sendable (s.refreshCookie.store (s.keys.issue P .refresh u.subject t)) =
      s.refreshCookie.store (s.keys.issue P .refresh u.subject t) := by
  have hn : Text.Plain Http.Cookie.refreshName := by decide
  have hp : Text.Plain "/" := by decide
  exact Http.sendable_plain (Http.Cookie.plain_store hn hp (Token.Keys.plain_issueAt _ _ _ _ _))

/-- What a browser keeps of the cookie of a session. -/
theorem takeWhile_session {token : String} (h : ';' ∉ token.toList) :
    (s.refreshCookie.store token).toList.takeWhile (· ≠ ';') =
      Http.Crumb.text (Http.Cookie.refreshName.toList, token.toList) := by
  have hn : ';' ∉ Http.Cookie.refreshName.toList := by decide
  exact Http.Cookie.takeWhile_store (c := s.refreshCookie) hn h

/-- The token in the cookie of a session is found in the request that sends it back. -/
theorem find?_session {h : Http.Headers} (t : Instant)
    (hb : Http.Cookie.SentBack (s.refreshCookie.store (s.keys.issue P .refresh u.subject t))
      Http.Cookie.refreshName h) :
    Http.Cookie.find? h Http.Cookie.refreshName = some (s.keys.issue P .refresh u.subject t) := by
  have hn : ∀ x ∈ Http.Cookie.refreshName.toList, x ≠ ';' ∧ x ≠ '=' ∧ Text.isBlank x = false := by
    have ha : Http.Cookie.refreshName.toList.all (fun x => x ≠ ';' ∧ x ≠ '=' ∧ Text.isBlank x = false) = true := by
      decide
    simpa using ha
  exact Http.Cookie.find?_sentBack (c := s.refreshCookie) (Http.Crumb.bare_issueAt hn _ _ _ _ _)
    (Token.Keys.issueAt_ne_nil _ _ _ _ _) hb

namespace Setup

variable {σ : Type} {w : Setup σ} {d : Draws} {r : Http.Request} {st : State σ}

theorem stores_throttled {th : Option Throttle} {who : String} {inner : Step σ}
    (h : Stores (throttled th who now inner st).1 cookie) :
    ∃ st' : State σ, st'.users = st.users ∧ Stores (inner st').1 cookie ∧
      (throttled th who now inner st).1.body = (inner st').1.body := by
  cases th with
  | none => exact ⟨st, rfl, h, rfl⟩
  | some th =>
    simp only [throttled] at h ⊢
    cases ha : (st.limits.check (th.key who) th.limit now).1.allowed with
    | true =>
      simp only [ha, if_true] at h ⊢
      refine ⟨{ st with limits := (st.limits.check (th.key who) th.limit now).2 }, rfl, ?_, rfl⟩
      exact (List.mem_append.mp h).resolve_right (not_mem_verdict _)
    | false =>
      simp only [ha, Bool.false_eq_true, if_false] at h
      rcases List.mem_append.mp h with h | h
      · exact absurd h (not_stores_refusal _)
      · exact absurd h (not_mem_verdict _)

theorem not_stores_command {e : Entrance} {a : Response} (h : e.command r = .error a) : ¬ Stores a cookie := by
  cases e with
  | refresh | logout => cases h
  | register | login | forgotPassword | resetPassword =>
    obtain ⟨m, rfl⟩ := form_error h
    exact not_stores_refusal _

theorem stores_finish {ms : List Http.Method} {m : Http.Method} {a : Response}
    (h : Stores (Http.finish ms m a) cookie) : Stores a cookie := by
  have hh : (Http.finish ms m a).headers = a.headers ∨
      (Http.finish ms m a).headers = a.headers ++ [("allow", Http.allowText ms)] := by
    simp only [Http.finish, apply_ite Response.headers, Response.withoutBody, Response.withHeader, ite_self]
    split
    · exact .inl rfl
    · exact .inr rfl
  unfold Stores at h
  rcases hh with hh | hh
  · rwa [hh] at h
  · rw [hh] at h
    simpa [Stores] using h

/-- Only the answer to a command has the browser store something. -/
theorem stores_entrance {e : Entrance} (ht : Resource.ofTarget? r.target = some (.entrance e))
    (hs : Stores (w.respond d now r st).1 cookie) :
    ∃ c, e.command r = .ok c ∧ Stores (answerOf w.settings (w.result d now st.users c).1) cookie ∧
      (w.respond d now r st).1.body = (answerOf w.settings (w.result d now st.users c).1).body := by
  by_cases hm : r.method = .post
  · rw [respond_entrance st ht hm] at hs ⊢
    obtain ⟨st', hu, hs, hb⟩ := stores_throttled hs
    rw [hb, ← hu]
    cases hc : e.command r with
    | error a =>
      rw [hc] at hs
      exact absurd hs (not_stores_command hc)
    | ok c =>
      rw [hc] at hs
      exact ⟨c, rfl, hs, rfl⟩
  · have hh : Http.hasMethod (Resource.entrance e).methods r.method = false := by
      simp [Http.hasMethod, Resource.methods, hm]
    simp only [respond, ht, route, ifMethod, hh, Bool.false_eq_true, if_false] at hs
    obtain ⟨_, _, hs, _⟩ := stores_throttled (stores_finish hs)
    simp [Stores, unmoved, Http.methodNotAllowed, Response.empty] at hs

end Setup

/-- A registration or a login has succeeded for a user, and its answer stores this cookie. -/
structure Exchange.SignsIn (x : Exchange Store) (u : User) (cookie : String) : Prop where
  entrance : Resource.ofTarget? x.visit.request.target = some (.entrance .register) ∨
    Resource.ofTarget? x.visit.request.target = some (.entrance .login)
  user : x.answer.body.member? "user" = some u.value
  cookie : Stores x.answer cookie

/-- A new access token is asked for, and this cookie is sent back. -/
structure Visit.Renews (v : Visit) (cookie : String) : Prop where
  target : Resource.ofTarget? v.request.target = some (.entrance .refresh)
  method : v.request.method = .post
  cookie : Http.Cookie.SentBack cookie Http.Cookie.refreshName v.request.headers

theorem User.id_of_value {u v : User} (h : u.value = v.value) : u.id = v.id := by
  have ht : u.id.text = v.id.text := by
    simp only [User.value, Json.Value.object.injEq, List.cons.injEq, Prod.mk.injEq, Json.Value.text.injEq] at h
    exact h.1.2
  have hu := Uuid.ofPadded?_text u.id
  rw [ht, Uuid.ofPadded?_text] at hu
  exact (Option.some.inj hu).symm

section Histories

variable {st : State Store} {vs : List Visit} {e x : Exchange Store}

/-- A registration or a login comes to a session, if to anything. -/
theorem Arrival.Yields.session {a : Arrival} {k : Progress} {o : Outcome} (h : a.Yields P s k o)
    (ha : (∃ r, a.command = .register r) ∨ ∃ c, a.command = .login c) :
    ∃ n m v, o.response s = Account.session s n m v (s.keys.issuePair P v.subject k.now) := by
  cases h with
  | @registered _ _ _ _ v => exact ⟨_, _, v, rfl⟩
  | @signedIn _ _ _ _ v => exact ⟨_, _, v, rfl⟩
  | _ => simp at ha

/-- Whoever signs in is given the refresh token of a user with this identifier. -/
theorem Setup.signsIn_cookie (hk : st.users.Kept) (v : Visit)
    (h : ((inMemory P s).exchange st v).SignsIn u cookie) :
    ∃ u' : User, u'.id = u.id ∧
      cookie = s.refreshCookie.store (s.keys.issue P .refresh u'.subject v.time) := by
  obtain ⟨c, hc, hs, hb⟩ : ∃ c, ((∃ r, c = .register r) ∨ ∃ r, c = .login r) ∧
      Stores (answerOf s ((inMemory P s).result v.draws v.time st.users c).1) cookie ∧
      ((inMemory P s).exchange st v).answer.body =
        (answerOf s ((inMemory P s).result v.draws v.time st.users c).1).body := by
    rcases h.entrance with ht | ht
    · obtain ⟨c, hc, hs⟩ := stores_entrance ht h.cookie
      obtain ⟨f, _, rfl⟩ := form_ok hc
      exact ⟨_, .inl ⟨_, rfl⟩, hs⟩
    · obtain ⟨c, hc, hs⟩ := stores_entrance ht h.cookie
      obtain ⟨f, _, rfl⟩ := form_ok hc
      exact ⟨_, .inr ⟨_, rfl⟩, hs⟩
  obtain ⟨k, he, hw⟩ := Arrival.run_within (P := P) (s := s) hk ⟨c, v.draws, v.time⟩
  change Arrival.Ends P s ⟨c, v.draws, v.time⟩ k ((inMemory P s).result v.draws v.time st.users c).1 at he
  cases hr : ((inMemory P s).result v.draws v.time st.users c).1 with
  | error r =>
    rw [hr] at hs
    exact absurd hs (not_stores_refusal r)
  | ok o =>
    rw [hr] at he hs hb
    obtain ⟨n, m, u', ho⟩ := Arrival.Yields.session he hc
    simp only [answerOf, ho] at hs hb
    have hu := h.user
    rw [hb] at hu
    refine ⟨u', User.id_of_value ?_, ?_⟩
    · simpa [Account.session, Response.json, Response.withHeader, Http.Body.member?] using hu
    · have hn : k.now = v.time := hw.at_now
      rw [session_stores hs, hn]
      exact sendable_session v.time

theorem Setup.answer_refresh {v : Visit} {token : Option String}
    (ht : Resource.ofTarget? v.request.target = some (.entrance .refresh)) (hm : v.request.method = .post)
    (hf : Http.Cookie.find? v.request.headers Http.Cookie.refreshName = token) :
    ((inMemory P s).exchange st v).answer =
      answerOf s ((refresh P s v.time token).run Store.answer v.time st.users).1 := by
  have hc : Entrance.command v.request .refresh = .ok (.refresh token) := by rw [Entrance.command, hf]
  have hr : (inMemory P s).respond v.draws v.time v.request st =
      (inMemory P s).perform v.draws v.time (.ok (.refresh token)) st := by
    rw [respond_entrance st ht hm, hc]
    rfl
  rw [exchange, hr]
  rfl

theorem Setup.refused_refresh {v : Visit} {r : Refusal}
    (ht : Resource.ofTarget? v.request.target = some (.entrance .refresh)) (hm : v.request.method = .post)
    (ho : refreshOwner P s (Http.Cookie.find? v.request.headers Http.Cookie.refreshName) v.time = .error r) :
    ((inMemory P s).exchange st v).answer = r.response := by
  rw [answer_refresh ht hm rfl, refresh_refused ho]
  rfl

/-- A session is renewed as long as its user is stored and its refresh token lives, and the new access token
says what is stored of the user then. -/
theorem renewed_iff (hk : st.users.Kept) {past future : List (Exchange Store)}
    (h : (Setup.inMemory P s).history st vs = past ++ e :: future) (hx : x ∈ past) (hs : x.SignsIn u cookie)
    (hr : e.visit.Renews cookie) (hxt : s.keys.Fits .refresh x.visit.time)
    (het : s.keys.Fits .access e.visit.time) :
    (e.answer.status = 200 ↔ (∃ v, e.before.users.get? u.id = some v) ∧
      e.visit.time.seconds ≤ x.visit.time.seconds + s.refreshTtl.seconds) ∧
    (e.answer.status ≠ 200 → e.answer.status = 403) ∧
    ∀ v, e.answer.status = 200 → e.before.users.get? u.id = some v → ∃ t, e.Gives t ∧
      ∀ headers : Http.Headers, headers.text? "authorization" = some ("Bearer ".toList ++ t.toList) →
        Caller.ofHeaders P s.keys headers e.visit.time = .ok ⟨u.id, v.email.text, v.role⟩ := by
  have hem : e ∈ (Setup.inMemory P s).history st vs := by simp [h]
  have hxm : x ∈ (Setup.inMemory P s).history st vs := by simp [h, hx]
  obtain ⟨hxk, hxe⟩ := Setup.history_exchange hk hxm
  obtain ⟨hek, hee⟩ := Setup.history_exchange hk hem
  rw [hxe] at hs
  obtain ⟨u', hid, rfl⟩ := Setup.signsIn_cookie hxk x.visit hs
  have ha : ((Setup.inMemory P s).exchange e.before e.visit).answer = _ :=
    Setup.answer_refresh hr.target hr.method (find?_session _ hr.cookie)
  rw [← hee] at ha
  have ho : refreshOwner P s (some (s.keys.issue P .refresh u'.subject x.visit.time)) e.visit.time = _ :=
    refreshOwner_issued hxt
  rw [hid] at ho
  by_cases hlate : x.visit.time.seconds + s.refreshTtl.seconds < e.visit.time.seconds
  · rw [if_pos hlate] at ho
    rw [refresh_refused ho] at ha
    have hst : e.answer.status = 403 := by rw [ha]; rfl
    refine ⟨⟨?_, ?_⟩, fun _ => hst, ?_⟩
    · intro hn
      rw [hst] at hn
      cases hn
    · rintro ⟨_, hle⟩
      omega
    · intro v hn
      rw [hst] at hn
      cases hn
  rw [if_neg hlate] at ho
  rw [refresh_granted ho] at ha
  have hle : e.visit.time.seconds ≤ x.visit.time.seconds + s.refreshTtl.seconds := Int.not_lt.mp hlate
  cases hg : e.before.users.get? u.id with
  | none =>
    rw [hg] at ha
    have hst : e.answer.status = 403 := by rw [ha]; rfl
    simp [hst]
  | some v =>
    rw [hg] at ha
    have hst : e.answer.status = 200 := by rw [ha]; rfl
    refine ⟨⟨fun _ => ⟨⟨v, rfl⟩, hle⟩, fun _ => hst⟩, fun hn => absurd hst hn, ?_⟩
    rintro v' _ ⟨⟩
    refine ⟨s.keys.issue P .access v.subject e.visit.time, ?_, ?_⟩
    · rw [Exchange.Gives, ha]
      rfl
    · intro headers hh
      have hl : "Bearer".toList.map Char.toLower = "bearer".toList := by decide
      have hb : bearerToken? headers = some (s.keys.issue P .access v.subject e.visit.time) :=
        bearerToken?_issued hl hh
      have hn : e.visit.time.seconds ≤ e.visit.time.seconds + s.accessTtl.seconds := by omega
      rw [Caller.ofHeaders_issued hb het.issued het.expiry het.late hn, hek.own_of_get? hg]

end Histories

section Returning

variable (t t' : Instant) (cookies : Bytes)

def rootRefresh : String := Settings.usual.keys.issue .legible .refresh root.subject t

def rootCookie : String := Settings.usual.refreshCookie.store (rootRefresh t)

def rootComes : Visit := { rootSignsIn with time := t }

def rootCame : Exchange Store := (Setup.inMemory .legible .usual).exchange rootOnly (rootComes t)

def rootReturns : Visit where
  request := ⟨.post, "/auth/refresh", [("cookie", cookies)], [], none⟩
  draws := ⟨.ofNat 2, [], ⟨""⟩⟩
  time := t'

def rootReturned : Exchange Store :=
  (Setup.inMemory .legible .usual).exchange (rootCame t).after (rootReturns t' cookies)

theorem rootReturned_history :
    (Setup.inMemory .legible .usual).history rootOnly [rootComes t, rootReturns t' cookies] =
      [rootCame t] ++ rootReturned t t' cookies :: [] := rfl

theorem rootCame_signsIn (ht : t ∈ [1000, -1000000000000]) : (rootCame t).SignsIn root (rootCookie t) := by
  have hc : Http.Cookie.sendable (rootCookie t) = rootCookie t := sendable_session t
  simp only [List.mem_cons, List.not_mem_nil, or_false] at ht
  rcases ht with rfl | rfl
  all_goals
    refine ⟨.inr (by decide +kernel), by rfl, hc ▸ ?_⟩
    exact List.mem_cons_of_mem _ List.mem_cons_self

theorem rootCame_stored (ht : t ∈ [1000, -1000000000000]) : (rootCame t).after.users.get? root.id = some root := by
  simp only [List.mem_cons, List.not_mem_nil, or_false] at ht
  rcases ht with rfl | rfl
  all_goals rfl

theorem rootReturns_all : (rootReturns t' cookies).request.headers.all "cookie" = [cookies] := by
  simp [rootReturns, Http.Headers.all, Http.sameName]

/-- What is sent back of the cookie. -/
def rootCrumb : Http.Crumb := (Http.Cookie.refreshName.toList, (rootRefresh t).toList)

/-- Another cookie stands in front. -/
def darkTheme : List (List Char) := ["theme=dark".toList, ' ' :: (rootCrumb t).text]

theorem darkTheme_carry : Http.Carry [(Text.joined ';' (darkTheme t)).map Bytes.ascii]
    [("theme".toList, "dark".toList), rootCrumb t] := by
  have hp : ∀ c ∈ Text.joined ';' (darkTheme t), 32 ≤ c.toNat ∧ c.toNat < 127 := by
    have hd : Text.Plain "theme=dark; refreshToken=" := by decide
    have ht : Text.Plain (rootRefresh t) := Token.Keys.plain_issueAt _ _ _ _ _
    intro c hc
    have hc : c ∈ "theme=dark; refreshToken=".toList ++ (rootRefresh t).toList := by
      simpa [darkTheme, Text.joined, rootCrumb, Http.Crumb.text, Http.Cookie.refreshName] using hc
    exact (List.mem_append.mp hc).elim (hd c) (ht c)
  have hv : Http.valueText? ((Text.joined ';' (darkTheme t)).map Bytes.ascii) = some (Text.joined ';' (darkTheme t)) :=
    valueText?_ascii fun c hc => ascii_char (hp c hc).1 (hp c hc).2
  have hi : List.Forall₂ Http.Crumb.In [("theme".toList, "dark".toList), rootCrumb t] (darkTheme t) :=
    .cons ⟨[], [], by decide, by simp, by simp⟩
      (.cons ⟨[' '], [], by simp, List.forall_mem_singleton.mpr rfl, by simp⟩ .nil)
  have hc := Http.Carry.text hv hi .nil
  rwa [List.append_nil] at hc

theorem darkTheme_renews :
    (rootReturns t' ((Text.joined ';' (darkTheme t)).map Bytes.ascii)).Renews (rootCookie t) := by
  have hb : Http.Crumb.Bare ("theme".toList, "dark".toList) := ⟨by decide, by decide, by decide⟩
  have hs : ';' ∉ (rootRefresh t).toList := Token.Keys.semicolon_not_mem _ _ _ _ _
  have ht : Resource.ofTarget? "/auth/refresh" = some (.entrance .refresh) := by decide +kernel
  refine ⟨ht, rfl, [("theme".toList, "dark".toList)], [], (rootRefresh t).toList, takeWhile_session hs, ?_, ?_⟩
  · exact rootReturns_all t' _ ▸ darkTheme_carry t
  · simpa using ⟨hb, by decide⟩

/-- Root comes back after a second. -/
theorem root_renewed :
    ((Token.Keys.Fits Settings.usual.keys .refresh 1000 ∧ Token.Keys.Fits Settings.usual.keys .access 2000) ∧
      (rootReturns 2000 ((Text.joined ';' (darkTheme 1000)).map Bytes.ascii)).Renews (rootCookie 1000)) ∧
    (rootReturned 1000 2000 ((Text.joined ';' (darkTheme 1000)).map Bytes.ascii)).answer.status = 200 ∧
    ∃ t, (rootReturned 1000 2000 ((Text.joined ';' (darkTheme 1000)).map Bytes.ascii)).Gives t ∧
      ∀ headers : Http.Headers, headers.text? "authorization" = some ("Bearer ".toList ++ t.toList) →
        Caller.ofHeaders .legible Settings.usual.keys headers 2000 =
          .ok ⟨root.id, root.email.text, .superadmin⟩ := by
  have hk : rootOnly.users.Kept := Store.Kept.nil.put root
  have hxt : Token.Keys.Fits Settings.usual.keys .refresh 1000 := by decide
  have het : Token.Keys.Fits Settings.usual.keys .access 2000 := by decide
  have hr := darkTheme_renews 1000 2000
  obtain ⟨hi, _, hg⟩ := renewed_iff hk (rootReturned_history 1000 2000 _) List.mem_cons_self
    (rootCame_signsIn 1000 (by decide)) hr hxt het
  have hu := rootCame_stored 1000 (by decide)
  have hs := hi.mpr ⟨⟨root, hu⟩, by decide⟩
  exact ⟨⟨⟨hxt, het⟩, hr⟩, hs, hg root hs hu⟩

/-- Another cookie, which is not in ASCII, stands in front. -/
def coffeeTheme : Bytes :=
  Bytes.ofText "theme=café; " ++ ((rootCookie 1000).toList.takeWhile (· ≠ ';')).map Bytes.ascii

theorem coffeeTheme_refused : (rootReturned 1000 2000 coffeeTheme).answer.status = 401 := by
  have hv : Http.valueText? coffeeTheme = none := by
    have ht : (Bytes.ofText "theme=café; ").all Http.isTextByte = false := by decide +kernel
    rw [Http.valueText?, coffeeTheme, List.all_append, ht, Bool.false_and, if_neg Bool.false_ne_true]
  have hf : Http.Cookie.find? (rootReturns 2000 coffeeTheme).request.headers Http.Cookie.refreshName = none := by
    rw [Http.Cookie.find?, rootReturns_all, List.filterMap_cons_none hv]
    rfl
  have ht : Resource.ofTarget? "/auth/refresh" = some (.entrance .refresh) := by decide +kernel
  have ho : refreshOwner .legible .usual
      (Http.Cookie.find? (rootReturns 2000 coffeeTheme).request.headers Http.Cookie.refreshName) 2000 =
        .error .missingRefreshToken := by rw [hf, refreshOwner]
  have ha : (rootReturned 1000 2000 coffeeTheme).answer = Refusal.missingRefreshToken.response :=
    Setup.refused_refresh ht rfl ho
  rw [ha]
  rfl

/-- A token that expires before 1970 is good at no time. -/
theorem early_refused : (rootReturned (-1000000000000) (-999999999000)
    ((Text.joined ';' (darkTheme (-1000000000000))).map Bytes.ascii)).answer.status = 403 := by
  have hr := darkTheme_renews (-1000000000000) (-999999999000)
  have hf : Http.Cookie.find? _ _ = some (rootRefresh (-1000000000000)) := find?_session _ hr.cookie
  have ho : refreshOwner .legible .usual (some (rootRefresh (-1000000000000))) (-999999999000) =
      .error .invalidRefreshToken := by
    have hi : Token.IsSecond (Instant.seconds (-1000000000000)) := by decide
    have he : (Token.Keys.claims Settings.usual.keys .refresh root.subject
      (Instant.seconds (-1000000000000))).expiresAt < 0 := by decide
    rw [refreshOwner, rootRefresh, Token.Keys.issue, Token.Keys.verify_issueAt hi, if_pos he]
  have ha : (rootReturned (-1000000000000) (-999999999000)
      ((Text.joined ';' (darkTheme (-1000000000000))).map Bytes.ascii)).answer =
        Refusal.invalidRefreshToken.response := Setup.refused_refresh hr.target hr.method (hf ▸ ho)
  rw [ha]
  rfl

/-- A session is not renewed where another cookie is not in ASCII, or where the clock stands before 1970. -/
theorem renewal_fails :
    ((Setup.inMemory .legible .usual).history rootOnly [rootComes 1000, rootReturns 2000 coffeeTheme] =
        [rootCame 1000] ++ rootReturned 1000 2000 coffeeTheme :: [] ∧
      (rootCame 1000).SignsIn root (rootCookie 1000) ∧
      (rootReturned 1000 2000 coffeeTheme).before.users.get? root.id = some root ∧
      Instant.seconds 2000 ≤ Instant.seconds 1000 + Settings.usual.refreshTtl.seconds ∧
      (rootReturned 1000 2000 coffeeTheme).answer.status = 401) ∧
    ∃ cookies, (rootReturns (-999999999000) cookies).Renews (rootCookie (-1000000000000)) ∧
      (Setup.inMemory .legible .usual).history rootOnly
          [rootComes (-1000000000000), rootReturns (-999999999000) cookies] =
        [rootCame (-1000000000000)] ++ rootReturned (-1000000000000) (-999999999000) cookies :: [] ∧
      (rootCame (-1000000000000)).SignsIn root (rootCookie (-1000000000000)) ∧
      (rootReturned (-1000000000000) (-999999999000) cookies).before.users.get? root.id = some root ∧
      Instant.seconds (-999999999000) ≤ Instant.seconds (-1000000000000) + Settings.usual.refreshTtl.seconds ∧
      (rootReturned (-1000000000000) (-999999999000) cookies).answer.status = 403 :=
  ⟨⟨rfl, rootCame_signsIn _ (by decide), rootCame_stored _ (by decide), by decide, coffeeTheme_refused⟩,
    _, darkTheme_renews _ _, rfl, rootCame_signsIn _ (by decide), rootCame_stored _ (by decide), by decide,
    early_refused⟩

end Returning

end Account
end Storefront
