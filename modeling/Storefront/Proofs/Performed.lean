import Storefront.Proofs.LimitedRequests

namespace Storefront.Account

open Http (Request Response)

/-- What is told about a limit to somebody who asks at `now`. -/
def Throttle.told (limits : RateLimit.Store) (who : String) (now : Instant) :
    Option Throttle → List (String × String)
  | none => []
  | some t => (limits.check (t.key who) t.limit now).1.headers now

namespace Visit

/-- What the answer to a request says about the limit of the resource. -/
def limitHeaders (P : Primitives) (s : Settings) (limits : RateLimit.Store) (v : Visit) :
    List (String × String) :=
  match v.counted? P s with
  | some (res, p) => Throttle.told limits p.text v.time (res.throttle? s)
  | none => []

variable {P : Primitives} {s : Settings} {limits : RateLimit.Store} {v : Visit}

theorem limitHeaders_entrance {e : Entrance}
    (ht : Resource.ofTarget? v.request.target = some (.entrance e)) :
    v.limitHeaders P s limits =
      Throttle.told limits (Http.clientKey v.request.headers v.request.peer) v.time (e.throttle s) := by
  rw [clientKey_eq]
  unfold limitHeaders counted?
  cases e with
  | _ =>
    rw [ht]
    rfl

theorem limitHeaders_own {o : Own} {c : Caller} (ht : Resource.ofTarget? v.request.target = some (.own o))
    (hc : Caller.ofHeaders P s.keys v.request.headers v.time = .ok c) :
    v.limitHeaders P s limits = Throttle.told limits c.id.text v.time (o.throttle s) := by
  unfold limitHeaders counted?
  cases o with
  | changePassword =>
    rw [ht]
    simp only [hc]
    rfl
  | _ =>
    rw [ht]
    rfl

theorem limitHeaders_panel {p : Panel} (ht : Resource.ofTarget? v.request.target = some (.panel p)) :
    v.limitHeaders P s limits = [] := by
  simp [limitHeaders, counted?, ht]

end Visit

/-- An answer to a method that the resource has. -/
theorem finish_allowed {ms : List Http.Method} {m : Http.Method} (h : Http.hasMethod ms m = true) (a : Response) :
    Http.finish ms m a = ⟨a.status, a.headers, if m = .head then .empty else a.body⟩ := by
  simp only [Http.finish, h, if_true]
  split
  · rfl
  · rfl

theorem finish_status (ms : List Http.Method) (m : Http.Method) (a : Response) :
    (Http.finish ms m a).status = a.status := by
  unfold Http.finish
  dsimp only
  split
  · split <;> rfl
  · split <;> rfl

namespace Setup

variable {σ : Type} {w : Setup σ} {v : Visit} {c : Command} {st : State σ}

/-- The answer to a command with what is told about a limit. -/
def toldAnswer (w : Setup σ) (users : σ) (v : Visit) (c : Command) (headers : List (String × String)) :
    Response :=
  let a := answerOf w.settings (w.result v.draws v.time users c).1
  { a with headers := a.headers ++ headers }

/-- The request has given the command `c` to the service, which has carried it out. -/
structure Performed (w : Setup σ) (st : State σ) (v : Visit) (res : Resource) (c : Command)
    (x : Response × State σ) : Prop where
  target : Resource.ofTarget? v.request.target = some res
  method : Http.hasMethod res.methods v.request.method = true
  admits : w.Admits v.time v.request c
  users : x.2.users = (w.result v.draws v.time st.users c).2
  answer : x.1 = Http.finish res.methods v.request.method
    (w.toldAnswer st.users v c (v.limitHeaders w.primitives w.settings st.limits))

section Gates

variable {r : Request} {now : Instant}

theorem ifMethod_eq (res : Resource) (r : Request) (inner : Step σ) :
    (Http.hasMethod res.methods r.method = true ∧ ifMethod res r inner = inner) ∨
      ∃ a, ifMethod res r inner = unmoved a := by
  unfold ifMethod
  split
  · rename_i hm
    exact .inl ⟨hm, rfl⟩
  · exact .inr ⟨_, rfl⟩

theorem withCaller_eq (w : Setup σ) (r : Request) (now : Instant) (inner : Caller → Step σ) :
    (∃ c, Caller.ofHeaders w.primitives w.settings.keys r.headers now = .ok c ∧
        w.withCaller r now inner = inner c) ∨
      ∃ a, w.withCaller r now inner = unmoved a := by
  unfold withCaller
  split
  · rename_i c hc
    exact .inl ⟨c, hc, rfl⟩
  · exact .inr ⟨_, rfl⟩

theorem withRole_eq (role : Role) (inner : Step σ) (c : Caller) :
    (c.role = role ∧ withRole [role] inner c = inner) ∨ ∃ a, withRole [role] inner c = unmoved a := by
  unfold withRole requireRole
  by_cases hr : c.role = role
  · exact .inl ⟨hr, by simp [hr]⟩
  · have hs : [role].contains c.role = false := by simpa using hr
    simp only [hs]
    exact .inr ⟨_, rfl⟩

theorem throttled_unmoved (t : Option Throttle) (who : String) (now : Instant) (a : Response)
    (st : State σ) : (throttled t who now (unmoved a) st).2.users = st.users := by
  cases t with
  | none => rfl
  | some t =>
    simp only [throttled]
    split
    · rfl
    · rfl

end Gates

/-- What a request asks for is done if it is within the limit. -/
theorem throttled_perform (t : Option Throttle) (who : String) (x : Except Response Command) (st : State σ) :
    (throttled t who v.time (w.perform v.draws v.time x) st).2.users = st.users ∨
      ∃ c, x = .ok c ∧
        (throttled t who v.time (w.perform v.draws v.time x) st).2.users =
          (w.result v.draws v.time st.users c).2 ∧
        (throttled t who v.time (w.perform v.draws v.time x) st).1 =
          w.toldAnswer st.users v c (Throttle.told st.limits who v.time t) := by
  cases x with
  | error a => exact .inl (throttled_unmoved t who v.time a st)
  | ok c =>
    cases t with
    | none => exact .inr ⟨c, rfl, rfl, by simp [throttled, perform, toldAnswer, Throttle.told, result]⟩
    | some t =>
      cases ha : (st.limits.check (t.key who) t.limit v.time).1.allowed with
      | false => exact .inl (by simp [throttled, ha])
      | true =>
        refine .inr ⟨c, rfl, ?_, ?_⟩
        · simp [throttled, ha, perform, result]
        · simp [throttled, ha, perform, result, toldAnswer, Throttle.told]

/-- A request leaves the users alone, or gives a command that is carried out. -/
theorem respond_performed (w : Setup σ) (v : Visit) (st : State σ) :
    (w.respond v.draws v.time v.request st).2.users = st.users ∨
      ∃ res c, w.Performed st v res c (w.respond v.draws v.time v.request st) := by
  unfold respond
  split
  · exact .inl rfl
  · rename_i res ht
    rcases res with e | o | p
    · dsimp only [route]
      rcases ifMethod_eq (.entrance e) v.request (w.perform v.draws v.time (e.command v.request))
        with ⟨hm, hi⟩ | ⟨a, hi⟩
      · rw [hi]
        rcases throttled_perform (e.throttle w.settings)
          (Http.clientKey v.request.headers v.request.peer) (e.command v.request) st with hu | ⟨c, hc, hu, ha⟩
        · exact .inl hu
        · refine .inr ⟨_, c, ht, hm, .entrance ht hc, hu, ?_⟩
          rw [ha, Visit.limitHeaders_entrance ht]
      · rw [hi]
        exact .inl (throttled_unmoved _ _ _ _ st)
    · dsimp only [route]
      rcases w.withCaller_eq v.request v.time _ with ⟨caller, hw, hi⟩ | ⟨a, hi⟩
      · rw [hi]
        rcases ifMethod_eq (.own o) v.request _ with ⟨hm, hi⟩ | ⟨a, hi⟩
        · rw [hi]
          rcases throttled_perform (o.throttle w.settings) caller.id.text
            (o.command v.request caller.id) st with hu | ⟨c, hc, hu, ha⟩
          · exact .inl hu
          · refine .inr ⟨_, c, ht, hm, .own ht hw hc, hu, ?_⟩
            rw [ha, Visit.limitHeaders_own ht hw]
        · rw [hi]
          exact .inl rfl
      · rw [hi]
        exact .inl rfl
    · dsimp only [route]
      rcases w.withCaller_eq v.request v.time _ with ⟨caller, hw, hi⟩ | ⟨a, hi⟩
      · rw [hi]
        rcases withRole_eq .superadmin _ caller with ⟨hr, hi⟩ | ⟨a, hi⟩
        · rw [hi]
          rcases ifMethod_eq (.panel p) v.request _ with ⟨hm, hi⟩ | ⟨a, hi⟩
          · rw [hi]
            rcases throttled_perform none "" (p.command v.request) st with hu | ⟨c, hc, hu, ha⟩
            · exact .inl hu
            · refine .inr ⟨_, c, ht, hm, .panel ht hw hr hc, hu, ?_⟩
              rw [Visit.limitHeaders_panel ht]
              exact congrArg (Http.finish _ _) ha
          · rw [hi]
            exact .inl rfl
        · rw [hi]
          exact .inl rfl
      · rw [hi]
        exact .inl rfl

end Setup
end Storefront.Account
