import Storefront.Proofs.Performed
import Storefront.Proofs.Privilege

namespace Storefront.Account

open Http (Response)

/-- Lets some calls fail.  They are counted from zero, and a call that fails has no effect. -/
def Backend.faulty {σ : Type} (faults : Nat → Option String) (answer : Backend σ) : Backend (σ × Nat) :=
  fun now (s, n) c =>
    match faults n with
    | some text => (.error (.database text), s, n + 1)
    | none =>
      let (a, s) := answer now s c
      (a, s, n + 1)

/-- Whenever a call of the database fails the plan is at its end, and fails in the same way. -/
def Plan.PassesOn {α : Type} : Plan α → Prop
  | .done _ => True
  | .ask _ next =>
    (∀ now text, next now (.error (.database text)) = .done (.error (.database text))) ∧
      ∀ now a, (next now a).PassesOn

namespace Plan

variable {α β σ : Type} {p : Plan α} {f : α → Plan β}

theorem passesOn_done (r : Except Refusal α) : (done r).PassesOn := trivial

theorem passesOn_ofExcept (r : Except Refusal α) : (ofExcept r).PassesOn := trivial

theorem passesOn_orRefuse (a : Option α) (r : Refusal) : (orRefuse a r).PassesOn := by
  cases a with
  | none => trivial
  | some x => trivial

theorem passesOn_call (c : Call) : (call c).PassesOn :=
  ⟨fun _ _ => rfl, fun _ _ => trivial⟩

theorem passesOn_callUnlessTaken (taken : Refusal) (c : Call) : (callUnlessTaken taken c).PassesOn :=
  ⟨fun _ _ => rfl, fun _ _ => trivial⟩

theorem PassesOn.bind (hp : p.PassesOn) (hf : ∀ a, (f a).PassesOn) : (p >>= f).PassesOn := by
  induction p with
  | done r =>
    cases r with
    | ok a => exact hf a
    | error e => trivial
  | ask c next ih =>
    refine ⟨?_, fun now a => ih now a (hp.2 now a)⟩
    intro now text
    change (next now (.error (.database text))).bind f = _
    rw [hp.1]
    rfl

/-- The call that fails is the last one. -/
theorem PassesOn.run_faulty (hp : p.PassesOn) {faults : Nat → Option String} (answer : Backend σ)
    (now : Instant) (s : σ) {n i : Nat} {text : String} (hn : n ≤ i)
    (hi : i < (p.run (answer.faulty faults) now (s, n)).2.2) (ht : faults i = some text) :
    (p.run (answer.faulty faults) now (s, n)).2.2 = i + 1 ∧
      (p.run (answer.faulty faults) now (s, n)).1 = .error (.database text) := by
  induction p generalizing s n with
  | done r => exact absurd hi (Nat.not_lt.mpr hn)
  | ask c next ih =>
    cases hf : faults n with
    | some text' =>
      have hr : (ask c next).run (answer.faulty faults) now (s, n) =
          (.error (.database text'), s, n + 1) := by
        simp only [run, Backend.faulty, hf, hp.1]
      rw [hr] at hi ⊢
      obtain rfl : n = i := by
        dsimp only at hi
        omega
      rw [Option.some.inj (ht.symm.trans hf)]
      exact ⟨rfl, rfl⟩
    | none =>
      have hne : n ≠ i := by
        rintro rfl
        rw [hf] at ht
        cases ht
      simp only [run, Backend.faulty, hf] at hi ⊢
      exact ih now _ (hp.2 now _) _ (by omega) hi

end Plan

section Commands

open Plan

variable {P : Primitives} {s : Settings} {d : Draws}

theorem register_passesOn (r : Registration) : (register P s d r).PassesOn := by
  refine (passesOn_ofExcept _).bind fun o => (passesOn_call _).bind ?_
  intro ⟨now, taken⟩
  cases taken with
  | true => exact passesOn_done _
  | false => exact (passesOn_call _).bind fun _ => passesOn_done _

theorem login_passesOn (c : Credentials) : (login P s c).PassesOn := by
  refine (passesOn_ofExcept _).bind fun ⟨e, p⟩ => (passesOn_call _).bind ?_
  intro ⟨now, found⟩
  refine (passesOn_orRefuse _ _).bind fun u => ?_
  split
  · exact passesOn_done _
  · exact passesOn_done _

theorem refresh_passesOn (now : Instant) (token : Option String) :
    (refresh P s now token).PassesOn := by
  refine (passesOn_ofExcept _).bind fun id => (passesOn_call _).bind ?_
  intro ⟨now, found⟩
  exact (passesOn_orRefuse _ _).bind fun u => passesOn_done _

theorem forgotPassword_passesOn (email : Option String) : (forgotPassword P s d email).PassesOn := by
  refine (passesOn_orRefuse _ _).bind fun text => ?_
  split
  · exact passesOn_done _
  · refine (passesOn_call _).bind ?_
    intro ⟨now, found⟩
    cases found with
    | none => exact passesOn_done _
    | some u =>
      refine (passesOn_orRefuse _ _).bind fun v => ?_
      exact (passesOn_call _).bind fun _ => passesOn_done _

/-- A record is stored, and the plan ends. -/
theorem store_passesOn {p : Plan (Instant × Bool)} (hp : p.PassesOn) (o : Outcome) (r : Refusal) :
    (do let (_, stored) ← p; if stored then pure o else refuse r : Plan Outcome).PassesOn := by
  refine hp.bind ?_
  intro ⟨now, stored⟩
  cases stored with
  | true => exact passesOn_done _
  | false => exact passesOn_done _

theorem resetPassword_passesOn (r : Reset) : (resetPassword P s d r).PassesOn := by
  refine (passesOn_ofExcept _).bind fun ⟨token, p⟩ => (passesOn_call _).bind ?_
  intro ⟨now, found⟩
  refine (passesOn_orRefuse _ _).bind fun u => ?_
  split
  · exact store_passesOn (passesOn_call _) _ _
  · exact passesOn_done _

theorem profile_passesOn (who : UserId) : (profile who).PassesOn := by
  refine (passesOn_call _).bind ?_
  intro ⟨now, found⟩
  exact (passesOn_orRefuse _ _).bind fun u => passesOn_done _

theorem requireFree_passesOn (u : User) (email : Option Email) (taken : Refusal) (now : Instant) :
    (requireFree u email taken now).PassesOn := by
  unfold requireFree
  split
  · exact passesOn_done _
  · split
    · exact passesOn_done _
    · refine (passesOn_call _).bind ?_
      intro ⟨now, inUse⟩
      cases inUse with
      | true => exact passesOn_done _
      | false => exact passesOn_done _

theorem updateProfile_passesOn (who : UserId) (c : ProfileChange) :
    (updateProfile P who c).PassesOn := by
  refine (passesOn_ofExcept _).bind fun ⟨name, email⟩ => (passesOn_call _).bind ?_
  intro ⟨now, found⟩
  refine (passesOn_orRefuse _ _).bind fun u => (requireFree_passesOn _ _ _ _).bind fun now => ?_
  exact store_passesOn (passesOn_callUnlessTaken _ _) _ _

theorem changePassword_passesOn (who : UserId) (c : PasswordChange) :
    (changePassword P s d who c).PassesOn := by
  refine (passesOn_ofExcept _).bind fun ⟨old, p⟩ => (passesOn_call _).bind ?_
  intro ⟨now, found⟩
  refine (passesOn_orRefuse _ _).bind fun u => ?_
  split
  · exact store_passesOn (passesOn_call _) _ _
  · exact passesOn_done _

theorem createAdmin_passesOn (a : Appointment) : (createAdmin P s d a).PassesOn := by
  refine (passesOn_ofExcept _).bind fun ⟨o, role⟩ => (passesOn_call _).bind ?_
  intro ⟨now, taken⟩
  cases taken with
  | true => exact passesOn_done _
  | false => exact (passesOn_callUnlessTaken _ _).bind fun _ => passesOn_done _

theorem updateUser_passesOn (id : UserId) (c : UserChange) : (updateUser P id c).PassesOn := by
  refine (passesOn_ofExcept _).bind fun ⟨name, email, role⟩ => (passesOn_call _).bind ?_
  intro ⟨now, found⟩
  refine (passesOn_orRefuse _ _).bind fun u => (requireFree_passesOn _ _ _ _).bind fun now => ?_
  exact store_passesOn (passesOn_callUnlessTaken _ _) _ _

theorem Command.passesOn (c : Command) (now : Instant) : (c.plan P s d now).PassesOn := by
  cases c with
  | register r => exact register_passesOn r
  | login c => exact login_passesOn c
  | refresh token => exact refresh_passesOn now token
  | logout => exact passesOn_done _
  | forgotPassword email => exact forgotPassword_passesOn email
  | resetPassword r => exact resetPassword_passesOn r
  | profile who => exact profile_passesOn who
  | updateProfile who c => exact updateProfile_passesOn who c
  | changePassword who c => exact changePassword_passesOn who c
  | deleteAccount who => exact store_passesOn (passesOn_call _) _ _
  | createAdmin a => exact createAdmin_passesOn a
  | listUsers => exact (passesOn_call _).bind fun _ => passesOn_done _
  | deleteUser id => exact store_passesOn (passesOn_call _) _ _
  | updateUser id c => exact updateUser_passesOn id c

end Commands

section Requests

variable {P : Primitives} {s : Settings} {faults : Nat → Option String} {users : Store} {k : Progress}

/-- Until a request has changed the users by a call, they are as they were. -/
def Untouched (users : Store) (k : Progress) (x : Store × Nat) : Prop :=
  x.1 = users ∨ ∃ c, k.wrote = some (c, true)

theorem Untouched.step {x : Store × Nat} (h : Untouched users k x) {a : Arrival} {c : Call}
    (ha : a.Asks P s k c) (now : Instant) :
    Untouched users (k.learn now c (Backend.faulty faults Store.answer now x c).1)
      (Backend.faulty faults Store.answer now x c).2 := by
  obtain ⟨store, n⟩ := x
  obtain rfl : store = users := by
    rcases h with h | ⟨c', h⟩
    · exact h
    · cases ha.wrote_none.symm.trans h
  simp only [Backend.faulty]
  cases faults n with
  | some text => exact .inl rfl
  | none =>
    rcases store.answer_cases now c k with ⟨_, hl⟩ | ⟨hu, _⟩
    · exact .inr ⟨c, by rw [hl]⟩
    · exact .inl hu

/-- A command that is refused has left the users as they were, whichever calls fail. -/
theorem Command.refused_untouched (c : Command) (d : Draws) (now : Instant) (n : Nat) {e : Refusal}
    (h : ((c.plan P s d now).run (Backend.faulty faults Store.answer) now (users, n)).1 = .error e) :
    ((c.plan P s d now).run (Backend.faulty faults Store.answer) now (users, n)).2.1 = users := by
  have hc := Arrival.plan_conducts (P := P) (s := s) ⟨c, d, now⟩
  have hi : Untouched users (.start now) (users, n) := .inl rfl
  obtain ⟨k, he, hu⟩ := hc.run hi fun k x c ha hx => hx.step ha now
  change Arrival.Ends P s ⟨c, d, now⟩ k ((c.plan P s d now).run _ now (users, n)).1 at he
  rw [h] at he
  rcases hu with hu | ⟨c', hw⟩
  · exact hu
  · exact absurd hw (he c')

theorem Outcome.status_lt (o : Outcome) : (o.response s).status < 400 := by
  cases o with
  | _ => simp [Outcome.response, session, told, toldWithUser, droppingSession, Response.json, Response.withHeader]

/-- The service with its users in memory, where some calls fail. -/
def Setup.failing (P : Primitives) (s : Settings) (faults : Nat → Option String) : Setup (Store × Nat) :=
  ⟨P, s, Backend.faulty faults Store.answer⟩

/-- What is told whenever something goes wrong inside the service. -/
def serverError : Response := (Problem.internal "Server error").response

/-- Whatever calls fail, a request that is answered with an error has left the users as they were; and a call that
fails is the last one of the request, and is answered in the same way whatever went wrong. -/
theorem failures_masked (faults : Nat → Option String) (users : Store) (limits : RateLimit.Store)
    (v : Visit) :
    let x := (Setup.failing P s faults).respond v.draws v.time v.request ⟨(users, 0), limits⟩
    (400 ≤ x.1.status → x.2.users.1 = users) ∧
    ∀ i text, i < x.2.users.2 → faults i = some text →
      x.2.users.2 = i + 1 ∧
      x.1 = ⟨500, ("content-type", "application/json") :: v.limitHeaders P s limits,
        if v.request.method = .head then .empty else .json (Problem.internal "Server error").body⟩ := by
  intro x
  rcases (Setup.failing P s faults).respond_performed v ⟨(users, 0), limits⟩ with hu | ⟨res, c, hx⟩
  · have hu : x.2.users = (users, 0) := hu
    rw [hu]
    exact ⟨fun _ => rfl, fun i text hi => absurd hi (Nat.not_lt_zero i)⟩
  · have hu : x.2.users = ((Setup.failing P s faults).result v.draws v.time (users, 0) c).2 := hx.users
    have ha : x.1 = _ := hx.answer.trans (finish_allowed hx.method _)
    rw [ha, hu]
    constructor
    · intro hs
      cases hr : ((Setup.failing P s faults).result v.draws v.time (users, 0) c).1 with
      | error e => exact Command.refused_untouched c v.draws v.time 0 hr
      | ok o =>
        simp only [Setup.toldAnswer, hr, answerOf] at hs
        exact absurd hs (Nat.not_le.mpr o.status_lt)
    · intro i text hi ht
      have hp : (c.plan P s v.draws v.time).PassesOn := c.passesOn v.time
      obtain ⟨hn, hr⟩ := hp.run_faulty Store.answer v.time users (Nat.zero_le i) hi ht
      have hr : ((Setup.failing P s faults).result v.draws v.time (users, 0) c).1 = .error (.database text) := hr
      refine ⟨hn, ?_⟩
      simp only [Setup.toldAnswer, hr]
      rfl

end Requests

/-- Root asks for the own profile. -/
def rootAsks (m : Http.Method) : Visit where
  request := ⟨m, "/user/profile", rootLooks.request.headers, [], none⟩
  draws := ⟨.ofNat 3, [], ⟨""⟩⟩
  time := 2000

/-- The first call fails. -/
def firstFails : Nat → Option String
  | 0 => some "connection reset"
  | _ => none

/-- The answer, and the users with the number of calls. -/
def rootFails (m : Http.Method) : Response × State (Store × Nat) :=
  (Setup.failing .legible .usual firstFails).respond (rootAsks m).draws (rootAsks m).time
    (rootAsks m).request ⟨(rootOnly.users, 0), []⟩

theorem rootAsks_target (m : Http.Method) :
    Resource.ofTarget? (rootAsks m).request.target = some (.own .profile) := by
  change Resource.ofTarget? "/user/profile" = some (.own .profile)
  decide +kernel

theorem rootFails_eq {m : Http.Method} (hm : Http.hasMethod [.get] m = true) :
    rootFails m = (Http.finish [.get] m serverError, ⟨(rootOnly.users, 1), []⟩) := by
  have hc : Caller.ofHeaders .legible Settings.usual.keys (rootAsks m).request.headers 2000 =
      .ok ⟨root.id, root.email.text, root.role⟩ :=
    Caller.ofHeaders_issued rootLooks_bears (by decide) (by decide) (by decide) (by decide)
  have hr := Setup.respond_own (w := .failing .legible .usual firstFails)
    (d := (rootAsks m).draws) (c := .profile root.id) ⟨(rootOnly.users, 0), []⟩ (rootAsks_target m) hc hm
    rfl rfl
  rw [rootFails]
  exact hr

/-- Where only the head of an answer is asked for, a failure is told without the body. -/
theorem masked_body_fails : firstFails 0 = some "connection reset" ∧ 0 < (rootFails .head).2.users.2 ∧
    (rootFails .head).1.body = .empty ∧
    (rootFails .head).1.body ≠ .json (Problem.internal "Server error").body := by
  rw [rootFails_eq rfl]
  refine ⟨rfl, Nat.one_pos, rfl, ?_⟩
  intro h
  cases h

/-- Root is told nothing but that there was a failure. -/
theorem rootFails_masked : (rootFails .get).2.users.2 = 1 ∧
    (rootFails .get).1 = ⟨500, [("content-type", "application/json")],
      .json (Problem.internal "Server error").body⟩ := by
  have hn : 0 < (rootFails .get).2.users.2 := by
    rw [rootFails_eq rfl]
    exact Nat.one_pos
  have hl : (rootAsks .get).limitHeaders .legible .usual [] = [] := by
    simp [Visit.limitHeaders, Visit.counted?, rootAsks_target]
  obtain ⟨_, hm⟩ := failures_masked (P := .legible) (s := .usual) firstFails
    rootOnly.users [] (rootAsks .get)
  have hh : (rootAsks .get).request.method ≠ .head := by simp [rootAsks]
  rw [hl, if_neg hh] at hm
  unfold rootFails at hn ⊢
  exact hm 0 _ hn rfl

end Storefront.Account
