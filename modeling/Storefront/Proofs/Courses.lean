import Storefront.Proofs.History
import Storefront.Proofs.PasswordPolicy
import Storefront.Proofs.SoundUsers

namespace Storefront

namespace Account

open Password (Clear)

/-- A request that was carried out, and the users around it. -/
structure Transaction where
  arrival : Arrival
  before : Store
  result : Except Refusal Outcome
  after : Store

/-- Carries a request out at the instant at which it comes in. -/
def Arrival.transact (P : Primitives) (s : Settings) (users : Store) (a : Arrival) : Transaction :=
  let x := (a.plan P s).run Store.answer a.since users
  ⟨a, users, x.1, x.2⟩

namespace Store

variable {P : Primitives} {s : Settings}

/-- Requests that come in one after the other, the earliest first. -/
def transactions (P : Primitives) (s : Settings) (users : Store) : List Arrival → List Transaction
  | [] => []
  | a :: as => a.transact P s users :: transactions P s (a.transact P s users).after as

/-- The users that they leave. -/
def after (P : Primitives) (s : Settings) (users : Store) (as : List Arrival) : Store :=
  as.foldl (fun users a => (a.transact P s users).after) users

theorem after_concat (users : Store) (as : List Arrival) (a : Arrival) :
    users.after P s (as ++ [a]) = (a.transact P s (users.after P s as)).after := by
  simp [after]

theorem transactions_concat (users : Store) (as : List Arrival) (a : Arrival) :
    users.transactions P s (as ++ [a]) =
      users.transactions P s as ++ [a.transact P s (users.after P s as)] := by
  induction as generalizing users with
  | nil => rfl
  | cons b as ih =>
    simp only [List.cons_append, transactions, ih]
    rfl

/-- What is true at first, and is kept by every request, is true of all that has happened. -/
theorem course {inv : List Transaction → Store → Prop} {users : Store} (start : inv [] users)
    (step : ∀ past users a, inv past users →
      inv (past ++ [Arrival.transact P s users a]) (a.transact P s users).after)
    (as : List Arrival) : inv (users.transactions P s as) (users.after P s as) := by
  induction as using List.reverseRecOn with
  | nil => exact start
  | append_singleton as a ih =>
    rw [transactions_concat, after_concat]
    exact step _ _ a ih

end Store

namespace Arrival

variable {P : Primitives} {s : Settings} {a : Arrival} {users users' : Store} {k : Progress}

theorem Asks.looks_of_finds {c : Call} {r : Option User} (h : a.Asks P s k c)
    (hf : users.Finds c r) : a.Looks P s c := by
  cases h with
  | looks h => exact h
  | «exists» => cases hf
  | list => cases hf
  | writes h => cases h <;> cases hf

/-- Where a request is that has found the user it looks for, if anybody, and has done nothing but at the
instant at which it came in. -/
structure Searched (P : Primitives) (s : Settings) (a : Arrival) (users : Store) (k : Progress)
    (users' : Store) : Prop extends a.Within P s a.since users k users' where
  looked : ∀ r, k.found = some r → ∃ c, a.Looks P s c ∧ users.Finds c r

theorem Searched.start (users : Store) : a.Searched P s users (.start a.since) users :=
  ⟨.start users a.since, by rintro _ ⟨⟩⟩

theorem Searched.step (hk : users.Kept) (h : a.Searched P s users k users') {c : Call}
    (ha : a.Asks P s k c) :
    a.Searched P s users (k.learn a.since c (users'.answer a.since c).1)
      (users'.answer a.since c).2 := by
  refine ⟨h.toWithin.step hk ha, ?_⟩
  obtain rfl : users' = users := h.unmoved (by simp [ha.wrote_none])
  intro r hr
  rcases users'.answer_cases a.since c k with ⟨_, hl⟩ | ⟨_, hf | ⟨u, hu, hf⟩, _⟩
  · rw [hl] at hr
    exact h.looked r hr
  · exact h.looked r (hf ▸ hr)
  · obtain rfl : u = r := Option.some.inj (hf.symm.trans hr)
    exact ⟨c, ha.looks_of_finds hu, hu⟩

theorem run_searched (hk : users.Kept) (a : Arrival) :
    ∃ k, a.Ends P s k (a.transact P s users).result ∧
      a.Searched P s users k (a.transact P s users).after :=
  (a.plan_conducts (P := P) (s := s)).run (.start users) fun _ _ _ ha h => h.step hk ha

end Arrival

/-- What a request that succeeds can do for a user.  Passwords are given as they are taken. -/
inductive Deed where
  | opens (password : String)
  | issues (token : ResetToken)
  | renews (password : String)
  deriving DecidableEq

structure Dealing where
  who : UserId
  deed : Deed
  time : Instant
  deriving DecidableEq

/-- What was done for whom, if anything.  A token is issued to the user with the address that was given, and
exchanged by the one who waits for it. -/
def Transaction.dealing? (P : Primitives) (e : Transaction) : Option Dealing :=
  match e.arrival.command, e.result with
  | .register r, .ok (.registered u _) => do
    some ⟨u.id, .opens (← r.password), e.arrival.since⟩
  | .createAdmin a, .ok (.adminCreated u) => do
    some ⟨u.id, .opens (← a.password), e.arrival.since⟩
  | .forgotPassword email, .ok (.resetLink (some _)) => do
    let u ← e.before.findByEmail (← (Email.parse P (← nonBlank email)).toOption)
    some ⟨u.id, .issues e.arrival.draws.token, e.arrival.since⟩
  | .resetPassword r, .ok .passwordReset => do
    let u ← e.before.findByResetHash (ResetToken.hash P ⟨← nonBlank r.token⟩)
    some ⟨u.id, .renews (← nonBlank r.password), e.arrival.since⟩
  | .changePassword who c, .ok .passwordChanged => do
    some ⟨who, .renews (← nonBlank c.password), e.arrival.since⟩
  | _, _ => none

/-- What has been done for one user, the earliest first. -/
def dealings (P : Primitives) (id : UserId) (past : List Transaction) : List Dealing :=
  (past.filterMap (·.dealing? P)).filter (·.who = id)

theorem dealings_concat (P : Primitives) (id : UserId) (past : List Transaction) (e : Transaction) :
    dealings P id (past ++ [e]) =
      dealings P id past ++ ((e.dealing? P).filter (·.who = id)).toList := by
  cases h : e.dealing? P with
  | none => simp [dealings, h]
  | some x => by_cases hx : x.who = id <;> simp [dealings, h, Option.filter, hx]

/-- Two records say the same about the password and the reset that is pending. -/
structure User.SameSecrets (u v : User) : Prop where
  password : v.password = u.password
  resetHash : v.resetHash = u.resetHash
  resetExpires : v.resetExpires = u.resetExpires
  lastPasswordChange : v.lastPasswordChange = u.lastPasswordChange
  passwordChangeCount : v.passwordChangeCount = u.passwordChangeCount

namespace User.SameSecrets

theorem refl (u : User) : u.SameSecrets u := ⟨rfl, rfl, rfl, rfl, rfl⟩

theorem updateProfile (u : User) (name : Option DisplayName) (email : Option Email) (now : Instant) :
    u.SameSecrets (u.updateProfile name email now) := ⟨rfl, rfl, rfl, rfl, rfl⟩

theorem administer (u : User) (name : Option DisplayName) (email : Option Email) (role : Option Role)
    (now : Instant) : u.SameSecrets (u.administer name email role now) := by
  cases role <;> exact ⟨rfl, rfl, rfl, rfl, rfl⟩

end User.SameSecrets

/-- How a record is stored at `now` after what was done for the user, if anything was. -/
inductive Recorded (P : Primitives) (s : Settings) (now : Instant) (before : Option User) :
    Option Dealing → User → Prop where
  | opened {id name email w salt role} :
    Recorded P s now before (some ⟨id, .opens w, now⟩)
      (.new id name email ((Clear.forVerification P w).hash P s.pepper salt) role now)
  | issued {id u t} (h : before = some u) :
    Recorded P s now before (some ⟨id, .issues t, now⟩) (u.issueReset P t s.resetTtlMs now)
  | renewed {id u w salt} (h : before = some u) :
    Recorded P s now before (some ⟨id, .renews w, now⟩)
      (u.changePassword ((Clear.forVerification P w).hash P s.pepper salt) now)
  | kept {u v} (h : before = some u) (hs : u.SameSecrets v) : Recorded P s now before none v

section Checks

variable {P : Primitives} {w : String} {p : Clear} {o : Opening}

theorem passwordOf_eq (h : passwordOf P w = .ok p) : p = .forVerification P w :=
  (Clear.new?_eq_ok.mp (mapError_eq_ok.mp h)).2

theorem unlessBlank_eq_some {x : Option String} (h : unlessBlank x = some w) : x = some w :=
  (Option.filter_eq_some_iff.mp h).1

/-- The password of an account that is going to be opened is the one that was sent. -/
theorem Opening.ReadFrom.password_sent {name email password : Option String}
    (h : o.ReadFrom P name email password) :
    ∃ w, password = some w ∧ o.password = .forVerification P w := by
  obtain ⟨w, hw, hp⟩ := h.password
  exact ⟨w, unlessBlank_eq_some hw, passwordOf_eq hp⟩

/-- What is accepted in exchange for a new password: the blanks around each value do not count. -/
structure Reset.Acceptable (P : Primitives) (r : Reset) (token : ResetToken) (w : String) : Prop where
  token : nonBlank r.token = some token.text
  password : nonBlank r.password = some w
  confirm : ∀ c ∈ nonBlank r.confirm, c = w
  policy : Password.violation? P (P.normal w.toList) = none

theorem Reset.check_eq_ok {r : Reset} {token : ResetToken} :
    r.check P = .ok (token, p) ↔ ∃ w, r.Acceptable P token w ∧ p = .forVerification P w := by
  constructor
  · intro h
    simp only [Reset.check] at h
    split at h
    · rename_i t w ht hw
      split at h
      · rename_i hc
        split at h
        · rename_i p' hp
          cases h
          obtain ⟨hv, rfl⟩ := Clear.new?_eq_ok.mp hp
          refine ⟨w, ⟨ht, hw, ?_, hv⟩, rfl⟩
          intro c hm
          simpa [Option.mem_def.mp hm] using hc
        · cases h
      · cases h
    · cases h
  · rintro ⟨w, h, rfl⟩
    have hc : (nonBlank r.confirm).all (· == w) = true := by
      rw [Option.all_eq_true]
      intro c hm
      exact beq_iff_eq.mpr (h.confirm c hm)
    have hp : Clear.new? P w = .ok (.forVerification P w) := Clear.new?_eq_ok.mpr ⟨h.policy, rfl⟩
    simp [Reset.check, h.token, h.password, hc, hp]

/-- A new password that is accepted for the old one: it is confirmed, and the blanks around it do not count. -/
structure PasswordChange.Acceptable (P : Primitives) (c : PasswordChange) (w : String) : Prop where
  password : nonBlank c.password = some w
  confirm : nonBlank c.confirm = some w
  policy : Password.violation? P (P.normal w.toList) = none

theorem PasswordChange.check_eq_ok {c : PasswordChange} {old : Clear} :
    c.check P = .ok (old, p) ↔ ∃ o w, nonBlank c.old = some o ∧ c.Acceptable P w ∧
      old = .forVerification P o ∧ p = .forVerification P w := by
  constructor
  · intro h
    simp only [PasswordChange.check] at h
    split at h
    · rename_i o w w' ho hw hw'
      split at h
      · rename_i he
        obtain rfl := beq_iff_eq.mp he
        split at h
        · rename_i hp
          cases h
          obtain ⟨hv, rfl⟩ := Clear.new?_eq_ok.mp hp
          exact ⟨o, w, ho, ⟨hw, hw', hv⟩, rfl, rfl⟩
        · cases h
      · cases h
    · cases h
  · rintro ⟨o, w, ho, h, rfl, rfl⟩
    have hp : Clear.new? P w = .ok (.forVerification P w) := Clear.new?_eq_ok.mpr ⟨h.policy, rfl⟩
    simp [PasswordChange.check, ho, h.password, h.confirm, hp]

end Checks

namespace Recorded

variable {P : Primitives} {s : Settings} {now : Instant} {users : Store} {id who : UserId}
  {u v : User} {x : Option Dealing}

theorem opening {before : Option User} {w : String} {o : Opening} {d : Draws} {role : Role}
    (hp : o.password = .forVerification P w) :
    Recorded P s now before (some ⟨d.id, .opens w, now⟩) (o.user P s d role now) := by
  rw [Opening.user, hp]
  exact .opened

/-- One record is put down, and all others are as they were. -/
theorem put (hx : ∀ y ∈ x, y.who = who) (h : Recorded P s now (users.get? who) x u)
    (hv : Keyed.get? (users.put who u) id = some v) :
    Recorded P s now (users.get? id) (x.filter (·.who = id)) v := by
  rcases Keyed.get?_put_eq_some.mp hv with ⟨rfl, rfl⟩ | ⟨hi, hv⟩
  · have hf : x.filter (·.who = id) = x := by
      cases x with
      | none => rfl
      | some y => simp [Option.filter, hx y rfl]
    rwa [hf]
  · have hf : x.filter (·.who = id) = none := by
      cases x with
      | none => rfl
      | some y => simp [Option.filter, hx y rfl, Ne.symm hi]
    rw [hf]
    exact .kept hv (.refl v)

end Recorded

/-- A request that was carried out has left the users alone, or it has removed one of them, or it has put down
one record, after what it has done for that user. -/
inductive Transaction.Effect (P : Primitives) (s : Settings) (e : Transaction) : Prop where
  | idle (hd : e.dealing? P = none) (ha : e.after = e.before)
  | removes {who} (hd : e.dealing? P = none) (ha : e.after = e.before.remove who)
  | puts {who u x} (hd : e.dealing? P = x) (ha : e.after = e.before.put who u)
    (hw : ∀ y ∈ x, y.who = who)
    (hr : Recorded P s e.arrival.since (e.before.get? who) x u) : Effect P s e

theorem Transaction.Effect.recorded {P : Primitives} {s : Settings} {e : Transaction} {id : UserId}
    {v : User} (h : e.Effect P s) (hv : e.after.get? id = some v) :
    Recorded P s e.arrival.since (e.before.get? id) ((e.dealing? P).filter (·.who = id)) v := by
  cases h with
  | idle hd ha =>
    rw [ha] at hv
    rw [hd]
    exact .kept hv (.refl v)
  | removes hd ha =>
    rw [ha] at hv
    rw [hd]
    exact .kept (Keyed.get?_of_remove hv) (.refl v)
  | puts hd ha hw hr =>
    rw [ha] at hv
    rw [hd]
    exact hr.put hw hv

namespace Arrival

variable {P : Primitives} {s : Settings} {users users' : Store} {k k' : Progress} {c : Call}
  {o : Outcome} {d : Draws} {t : Instant}

/-- What a request writes depends on whom it has found and on the time. -/
theorem Writes.congr {a : Arrival} (h : a.Writes P s k c) (hn : k.now = k'.now)
    (hf : k.found = k'.found) : a.Writes P s k' c := by
  obtain ⟨now, found, wrote⟩ := k
  obtain ⟨now', found', wrote'⟩ := k'
  cases hn
  cases hf
  cases h with
  | register h => exact .register h
  | createAdmin h => exact .createAdmin h
  | forgotPassword hf hr => exact .forgotPassword hf hr
  | resetPassword h hf hm => exact .resetPassword h hf hm
  | updateProfile h hf => exact .updateProfile h hf
  | changePassword h hf hv => exact .changePassword h hf hv
  | deleteAccount => exact .deleteAccount
  | deleteUser => exact .deleteUser
  | updateUser h hf => exact .updateUser h hf

/-- A request has changed the users by the call `c` and has ended with `o`. -/
structure Changed (P : Primitives) (s : Settings) (a : Arrival) (users : Store) (c : Call)
    (o : Outcome) (users' : Store) (k : Progress) : Prop extends a.Searched P s users k users' where
  kept : users.Kept
  writes : a.Writes P s k c
  written : users.Written a.since c users'
  wrote : k.wrote = some (c, true)
  yields : a.Yields P s k o

section Commands

theorem register_effect {r : Registration}
    (h : Changed P s ⟨.register r, d, t⟩ users c o users' k) :
    Transaction.Effect P s ⟨⟨.register r, d, t⟩, users, .ok o, users'⟩ := by
  obtain rfl : k.now = t := h.at_now
  obtain ⟨_, _, hx, hd, hr, hy⟩ := h
  cases hx with
  | register hc =>
  cases hy with
  | registered hr' =>
  cases hr.symm.trans hr'
  cases hd
  obtain ⟨w, hp, ho⟩ := (Registration.check_read hc).password_sent
  refine .puts (x := some ⟨d.id, .opens w, k.now⟩) ?_ rfl (by rintro y ⟨⟩; rfl) (.opening ho)
  simp [Transaction.dealing?, hp, Opening.user, User.new]

theorem createAdmin_effect {r : Appointment}
    (h : Changed P s ⟨.createAdmin r, d, t⟩ users c o users' k) :
    Transaction.Effect P s ⟨⟨.createAdmin r, d, t⟩, users, .ok o, users'⟩ := by
  obtain rfl : k.now = t := h.at_now
  obtain ⟨_, _, hx, hd, hr, hy⟩ := h
  cases hx with
  | createAdmin hc =>
  cases hy with
  | adminCreated hr' =>
  cases hr.symm.trans hr'
  cases hd
  obtain ⟨w, hp, ho⟩ := (Appointment.check_read hc).1.password_sent
  refine .puts (x := some ⟨d.id, .opens w, k.now⟩) ?_ rfl (by rintro y ⟨⟩; rfl) (.opening ho)
  simp [Transaction.dealing?, hp, Opening.user, User.new]

theorem forgotPassword_effect {email : Option String}
    (h : Changed P s ⟨.forgotPassword email, d, t⟩ users c o users' k) :
    Transaction.Effect P s ⟨⟨.forgotPassword email, d, t⟩, users, .ok o, users'⟩ := by
  obtain rfl : k.now = t := h.at_now
  obtain ⟨hs, _, hx, hd, hr, hy⟩ := h
  cases hx with
  | @forgotPassword _ _ _ _ u hf =>
  obtain ⟨_, hl, hu⟩ := hs.looked (some u) hf
  cases hl with
  | forgotPassword ht he =>
  cases hy with
  | noLink hn => exact absurd hr (hn _)
  | resetLink =>
  cases hd
  refine .puts (x := some ⟨u.id, .issues d.token, k.now⟩) ?_ rfl (by rintro y ⟨⟩; rfl)
    (.issued (hs.found u hf))
  simp [Transaction.dealing?, ht, he, Except.toOption, Store.finds_findByEmail.mp hu]

theorem resetPassword_effect {r : Reset}
    (h : Changed P s ⟨.resetPassword r, d, t⟩ users c o users' k) :
    Transaction.Effect P s ⟨⟨.resetPassword r, d, t⟩, users, .ok o, users'⟩ := by
  obtain rfl : k.now = t := h.at_now
  obtain ⟨hs, _, hx, hd, hr, hy⟩ := h
  cases hx with
  | @resetPassword _ _ _ _ u _ _ hc hf =>
  obtain ⟨_, hl, hu⟩ := hs.looked (some u) hf
  cases hl with
  | resetPassword hc' =>
  cases hc.symm.trans hc'
  obtain ⟨w, ha, rfl⟩ := Reset.check_eq_ok.mp hc
  cases hy
  cases hd with
  | consumeReset hg =>
  cases hg.symm.trans (hs.found u hf)
  refine .puts (x := some ⟨u.id, .renews w, k.now⟩) ?_ rfl (by rintro y ⟨⟩; rfl) (.renewed hg)
  simp [Transaction.dealing?, ha.token, ha.password, Store.finds_findByResetHash.mp hu]

theorem changePassword_effect {who : UserId} {r : PasswordChange}
    (h : Changed P s ⟨.changePassword who r, d, t⟩ users c o users' k) :
    Transaction.Effect P s ⟨⟨.changePassword who r, d, t⟩, users, .ok o, users'⟩ := by
  obtain rfl : k.now = t := h.at_now
  obtain ⟨hs, hk, hx, hd, hr, hy⟩ := h
  cases hx with
  | @changePassword _ _ _ _ _ u _ _ hc hf =>
  obtain ⟨_, hl, hu⟩ := hs.looked (some u) hf
  cases hl
  obtain rfl : u.id = who := hk.own_of_get? (Store.finds_findById.mp hu)
  obtain ⟨_, w, _, ha, rfl, rfl⟩ := PasswordChange.check_eq_ok.mp hc
  cases hy
  cases hd
  refine .puts (x := some ⟨u.id, .renews w, k.now⟩) ?_ rfl (by rintro y ⟨⟩; rfl)
    (.renewed (hs.found u hf))
  simp [Transaction.dealing?, ha.password]

/-- A request that edits a record leaves the password and the reset that is pending alone. -/
theorem edit_effect {a : Arrival} (he : a.Edits) (h : Changed P s a users c o users' k) :
    Transaction.Effect P s ⟨a, users, .ok o, users'⟩ := by
  obtain ⟨hs, _, hx, hd, _, _⟩ := h
  cases he with
  | updateProfile =>
    cases hx with
    | @updateProfile _ _ _ _ _ u name email _ hf =>
    cases hd
    exact .puts rfl rfl (by rintro y ⟨⟩) (.kept (hs.found u hf) (.updateProfile u name email k.now))
  | updateUser =>
    cases hx with
    | @updateUser _ _ _ _ _ u name email role _ hf =>
    cases hd
    have ha : users.put (u.administer name email role k.now).id (u.administer name email role k.now) =
        users.put u.id (u.administer name email role k.now) := by cases role <;> rfl
    exact .puts rfl ha (by rintro y ⟨⟩) (.kept (hs.found u hf) (.administer u name email role k.now))

end Commands

theorem Changed.effect {a : Arrival} (h : Changed P s a users c o users' k) :
    Transaction.Effect P s ⟨a, users, .ok o, users'⟩ := by
  obtain ⟨command, d, t⟩ := a
  have hx := h.writes
  cases command with
  | register r => exact register_effect h
  | createAdmin r => exact createAdmin_effect h
  | forgotPassword email => exact forgotPassword_effect h
  | resetPassword r => exact resetPassword_effect h
  | changePassword who r => exact changePassword_effect h
  | updateProfile who r => exact edit_effect .updateProfile h
  | updateUser id r => exact edit_effect .updateUser h
  | deleteAccount who =>
    cases hx
    cases h.written
    exact .removes rfl rfl
  | deleteUser id =>
    cases hx
    cases h.written
    exact .removes rfl rfl
  | _ => cases hx

/-- Nothing was done for anybody by a request that has not changed the users. -/
theorem Ends.idle {a : Arrival} {r : Except Refusal Outcome} (h : a.Ends P s k r)
    (hn : ∀ c, k.wrote ≠ some (c, true)) :
    Transaction.Effect P s ⟨a, users, r, users⟩ := by
  refine .idle ?_ rfl
  obtain ⟨command, d, t⟩ := a
  cases r with
  | error r => cases command <;> rfl
  | ok o =>
    cases h with
    | registered hw | resetLink hw | passwordReset hw | passwordChanged hw | adminCreated hw =>
      exact absurd hw (hn _)
    | _ => rfl

/-- A request has left the users alone, or it has succeeded and has changed them by one call. -/
theorem transact_cases (hk : users.Kept) (a : Arrival) :
    ((a.transact P s users).after = users ∧
      ∃ k, a.Ends P s k (a.transact P s users).result ∧ ∀ c, k.wrote ≠ some (c, true)) ∨
    ∃ k c o, (a.transact P s users).result = .ok o ∧
      Changed P s a users c o (a.transact P s users).after k := by
  obtain ⟨k, he, hs⟩ := a.run_searched (P := P) (s := s) hk
  rcases hs.change with ⟨hu, hn⟩ | ⟨k₀, c, hc, ht, hf, hd, hr⟩
  · exact .inl ⟨hu, k, he, hn⟩
  · cases hx : (a.transact P s users).result with
    | error r =>
      rw [hx] at he
      exact absurd hr (he c)
    | ok o =>
      rw [hx] at he
      have hw := hc.congr (ht.trans hs.at_now.symm) hf
      exact .inr ⟨k, c, o, rfl, hs, hk, hw, hd, hr, he⟩

theorem transact_effect (hk : users.Kept) (a : Arrival) : (a.transact P s users).Effect P s := by
  change Transaction.Effect P s
    ⟨a, users, (a.transact P s users).result, (a.transact P s users).after⟩
  rcases a.transact_cases (P := P) (s := s) hk with ⟨hu, k, he, hn⟩ | ⟨k, c, o, hx, hc⟩
  · rw [hu]
    exact he.idle hn
  · rw [hx]
    exact hc.effect

theorem transact_kept (hk : users.Kept) (a : Arrival) : (a.transact P s users).after.Kept := by
  obtain ⟨_, _, hs⟩ := a.run_searched (P := P) (s := s) hk
  exact hs.kept hk

theorem transact_addressed (hu : users.Addressed) (a : Arrival) :
    (a.transact P s users).after.Addressed := by
  obtain ⟨_, _, hs⟩ := a.run_searched (P := P) (s := s) hu.toKept
  exact hs.addressed hu

/-- Every way to change the users is looked at here, so that what a record has to do with the past is proved by a look
at the few kinds of deeds. -/
theorem transact_recorded (hk : users.Kept) (a : Arrival) {id : UserId} {v : User}
    (hv : (a.transact P s users).after.get? id = some v) :
    Recorded P s a.since (users.get? id)
      (((a.transact P s users).dealing? P).filter (·.who = id)) v :=
  (a.transact_effect hk).recorded hv

end Arrival

end Account
end Storefront
