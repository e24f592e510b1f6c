import Storefront.Proofs.Courses
import Storefront.Proofs.Performed

namespace Storefront.Account

/-- The parts of a record. -/
inductive User.Field where
  | id
  | name
  | email
  | password
  | role
  | resetHash
  | resetExpires
  | lastPasswordChange
  | passwordChangeCount
  | createdAt
  | updatedAt
  deriving DecidableEq

namespace User

/-- Two records say the same in one part. -/
def AgreesOn (u v : User) : Field → Prop
  | .id => v.id = u.id
  | .name => v.name = u.name
  | .email => v.email = u.email
  | .password => v.password = u.password
  | .role => v.role = u.role
  | .resetHash => v.resetHash = u.resetHash
  | .resetExpires => v.resetExpires = u.resetExpires
  | .lastPasswordChange => v.lastPasswordChange = u.lastPasswordChange
  | .passwordChangeCount => v.passwordChangeCount = u.passwordChangeCount
  | .createdAt => v.createdAt = u.createdAt
  | .updatedAt => v.updatedAt = u.updatedAt

/-- Two records differ in some parts at most. -/
def DiffersIn (fs : List Field) (u v : User) : Prop := ∀ f, f ∉ fs → u.AgreesOn v f

/-- What a new password changes. -/
def secrets : List Field :=
  [.password, .resetHash, .resetExpires, .lastPasswordChange, .passwordChangeCount, .updatedAt]

variable {P : Primitives} {u : User} {now : Instant}

theorem DiffersIn.changePassword {p : Password.Hashed} :
    u.DiffersIn secrets (u.changePassword p now) := by
  intro f hf
  cases f with
  | id | name | email | role | createdAt => rfl
  | _ => simp [secrets] at hf

theorem DiffersIn.issueReset {t : ResetToken} {ttl : Int} :
    u.DiffersIn [.resetHash, .resetExpires, .updatedAt] (u.issueReset P t ttl now) := by
  intro f hf
  cases f with
  | resetHash | resetExpires | updatedAt => simp at hf
  | _ => rfl

theorem DiffersIn.updateProfile {name : Option DisplayName} {email : Option Email} :
    u.DiffersIn [.name, .email, .updatedAt] (u.updateProfile name email now) := by
  intro f hf
  cases f with
  | name | email | updatedAt => simp at hf
  | _ => rfl

theorem DiffersIn.administer {name : Option DisplayName} {email : Option Email} {role : Option Role} :
    u.DiffersIn [.name, .email, .role, .updatedAt] (u.administer name email role now) := by
  intro f hf
  cases f with
  | name | email | role | updatedAt => simp at hf
  | _ =>
    cases role with
    | none => rfl
    | some r => rfl

end User

namespace Store

/-- At most one user has been added. -/
def Gains (new : User → Prop) (before after : Store) : Prop :=
  after = before ∨ ∃ u, before.get? u.id = none ∧ new u ∧ after = before.put u.id u

/-- At most one record has been changed, and only in some parts. -/
def Amends (which : User → Prop) (fs : List User.Field) (before after : Store) : Prop :=
  after = before ∨ ∃ u v, before.get? u.id = some u ∧ which u ∧ u.DiffersIn fs v ∧
    after = before.put u.id v

/-- At most one user has been removed. -/
def Loses (which : UserId → Prop) (before after : Store) : Prop :=
  after = before ∨ ∃ id, which id ∧ after = before.remove id

/-- Who was there before and is there still has the same identifier, and was created at the same time. -/
def KeepsOrigins (before after : Store) : Prop :=
  ∀ id u v, before.get? id = some u → after.get? id = some v → v.id = u.id ∧ v.createdAt = u.createdAt

variable {before after : Store}

theorem keepsOrigins_of_eq (h : after = before) : before.KeepsOrigins after := by
  intro id u v hu hv
  rw [h, hu] at hv
  cases hv
  exact ⟨rfl, rfl⟩

theorem Gains.keepsOrigins {new : User → Prop} (h : before.Gains new after) :
    before.KeepsOrigins after := by
  rcases h with h | ⟨w, hn, _, rfl⟩
  · exact keepsOrigins_of_eq h
  · intro id u v hu hv
    rcases Keyed.get?_put_eq_some.mp hv with ⟨rfl, _⟩ | ⟨_, hv⟩
    · cases hn.symm.trans hu
    · rw [hu] at hv
      cases hv
      exact ⟨rfl, rfl⟩

theorem Amends.keepsOrigins {which : User → Prop} {fs : List User.Field}
    (h : before.Amends which fs after) (hi : .id ∉ fs) (hc : .createdAt ∉ fs) :
    before.KeepsOrigins after := by
  rcases h with h | ⟨w, w', hg, _, hd, rfl⟩
  · exact keepsOrigins_of_eq h
  · intro id u v hu hv
    rcases Keyed.get?_put_eq_some.mp hv with ⟨rfl, rfl⟩ | ⟨_, hv⟩
    · cases hg.symm.trans hu
      exact ⟨hd _ hi, hd _ hc⟩
    · rw [hu] at hv
      cases hv
      exact ⟨rfl, rfl⟩

theorem Loses.keepsOrigins {which : UserId → Prop} (h : before.Loses which after) :
    before.KeepsOrigins after := by
  rcases h with h | ⟨k, _, rfl⟩
  · exact keepsOrigins_of_eq h
  · intro id u v hu hv
    cases hu.symm.trans (Keyed.get?_of_remove hv)
    exact ⟨rfl, rfl⟩

end Store

section Commands

variable {P : Primitives} {s : Settings} {users users' : Store} {d : Draws} {t : Instant} {k : Progress}
  {c : Call} {o : Outcome}

open Arrival

theorem register_gains {r : Registration} (hn : users.get? d.id = none)
    (h : Changed P s ⟨.register r, d, t⟩ users c o users' k) :
    users.Gains (·.role = .user) users' := by
  have hd := h.written
  cases h.writes
  cases hd
  exact .inr ⟨_, hn, rfl, rfl⟩

theorem createAdmin_gains {a : Appointment} (hn : users.get? d.id = none)
    (h : Changed P s ⟨.createAdmin a, d, t⟩ users c o users' k) :
    users.Gains (fun u => u.role = .admin ∨ u.role = .superadmin) users' := by
  have hd := h.written
  cases h.writes with
  | @createAdmin _ _ _ _ x role hc =>
    cases hd
    refine .inr ⟨_, hn, ?_, rfl⟩
    have hr := (Appointment.check_read hc).2
    change role = .admin ∨ role = .superadmin
    cases role with
    | admin => exact .inl rfl
    | superadmin => exact .inr rfl
    | _ => cases hr

theorem forgotPassword_amends {email : Option String}
    (h : Changed P s ⟨.forgotPassword email, d, t⟩ users c o users' k) :
    users.Amends (fun u => ∃ text, nonBlank email = some text ∧ Email.parse P text = .ok u.email)
      [.resetHash, .resetExpires, .updatedAt] users' := by
  have hd := h.written
  cases h.writes with
  | @forgotPassword _ _ _ _ u hf =>
    obtain ⟨_, hl, hu⟩ := h.looked (some u) hf
    cases hl with
    | @forgotPassword _ _ _ e text ht he =>
      cases hd
      have hue : u.email = e := by simpa using List.find?_some (Store.finds_findByEmail.mp hu)
      exact .inr ⟨u, _, h.found u hf, ⟨text, ht, hue ▸ he⟩, .issueReset, rfl⟩

theorem resetPassword_amends {r : Reset}
    (h : Changed P s ⟨.resetPassword r, d, t⟩ users c o users' k) :
    users.Amends (fun u => ∃ text, nonBlank r.token = some text ∧
      u.resetHash = some (ResetToken.hash P ⟨text⟩)) User.secrets users' := by
  have hd := h.written
  cases h.writes with
  | @resetPassword _ _ _ _ u token p hc hf =>
    obtain ⟨_, hl, hu⟩ := h.looked (some u) hf
    cases hl with
    | resetPassword hc' =>
      cases hc.symm.trans hc'
      obtain ⟨w, ha, _⟩ := Reset.check_eq_ok.mp hc
      cases hd with
      | consumeReset hg =>
        cases hg.symm.trans (h.found u hf)
        have hh : u.resetHash = some (token.hash P) := by
          simpa using List.find?_some (Store.finds_findByResetHash.mp hu)
        exact .inr ⟨u, _, hg, ⟨token.text, ha.token, hh⟩, .changePassword, rfl⟩

/-- The user that is found by identifier has it. -/
theorem Arrival.Changed.found_id {a : Arrival} {id : UserId} {u : User} (h : Changed P s a users c o users' k)
    (hl : ∀ c, a.Looks P s c → c = .findById id) (hf : k.found = some (some u)) :
    users.get? u.id = some u ∧ u.id = id := by
  obtain ⟨_, hx, hu⟩ := h.looked (some u) hf
  cases hl _ hx
  exact ⟨h.found u hf, h.kept.own_of_get? (Store.finds_findById.mp hu)⟩

theorem updateProfile_amends {who : UserId} {x : ProfileChange}
    (h : Changed P s ⟨.updateProfile who x, d, t⟩ users c o users' k) :
    users.Amends (·.id = who) [.name, .email, .updatedAt] users' := by
  have hd := h.written
  cases h.writes with
  | updateProfile _ hf =>
    obtain ⟨hg, hi⟩ := h.found_id (fun _ hl => by cases hl; rfl) hf
    cases hd
    exact .inr ⟨_, _, hg, hi, .updateProfile, rfl⟩

theorem changePassword_amends {who : UserId} {x : PasswordChange}
    (h : Changed P s ⟨.changePassword who x, d, t⟩ users c o users' k) :
    users.Amends (·.id = who) User.secrets users' := by
  have hd := h.written
  cases h.writes with
  | changePassword _ hf =>
    obtain ⟨hg, hi⟩ := h.found_id (fun _ hl => by cases hl; rfl) hf
    cases hd
    exact .inr ⟨_, _, hg, hi, .changePassword, rfl⟩

theorem updateUser_amends {id : UserId} {x : UserChange}
    (h : Changed P s ⟨.updateUser id x, d, t⟩ users c o users' k) :
    users.Amends (·.id = id) [.name, .email, .role, .updatedAt] users' := by
  have hd := h.written
  cases h.writes with
  | @updateUser _ _ _ _ _ u name email role _ hf =>
    obtain ⟨hg, hi⟩ := h.found_id (fun _ hl => by cases hl; rfl) hf
    cases hd
    refine .inr ⟨u, u.administer name email role k.now, hg, hi, .administer, ?_⟩
    cases role with
    | none => rfl
    | some r => rfl

theorem deleteAccount_loses {who : UserId}
    (h : Changed P s ⟨.deleteAccount who, d, t⟩ users c o users' k) : users.Loses (· = who) users' := by
  have hd := h.written
  cases h.writes
  cases hd
  exact .inr ⟨who, rfl, rfl⟩

theorem deleteUser_loses {id : UserId}
    (h : Changed P s ⟨.deleteUser id, d, t⟩ users c o users' k) : users.Loses (· = id) users' := by
  have hd := h.written
  cases h.writes
  cases hd
  exact .inr ⟨id, rfl, rfl⟩

end Commands

namespace Visit

variable (P : Primitives) (s : Settings) (v : Visit)

/-- The address that a forgotten password is told with. -/
def givenEmail? : Option Email := do
  let e ← (readForm v.request forgotForm).toOption
  (Email.parse P (← nonBlank (e.text? "email"))).toOption

/-- The token that is presented for a new password. -/
def givenToken? : Option ResetToken := do
  let e ← (readForm v.request resetForm).toOption
  some ⟨← nonBlank (e.text? "token")⟩

/-- Whom the access token of a request is about. -/
def callerId? : Option UserId :=
  (Caller.ofHeaders P s.keys v.request.headers v.time).toOption.map Caller.id

end Visit

/-- What a request to a resource may do to the users. -/
def Resource.Permits (P : Primitives) (s : Settings) (v : Visit) (before after : Store) (res : Resource) :
    Prop :=
  match res, v.request.method with
  | .entrance .register, .post => before.Gains (·.role = .user) after
  | .entrance .forgotPassword, .post =>
    before.Amends (v.givenEmail? P = some ·.email) [.resetHash, .resetExpires, .updatedAt] after
  | .entrance .resetPassword, .post =>
    before.Amends (fun u => ∃ t, v.givenToken? = some t ∧ u.resetHash = some (t.hash P)) User.secrets after
  | .own .updateProfile, .put =>
    before.Amends (v.callerId? P s = some ·.id) [.name, .email, .updatedAt] after
  | .own .changePassword, .post => before.Amends (v.callerId? P s = some ·.id) User.secrets after
  | .own .deleteAccount, .delete => before.Loses (v.callerId? P s = some ·) after
  | .panel .createAdmin, .post => before.Gains (fun u => u.role = .admin ∨ u.role = .superadmin) after
  | .panel (.user id), .patch =>
    before.Amends (id.bind Uuid.ofPadded? = some ·.id) [.name, .email, .role, .updatedAt] after
  | .panel (.user id), .delete => before.Loses (id.bind Uuid.ofPadded? = some ·) after
  | _, _ => after = before

section Requests

variable {P : Primitives} {s : Settings} {v : Visit} {before after : Store} {res : Resource}

theorem Resource.permits_of_eq (h : after = before) : res.Permits P s v before after := by
  unfold Permits
  split
  all_goals first | exact .inl h | exact h

theorem Resource.Permits.keepsOrigins (h : res.Permits P s v before after) :
    before.KeepsOrigins after := by
  unfold Permits at h
  split at h
  · exact h.keepsOrigins
  · exact h.keepsOrigins (by simp) (by simp)
  · exact h.keepsOrigins (by simp [User.secrets]) (by simp [User.secrets])
  · exact h.keepsOrigins (by simp) (by simp)
  · exact h.keepsOrigins (by simp [User.secrets]) (by simp [User.secrets])
  · exact h.keepsOrigins
  · exact h.keepsOrigins
  · exact h.keepsOrigins (by simp) (by simp)
  · exact h.keepsOrigins
  · exact Store.keepsOrigins_of_eq h

theorem Store.Amends.imp {p q : User → Prop} {fs : List User.Field} (h : before.Amends p fs after)
    (hpq : ∀ u, p u → q u) : before.Amends q fs after := by
  rcases h with h | ⟨u, v, hg, hp, hd, ha⟩
  · exact .inl h
  · exact .inr ⟨u, v, hg, hpq u hp, hd, ha⟩

theorem Store.Loses.imp {p q : UserId → Prop} (h : before.Loses p after) (hpq : ∀ id, p id → q id) :
    before.Loses q after := by
  rcases h with h | ⟨id, hp, ha⟩
  · exact .inl h
  · exact .inr ⟨id, hpq id hp, ha⟩

variable {users users' : Store} {k : Progress} {c : Command} {y : Call} {o : Outcome}

theorem hasMethod_single {m m' : Http.Method} (h : Http.hasMethod [m] m' = true) (hm : m ≠ .get) :
    m' = m := by
  simp only [Http.hasMethod, List.contains_cons, List.contains_nil, Bool.or_false, Bool.or_eq_true,
    Bool.and_eq_true, beq_iff_eq] at h
  rcases h with h | ⟨_, h⟩
  · exact h
  · exact absurd h.symm hm

theorem Entrance.permits {e : Entrance} (hm : v.request.method = .post)
    (hc : e.command v.request = .ok c) (hn : users.get? v.draws.id = none)
    (h : Arrival.Changed P s ⟨c, v.draws, v.time⟩ users y o users' k) :
    (Resource.entrance e).Permits P s v users users' := by
  cases e with
  | register =>
    obtain ⟨e, _, rfl⟩ := form_ok hc
    simp only [Resource.Permits, hm]
    exact register_gains hn h
  | forgotPassword =>
    obtain ⟨e, hr, rfl⟩ := form_ok hc
    simp only [Resource.Permits, hm]
    refine (forgotPassword_amends h).imp fun u hu => ?_
    obtain ⟨text, ht, he⟩ := hu
    simp [Visit.givenEmail?, hr, ht, he, Except.toOption]
  | resetPassword =>
    obtain ⟨e, hr, rfl⟩ := form_ok hc
    simp only [Resource.Permits, hm]
    refine (resetPassword_amends h).imp fun u hu => ?_
    obtain ⟨text, ht, hh⟩ := hu
    have ht' : nonBlank (e.text? "token") = some text := ht
    exact ⟨⟨text⟩, by simp [Visit.givenToken?, hr, ht', Except.toOption], hh⟩
  | login =>
    obtain ⟨e, _, rfl⟩ := form_ok hc
    cases h.writes
  | refresh =>
    cases hc
    cases h.writes
  | logout =>
    cases hc
    cases h.writes

theorem Own.permits {own : Own} {caller : Caller}
    (hm : Http.hasMethod (Resource.own own).methods v.request.method = true)
    (hw : Caller.ofHeaders P s.keys v.request.headers v.time = .ok caller)
    (hc : own.command v.request caller.id = .ok c)
    (h : Arrival.Changed P s ⟨c, v.draws, v.time⟩ users y o users' k) :
    (Resource.own own).Permits P s v users users' := by
  have hid : v.callerId? P s = some caller.id := by simp [Visit.callerId?, hw, Except.toOption]
  cases own with
  | profile =>
    cases hc
    cases h.writes
  | updateProfile =>
    obtain ⟨e, _, rfl⟩ := form_ok hc
    simp only [Resource.Permits, hasMethod_single hm (by decide), hid]
    exact (updateProfile_amends h).imp fun u hu => congrArg some hu.symm
  | changePassword =>
    obtain ⟨e, _, rfl⟩ := form_ok hc
    simp only [Resource.Permits, hasMethod_single hm (by decide), hid]
    exact (changePassword_amends h).imp fun u hu => congrArg some hu.symm
  | deleteAccount =>
    cases hc
    simp only [Resource.Permits, hasMethod_single hm (by decide), hid]
    exact (deleteAccount_loses h).imp fun u hu => congrArg some hu.symm

theorem userIdOf_ok {id : String} {u : UserId} (h : userIdOf id = .ok u) :
    Uuid.ofPadded? id = some u := by
  unfold userIdOf at h
  split at h
  · rename_i hu
    cases h
    exact hu
  · cases h

theorem Panel.permits {p : Panel} (hm : Http.hasMethod (Resource.panel p).methods v.request.method = true)
    (hc : p.command v.request = .ok c) (hn : users.get? v.draws.id = none)
    (h : Arrival.Changed P s ⟨c, v.draws, v.time⟩ users y o users' k) :
    (Resource.panel p).Permits P s v users users' := by
  cases p with
  | createAdmin =>
    obtain ⟨e, _, rfl⟩ := form_ok hc
    simp only [Resource.Permits, hasMethod_single hm (by decide)]
    exact createAdmin_gains hn h
  | users =>
    cases hc
    cases h.writes
  | user id =>
    cases id with
    | none => cases hc
    | some id =>
      simp only [Panel.command] at hc
      split at hc
      · rename_i hd
        obtain ⟨u, hu, hc⟩ := bind_ok hc
        cases hc
        simp only [Resource.Permits, hd, Option.bind_some, userIdOf_ok hu]
        exact (deleteUser_loses h).imp fun u hu => congrArg some hu.symm
      · rename_i hd
        have hp : v.request.method = .patch := by
          simpa [Http.hasMethod, Resource.methods, hd] using hm
        obtain ⟨e, _, hc⟩ := bind_ok hc
        obtain ⟨u, hu, hc⟩ := bind_ok hc
        cases hc
        simp only [Resource.Permits, hp, Option.bind_some, userIdOf_ok hu]
        exact (updateUser_amends h).imp fun u hu => congrArg some hu.symm

theorem Setup.Performed.permits {st : State Store} {x : Http.Response × State Store}
    (h : (inMemory P s).Performed st v res c x) (hk : st.users.Kept)
    (hn : st.users.get? v.draws.id = none) : res.Permits P s v st.users x.2.users := by
  have hu : x.2.users = (Arrival.transact P s st.users ⟨c, v.draws, v.time⟩).after := h.users
  rw [hu]
  rcases Arrival.transact_cases (P := P) (s := s) hk ⟨c, v.draws, v.time⟩ with
    ⟨he, _⟩ | ⟨k, y, o, _, hx⟩
  · exact Resource.permits_of_eq he
  · have ht := h.target
    have hm := h.method
    cases h.admits with
    | entrance ht' hc =>
      cases ht.symm.trans ht'
      exact Entrance.permits (hasMethod_single hm (by decide)) hc hn hx
    | own ht' hw hc =>
      cases ht.symm.trans ht'
      exact Own.permits hm hw hc hx
    | panel ht' _ _ hc =>
      cases ht.symm.trans ht'
      exact Panel.permits hm hc hn hx

/-- Every request does to the users at most what its resource permits, and no user is ever given another
identifier or another time of creation. -/
theorem changes_permitted {st : State Store} (hk : st.users.Kept)
    (hn : st.users.get? v.draws.id = none) :
    let users := ((Setup.inMemory P s).exchange st v).after.users
    (match Resource.ofTarget? v.request.target with
      | some res => res.Permits P s v st.users users
      | none => users = st.users) ∧ st.users.KeepsOrigins users := by
  intro users
  rcases (Setup.inMemory P s).respond_performed v st with hu | ⟨res, c, hx⟩
  · have hu : users = st.users := hu
    refine ⟨?_, Store.keepsOrigins_of_eq hu⟩
    split
    · exact Resource.permits_of_eq hu
    · exact hu
  · have hp : res.Permits P s v st.users users := hx.permits hk hn
    rw [hx.target]
    exact ⟨hp, hp.keepsOrigins⟩

end Requests

/-- Ann would like to be a superadmin. -/
def eager : Visit where
  request := ⟨.post, "/auth/register", [("content-type", Bytes.ofText "application/json")],
    Bytes.ofText ("\x7b\"name\":\"Ann\",\"email\":\"ann@b.co\",\"password\":\"Violet-77\"," ++
      "\"role\":\"superadmin\",\"passwordChangeCount\":7\x7d"), none⟩
  draws := ⟨.ofNat 1, [], ⟨""⟩⟩
  time := 1000

/-- She becomes a customer. -/
theorem eager_permitted : noUsers.users.Kept ∧ noUsers.users.get? eager.draws.id = none ∧
    ∃ u, u.role = .user ∧
      ((Setup.inMemory .legible .usual).exchange noUsers eager).after.users = [(u.id, u)] := by
  have ht : Resource.ofTarget? eager.request.target = some (.entrance .register) := by decide +kernel
  have hc : ((Setup.inMemory .legible .usual).exchange noUsers eager).after.users.length = 1 := by
    decide +kernel
  have hk : noUsers.users.Kept := .nil
  have h := (changes_permitted (P := .legible) (s := .usual) (v := eager) hk rfl).1
  rw [ht] at h
  refine ⟨hk, rfl, ?_⟩
  rcases h with h | ⟨u, _, hr, hu⟩
  · rw [h] at hc
    cases hc
  · exact ⟨u, hr, hu⟩

end Storefront.Account
