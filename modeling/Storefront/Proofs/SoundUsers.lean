import Storefront.Proofs.Canonical
import Storefront.Proofs.Overlap

namespace Storefront.Account

/-- A record in its written form, with a reset pending as a whole or not at all. -/
structure User.Canonical (P : Primitives) (u : User) : Prop where
  email : Email.parse P u.email.text = .ok u.email
  name : DisplayName.parse u.name.text = .ok u.name
  reset : u.resetHash.isSome = u.resetExpires.isSome

namespace User.Canonical

variable {P : Primitives} {u : User}

theorem changePassword (h : u.Canonical P) (p : Password.Hashed) (now : Instant) :
    (u.changePassword p now).Canonical P := ⟨h.email, h.name, rfl⟩

theorem issueReset (h : u.Canonical P) (t : ResetToken) (ttl : Int) (now : Instant) :
    (u.issueReset P t ttl now).Canonical P := ⟨h.email, h.name, rfl⟩

theorem updateProfile (h : u.Canonical P) {name : Option DisplayName} {email : Option Email}
    (hn : ∀ n ∈ name, DisplayName.parse n.text = .ok n)
    (he : ∀ e ∈ email, Email.parse P e.text = .ok e) (now : Instant) :
    (u.updateProfile name email now).Canonical P := by
  refine ⟨?_, ?_, h.reset⟩
  · cases email with
    | none => exact h.email
    | some e => exact he e rfl
  · cases name with
    | none => exact h.name
    | some n => exact hn n rfl

theorem administer (h : u.Canonical P) {name : Option DisplayName} {email : Option Email}
    (hn : ∀ n ∈ name, DisplayName.parse n.text = .ok n)
    (he : ∀ e ∈ email, Email.parse P e.text = .ok e) (role : Option Role) (now : Instant) :
    (u.administer name email role now).Canonical P := by
  have hu := h.updateProfile hn he now
  cases role with
  | none => exact hu
  | some r => exact ⟨hu.email, hu.name, hu.reset⟩

end User.Canonical

section Reading

variable {P : Primitives} {s : Settings}

theorem nameOf_canonical {text : String} {n : DisplayName} (h : nameOf text = .ok n) :
    DisplayName.parse n.text = .ok n :=
  DisplayName.parse_text (mapError_eq_ok.mp h)

/-- The data of an account come from three texts that are not blank. -/
structure Opening.ReadFrom (P : Primitives) (o : Opening) (name email password : Option String) :
    Prop where
  name : ∃ t, nonBlank name = some t ∧ nameOf t = .ok o.name
  email : ∃ t, nonBlank email = some t ∧ emailOf P t = .ok o.email
  password : ∃ t, unlessBlank password = some t ∧ passwordOf P t = .ok o.password

theorem Registration.check_read {r : Registration} {o : Opening} (h : r.check P = .ok o) :
    o.ReadFrom P r.name r.email r.password := by
  simp only [Registration.check] at h
  split at h
  · rename_i hn he hp
    split at h
    · obtain ⟨n, hn', h⟩ := bind_ok h
      obtain ⟨e, he', h⟩ := bind_ok h
      obtain ⟨p, hp', h⟩ := bind_ok h
      cases h
      exact ⟨⟨_, hn, hn'⟩, ⟨_, he, he'⟩, ⟨_, hp, hp'⟩⟩
    · cases h
  · cases h

/-- Only some roles are given to a new account by a superadmin. -/
theorem Appointment.check_read {a : Appointment} {o : Opening} {role : Role}
    (h : a.check P = .ok (o, role)) :
    o.ReadFrom P a.name a.email a.password ∧ role.isAssignable = true := by
  simp only [Appointment.check] at h
  split at h
  · rename_i hn he hp _
    split at h
    · cases h
    · rename_i hr
      obtain ⟨n, hn', h⟩ := bind_ok h
      obtain ⟨e, he', h⟩ := bind_ok h
      obtain ⟨p, hp', h⟩ := bind_ok h
      cases h
      refine ⟨⟨⟨_, hn, hn'⟩, ⟨_, he, he'⟩, ⟨_, hp, hp'⟩⟩, ?_⟩
      exact (Option.filter_eq_some_iff.mp hr).2
  · cases h

variable (hP : ∀ t, P.lower (P.lower t) = P.lower t)
include hP

theorem emailOf_canonical {text : String} {e : Email} (h : emailOf P text = .ok e) :
    Email.parse P e.text = .ok e :=
  Email.parse_text hP (mapError_eq_ok.mp h)

theorem Opening.ReadFrom.canonical {o : Opening} {name email password : Option String}
    (h : o.ReadFrom P name email password) (d : Draws) (role : Role) (now : Instant) :
    (o.user P s d role now).Canonical P := by
  obtain ⟨_, _, hn⟩ := h.name
  obtain ⟨_, _, he⟩ := h.email
  exact ⟨emailOf_canonical hP he, nameOf_canonical hn, rfl⟩

omit hP in
/-- What is made of a value that may be missing is made of a value that is there. -/
theorem mapM_eq_ok {α β : Type} {x : Option α} {y : Option β} {f : α → Except Refusal β}
    (h : x.mapM f = .ok y) : ∀ b ∈ y, ∃ a ∈ x, f a = .ok b := by
  intro b hb
  cases x with
  | none =>
    cases h
    cases hb
  | some a =>
    change some <$> f a = .ok y at h
    cases hf : f a with
    | error e =>
      rw [hf] at h
      cases h
    | ok c =>
      rw [hf] at h
      cases h
      obtain rfl : c = b := Option.some.inj hb
      exact ⟨a, rfl, hf⟩

theorem ProfileChange.check_canonical {c : ProfileChange} {name : Option DisplayName}
    {email : Option Email} (h : c.check P = .ok (name, email)) :
    (∀ n ∈ name, DisplayName.parse n.text = .ok n) ∧
      ∀ e ∈ email, Email.parse P e.text = .ok e := by
  simp only [ProfileChange.check, bind, Except.bind] at h
  cases hn : (nonBlank c.name).mapM nameOf <;> simp only [hn] at h <;> try cases h
  cases he : (nonBlank c.email).mapM (emailOf P) <;> simp only [he] at h <;> cases h
  refine ⟨?_, ?_⟩
  · intro n hm
    obtain ⟨_, _, hc⟩ := mapM_eq_ok hn n hm
    exact nameOf_canonical hc
  · intro e hm
    obtain ⟨_, _, hc⟩ := mapM_eq_ok he e hm
    exact emailOf_canonical hP hc

theorem UserChange.check_canonical {c : UserChange} {name : Option DisplayName}
    {email : Option Email} {role : Option Role} (h : c.check P = .ok (name, email, role)) :
    (∀ n ∈ name, DisplayName.parse n.text = .ok n) ∧
      ∀ e ∈ email, Email.parse P e.text = .ok e := by
  simp only [UserChange.check, bind, Except.bind] at h
  cases hr : (nonBlank c.role).mapM roleOf <;> simp only [hr] at h <;> try cases h
  cases hn : (nonBlank c.name).mapM nameOf <;> simp only [hn] at h <;> try cases h
  cases he : (nonBlank c.email).mapM (emailOf P) <;> simp only [he] at h <;> cases h
  refine ⟨?_, ?_⟩
  · intro n hm
    obtain ⟨_, _, hc⟩ := mapM_eq_ok hn n hm
    exact nameOf_canonical hc
  · intro e hm
    obtain ⟨_, _, hc⟩ := mapM_eq_ok he e hm
    exact emailOf_canonical hP hc

end Reading

/-- The record that a call stores as it is. -/
def Call.stored? : Call → Option User
  | .create u => some u
  | .update u => some u
  | _ => none

/-- A request that has found a canonical record, or none, stores a canonical one.  The record that it found may be out
of date by then; that its address is free is seen to by the call that stores it. -/
theorem Arrival.Asks.stored_canonical {P : Primitives} {s : Settings}
    (hP : ∀ t, P.lower (P.lower t) = P.lower t) {a : Arrival} {k : Progress} {c : Call}
    (h : a.Asks P s k c) (hk : ∀ u, k.found = some (some u) → u.Canonical P) :
    ∀ u ∈ c.stored?, u.Canonical P := by
  intro u hu
  cases h with
  | looks hl => cases hl <;> cases hu
  | «exists» => cases hu
  | list => cases hu
  | writes hw =>
    cases hw with
    | register hc => cases hu; exact (Registration.check_read hc).canonical hP _ _ _
    | createAdmin hc => cases hu; exact (Appointment.check_read hc).1.canonical hP _ _ _
    | forgotPassword hf => cases hu; exact (hk _ hf).issueReset _ _ _
    | resetPassword => cases hu
    | updateProfile hc hf =>
      cases hu
      obtain ⟨hn, he⟩ := ProfileChange.check_canonical hP hc
      exact (hk _ hf).updateProfile hn he _
    | changePassword _ hf => cases hu; exact (hk _ hf).changePassword _ _
    | deleteAccount => cases hu
    | deleteUser => cases hu
    | updateUser hc hf =>
      cases hu
      obtain ⟨hn, he⟩ := UserChange.check_canonical hP hc
      exact (hk _ hf).administer hn he _ _

namespace Store

/-- Each user is kept once and under its own identifier, all have different addresses, and every record is
canonical. -/
structure Sound (P : Primitives) (s : Store) : Prop extends Kept s where
  emails : s.Pairwise fun p q => p.2.email ≠ q.2.email
  records : ∀ p ∈ s, p.2.Canonical P

namespace Sound

variable {P : Primitives} {s s' : Store} {now : Instant} {c : Call}

theorem nil : Sound P [] := ⟨.nil, .nil, by simp⟩

theorem addressed (h : s.Sound P) : s.Addressed := ⟨h.toKept, h.emails⟩

theorem written (h : s.Sound P) (hw : Written now s c s')
    (hc : ∀ u ∈ c.stored?, u.Canonical P) : s'.Sound P := by
  have ha := h.addressed.written hw
  refine ⟨ha.toKept, ha.emails, ?_⟩
  intro p hp
  rcases hw.mem_values (List.mem_map.mpr ⟨p, hp, rfl⟩) with hm | he | he | ⟨_, _, _, _, v, _, hg, hv⟩
  · obtain ⟨q, hq, he⟩ := List.mem_map.mp hm
    exact he ▸ h.records q hq
  · exact hc _ (he ▸ rfl)
  · exact hc _ (he ▸ rfl)
  · rw [hv]
    exact (h.records _ (h.get?_eq.mp hg)).changePassword _ _

theorem canonical_of_finds (h : s.Sound P) {r : Option User} {u : User} (hf : Finds s c r)
    (hr : r = some u) : u.Canonical P :=
  h.records _ (h.get?_eq.mp (h.get?_of_finds hf hr))

end Sound

end Store

section Runs

variable {P : Primitives} {s : Settings} (hP : ∀ t, P.lower (P.lower t) = P.lower t)
include hP

/-- After any lawful log the users are sound, and so is every record that a request has found, however
old it is by now. -/
theorem Lawful.sound {as : List Arrival} {users : Store} {log : List Step} (hu : users.Sound P)
    (h : Lawful P s as users log) :
    (replay users log).Sound P ∧ ∀ (i : Nat) (t : Instant) (u : User),
      (heard i t log).found = some (some u) → u.Canonical P := by
  induction h with
  | nil => exact ⟨hu, fun _ _ _ hf => by cases hf⟩
  | cons _ _ now c hc ih =>
    obtain ⟨hs, hk⟩ := ih
    refine ⟨?_, ?_⟩
    · rcases Store.answer_written now _ c with hw | he
      · exact hs.written hw (hc.stored_canonical hP (hk _ _))
      · rwa [replay, he]
    · intro i t u hf
      rcases found_cons hf with hf | ⟨_, hr⟩
      · exact hk i t u hf
      · exact hs.canonical_of_finds hr rfl

/-- Whatever requests come in, and in whatever order their calls are answered: the users are sound. -/
theorem World.run_users_sound (es : List Event) : ((opening []).run P s es).users.Sound P := by
  have ho := run_orderly (P := P) (s := s) [] es
  rw [ho.replayed]
  exact (ho.lawful.sound hP .nil).1

omit hP in
/-- Two clients that are told that an address is free before either of them has it. -/
def World.contest : List Event :=
  let arrive (n : Nat) (since : Instant) :=
    Event.arrive ⟨.register ⟨some "Ann", some "Ann@b.co", some "Violet-77", none⟩,
      ⟨.ofNat n, [], ⟨""⟩⟩, since⟩
  [arrive 1 0, arrive 2 1, .turn 0 2, .turn 1 3, .turn 0 4, .turn 1 5]

omit hP in
theorem World.contest_users_sound :
    (∀ t, Primitives.ascii.lower (Primitives.ascii.lower t) = Primitives.ascii.lower t) ∧
      ((opening []).run .ascii .usual contest).users.Sound .ascii ∧
      ((opening []).run .ascii .usual contest).users.length = 1 :=
  ⟨Primitives.ascii_lower_lower, run_users_sound Primitives.ascii_lower_lower contest,
    by decide +kernel⟩

end Runs

end Storefront.Account
