import Mathlib.Algebra.Group.Int.Defs
import Storefront.Bytes.Base64
import Storefront.Proofs.Courses
import Storefront.Proofs.Digits
import Storefront.Proofs.Undisturbed

namespace Storefront

/-- A hash accepts the bytes it was made of, and no others. -/
def Primitives.Faithful (P : Primitives) : Prop :=
  ∀ salt b b', P.verifyPassword (P.hashPassword salt b) b' = true ↔ b' = b

/-- Passwords are kept in a form that can be read back, under whatever salt. -/
def Primitives.unsalted : Primitives :=
  { ascii with
    hashPassword := fun _ p => String.ofList (Base64.encode Base64.url p)
    verifyPassword := fun h p => h == String.ofList (Base64.encode Base64.url p) }

theorem Primitives.unsalted_faithful : unsalted.Faithful := by
  intro salt b b'
  have hi : Base64.encode Base64.url b = Base64.encode Base64.url b' ↔ b' = b := by
    refine ⟨?_, fun h => h ▸ rfl⟩
    intro h
    have hb := Base64.decode?_encode Base64.url_lawful b
    rw [h, Base64.decode?_encode Base64.url_lawful] at hb
    exact Option.some.inj hb
  simp [unsalted, String.ofList_inj, hi]

theorem Password.Clear.bytes_inj {p q : Clear} {pepper : Option Bytes} :
    p.bytes pepper = q.bytes pepper ↔ p = q := by
  obtain ⟨p⟩ := p
  obtain ⟨q⟩ := q
  simp [bytes, Bytes.ofText_inj, String.ofList_inj]

theorem Password.Clear.verify_hash {P : Primitives} (hv : P.Faithful) {p q : Clear}
    {pepper : Option Bytes} {salt : Bytes} :
    (q.hash P pepper salt).verify P p pepper = true ↔ p = q :=
  (hv salt _ _).trans bytes_inj

namespace Account

open Password (Clear)

section SignIn

variable {P : Primitives} {s : Settings} {users : Store} {c : Credentials} {d : Draws} {t : Instant}

theorem Email.parse_trimmed (text : String) : Email.parse P (Text.trimmed text) = Email.parse P text := by
  simp [Email.parse, Text.trimmed, Text.trim_trim]

/-- A blank text is no address, so it makes no difference that it is refused before it is read as one. -/
theorem Credentials.check_eq_ok (hl : P.lower [] = []) {email password : String} {e : Email} {p : Clear}
    (hp : password ≠ "") : Credentials.check P ⟨some email, some password⟩ = .ok (e, p) ↔
      Email.parse P email = .ok e ∧ p = .forVerification P password := by
  have hw : (some password).filter (fun p => !p.isEmpty) = some password := by simp [hp]
  by_cases ht : Text.trim email.toList = []
  · simp [Credentials.check, nonBlank, Text.trimmed, Email.parse, ht, hl]
  · have hn : nonBlank (some email) = some (Text.trimmed email) := by
      simp [nonBlank, Text.trimmed, ht]
    simp only [Credentials.check, hn, hw, Email.parse_trimmed]
    cases Email.parse P email with
    | error f => simp
    | ok a => simp [eq_comm]

theorem login_ok_iff : (∃ o, (Arrival.transact P s users ⟨.login c, d, t⟩).result = .ok o) ↔
    ∃ e p u, c.check P = .ok (e, p) ∧ users.findByEmail e = some u ∧
      u.password.verify P p s.pepper = true := by
  simp only [Arrival.transact, Arrival.plan, Command.plan, login, Plan.findByEmail]
  cases hc : c.check P with
  | error r =>
    constructor
    · rintro ⟨o, ho⟩
      cases ho
    · rintro ⟨_, _, _, h, _⟩
      cases h
  | ok x =>
    obtain ⟨e, p⟩ := x
    rw [Plan.run_ofExcept, Plan.run_call (by rw [Store.answer])]
    cases hu : users.findByEmail e with
    | none =>
      constructor
      · rintro ⟨o, ho⟩
        cases ho
      · rintro ⟨_, _, _, h, hf, _⟩
        cases h
        cases hu.symm.trans hf
    | some u =>
      rw [Plan.run_orRefuse]
      constructor
      · rintro ⟨o, ho⟩
        split at ho
        · rename_i hv
          exact ⟨e, p, u, rfl, hu, hv⟩
        · cases ho
      · rintro ⟨_, _, _, h, hf, hv⟩
        cases h
        cases hu.symm.trans hf
        rw [if_pos hv]
        exact ⟨_, rfl⟩

end SignIn

/-- The password text that was taken last for a user, how often another one was set, and when that was. -/
structure Credential where
  password : String
  changes : Nat
  changedAt : Option Instant
  deriving DecidableEq

namespace Credential

def first (password : String) : Credential := ⟨password, 0, none⟩

def next (c : Credential) (x : Dealing) : Credential :=
  match x.deed with
  | .opens w => first w
  | .issues _ => c
  | .renews w => ⟨w, c.changes + 1, some x.time⟩

/-- The credential after the past of a user whose first password was `known`; an account that was opened later
has the password that it was opened with. -/
def ofPast (P : Primitives) (known : String) (id : UserId) (past : List Transaction) : Credential :=
  (dealings P id past).foldl next (first known)

theorem ofPast_concat (P : Primitives) (known : String) (id : UserId) (past : List Transaction)
    (e : Transaction) : ofPast P known id (past ++ [e]) =
      ((e.dealing? P).filter (·.who = id)).toList.foldl next (ofPast P known id past) := by
  rw [ofPast, dealings_concat, List.foldl_append]
  rfl

end Credential

/-- A record that lets the user sign in with a credential, and tells of its changes. -/
structure User.Holds (P : Primitives) (s : Settings) (u : User) (c : Credential) : Prop where
  password : ∃ salt, u.password = (Clear.forVerification P c.password).hash P s.pepper salt
  changes : u.passwordChangeCount = min (c.changes : Int) (2 ^ 31 - 1)
  changedAt : u.lastPasswordChange = c.changedAt

/-- The commands that set a password. -/
def Command.setsPassword : Command → Bool
  | .register _ | .createAdmin _ | .resetPassword _ | .changePassword _ _ => true
  | _ => false

/-- The request has set the password of a user. -/
def Transaction.SetsPassword (P : Primitives) (e : Transaction) (id : UserId) : Prop :=
  e.arrival.command.setsPassword = true ∧ (∃ o, e.result = .ok o) ∧
    ∃ x, e.dealing? P = some x ∧ x.who = id

/-- Users with different addresses who have just been created, with passwords that are known. -/
structure Store.Fresh (P : Primitives) (s : Settings) (known : UserId → String) (users : Store) : Prop
    extends Addressed users where
  created : ∀ p ∈ users, ∃ name email salt role t,
    p.2 = .new p.1 name email ((Clear.forVerification P (known p.1)).hash P s.pepper salt) role t

section Past

variable {P : Primitives} {s : Settings} {known : UserId → String} {past : List Transaction}
  {users : Store} {id : UserId} {v : User}

/-- Every record holds the credential that the past gives to its user. -/
structure Credited (P : Primitives) (s : Settings) (known : UserId → String)
    (past : List Transaction) (users : Store) : Prop extends users.Addressed where
  holds : ∀ id u, users.get? id = some u → u.Holds P s (.ofPast P (known id) id past)

theorem Credited.start (h : users.Fresh P s known) : Credited P s known [] users := by
  refine ⟨h.toAddressed, ?_⟩
  intro id u hu
  obtain ⟨name, email, salt, role, t, hc⟩ := h.created _ (h.get?_eq.mp hu)
  dsimp only at hc
  rw [hc]
  exact ⟨⟨salt, rfl⟩, rfl, rfl⟩

theorem Credited.transact (h : Credited P s known past users) (a : Arrival) :
    Credited P s known (past ++ [a.transact P s users]) (a.transact P s users).after := by
  refine ⟨a.transact_addressed h.toAddressed, ?_⟩
  intro id v hv
  have hr := a.transact_recorded h.toKept hv
  rw [Credential.ofPast_concat]
  generalize ((a.transact P s users).dealing? P).filter (·.who = id) = x at hr
  cases hr with
  | opened => exact ⟨⟨_, rfl⟩, rfl, rfl⟩
  | issued hu =>
    obtain ⟨hp, hc, ht⟩ := h.holds id _ hu
    exact ⟨hp, hc, ht⟩
  | renewed hu =>
    have hc := (h.holds id _ hu).changes
    refine ⟨⟨_, rfl⟩, ?_, rfl⟩
    simp only [User.changePassword, User.clearReset, hc, User.maxChangeCount, Decimal.mostSigned32,
      Option.toList, List.foldl, Credential.next]
    -- a count that has reached its top stays there
    omega
  | kept hu hs =>
    obtain ⟨hp, hc, ht⟩ := h.holds id _ hu
    exact ⟨hs.password ▸ hp, hs.passwordChangeCount ▸ hc, hs.lastPasswordChange ▸ ht⟩

theorem credited (h : users.Fresh P s known) (as : List Arrival) :
    Credited P s known (users.transactions P s as) (users.after P s as) :=
  Store.course (.start h) (fun _ _ a hc => hc.transact a) as

/-- What is done for a user sets the password, or it is the issue of a token. -/
theorem Transaction.setsPassword_of_dealing {e : Transaction} {x : Dealing}
    (h : e.dealing? P = some x) (hi : x.who = id) (hx : ∀ t, x.deed ≠ .issues t) :
    e.SetsPassword P id := by
  obtain ⟨⟨command, d, t⟩, users, result, users'⟩ := e
  cases result with
  | error r => cases command <;> cases h
  | ok o =>
    refine ⟨?_, ⟨o, rfl⟩, x, h, hi⟩
    cases command with
    | register | createAdmin | resetPassword | changePassword => rfl
    | forgotPassword email =>
      cases o with
      | resetLink link =>
        cases link with
        | none => cases h
        | some link =>
          simp only [dealing?, Option.bind_eq_bind, Option.bind_eq_some_iff, Option.some.injEq] at h
          obtain ⟨_, _, _, _, _, _, rfl⟩ := h
          exact absurd rfl (hx _)
      | _ => cases h
    | _ => cases h

/-- A request that does not set the password of a user leaves it, and what is told of its changes, as it
was. -/
theorem Credited.unchanged (h : Credited P s known past users) (a : Arrival)
    (hv : (a.transact P s users).after.get? id = some v)
    (hn : ¬(a.transact P s users).SetsPassword P id) : ∃ u, users.get? id = some u ∧
      Credential.ofPast P (known id) id (past ++ [a.transact P s users]) =
        .ofPast P (known id) id past ∧
      v.password = u.password ∧ v.passwordChangeCount = u.passwordChangeCount ∧
      v.lastPasswordChange = u.lastPasswordChange := by
  have hr := a.transact_recorded h.toKept hv
  rw [Credential.ofPast_concat]
  have hs (x : Dealing) (hx : ((a.transact P s users).dealing? P).filter (·.who = id) = some x) :
      ¬∀ t, x.deed ≠ .issues t := by
    obtain ⟨hd, hi⟩ := Option.filter_eq_some_iff.mp hx
    exact fun h => hn (Transaction.setsPassword_of_dealing hd (of_decide_eq_true hi) h)
  generalize ((a.transact P s users).dealing? P).filter (·.who = id) = x at hr hs
  cases hr with
  | opened => exact absurd (by simp) (hs _ rfl)
  | issued hu => exact ⟨_, hu, rfl, rfl, rfl, rfl⟩
  | renewed => exact absurd (by simp) (hs _ rfl)
  | kept hu hs =>
    exact ⟨_, hu, rfl, hs.password, hs.passwordChangeCount, hs.lastPasswordChange⟩

end Past

/-- The credential of a user after some requests, if all users had known passwords at first. -/
def Store.credential (P : Primitives) (s : Settings) (known : UserId → String) (users : Store)
    (as : List Arrival) (id : UserId) : Credential :=
  .ofPast P (known id) id (users.transactions P s as)

/-- After any course of requests that starts with users who have just been created: exactly the password that
was taken last for the user with an address signs in with that address; the record tells how often and when
another one was set; and nothing of this is changed by a request that sets no password of the user. -/
theorem credentials_recorded {P : Primitives} {s : Settings} {known : UserId → String} {users : Store}
    (hl : P.lower [] = []) (hv : P.Faithful) (hu : users.Fresh P s known) (as : List Arrival) :
    (∀ (email password : String) (d : Draws) (t : Instant), password ≠ "" →
      ((∃ o, (Arrival.transact P s (users.after P s as)
          ⟨.login ⟨some email, some password⟩, d, t⟩).result = .ok o) ↔
        ∃ u ∈ (users.after P s as).values, Email.parse P email = .ok u.email ∧
          P.normal password.toList =
            P.normal (users.credential P s known as u.id).password.toList)) ∧
    (∀ u ∈ (users.after P s as).values,
      u.passwordChangeCount = min ((users.credential P s known as u.id).changes : Int) (2 ^ 31 - 1) ∧
      u.lastPasswordChange = (users.credential P s known as u.id).changedAt) ∧
    ∀ (a : Arrival), ∀ v ∈ (users.after P s (as ++ [a])).values,
      ¬(a.transact P s (users.after P s as)).SetsPassword P v.id →
      ∃ u ∈ (users.after P s as).values, u.id = v.id ∧
        users.credential P s known (as ++ [a]) v.id = users.credential P s known as v.id ∧
        v.password = u.password ∧ v.passwordChangeCount = u.passwordChangeCount ∧
        v.lastPasswordChange = u.lastPasswordChange := by
  have hc := credited hu as
  refine ⟨?_, ?_, ?_⟩
  · intro email password d t hp
    rw [login_ok_iff]
    constructor
    · rintro ⟨e, p, u, hx, hf, hver⟩
      obtain ⟨he, rfl⟩ := (Credentials.check_eq_ok hl hp).mp hx
      obtain ⟨hm, rfl⟩ := hc.findByEmail_eq.mp hf
      obtain ⟨salt, hpw⟩ := (hc.holds u.id u (hc.mem_values.mp hm)).password
      rw [hpw, Clear.verify_hash hv] at hver
      exact ⟨u, hm, he, congrArg Clear.chars hver⟩
    · rintro ⟨u, hm, he, hn⟩
      obtain ⟨salt, hpw⟩ := (hc.holds u.id u (hc.mem_values.mp hm)).password
      refine ⟨u.email, _, u, (Credentials.check_eq_ok hl hp).mpr ⟨he, rfl⟩,
        hc.findByEmail_eq.mpr ⟨hm, rfl⟩, ?_⟩
      rw [hpw, Clear.verify_hash hv]
      exact congrArg Clear.mk hn
  · intro u hm
    have hh := hc.holds u.id u (hc.mem_values.mp hm)
    exact ⟨hh.changes, hh.changedAt⟩
  · intro a v hm hn
    rw [Store.after_concat] at hm
    have hk := a.transact_kept (P := P) (s := s) hc.toKept
    obtain ⟨u, hg, hcr, hr⟩ := hc.unchanged a (hk.mem_values.mp hm) hn
    have hi := hc.own_of_get? hg
    refine ⟨u, hc.mem_values.mpr (hi.symm ▸ hg), hi, ?_, hr⟩
    rw [Store.credential, Store.transactions_concat]
    exact hcr

/-- A user with a password that would not be taken any more. -/
def newcomer : Store :=
  let password := (Clear.forVerification .unsalted "secret").hash .unsalted none []
  [(.ofNat 1, .new (.ofNat 1) ⟨"Ann"⟩ ⟨"ann@b.co"⟩ password .user 0)]

theorem newcomer_fresh : newcomer.Fresh .unsalted .usual fun _ => "secret" := by
  refine ⟨⟨⟨by simp [newcomer, Keyed.Distinct], ?_⟩, by simp [newcomer]⟩, ?_⟩
  · intro p hp
    rw [List.mem_singleton.mp hp]
    rfl
  · intro p hp
    rw [List.mem_singleton.mp hp]
    exact ⟨_, _, _, _, _, rfl⟩

/-- The user sets a new password, with blanks around it, and takes another name. -/
def settlesIn : List Arrival :=
  [⟨.changePassword (.ofNat 1) ⟨some "secret", some " Indigo-88 ", some "Indigo-88"⟩,
     ⟨.ofNat 2, [7], ⟨""⟩⟩, 5⟩,
   ⟨.updateProfile (.ofNat 1) ⟨some "Anna", none⟩, ⟨.ofNat 2, [], ⟨""⟩⟩, 6⟩]

theorem settlesIn_credentials :
    Primitives.unsalted.lower [] = [] ∧ Primitives.unsalted.Faithful ∧
      newcomer.Fresh .unsalted .usual (fun _ => "secret") ∧
      (∃ o, (Arrival.transact .unsalted .usual (newcomer.after .unsalted .usual settlesIn)
        ⟨.login ⟨some " Ann@b.co", some "Indigo-88"⟩, ⟨.ofNat 2, [], ⟨""⟩⟩, 7⟩).result = .ok o) ∧
      ∀ u ∈ (newcomer.after .unsalted .usual settlesIn).values,
        u.passwordChangeCount = 1 ∧ u.lastPasswordChange = some 5 := by
  have hc := credentials_recorded rfl Primitives.unsalted_faithful newcomer_fresh settlesIn
  have hu : (newcomer.after .unsalted .usual settlesIn).values.map (fun u => (u.id, u.email)) =
      [(.ofNat 1, ⟨"ann@b.co"⟩)] := by decide +kernel
  have hx : newcomer.credential .unsalted .usual (fun _ => "secret") settlesIn (.ofNat 1) =
      ⟨"Indigo-88", 1, some 5⟩ := by decide +kernel
  have hi : ∀ u ∈ (newcomer.after .unsalted .usual settlesIn).values,
      u.id = .ofNat 1 ∧ u.email = ⟨"ann@b.co"⟩ := by
    intro u hm
    have hp := List.mem_map_of_mem (f := fun u : User => (u.id, u.email)) hm
    rw [hu] at hp
    simpa using hp
  refine ⟨rfl, Primitives.unsalted_faithful, newcomer_fresh, ?_, ?_⟩
  · obtain ⟨u, hm, _⟩ := List.mem_map.mp (hu ▸ List.mem_singleton_self _)
    obtain ⟨hid, he⟩ := hi u hm
    refine (hc.1 " Ann@b.co" "Indigo-88" _ _ (by decide)).mpr ⟨u, hm, ?_, ?_⟩
    · rw [he]
      decide +kernel
    · rw [hid, hx]
  · intro u hm
    rw [(hc.2.1 u hm).1, (hc.2.1 u hm).2, (hi u hm).1, hx]
    exact ⟨by decide, rfl⟩

end Account
end Storefront
