import Storefront.Proofs.Credentials

namespace Storefront

/-- A hash accepts the bytes it was made of. -/
def Primitives.Accepts (P : Primitives) : Prop :=
  ∀ salt b, P.verifyPassword (P.hashPassword salt b) b = true

theorem Primitives.Faithful.accepts {P : Primitives} (h : P.Faithful) : P.Accepts :=
  fun salt b => (h salt b b).mpr rfl

namespace Account

open Password (Clear)

section Comparisons

variable {P : Primitives} {s : Settings} {users : Store} {u : User} {t : Instant}

/-- What somebody is told who gives an address and a password at `t`. -/
def Store.signIn (P : Primitives) (s : Settings) (users : Store) (t : Instant) (email password : String) :
    Except Refusal Outcome :=
  ((login P s ⟨some email, some password⟩).run Store.answer t users).1

theorem Store.Addressed.signIn_eq (hu : users.Addressed) (hl : P.lower [] = []) (hm : u ∈ users.values)
    {email password : String} (he : Email.parse P email = .ok u.email) (hp : password ≠ "") :
    users.signIn P s t email password =
      if u.password.verify P (.forVerification P password) s.pepper then
        .ok (.signedIn u (s.keys.issuePair P u.subject t))
      else .error .invalidCredentials := by
  have hc := (Credentials.check_eq_ok hl hp).mpr ⟨he, rfl⟩
  have hf : users.findByEmail u.email = some u := hu.findByEmail_eq.mpr ⟨hm, rfl⟩
  simp only [Store.signIn, login, Plan.findByEmail, hc]
  rw [Plan.run_ofExcept, Plan.run_call (by rw [Store.answer, hf]), Plan.run_orRefuse]
  split
  · rfl
  · rfl

theorem changePassword_eq (hu : users.Addressed) (hm : u ∈ users.values) {c : PasswordChange} {d : Draws}
    {old p : Clear} (hc : c.check P = .ok (old, p)) :
    ((changePassword P s d u.id c).run Store.answer t users).1 =
      if u.password.verify P old s.pepper then .ok .passwordChanged
      else .error (.validation "changePassword.oldPasswordIncorrect") := by
  have hg := hu.mem_values.mp hm
  split
  · rename_i hv
    exact congrArg Prod.fst (changePassword_alone hc hg rfl hv (hu.own_email hg))
  · rename_i hv
    simp only [changePassword, hc, Plan.findById]
    rw [Plan.run_ofExcept, Plan.run_call (by rw [Store.answer, hg]), Plan.run_orRefuse]
    dsimp only
    rw [if_neg hv]
    rfl

end Comparisons

/-- The password that a command sets, as it is taken: with its blanks for a new account, and without those around
it otherwise. -/
def Command.chosen? : Command → Option String
  | .register r => r.password
  | .createAdmin a => a.password
  | .resetPassword r => nonBlank r.password
  | .changePassword _ c => nonBlank c.password
  | _ => none

/-- A request that ends with an outcome has set the password of an account.  A token is exchanged by an account that
waited for it. -/
inductive Arrival.SetsFor (P : Primitives) (before : Store) : Arrival → Outcome → UserId → Prop where
  | register {r d t u tokens} : SetsFor P before ⟨.register r, d, t⟩ (.registered u tokens) u.id
  | createAdmin {a d t u} : SetsFor P before ⟨.createAdmin a, d, t⟩ (.adminCreated u) u.id
  | resetPassword {r d t token id v} (ht : nonBlank r.token = some token) (hg : before.get? id = some v)
    (hv : v.resetHash = some (ResetToken.hash P ⟨token⟩)) :
    SetsFor P before ⟨.resetPassword r, d, t⟩ .passwordReset id
  | changePassword {who c d t} : SetsFor P before ⟨.changePassword who c, d, t⟩ .passwordChanged who

theorem nonBlank_ne_empty {x : Option String} {w : String} (h : nonBlank x = some w) : w ≠ "" := by
  rintro rfl
  simpa using (Option.filter_eq_some_iff.mp h).2

theorem unlessBlank_ne_empty {x : Option String} {w : String} (h : unlessBlank x = some w) : w ≠ "" := by
  rintro rfl
  exact absurd (Option.filter_eq_some_iff.mp h).2 (by decide)

namespace Arrival

variable {P : Primitives} {s : Settings} {a : Arrival} {k : Progress} {users : Store} {now : Instant}
  {c c' : Call} {o : Outcome} {w : String}

/-- A request that is told by an answer that it has changed the users has done so by that call. -/
theorem Asks.written (h : a.Asks P s k c)
    (hw : (k.learn now c (users.answer now c).1).wrote = some (c', true)) :
    c' = c ∧ a.Writes P s k c ∧ users.Written now c (users.answer now c).2 := by
  have hn : (k.learn now c (users.answer now c).1).wrote ≠ none := by
    rw [hw]
    simp
  rcases users.answer_cases now c k with ⟨hd, hl⟩ | ⟨_, _, hl | hl⟩
  · rw [hl] at hw
    cases hw
    exact ⟨rfl, h.writes_of_learn hn, hd⟩
  · rw [hl, h.wrote_none] at hn
    exact absurd rfl hn
  · rw [hl] at hw
    cases hw

/-- A request that sets a password has done so when it succeeds. -/
theorem Yields.wrote_of_chosen (h : a.Yields P s k o) (hw : a.command.chosen? = some w) :
    ∃ c, k.wrote = some (c, true) := by
  cases h with
  | registered h | passwordReset h | passwordChanged h | adminCreated h => exact ⟨_, h⟩
  | _ => cases hw

/-- A password is put down as it was taken, for the account it was set for. -/
theorem Asks.sets_password (h : a.Asks P s k c) (hy : a.Yields P s (k.learn now c (users.answer now c).1) o)
    (hw : a.command.chosen? = some w)
    (hf : ∀ u, k.found = some (some u) → ∀ who x, a.command = .changePassword who x → u.id = who) :
    ∃ id u, a.SetsFor P users o id ∧ Keyed.get? (users.answer now c).2 id = some u ∧
      u.password = (Clear.forVerification P w).hash P s.pepper a.draws.salt ∧ w ≠ "" := by
  obtain ⟨c', hk⟩ := hy.wrote_of_chosen hw
  obtain ⟨rfl, hx, hd⟩ := h.written hk
  generalize (users.answer now c').2 = users' at hd
  generalize k.learn now c' _ = k' at hk hy
  cases hx with
  | @register r d t _ op hc =>
    cases hy with
    | registered hr =>
    cases hk.symm.trans hr
    cases hd
    obtain ⟨w', hs, ho⟩ := (Registration.check_read hc).password
    cases hw.symm.trans (unlessBlank_eq_some hs)
    exact ⟨_, _, .register, by rw [Keyed.get?_put, if_pos rfl], by rw [Opening.user, passwordOf_eq ho]; rfl,
      unlessBlank_ne_empty hs⟩
  | @createAdmin r d t _ op role hc =>
    cases hy with
    | adminCreated hr =>
    cases hk.symm.trans hr
    cases hd
    obtain ⟨w', hs, ho⟩ := (Appointment.check_read hc).1.password
    cases hw.symm.trans (unlessBlank_eq_some hs)
    exact ⟨_, _, .createAdmin, by rw [Keyed.get?_put, if_pos rfl], by rw [Opening.user, passwordOf_eq ho]; rfl,
      unlessBlank_ne_empty hs⟩
  | @resetPassword r d t _ u token p hc hu hm =>
    obtain ⟨w', ha, rfl⟩ := Reset.check_eq_ok.mp hc
    cases hw.symm.trans ha.password
    cases hy
    cases hd with
    | @consumeReset _ _ _ _ v hg hl =>
    simp only [Store.resetLive, Bool.and_eq_true, decide_eq_true_eq] at hl
    exact ⟨_, _, .resetPassword ha.token hg hl.1, by rw [Keyed.get?_put, if_pos rfl], rfl,
      nonBlank_ne_empty ha.password⟩
  | @changePassword who r d t _ u old p hc hu hv =>
    obtain ⟨_, w', _, ha, _, rfl⟩ := PasswordChange.check_eq_ok.mp hc
    cases hw.symm.trans ha.password
    cases hy
    cases hd
    obtain rfl := hf u hu _ _ rfl
    exact ⟨_, _, .changePassword, by rw [Keyed.get?_put]; exact if_pos rfl, rfl,
      nonBlank_ne_empty ha.password⟩
  | _ => cases hw

end Arrival

section Runs

variable {P : Primitives} {s : Settings} {users : Store}

/-- A request that looks for a user by the identifier finds the user who has it. -/
theorem Lawful.found_own {as : List Arrival} {log : List Step} (hk : users.Kept)
    (h : Lawful P s as users log) {i : Nat} {a : Arrival} (ha : as[i]? = some a) {who : UserId}
    (hl : ∀ c, a.Looks P s c → c = .findById who) {u : User}
    (hf : (heard i a.since log).found = some (some u)) : u.id = who := by
  obtain ⟨e, he, rfl, hu⟩ := h.finds hf
  obtain ⟨b, hb, hlook, _⟩ := h.found_of_finds he hu
  obtain rfl : a = b := Option.some.inj (ha.symm.trans hb)
  obtain ⟨l, log', rfl⟩ := List.append_of_mem he
  have hd := h.drop
  have hx := hd.finds_at hu
  rw [hl _ hlook] at hx
  exact (hd.tail.kept hk).own_of_get? (Store.finds_findById.mp hx)

namespace World

variable {w : World} {i : Nat} {now : Instant} {a : Arrival}

/-- A request that a turn has brought to its end has had its last call answered. -/
theorem Orderly.ended (h : w.Orderly P s users) {c : Call}
    {next : Instant → Except Refusal c.Answer → Plan Outcome} {r : Except Refusal Outcome}
    (hb : w.tasks[i]? = some ⟨a, .ask c next⟩)
    (he : (w.apply P s (.turn i now)).tasks[i]? = some ⟨a, .done r⟩) :
    w.arrivals[i]? = some a ∧ a.Asks P s (heard i a.since w.log) c ∧
      (w.apply P s (.turn i now)).users = (w.users.answer now c).2 ∧
      a.Ends P s ((heard i a.since w.log).learn now c (w.users.answer now c).1) r := by
  have hlt : i < w.tasks.length := (List.getElem?_eq_some_iff.mp hb).1
  obtain ⟨hc, hn⟩ := h.conduct i _ hb
  have hx : w.apply P s (.turn i now) = w.proceed i now a c next := by simp only [apply, hb]
  rw [hx] at he ⊢
  simp only [World.proceed, List.getElem?_set_self hlt] at he
  have hr := (Task.mk.inj (Option.some.inj he)).2
  have hn := hn now (w.users.answer now c).1
  rw [hr] at hn
  exact ⟨by simp [arrivals, hb], hc, rfl, hn⟩

end World

/-- Whoever has just set a password signs in with it, as it was taken, and with every text of the same normal
form: when a turn of a request to register, to appoint somebody, to reset or to change a password has ended it with
success, whatever other requests there are. -/
theorem chosen_password_signs_in (hl : P.lower [] = []) (hv : P.Accepts) (hu : users.Addressed)
    {es : List Event} {before after : World} {i : Nat} {now : Instant} {a : Arrival} {c : Call}
    {next : Instant → Except Refusal c.Answer → Plan Outcome} {o : Outcome} {w : String}
    (hes : before = (World.opening users).run P s es) (hturn : after = before.apply P s (.turn i now))
    (hb : before.tasks[i]? = some ⟨a, .ask c next⟩) (ha : after.tasks[i]? = some ⟨a, .done (.ok o)⟩)
    (hw : a.command.chosen? = some w) :
    ∃ id u, a.SetsFor P before.users o id ∧ after.users.get? id = some u ∧ w ≠ "" ∧
      ∀ e t q, Email.parse P e = .ok u.email → q ≠ "" → P.normal q.toList = P.normal w.toList →
        after.users.signIn P s t e q = .ok (.signedIn u (s.keys.issuePair P u.subject t)) := by
  subst hes hturn
  have ho := World.run_orderly (P := P) (s := s) users es
  have hd := World.run_addressed (P := P) (s := s) hu es
  generalize (World.opening users).run P s es = before at hb ha ho hd
  obtain ⟨hi, hc, hs, hy⟩ := ho.ended hb ha
  rw [hs]
  have hf : ∀ u, (heard i a.since before.log).found = some (some u) →
      ∀ who x, a.command = .changePassword who x → u.id = who := by
    intro u hf who x hx
    refine ho.lawful.found_own hu.toKept hi ?_ hf
    obtain ⟨_, d, t⟩ := a
    obtain rfl := hx
    rintro _ ⟨⟩
    rfl
  obtain ⟨id, u, hfor, hg, hp, hn⟩ := hc.sets_password hy hw hf
  have hd := hd.answer now c
  have hm : u ∈ (before.users.answer now c).2.values := by
    have hi := hd.own_of_get? hg
    exact hd.mem_values.mpr (hi ▸ hg)
  refine ⟨id, u, hfor, hg, hn, ?_⟩
  intro e t q he hq hnorm
  rw [hd.signIn_eq hl hm he hq, hp]
  have hx : Clear.forVerification P q = .forVerification P w := congrArg Clear.mk hnorm
  rw [hx]
  exact if_pos (hv _ _)

end Runs

/-- Ann sets a new password, with blanks around it. -/
def padded : Arrival :=
  ⟨.changePassword (.ofNat 1) ⟨some "secret", some " Indigo-88 ", some " Indigo-88 "⟩,
    ⟨.ofNat 2, [7], ⟨""⟩⟩, 4⟩

def beforePadded : World := (World.opening newcomer).run .unsalted .usual [.arrive padded, .turn 0 5]

def afterPadded : World := beforePadded.apply .unsalted .usual (.turn 0 6)

theorem padded_waits : ∃ c next, beforePadded.tasks[0]? = some ⟨padded, .ask c next⟩ := ⟨_, _, rfl⟩

theorem padded_done : afterPadded.tasks[0]? = some ⟨padded, .done (.ok .passwordChanged)⟩ := rfl

theorem padded_email : (afterPadded.users.get? (.ofNat 1)).map (·.email) = some ⟨"ann@b.co"⟩ := by
  decide +kernel

/-- The very text that was sent does not sign in if it has blanks around it. -/
theorem sent_password_fails : Primitives.unsalted.Accepts ∧ newcomer.Addressed ∧
    (∃ c next, beforePadded.tasks[0]? = some ⟨padded, .ask c next⟩) ∧
    afterPadded.tasks[0]? = some ⟨padded, .done (.ok .passwordChanged)⟩ ∧
    (∃ c, padded.command = .changePassword (.ofNat 1) c ∧ c.password = some " Indigo-88 ") ∧
    (afterPadded.users.get? (.ofNat 1)).map (·.email) = some ⟨"ann@b.co"⟩ ∧
    afterPadded.users.signIn .unsalted .usual 7 "ann@b.co" " Indigo-88 " = .error .invalidCredentials :=
  ⟨Primitives.unsalted_faithful.accepts, newcomer_fresh.toAddressed, padded_waits, padded_done,
    ⟨_, rfl, rfl⟩, padded_email, rfl⟩

theorem padded_signs_in :
    Primitives.unsalted.lower [] = [] ∧ Primitives.unsalted.Accepts ∧ newcomer.Addressed ∧
    (∃ c next, beforePadded.tasks[0]? = some ⟨padded, .ask c next⟩) ∧
    afterPadded.tasks[0]? = some ⟨padded, .done (.ok .passwordChanged)⟩ ∧
    padded.command.chosen? = some "Indigo-88" ∧
    ∃ u tokens, afterPadded.users.get? (.ofNat 1) = some u ∧
      afterPadded.users.signIn .unsalted .usual 7 " Ann@b.co" "Indigo-88" = .ok (.signedIn u tokens) := by
  obtain ⟨c, next, hb⟩ := padded_waits
  have hw : padded.command.chosen? = some "Indigo-88" := by decide +kernel
  have hv := Primitives.unsalted_faithful.accepts
  have hes : beforePadded = (World.opening newcomer).run .unsalted .usual [.arrive padded, .turn 0 5] := rfl
  have hturn : afterPadded = beforePadded.apply .unsalted .usual (.turn 0 6) := rfl
  obtain ⟨id, u, hfor, hg, _, hs⟩ :=
    chosen_password_signs_in rfl hv newcomer_fresh.toAddressed hes hturn hb padded_done hw
  obtain rfl : id = .ofNat 1 := by
    unfold padded at hfor
    cases hfor
    rfl
  have he : u.email = ⟨"ann@b.co"⟩ := by simpa [hg] using padded_email
  have hx := hs " Ann@b.co" 7 "Indigo-88" (by rw [he]; decide +kernel) (by decide) rfl
  exact ⟨rfl, hv, newcomer_fresh.toAddressed, padded_waits, padded_done, hw, u, _, hg, hx⟩

/-- In every reachable state a user signs in with a password if and only if it is accepted as the old password for
setting another one, where the blanks around it do not count; and then the other one is set. -/
theorem old_password_iff_signs_in {P : Primitives} {s : Settings} {users : Store} (hl : P.lower [] = [])
    (hu : users.Addressed) {es : List Event} {w : World} (hes : w = (World.opening users).run P s es)
    {u : User} (hm : u ∈ w.users.values) {c : PasswordChange} {p new : String} (hp : nonBlank c.old = some p)
    (hc : c.Acceptable P new) {e q : String} (he : Email.parse P e = .ok u.email) (hq : q ≠ "")
    (hn : P.normal q.toList = P.normal p.toList) (d : Draws) (t t' : Instant) :
    ((∃ o, w.users.signIn P s t e q = .ok o) ↔
      ((changePassword P s d u.id c).run Store.answer t' w.users).1 ≠
        .error (.validation "changePassword.oldPasswordIncorrect")) ∧
    ((∃ o, w.users.signIn P s t e q = .ok o) ↔
      ((changePassword P s d u.id c).run Store.answer t' w.users).1 = .ok .passwordChanged) := by
  subst hes
  have hd := World.run_addressed (P := P) (s := s) hu es
  have hx : Clear.forVerification P q = .forVerification P p := congrArg Clear.mk hn
  have hk := PasswordChange.check_eq_ok.mpr ⟨p, new, hp, hc, rfl, rfl⟩
  rw [hd.signIn_eq hl hm he hq, changePassword_eq hd hm hk, hx]
  split
  · simp
  · simp

/-- Bob registers. -/
def bobsWorld (password : String) : World :=
  (World.opening []).run .unsalted .usual
    [.arrive ⟨.register ⟨some "Bob", some "bob@b.co", some password, none⟩, ⟨.ofNat 1, [7], ⟨""⟩⟩, 0⟩,
      .turn 0 1, .turn 0 2]

/-- Bob asks for another password. -/
def bobChanges (old : String) : PasswordChange := ⟨some old, some "Indigo-88", some "Indigo-88"⟩

/-- What Bob is told. -/
def bobIsTold (password : String) : Except Refusal Outcome :=
  ((changePassword .unsalted .usual ⟨.ofNat 2, [8], ⟨""⟩⟩ (.ofNat 1) (bobChanges password)).run Store.answer 4
    (bobsWorld password).users).1

theorem bobChanges_acceptable (old : String) : (bobChanges old).Acceptable .unsalted "Indigo-88" :=
  ⟨by change nonBlank (some "Indigo-88") = _; decide +kernel,
    by change nonBlank (some "Indigo-88") = _; decide +kernel, by decide +kernel⟩

/-- A password with blanks around it that signs in is not good for setting another one. -/
theorem padded_old_password_fails :
    (∃ u ∈ (bobsWorld " Violet-77x ").users.values, u.id = .ofNat 1) ∧
    (∃ o, (bobsWorld " Violet-77x ").users.signIn .unsalted .usual 3 "bob@b.co" " Violet-77x " = .ok o) ∧
    (bobChanges " Violet-77x ").Acceptable .unsalted "Indigo-88" ∧
    bobIsTold " Violet-77x " = .error (.validation "changePassword.oldPasswordIncorrect") :=
  ⟨⟨_, List.mem_singleton_self _, rfl⟩, ⟨_, rfl⟩, bobChanges_acceptable _, rfl⟩

theorem bob_changes_password :
    Primitives.unsalted.lower [] = [] ∧ Store.Addressed [] ∧
    (∃ u ∈ (bobsWorld "Violet-77x").users.values, u.id = .ofNat 1 ∧ u.email = ⟨"bob@b.co"⟩) ∧
    nonBlank (bobChanges "Violet-77x").old = some "Violet-77x" ∧
    (bobChanges "Violet-77x").Acceptable .unsalted "Indigo-88" ∧
    (∃ o, (bobsWorld "Violet-77x").users.signIn .unsalted .usual 3 "bob@b.co" "Violet-77x" = .ok o) ∧
    bobIsTold "Violet-77x" = .ok .passwordChanged := by
  have hu : ∃ u ∈ (bobsWorld "Violet-77x").users.values, u.id = .ofNat 1 ∧ u.email = ⟨"bob@b.co"⟩ :=
    ⟨_, List.mem_singleton_self _, rfl, rfl⟩
  have hp : nonBlank (bobChanges "Violet-77x").old = some "Violet-77x" := by
    change nonBlank (some "Violet-77x") = _
    decide +kernel
  have hi : ∃ o, (bobsWorld "Violet-77x").users.signIn .unsalted .usual 3 "bob@b.co" "Violet-77x" = .ok o :=
    ⟨_, rfl⟩
  have hn : Store.Addressed [] := ⟨.nil, .nil⟩
  refine ⟨rfl, hn, hu, hp, bobChanges_acceptable _, hi, ?_⟩
  obtain ⟨u, hm, hid, he⟩ := hu
  have hparse : Email.parse .unsalted "bob@b.co" = .ok u.email := by
    rw [he]
    decide +kernel
  have hx := old_password_iff_signs_in (P := .unsalted) (s := .usual) rfl hn rfl hm hp (bobChanges_acceptable _)
    hparse (q := "Violet-77x") (by decide) rfl ⟨.ofNat 2, [8], ⟨""⟩⟩ 3 4
  rw [hid] at hx
  exact hx.2.mp hi

end Account
end Storefront
