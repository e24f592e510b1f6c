import Storefront.Account.Service

namespace Storefront.Account

/-- What a request has been told so far. -/
structure Progress where
  /-- The instant of the last answer, or of the arrival. -/
  now : Instant
  /-- The answer to the search for a user. -/
  found : Option (Option User)
  /-- The call that was to change the users, and whether it did. -/
  wrote : Option (Call × Bool)

namespace Progress

def start (now : Instant) : Progress := ⟨now, none, none⟩

def learn (k : Progress) (now : Instant) : (c : Call) → Except Refusal c.Answer → Progress
  | .findById _, .ok u => ⟨now, some u, k.wrote⟩
  | .findByEmail _, .ok u => ⟨now, some u, k.wrote⟩
  | .findByResetHash _, .ok u => ⟨now, some u, k.wrote⟩
  | .create u, a => ⟨now, k.found, some (.create u, a.isOk)⟩
  | .update u, .ok stored => ⟨now, k.found, some (.update u, stored)⟩
  | .update u, .error _ => ⟨now, k.found, some (.update u, false)⟩
  | .consumeReset id h p t, .ok done => ⟨now, k.found, some (.consumeReset id h p t, done)⟩
  | .consumeReset id h p t, .error _ => ⟨now, k.found, some (.consumeReset id h p t, false)⟩
  | .delete id, .ok found => ⟨now, k.found, some (.delete id, found)⟩
  | .delete id, .error _ => ⟨now, k.found, some (.delete id, false)⟩
  | _, _ => ⟨now, k.found, k.wrote⟩

/-- A change of the users is not forgotten. -/
theorem learn_wrote {k : Progress} (h : k.wrote ≠ none) (now : Instant) (c : Call)
    (a : Except Refusal c.Answer) : (k.learn now c a).wrote ≠ none := by
  cases c <;> cases a <;> first | exact h | simp [learn]

theorem learn_now (k : Progress) (now : Instant) (c : Call) (a : Except Refusal c.Answer) :
    (k.learn now c a).now = now := by
  cases c <;> cases a <;> rfl

theorem learn_update (k : Progress) (now : Instant) (u : User) (a : Except Refusal Bool) :
    (k.learn now (.update u) a).wrote ≠ none := by
  cases a <;> simp [learn]

end Progress

namespace Plan

variable {α β : Type} {asks : Progress → Call → Prop} {ends : Progress → Except Refusal α → Prop}
  {last : Progress → Except Refusal β → Prop} {k : Progress}

/-- Whatever it is told, the plan makes only calls it may make, and ends as it may end. -/
def Follows (asks : Progress → Call → Prop) (ends : Progress → Except Refusal α → Prop) :
    Progress → Plan α → Prop
  | k, .done r => ends k r
  | k, .ask c next => asks k c ∧ ∀ now a, Follows asks ends (k.learn now c a) (next now a)

theorem follows_pure {x : β} (h : last k (.ok x)) : (pure x : Plan β).Follows asks last k := h

theorem follows_refuse {r : Refusal} (h : last k (.error r)) :
    (refuse r : Plan β).Follows asks last k := h

theorem follows_ofExcept {r : Except Refusal α} {f : α → Plan β}
    (hf : ∀ x, r = .ok x → (f x).Follows asks last k) (he : ∀ e, last k (.error e)) :
    (ofExcept r >>= f).Follows asks last k := by
  cases r with
  | ok x => exact hf x rfl
  | error e => exact he e

theorem follows_orRefuse {a : Option α} {r : Refusal} {f : α → Plan β}
    (hf : ∀ x, a = some x → (f x).Follows asks last k) (he : last k (.error r)) :
    (orRefuse a r >>= f).Follows asks last k := by
  cases a with
  | some x => exact hf x rfl
  | none => exact he

theorem follows_call {c : Call} {f : Instant × c.Answer → Plan β} (ha : asks k c)
    (hf : ∀ now a, (f (now, a)).Follows asks last (k.learn now c (.ok a)))
    (he : ∀ now e r, last (k.learn now c (.error e)) (.error r)) :
    (call c >>= f).Follows asks last k := by
  refine ⟨ha, ?_⟩
  intro now a
  cases a with
  | ok x => exact hf now x
  | error e => exact he now e e

theorem follows_callUnlessTaken {taken : Refusal} {c : Call} {f : Instant × c.Answer → Plan β}
    (ha : asks k c) (hf : ∀ now a, (f (now, a)).Follows asks last (k.learn now c (.ok a)))
    (he : ∀ now e r, last (k.learn now c (.error e)) (.error r)) :
    (callUnlessTaken taken c >>= f).Follows asks last k := by
  refine ⟨ha, ?_⟩
  intro now a
  cases a with
  | ok x => exact hf now x
  | error e => cases e <;> exact he now _ _

end Plan

/-- A command that has come in, with what is drawn for it. -/
structure Arrival where
  command : Command
  draws : Draws
  since : Instant

namespace Arrival

variable {P : Primitives} {s : Settings}

def plan (P : Primitives) (s : Settings) (a : Arrival) : Plan Outcome :=
  a.command.plan P s a.draws a.since

/-- The call by which a request looks for the one user it is about. -/
inductive Looks (P : Primitives) (s : Settings) : Arrival → Call → Prop where
  | login {c d t e p} (h : c.check P = .ok (e, p)) : Looks P s ⟨.login c, d, t⟩ (.findByEmail e)
  | refresh {token d t id} (h : refreshOwner P s token t = .ok id) :
    Looks P s ⟨.refresh token, d, t⟩ (.findById id)
  | forgotPassword {email d t e text} (ht : nonBlank email = some text)
    (h : Email.parse P text = .ok e) : Looks P s ⟨.forgotPassword email, d, t⟩ (.findByEmail e)
  | resetPassword {r d t token p} (h : r.check P = .ok (token, p)) :
    Looks P s ⟨.resetPassword r, d, t⟩ (.findByResetHash (token.hash P))
  | profile {who d t} : Looks P s ⟨.profile who, d, t⟩ (.findById who)
  | updateProfile {who c d t} : Looks P s ⟨.updateProfile who c, d, t⟩ (.findById who)
  | changePassword {who c d t} : Looks P s ⟨.changePassword who c, d, t⟩ (.findById who)
  | updateUser {id c d t} : Looks P s ⟨.updateUser id c, d, t⟩ (.findById id)

/-- The call by which a request changes the users.  What it stores is made of the user it has found. -/
inductive Writes (P : Primitives) (s : Settings) : Arrival → Progress → Call → Prop where
  | register {r d t k o} (h : r.check P = .ok o) :
    Writes P s ⟨.register r, d, t⟩ k (.create (o.user P s d .user k.now))
  | createAdmin {a d t k o role} (h : a.check P = .ok (o, role)) :
    Writes P s ⟨.createAdmin a, d, t⟩ k (.create (o.user P s d role k.now))
  | forgotPassword {email d t k u} (hf : k.found = some (some u)) (hr : k.now.Reaches s.resetLifetime) :
    Writes P s ⟨.forgotPassword email, d, t⟩ k
      (.update (u.issueReset P d.token s.resetTtlMs k.now))
  | resetPassword {r d t k u token p} (h : r.check P = .ok (token, p))
    (hf : k.found = some (some u)) (hm : u.resetMatches P token k.now = true) :
    Writes P s ⟨.resetPassword r, d, t⟩ k
      (.consumeReset u.id (token.hash P) (p.hash P s.pepper d.salt) k.now)
  | updateProfile {who c d t k u name email} (h : c.check P = .ok (name, email))
    (hf : k.found = some (some u)) :
    Writes P s ⟨.updateProfile who c, d, t⟩ k (.update (u.updateProfile name email k.now))
  | changePassword {who c d t k u old p} (h : c.check P = .ok (old, p))
    (hf : k.found = some (some u)) (hv : u.password.verify P old s.pepper = true) :
    Writes P s ⟨.changePassword who c, d, t⟩ k
      (.update (u.changePassword (p.hash P s.pepper d.salt) k.now))
  | deleteAccount {who d t k} : Writes P s ⟨.deleteAccount who, d, t⟩ k (.delete who)
  | deleteUser {id d t k} : Writes P s ⟨.deleteUser id, d, t⟩ k (.delete id)
  | updateUser {id c d t k u name email role} (h : c.check P = .ok (name, email, role))
    (hf : k.found = some (some u)) :
    Writes P s ⟨.updateUser id c, d, t⟩ k (.update (u.administer name email role k.now))

/-- The requests that store a record with the reset that was pending when they found it. -/
inductive Edits : Arrival → Prop where
  | updateProfile {who c d t} : Edits ⟨.updateProfile who c, d, t⟩
  | updateUser {id c d t} : Edits ⟨.updateUser id c, d, t⟩

/-- The address that a request would like to have, so that it asks whether it is free. -/
inductive Wants (P : Primitives) : Arrival → Email → Prop where
  | register {r d t o} (h : r.check P = .ok o) : Wants P ⟨.register r, d, t⟩ o.email
  | createAdmin {a d t o role} (h : a.check P = .ok (o, role)) :
    Wants P ⟨.createAdmin a, d, t⟩ o.email
  | updateProfile {who c d t name e} (h : c.check P = .ok (name, some e)) :
    Wants P ⟨.updateProfile who c, d, t⟩ e
  | updateUser {id c d t name e role} (h : c.check P = .ok (name, some e, role)) :
    Wants P ⟨.updateUser id c, d, t⟩ e

/-- The calls a request may make next.  It looks for a user once, and nothing follows its change of the
users. -/
inductive Asks (P : Primitives) (s : Settings) (a : Arrival) (k : Progress) : Call → Prop where
  | looks {c} (h : a.Looks P s c) (hf : k.found = none) (hw : k.wrote = none) : Asks P s a k c
  | exists {e} (h : a.Wants P e) (hw : k.wrote = none) : Asks P s a k (.existsByEmail e)
  | list (h : a.command = .listUsers) (hw : k.wrote = none) : Asks P s a k .list
  | writes {c} (h : a.Writes P s k c) (hw : k.wrote = none) : Asks P s a k c

theorem Asks.wrote_none {a : Arrival} {k : Progress} {c : Call} (h : a.Asks P s k c) :
    k.wrote = none := by
  cases h <;> assumption

/-- Only a change of the users is remembered as one. -/
theorem Asks.writes_of_learn {a : Arrival} {k : Progress} {c : Call} (h : a.Asks P s k c)
    {now : Instant} {r : Except Refusal c.Answer} (hr : (k.learn now c r).wrote ≠ none) :
    a.Writes P s k c := by
  cases h with
  | looks h _ hw => cases h <;> cases r <;> exact absurd hw hr
  | «exists» _ hw => cases r <;> exact absurd hw hr
  | list _ hw => cases r <;> exact absurd hw hr
  | writes h => exact h

/-- A change of the users finds nobody. -/
theorem Writes.found_learn {a : Arrival} {k : Progress} {c : Call} (h : a.Writes P s k c)
    (now : Instant) (r : Except Refusal c.Answer) : (k.learn now c r).found = k.found := by
  cases h <;> cases r <;> rfl

theorem Writes.learn_wrote {a : Arrival} {k : Progress} {c : Call} (h : a.Writes P s k c)
    (k' : Progress) (now : Instant) (r : Except Refusal c.Answer) : (k'.learn now c r).wrote ≠ none := by
  cases h <;> cases r <;> simp [Progress.learn]

/-- A request changes a user that it has found. -/
theorem Writes.found_update {a : Arrival} {k : Progress} {f : User} (h : a.Writes P s k (.update f)) :
    ∃ u, k.found = some (some u) := by
  cases h with
  | forgotPassword hf => exact ⟨_, hf⟩
  | updateProfile _ hf => exact ⟨_, hf⟩
  | changePassword _ hf => exact ⟨_, hf⟩
  | updateUser _ hf => exact ⟨_, hf⟩

/-- A user keeps the identifier it was found with. -/
theorem Writes.update_id {a : Arrival} {k : Progress} {u f : User} (hw : a.Writes P s k (.update f))
    (hf : k.found = some (some u)) : f.id = u.id := by
  cases hw with
  | forgotPassword h => cases h.symm.trans hf; rfl
  | updateProfile _ h => cases h.symm.trans hf; rfl
  | changePassword _ h => cases h.symm.trans hf; rfl
  | @updateUser _ _ _ _ _ _ _ _ role _ h => cases h.symm.trans hf; cases role <;> rfl

/-- A request that has found a user, or none, looks no more. -/
theorem Asks.found_learn {a : Arrival} {k : Progress} {c : Call} (h : a.Asks P s k c)
    (hk : k.found ≠ none) (now : Instant) (r : Except Refusal c.Answer) :
    (k.learn now c r).found = k.found := by
  cases h with
  | looks _ hf => exact absurd hf hk
  | «exists» => cases r <;> rfl
  | list => cases r <;> rfl
  | writes h => exact h.found_learn now r

/-- What a request may end with when it succeeds. -/
inductive Yields (P : Primitives) (s : Settings) : Arrival → Progress → Outcome → Prop where
  | registered {r d t k u} (hw : k.wrote = some (.create u, true)) :
    Yields P s ⟨.register r, d, t⟩ k (.registered u (s.keys.issuePair P u.subject k.now))
  | signedIn {c d t k u e p} (h : c.check P = .ok (e, p)) (hf : k.found = some (some u))
    (hv : u.password.verify P p s.pepper = true) :
    Yields P s ⟨.login c, d, t⟩ k (.signedIn u (s.keys.issuePair P u.subject k.now))
  | refreshed {token d t k u} (hf : k.found = some (some u)) :
    Yields P s ⟨.refresh token, d, t⟩ k (.refreshed (s.keys.issue P .access u.subject k.now))
  | signedOut {d t k} : Yields P s ⟨.logout, d, t⟩ k .signedOut
  | noLink {email d t k} (hw : ∀ c, k.wrote ≠ some (c, true)) :
    Yields P s ⟨.forgotPassword email, d, t⟩ k (.resetLink none)
  | resetLink {email d t k c} (hw : k.wrote = some (c, true)) :
    Yields P s ⟨.forgotPassword email, d, t⟩ k (.resetLink (some (s.resetLink d.token.text)))
  | passwordReset {r d t k c} (hw : k.wrote = some (c, true)) :
    Yields P s ⟨.resetPassword r, d, t⟩ k .passwordReset
  | profile {who d t k u} (hf : k.found = some (some u)) :
    Yields P s ⟨.profile who, d, t⟩ k (.profile u)
  | profileUpdated {who c d t k u} (hw : k.wrote = some (.update u, true)) :
    Yields P s ⟨.updateProfile who c, d, t⟩ k (.profileUpdated u)
  | passwordChanged {who c d t k w} (hw : k.wrote = some (w, true)) :
    Yields P s ⟨.changePassword who c, d, t⟩ k .passwordChanged
  | accountDeleted {who d t k c} (hw : k.wrote = some (c, true)) :
    Yields P s ⟨.deleteAccount who, d, t⟩ k .accountDeleted
  | adminCreated {a d t k u} (hw : k.wrote = some (.create u, true)) :
    Yields P s ⟨.createAdmin a, d, t⟩ k (.adminCreated u)
  | users {d t k us} : Yields P s ⟨.listUsers, d, t⟩ k (.users us)
  | userDeleted {id d t k c} (hw : k.wrote = some (c, true)) :
    Yields P s ⟨.deleteUser id, d, t⟩ k .userDeleted
  | userUpdated {id c d t k u} (hw : k.wrote = some (.update u, true)) :
    Yields P s ⟨.updateUser id c, d, t⟩ k (.userUpdated u)

/-- What a request may end with: a refused one has changed nothing. -/
def Ends (P : Primitives) (s : Settings) (a : Arrival) (k : Progress) :
    Except Refusal Outcome → Prop
  | .ok o => a.Yields P s k o
  | .error _ => ∀ c, k.wrote ≠ some (c, true)

theorem Ends.refused {a : Arrival} {k : Progress} (hw : k.wrote = none) (e : Refusal) :
    a.Ends P s k (.error e) := by
  intro c hc
  rw [hw] at hc
  cases hc

theorem Ends.failed {a : Arrival} {k : Progress} {c : Call} (hw : k.wrote = some (c, false))
    (e : Refusal) : a.Ends P s k (.error e) := by
  intro c' hc
  rw [hw] at hc
  cases hc

/-- The conduct of what is left of one request after it has been told `k`. -/
abbrev Conducts (P : Primitives) (s : Settings) (a : Arrival) (k : Progress) (p : Plan Outcome) :
    Prop :=
  p.Follows (a.Asks P s) (a.Ends P s) k

section Commands
open Plan

variable {d : Draws} {t : Instant}

theorem register_conducts (r : Registration) :
    (⟨.register r, d, t⟩ : Arrival).Conducts P s (.start t) (register P s d r) := by
  refine follows_ofExcept (fun o hc => ?_) (Ends.refused rfl)
  refine follows_call (.exists (.register hc) rfl) (fun now taken => ?_) (fun _ _ => Ends.refused rfl)
  dsimp only
  split
  · exact follows_refuse (Ends.refused rfl _)
  · refine follows_call (.writes (.register hc) rfl) (fun now _ => ?_) (fun _ _ => Ends.failed rfl)
    exact follows_pure (.registered rfl)

theorem login_conducts (c : Credentials) :
    (⟨.login c, d, t⟩ : Arrival).Conducts P s (.start t) (login P s c) := by
  refine follows_ofExcept (fun ⟨e, p⟩ hc => ?_) (Ends.refused rfl)
  refine follows_call (.looks (.login hc) rfl rfl) (fun now found => ?_)
    (fun _ _ => Ends.refused rfl)
  refine follows_orRefuse (fun u hu => ?_) (Ends.refused rfl _)
  subst hu
  split
  · rename_i hv
    exact follows_pure (.signedIn hc rfl hv)
  · exact follows_refuse (Ends.refused rfl _)

theorem refresh_conducts (token : Option String) :
    (⟨.refresh token, d, t⟩ : Arrival).Conducts P s (.start t) (refresh P s t token) := by
  refine follows_ofExcept (fun id hc => ?_) (Ends.refused rfl)
  refine follows_call (.looks (.refresh hc) rfl rfl) (fun now found => ?_)
    (fun _ _ => Ends.refused rfl)
  refine follows_orRefuse (fun u hu => ?_) (Ends.refused rfl _)
  subst hu
  exact follows_pure (.refreshed rfl)

theorem forgotPassword_conducts (email : Option String) :
    (⟨.forgotPassword email, d, t⟩ : Arrival).Conducts P s (.start t)
      (forgotPassword P s d email) := by
  refine follows_orRefuse (fun text ht => ?_) (Ends.refused rfl _)
  split
  · exact follows_pure (.noLink (by simp [Progress.start]))
  · rename_i e he
    refine follows_call (.looks (.forgotPassword ht he) rfl rfl) (fun now found => ?_)
      (fun _ _ => Ends.refused rfl)
    cases found with
    | none => exact follows_pure (.noLink (by simp [Progress.learn, Progress.start]))
    | some u =>
      refine follows_orRefuse (fun v hv => ?_) (Ends.refused rfl _)
      obtain ⟨hr, rfl⟩ := User.issueReset?_eq_some.mp hv
      refine follows_call (.writes (.forgotPassword rfl hr) rfl) (fun now stored => ?_)
        (fun _ _ => Ends.failed rfl)
      cases stored with
      | false => exact follows_pure (.noLink (by simp [Progress.learn]))
      | true => exact follows_pure (.resetLink rfl)

theorem resetPassword_conducts (r : Reset) :
    (⟨.resetPassword r, d, t⟩ : Arrival).Conducts P s (.start t) (resetPassword P s d r) := by
  refine follows_ofExcept (fun ⟨token, p⟩ hc => ?_) (Ends.refused rfl)
  refine follows_call (.looks (.resetPassword hc) rfl rfl) (fun now found => ?_)
    (fun _ _ => Ends.refused rfl)
  refine follows_orRefuse (fun u hu => ?_) (Ends.refused rfl _)
  subst hu
  split
  · rename_i hm
    refine follows_call (.writes (.resetPassword hc rfl hm) rfl) (fun now done => ?_)
      (fun _ _ => Ends.failed rfl)
    cases done with
    | false => exact follows_refuse (Ends.failed rfl _)
    | true => exact follows_pure (.passwordReset rfl)
  · exact follows_refuse (Ends.refused rfl _)

theorem profile_conducts (who : UserId) :
    (⟨.profile who, d, t⟩ : Arrival).Conducts P s (.start t) (profile who) := by
  refine follows_call (.looks .profile rfl rfl) (fun now found => ?_) (fun _ _ => Ends.refused rfl)
  refine follows_orRefuse (fun u hu => ?_) (Ends.refused rfl _)
  subst hu
  exact follows_pure (.profile rfl)

/-- Whether an address is free is asked without a change of the users. -/
theorem requireFree_follows {a : Arrival} {k : Progress} {u : User} {email : Option Email}
    {taken : Refusal} {f : Instant → Plan Outcome} (hw : k.wrote = none)
    (he : ∀ e, email = some e → a.Wants P e)
    (hf : ∀ now, (f now).Follows (a.Asks P s) (a.Ends P s) ⟨now, k.found, none⟩) :
    a.Conducts P s k (requireFree u email taken k.now >>= f) := by
  obtain ⟨now, found, wrote⟩ := k
  cases hw
  unfold requireFree
  split
  · exact hf now
  · split
    · exact hf now
    · rename_i e _
      refine ⟨.exists (he e rfl) rfl, ?_⟩
      intro now inUse
      cases inUse with
      | error e => exact Ends.refused rfl e
      | ok inUse =>
        cases inUse with
        | true => exact Ends.refused rfl _
        | false => exact hf now

theorem updateProfile_conducts (who : UserId) (c : ProfileChange) :
    (⟨.updateProfile who c, d, t⟩ : Arrival).Conducts P s (.start t) (updateProfile P who c) := by
  refine follows_ofExcept (fun ⟨name, email⟩ hc => ?_) (Ends.refused rfl)
  refine follows_call (.looks .updateProfile rfl rfl) (fun now found => ?_)
    (fun _ _ => Ends.refused rfl)
  refine follows_orRefuse (fun u hu => ?_) (Ends.refused rfl _)
  subst hu
  refine requireFree_follows (k := ⟨now, some (some u), none⟩) rfl ?_ (fun now => ?_)
  · rintro e rfl
    exact .updateProfile hc
  refine follows_callUnlessTaken (.writes (.updateProfile hc rfl) rfl) (fun now stored => ?_)
    (fun _ _ => Ends.failed rfl)
  cases stored with
  | false => exact follows_refuse (Ends.failed rfl _)
  | true => exact follows_pure (.profileUpdated rfl)

theorem changePassword_conducts (who : UserId) (c : PasswordChange) :
    (⟨.changePassword who c, d, t⟩ : Arrival).Conducts P s (.start t)
      (changePassword P s d who c) := by
  refine follows_ofExcept (fun ⟨old, p⟩ hc => ?_) (Ends.refused rfl)
  refine follows_call (.looks .changePassword rfl rfl) (fun now found => ?_)
    (fun _ _ => Ends.refused rfl)
  refine follows_orRefuse (fun u hu => ?_) (Ends.refused rfl _)
  subst hu
  split
  · rename_i hv
    refine follows_call (.writes (.changePassword hc rfl hv) rfl) (fun now stored => ?_)
      (fun _ _ => Ends.failed rfl)
    cases stored with
    | false => exact follows_refuse (Ends.failed rfl _)
    | true => exact follows_pure (.passwordChanged rfl)
  · exact follows_refuse (Ends.refused rfl _)

theorem deleteAccount_conducts (who : UserId) :
    (⟨.deleteAccount who, d, t⟩ : Arrival).Conducts P s (.start t) (deleteAccount who) := by
  refine follows_call (.writes .deleteAccount rfl) (fun now found => ?_) (fun _ _ => Ends.failed rfl)
  cases found with
  | false => exact follows_refuse (Ends.failed rfl _)
  | true => exact follows_pure (.accountDeleted rfl)

theorem createAdmin_conducts (a : Appointment) :
    (⟨.createAdmin a, d, t⟩ : Arrival).Conducts P s (.start t) (createAdmin P s d a) := by
  refine follows_ofExcept (fun ⟨o, role⟩ hc => ?_) (Ends.refused rfl)
  refine follows_call (.exists (.createAdmin hc) rfl) (fun now taken => ?_) (fun _ _ => Ends.refused rfl)
  dsimp only
  split
  · exact follows_refuse (Ends.refused rfl _)
  · refine follows_callUnlessTaken (.writes (.createAdmin hc) rfl) (fun now _ => ?_)
      (fun _ _ => Ends.failed rfl)
    exact follows_pure (.adminCreated rfl)

theorem listUsers_conducts :
    (⟨.listUsers, d, t⟩ : Arrival).Conducts P s (.start t) listUsers := by
  refine follows_call (.list rfl rfl) (fun now us => ?_) (fun _ _ => Ends.refused rfl)
  exact follows_pure .users

theorem deleteUser_conducts (id : UserId) :
    (⟨.deleteUser id, d, t⟩ : Arrival).Conducts P s (.start t) (deleteUser id) := by
  refine follows_call (.writes .deleteUser rfl) (fun now found => ?_) (fun _ _ => Ends.failed rfl)
  cases found with
  | false => exact follows_refuse (Ends.failed rfl _)
  | true => exact follows_pure (.userDeleted rfl)

theorem updateUser_conducts (id : UserId) (c : UserChange) :
    (⟨.updateUser id c, d, t⟩ : Arrival).Conducts P s (.start t) (updateUser P id c) := by
  refine follows_ofExcept (fun ⟨name, email, role⟩ hc => ?_) (Ends.refused rfl)
  refine follows_call (.looks .updateUser rfl rfl) (fun now found => ?_)
    (fun _ _ => Ends.refused rfl)
  refine follows_orRefuse (fun u hu => ?_) (Ends.refused rfl _)
  subst hu
  refine requireFree_follows (k := ⟨now, some (some u), none⟩) rfl ?_ (fun now => ?_)
  · rintro e rfl
    exact .updateUser hc
  refine follows_callUnlessTaken (.writes (.updateUser hc rfl) rfl) (fun now stored => ?_)
    (fun _ _ => Ends.failed rfl)
  cases stored with
  | false => exact follows_refuse (Ends.failed rfl _)
  | true => exact follows_pure (.userUpdated rfl)

end Commands

/-- Every request conducts itself in this way, whatever it is told.  What is proved of runs, whether their requests
overlap or not, need not look into the plans again. -/
theorem plan_conducts (a : Arrival) : a.Conducts P s (.start a.since) (a.plan P s) := by
  obtain ⟨command, d, t⟩ := a
  cases command with
  | register r => exact register_conducts r
  | login c => exact login_conducts c
  | refresh token => exact refresh_conducts token
  | logout => exact Plan.follows_pure .signedOut
  | forgotPassword email => exact forgotPassword_conducts email
  | resetPassword r => exact resetPassword_conducts r
  | profile who => exact profile_conducts who
  | updateProfile who c => exact updateProfile_conducts who c
  | changePassword who c => exact changePassword_conducts who c
  | deleteAccount who => exact deleteAccount_conducts who
  | createAdmin a => exact createAdmin_conducts a
  | listUsers => exact listUsers_conducts
  | deleteUser id => exact deleteUser_conducts id
  | updateUser id c => exact updateUser_conducts id c

end Arrival

end Storefront.Account
