import Storefront.Proofs.Canonical
import Storefront.Proofs.Overlap
import Storefront.Proofs.Undisturbed

namespace Storefront.Account

/-- The requests that change a user who is there. -/
inductive Arrival.Updates : Arrival → Prop where
  | updateProfile {who c d t} : Updates ⟨.updateProfile who c, d, t⟩
  | changePassword {who c d t} : Updates ⟨.changePassword who c, d, t⟩
  | forgotPassword {email d t} : Updates ⟨.forgotPassword email, d, t⟩
  | resetPassword {r d t} : Updates ⟨.resetPassword r, d, t⟩
  | updateUser {id c d t} : Updates ⟨.updateUser id c, d, t⟩

namespace User

/-- A record without the time stamps that nothing depends on. -/
def settled (u : User) : User := { u with lastPasswordChange := none, updatedAt := 0 }

/-- A record without its time stamps. -/
def timeless (u : User) : User := { u.settled with resetExpires := none }

theorem of_settled {u v : User} (h : u.settled = v.settled) : u.id = v.id ∧ u.email = v.email ∧
    u.resetHash = v.resetHash ∧ u.resetExpires = v.resetExpires :=
  ⟨(congrArg User.id h :), (congrArg User.email h :), (congrArg User.resetHash h :),
    (congrArg User.resetExpires h :)⟩

theorem timeless_of_settled {u v : User} (h : u.settled = v.settled) : u.timeless = v.timeless := by
  rw [timeless, h, timeless]

end User

/-- A record is stored as a request has made it. -/
inductive Step.Replaces : Step → Prop where
  | mk {who now u} : Replaces ⟨who, now, .update u, .ok true⟩

namespace Step

variable {e : Step}

theorem Replaces.changes (h : e.Replaces) : e.Changes := by
  cases h
  exact .update

theorem Finds.not_changes {u : User} (h : e.Finds u) : ¬e.Changes := by
  cases h <;> nofun

theorem Replaces.call (h : e.Replaces) : ∃ u, e.call = .update u := by
  cases h
  exact ⟨_, rfl⟩

theorem Changes.replaces (h : e.Changes) {u : User} (hc : e.call = .update u) : e.Replaces := by
  cases h with
  | update => exact .mk
  | _ => cases hc

end Step

/-- The request has stored a record that it had found before another one changed the users.  The latest
call comes first. -/
def Stale (log : List Step) (i : Nat) : Prop :=
  ∃ back other read, [back, other, read].Sublist log ∧ back.Replaces ∧ other.Changes ∧
    (∃ u, read.Finds u) ∧ back.who = i ∧ read.who = i ∧ other.who ≠ i

/-- A request for a link succeeds when it makes one. -/
def Task.succeeded (t : Task) : Bool :=
  match t.rest with
  | .done (.ok o) => match o with
    | .resetLink none => false
    | _ => true
  | _ => false

namespace World

/-- The request has found the user at `t` and has succeeded. -/
structure Served (w : World) (i : Nat) (u : User) (t : Instant) : Prop where
  found : ∃ e ∈ w.log, e.who = i ∧ e.now = t ∧ e.Finds u
  ended : w.tasks[i]?.any Task.succeeded = true

end World

namespace Arrival

variable {P : Primitives} {s : Settings} {a : Arrival} {users S S' : Store} {t now : Instant}
  {u u' v v' f : User} {k : Progress} {c : Call}

/-- From records that differ in time stamps a request makes such records. -/
theorem Writes.settled (hw : a.Writes P s k (.update f)) (hf : k.found = some (some u))
    (hu : u'.settled = u.settled) (ht : a.Edits ∨ k.now = t) :
    ∃ f', a.Writes P s ⟨t, some (some u'), none⟩ (.update f') ∧ f'.settled = f.settled := by
  cases hw with
  | forgotPassword h hr =>
    cases h.symm.trans hf
    rcases ht with he | rfl
    · cases he
    · refine ⟨_, .forgotPassword rfl hr, ?_⟩
      change (u'.settled.issueReset P _ _ k.now).settled = (u.settled.issueReset P _ _ k.now).settled
      rw [hu]
  | @updateProfile _ _ _ _ _ _ name email hc h =>
    cases h.symm.trans hf
    refine ⟨_, .updateProfile hc rfl, ?_⟩
    change (u'.settled.updateProfile name email t).settled = (u.settled.updateProfile name email t).settled
    rw [hu]
  | changePassword hc h hv =>
    cases h.symm.trans hf
    refine ⟨_, .changePassword hc rfl ?_, ?_⟩
    · change u'.settled.password.verify P _ _ = true
      rwa [hu]
    · change (u'.settled.changePassword _ t).settled = (u.settled.changePassword _ t).settled
      rw [hu]
  | @updateUser _ _ _ _ _ _ name email role hc h =>
    cases h.symm.trans hf
    refine ⟨_, .updateUser hc rfl, ?_⟩
    have hs : ∀ (w : User) (now : Instant), (w.administer name email role now).settled =
        (w.settled.administer name email role 0).settled := by
      intro w now
      cases role <;> rfl
    rw [hs, hu, ← hs]

/-- Alone on a store with the same other addresses, a request stores what it stores in a run. -/
theorem alone_settled (hk : S'.Kept) (hl : a.Looks P s c) (hc : S'.Finds c (some u'))
    (hu : u'.settled = u.settled)
    (hother : ∀ e, S'.emailTakenByOther e u.id = S.emailTakenByOther e u.id)
    (hw : a.Writes P s k (.update f)) (hf : k.found = some (some u)) (ht : a.Edits ∨ k.now = t)
    (hS : S.Written now (.update f) users) :
    ∃ f', users = S.put u.id f ∧ a.alone P s S' t = S'.put u.id f' ∧ f'.settled = f.settled := by
  obtain ⟨f', hw', hs⟩ := hw.settled hf hu ht
  obtain ⟨hid, _⟩ := User.of_settled hu
  obtain ⟨_, hmail, _⟩ := User.of_settled hs
  cases hS with
  | update hfree hg =>
    rw [hw.update_id hf, ← hother, ← hmail, ← hid] at hfree
    refine ⟨f', by rw [hw.update_id hf], ?_, hs⟩
    rw [alone_update hk hl hc hw' hfree, hid]

/-- Alone on a store that has the token, a request sets the password that it sets in a run. -/
theorem alone_reset_settled {id : UserId} {h : String} {p : Password.Hashed} {asOf : Instant}
    (hk : S.Kept) (hk' : S'.Kept) (hw : a.Writes P s k (.consumeReset id h p asOf)) (ht : k.now = t)
    (hS : S.Written now (.consumeReset id h p asOf) users) (hg : S.get? id = some v)
    (hv : v'.settled = v.settled) (hc : S'.findByResetHash h = some v') :
    ∃ f f', users = S.put v.id f ∧ a.alone P s S' t = S'.put v.id f' ∧ f'.settled = f.settled ∧
      f.id = v.id := by
  obtain ⟨hid, _, hhash, hexp⟩ := User.of_settled hv
  cases hw with
  | @resetPassword _ d _ _ _ token p hr hf hm =>
    cases hS with
    | consumeReset hg' hl =>
      cases hg.symm.trans hg'
      subst ht
      have hl' : Store.resetLive v' (token.hash P) k.now = true := by
        rw [Store.resetLive, hhash, hexp]
        exact hl
      refine ⟨v.changePassword (p.hash P s.pepper d.salt) now,
        v'.changePassword (p.hash P s.pepper d.salt) k.now, by rw [hk.own_of_get? hg], ?_, ?_, rfl⟩
      · rw [alone_reset hk' hr hc hl', hid]
      · change (v'.settled.changePassword _ now).settled = (v.settled.changePassword _ now).settled
        rw [hv]

/-- A request stores a record, or consumes a token. -/
theorem Updates.writes (hup : a.Updates) (hw : a.Writes P s k c) (hf : k.found = some (some u)) :
    (∃ f, c = .update f) ∨ ∃ h p t, c = .consumeReset u.id h p t := by
  cases hup with
  | updateProfile => cases hw; exact .inl ⟨_, rfl⟩
  | changePassword => cases hw; exact .inl ⟨_, rfl⟩
  | forgotPassword => cases hw; exact .inl ⟨_, rfl⟩
  | updateUser => cases hw; exact .inl ⟨_, rfl⟩
  | resetPassword =>
    cases hw with
    | resetPassword _ hf' =>
      cases hf.symm.trans hf'
      exact .inr ⟨_, _, _, rfl⟩

/-- Alone, a request that finds the record which is stored leaves what it leaves in a run. -/
theorem alone_current (hup : a.Updates) (hk : S.Kept) (hk' : S'.Kept) (hl : a.Looks P s c)
    (hc : S'.Finds c (some u')) (hu : u'.settled = u.settled)
    (hother : ∀ e, S'.emailTakenByOther e u.id = S.emailTakenByOther e u.id)
    (hg : S.get? u.id = some u) {d : Call} (hw : a.Writes P s k d) (hf : k.found = some (some u))
    (ht : a.Edits ∨ k.now = t) (hS : S.Written now d users) :
    ∃ f f', users = S.put u.id f ∧ a.alone P s S' t = S'.put u.id f' ∧ f'.settled = f.settled ∧
      f.id = u.id := by
  have update : ∀ f, d = .update f → ∃ f f', users = S.put u.id f ∧
      a.alone P s S' t = S'.put u.id f' ∧ f'.settled = f.settled ∧ f.id = u.id := by
    rintro f rfl
    obtain ⟨f', hS, ha, hs⟩ := alone_settled hk' hl hc hu hother hw hf ht hS
    exact ⟨f, f', hS, ha, hs, hw.update_id hf⟩
  cases hup with
  | updateProfile => cases hw; exact update _ rfl
  | changePassword => cases hw; exact update _ rfl
  | forgotPassword => cases hw; exact update _ rfl
  | updateUser => cases hw; exact update _ rfl
  | resetPassword =>
    have ht := ht.resolve_left nofun
    cases hl with
    | resetPassword hr =>
      cases hw with
      | resetPassword hr' hf' hm =>
        cases hr.symm.trans hr'
        cases hf.symm.trans hf'
        exact alone_reset_settled hk hk' (.resetPassword hr hf hm) ht hS hg hu
          (Store.finds_findByResetHash.mp hc)

/-- A user that is found in place of the stored record is found in place of one that differs in time
stamps. -/
theorem finds_put (hk : users.Kept) (hf : f.id = u.id) (hs : v.settled = f.settled)
    (hc : Store.Finds (users.put u.id f) c (some u')) (hu : u'.id = u.id) :
    u' = f ∧ Store.Finds (users.put u.id v) c (some v) := by
  obtain ⟨hid, hmail, hhash, _⟩ := User.of_settled hs
  rw [← hf] at hc hu ⊢
  have hkf := hk.put f
  have hg := hkf.get?_of_finds hc rfl
  rw [Keyed.get?_put, if_pos hu] at hg
  obtain rfl := Option.some.inj hg
  refine ⟨rfl, ?_⟩
  generalize hr : some f = r at hc
  cases hc with
  | byId =>
    rw [Store.finds_findById, Keyed.get?_put, if_pos (hkf.own_of_get? hr.symm).symm]
  | byEmail =>
    have he := List.find?_some hr.symm
    simp only [decide_eq_true_eq] at he
    rw [Store.finds_findByEmail]
    simp [Store.findByEmail, Keyed.values, Keyed.put, hmail, he]
  | byResetHash =>
    have he := List.find?_some hr.symm
    simp only [decide_eq_true_eq] at he
    rw [Store.finds_findByResetHash]
    simp [Store.findByResetHash, Keyed.values, Keyed.put, hhash, he]

end Arrival

section Logs

variable {P : Primitives} {s : Settings} {as : List Arrival} {users : Store} {log l₁ l₂ l₃ : List Step}
  {first last read read' : Step} {a b : Arrival} {u v : User}

/-- A request that asks for nothing after its search decides at the instant of the answer to it. -/
theorem Lawful.decides (h : Lawful P s as users log) (hr : read ∈ log) (hf : read.Finds u)
    (ha : as[read.who]? = some a) (hup : a.Updates)
    (hw : (heard read.who a.since log).wrote = none) :
    a.Edits ∨ (heard read.who a.since log).now = read.now := by
  induction h with
  | nil => cases hr
  | @cons log who b h hb now c hc ih =>
    rcases List.mem_cons.mp hr with rfl | hr'
    · right
      rw [heard, if_pos rfl]
      exact Progress.learn_now _ _ _ _
    · by_cases hi : who = read.who
      · subst hi
        obtain rfl : a = b := Option.some.inj (ha.symm.trans hb)
        obtain ⟨b', hb', _, hfound⟩ := h.found_of_finds hr' hf
        obtain rfl : a = b' := Option.some.inj (ha.symm.trans hb')
        rw [heard, if_pos rfl] at hw
        cases hc with
        | looks _ hn => cases hn.symm.trans hfound
        | «exists» hwant =>
          left
          cases hwant with
          | updateProfile => exact .updateProfile
          | updateUser => exact .updateUser
          | register => cases hup
          | createAdmin => cases hup
        | list hl => cases hup <;> cases hl
        | writes hwr => exact absurd hw (hwr.learn_wrote _ _ _)
      · rw [heard, if_neg hi] at hw ⊢
        exact ih hr' hw

theorem Lawful.finds_before (h : Lawful P s as users (l₁ ++ log)) (hq : ∀ e ∈ l₁, ¬e.Changes)
    (hr : read ∈ l₁) (hf : read.Finds u) : (replay users log).Finds read.call (some u) := by
  obtain ⟨p, q, rfl⟩ := List.append_of_mem hr
  rw [List.append_assoc, List.cons_append] at h
  have hl := h.drop
  have hq' : ∀ e ∈ q, ¬e.Changes := fun e he => hq e (by simp [he])
  rw [← hl.tail.replay_append hq']
  exact hl.finds_at hf

/-- A change is made of the user that the request had found. -/
theorem Lawful.change_of_found (h : Lawful P s as users (last :: log)) (hc : last.Changes)
    (ha : as[last.who]? = some a) (hup : a.Updates) (hr : read ∈ log) (hw : read.who = last.who)
    (hf : read.Finds u) :
    a.Looks P s read.call ∧ (replay users log).Written last.now last.call (replay users (last :: log)) ∧
      ∃ k, a.Writes P s k last.call ∧ k.found = some (some u) ∧ (a.Edits ∨ k.now = read.now) := by
  obtain ⟨hwr, b, hb, hwrites⟩ := h.written_at hc
  obtain rfl : a = b := Option.some.inj (ha.symm.trans hb)
  obtain ⟨_, b, hb', hask⟩ := h.head
  obtain rfl : a = b := Option.some.inj (ha.symm.trans hb')
  obtain ⟨b, hb'', hlook, hfound⟩ := h.tail.found_of_finds hr hf
  have hd := h.tail.decides (a := a) hr hf (hw ▸ ha) hup
  rw [hw] at hb'' hfound hd
  obtain rfl : a = b := Option.some.inj (ha.symm.trans hb'')
  exact ⟨hlook, hwr, _, hwrites, hfound, hd hask.wrote_none⟩

/-- What the first change makes of the users, and what the request would have made of them alone. -/
theorem Lawful.first_change (hk : users.Kept) (h : Lawful P s as users (first :: l₃))
    (hq : ∀ e ∈ l₃, ¬e.Changes) (hc : first.Changes) (ha : as[first.who]? = some a)
    (hup : a.Updates) (hr : read ∈ l₃) (hw : read.who = first.who) (hf : read.Finds u) :
    ∃ f f', replay users (first :: l₃) = users.put u.id f ∧
      a.alone P s users read.now = users.put u.id f' ∧ f'.settled = f.settled ∧ f.id = u.id := by
  have hl : Lawful P s as users (l₃ ++ []) := by simpa using h.tail
  have hu : replay users l₃ = users := by simpa [replay] using hl.replay_append hq
  have hfind : users.Finds read.call (some u) := hl.finds_before hq hr hf
  obtain ⟨hlook, hwr, k, hwrites, hfound, ht⟩ := h.change_of_found hc ha hup hr hw hf
  rw [hu] at hwr
  exact Arrival.alone_current hup hk hk hlook hfind rfl (fun _ => rfl) (hk.get?_of_finds hfind rfl)
    hwrites hfound ht hwr

/-- The record of a user without its time stamps. -/
def Store.record (users : Store) (id : UserId) : Option User := (users.get? id).map User.timeless

theorem record_put {f g : User} (h : f.settled = g.settled) (users users' : Store) (id : UserId) :
    Store.record (users.put id f) id = Store.record (users'.put id g) id := by
  simp [Store.record, Keyed.get?_put, User.timeless_of_settled h]

/-- A request that has found the user after the other one's change leaves what it leaves when it comes
after the other one. -/
theorem Lawful.both_of_fresh (hk : users.Kept) (h : Lawful P s as users (last :: (l₂ ++ first :: l₃)))
    (hq₂ : ∀ e ∈ l₂, ¬e.Changes) (hq₃ : ∀ e ∈ l₃, ¬e.Changes) (hcl : last.Changes)
    (hcf : first.Changes) (ha : as[first.who]? = some a) (hua : a.Updates)
    (hb : as[last.who]? = some b) (hub : b.Updates) (hr : read ∈ l₃) (hw : read.who = first.who)
    (hf : read.Finds u) (hr' : read' ∈ l₂) (hw' : read'.who = last.who) (hf' : read'.Finds v)
    (hx : v.id = u.id) :
    (replay users (last :: (l₂ ++ first :: l₃))).record u.id =
      (b.alone P s (a.alone P s users read.now) read'.now).record u.id := by
  obtain ⟨f, f', hS, hA, hs, hid⟩ := h.tail.drop.first_change hk hq₃ hcf ha hua hr hw hf
  obtain ⟨hlook, hwr, k, hwrites, hfound, ht⟩ :=
    h.change_of_found hcl hb hub (List.mem_append_left _ hr') hw' hf'
  have hfind := h.tail.finds_before hq₂ hr' hf'
  rw [h.tail.replay_append hq₂, hS] at hwr
  rw [hS] at hfind
  obtain ⟨hid', _⟩ := User.of_settled hs
  obtain ⟨rfl, hfind'⟩ := Arrival.finds_put hk hid hs hfind hx
  rw [← hid] at hS hA hfind hfind' hwr ⊢
  have hk₁ := hk.put v
  have hk₂ : Store.Kept (users.put v.id f') := hid' ▸ hk.put f'
  have hother : ∀ e, Store.emailTakenByOther (users.put v.id f') e v.id =
      Store.emailTakenByOther (users.put v.id v) e v.id := by
    intro e
    rw [hk.emailTakenByOther_put v e, ← hid', hk.emailTakenByOther_put f' e]
  obtain ⟨g, g', hS₂, hB, hs', -⟩ := Arrival.alone_current hub hk₁ hk₂ hlook hfind' hs hother
    (hk₁.get?_of_finds hfind rfl) hwrites hfound ht hwr
  rw [hS₂, hA, hB]
  exact record_put hs'.symm _ _ _

/-- A request that stores what it had found before the other one's change leaves what it leaves alone. -/
theorem Lawful.alone_of_stale (hk : users.Kept)
    (h : Lawful P s as users (last :: (l₂ ++ first :: l₃))) (hq₂ : ∀ e ∈ l₂, ¬e.Changes)
    (hq₃ : ∀ e ∈ l₃, ¬e.Changes) (hcl : last.Replaces) (hcf : first.Changes)
    (ha : as[first.who]? = some a) (hua : a.Updates) (hb : as[last.who]? = some b) (hub : b.Updates)
    (hr : read ∈ l₃) (hw : read.who = first.who) (hf : read.Finds u) (hr' : read' ∈ l₃)
    (hw' : read'.who = last.who) (hf' : read'.Finds v) (hx : v.id = u.id) :
    (replay users (last :: (l₂ ++ first :: l₃))).record u.id =
      (b.alone P s users read'.now).record u.id := by
  obtain ⟨f, f', hS, -, -, hid⟩ := h.tail.drop.first_change hk hq₃ hcf ha hua hr hw hf
  obtain ⟨hlook, hwr, k, hwrites, hfound, ht⟩ :=
    h.change_of_found hcl.changes hb hub (by simp [hr']) hw' hf'
  have hl : Lawful P s as users (l₃ ++ []) := by simpa using h.tail.drop.tail
  have hfind : users.Finds read'.call (some v) := hl.finds_before hq₃ hr' hf'
  rw [h.tail.replay_append hq₂, hS] at hwr
  obtain ⟨g, hg⟩ := hcl.call
  rw [hg] at hwr hwrites
  have hother : ∀ e, users.emailTakenByOther e v.id =
      Store.emailTakenByOther (users.put u.id f) e v.id := by
    intro e
    rw [hx, ← hid]
    exact (hk.emailTakenByOther_put f e).symm
  obtain ⟨g', hS₂, hB, hs⟩ :=
    Arrival.alone_settled hk hlook hfind rfl hother hwrites hfound ht hwr
  rw [hS₂, hB, ← hx]
  exact record_put hs.symm _ _ _

/-- A password that is reset is changed in the record that is stored by then. -/
theorem Lawful.both_of_reset (hk : users.Kept)
    (h : Lawful P s as users (last :: (l₂ ++ first :: l₃))) (hq₂ : ∀ e ∈ l₂, ¬e.Changes)
    (hq₃ : ∀ e ∈ l₃, ¬e.Changes) (hcl : last.Changes) (hn : ¬last.Replaces) (hcf : first.Changes)
    (ha : as[first.who]? = some a) (hua : a.Updates) (hb : as[last.who]? = some b) (hub : b.Updates)
    (hr : read ∈ l₃) (hw : read.who = first.who) (hf : read.Finds u) (hr' : read' ∈ l₂ ++ first :: l₃)
    (hw' : read'.who = last.who) (hf' : read'.Finds v) (hx : v.id = u.id) :
    (replay users (last :: (l₂ ++ first :: l₃))).record u.id =
      (b.alone P s (a.alone P s users read.now) read'.now).record u.id := by
  obtain ⟨f, f', hS, hA, hs, hid⟩ := h.tail.drop.first_change hk hq₃ hcf ha hua hr hw hf
  obtain ⟨hlook, hwr, k, hwrites, hfound, ht⟩ := h.change_of_found hcl hb hub hr' hw' hf'
  rw [h.tail.replay_append hq₂, hS] at hwr
  obtain ⟨hid', _, hhash, _⟩ := User.of_settled hs
  have hk₁ : Store.Kept (users.put u.id f) := hid ▸ hk.put f
  have hk₂ : Store.Kept (users.put u.id f') := hid ▸ hid' ▸ hk.put f'
  rcases hub.writes hwrites hfound with ⟨g, hg⟩ | ⟨hash, p, asOf, hg⟩
  · exact absurd (hcl.replaces hg) hn
  · rw [hg] at hwr hwrites
    have hget : Keyed.get? (users.put u.id f) v.id = some f := by
      rw [Keyed.get?_put, if_pos hx]
    have hwait : f.resetHash = some hash := by
      generalize replay users (last :: (l₂ ++ first :: l₃)) = users' at hwr
      cases hwr with
      | consumeReset hg hl =>
        cases hget.symm.trans hg
        simp only [Store.resetLive, Bool.and_eq_true, decide_eq_true_eq] at hl
        exact hl.1
    have hfind : Store.findByResetHash (users.put u.id f') hash = some f' := by
      simp [Store.findByResetHash, Keyed.values, Keyed.put, hhash, hwait]
    -- only a request that edits a record asks for anything after its search
    have ht : k.now = read'.now := by
      refine ht.resolve_left ?_
      rintro (_ | _) <;> cases hwrites
    obtain ⟨g, g', hS₂, hB, hs', -⟩ :=
      Arrival.alone_reset_settled hk₁ hk₂ hwrites ht hwr hget hs hfind
    rw [hS₂, hA, hB, hid]
    exact record_put hs'.symm _ _ _

/-- Only the request that changes the users last can be stale, and is so if it had found its user before
the first change. -/
theorem Lawful.stale_iff (h : Lawful P s as users (l₁ ++ last :: (l₂ ++ first :: l₃)))
    (hq : ∀ e ∈ l₁ ++ (l₂ ++ l₃), ¬e.Changes) (hcl : last.Changes) (hcf : first.Changes)
    (hn : last.who ≠ first.who) (hr : read ∈ l₂ ++ l₃) (hw : read.who = last.who)
    (hf : read.Finds u) (i : Nat) :
    Stale (l₁ ++ last :: (l₂ ++ first :: l₃)) i ↔ i = last.who ∧ last.Replaces ∧ read ∈ l₃ := by
  have hright := List.sublist_append_right l₁ (last :: (l₂ ++ first :: l₃))
  have hlf : [last, first].Sublist (l₁ ++ last :: (l₂ ++ first :: l₃)) :=
    (pair_cons (by simp)).trans hright
  constructor
  · rintro ⟨back, other, read', hsub, hb, ho, ⟨v, hv⟩, rfl, hw', hne⟩
    have hchange : ∀ e ∈ l₁ ++ last :: (l₂ ++ first :: l₃), e.Changes → e = last ∨ e = first := by
      intro e he hc
      by_contra hno
      have hno := not_or.mp hno
      exact hq e (by simpa [hno] using he) hc
    have hback := hchange back (hsub.subset (by simp)) hb.changes
    have hother := hchange other (hsub.subset (by simp)) ho
    rcases hback with rfl | rfl
    · rcases hother with rfl | rfl
      · exact absurd rfl hne
      · refine ⟨rfl, hb, ?_⟩
        -- the request has searched once, and before the first change
        have hbefore : [other, read'].Sublist (l₁ ++ back :: (l₂ ++ other :: l₃)) :=
          .trans (List.sublist_cons_self _ _) hsub
        obtain rfl : read = read' := by
          by_contra hno
          have hm : read ∈ l₁ ++ back :: (l₂ ++ other :: l₃) := by
            rcases List.mem_append.mp hr with hr | hr <;> simp [hr]
          rcases pair_sublist hm (hsub.subset (by simp)) hno with hs | hs
          · exact h.looks_once hs hv hf (hw.trans hw'.symm)
          · exact h.looks_once hs hf hv (hw'.trans hw.symm)
        refine (List.mem_append.mp hr).resolve_left ?_
        intro hr
        have hafter : [read, other].Sublist (l₁ ++ back :: (l₂ ++ other :: l₃)) :=
          ((pair_append hr (by simp)).cons _).trans hright
        rcases pair_twice hbefore hafter with hs | hs
        · exact h.silent_after hs ho rfl
        · exact h.looks_once hs hf hf rfl
    · rcases hother with rfl | rfl
      · have hfl : [back, other].Sublist (l₁ ++ other :: (l₂ ++ back :: l₃)) :=
          .trans (List.sublist_append_left [back, other] [read']) hsub
        rcases pair_twice hlf hfl with hs | hs
        · exact absurd rfl (h.silent_after hs ho)
        · exact absurd rfl (h.silent_after hs hcf)
      · exact absurd rfl hne
  · rintro ⟨rfl, hrep, hr⟩
    refine ⟨last, first, read, ?_, hrep, hcf, ⟨u, hf⟩, rfl, hw, Ne.symm hn⟩
    exact (((pair_cons hr).trans (List.sublist_append_right _ _)).cons_cons _).trans hright

/-- Two requests that overlap leave what they leave one after the other, or the later change undoes the
earlier one. -/
theorem Lawful.overlapped (hk : users.Kept)
    (h : Lawful P s as users (l₁ ++ last :: (l₂ ++ first :: l₃)))
    (hq : ∀ e ∈ l₁ ++ (l₂ ++ l₃), ¬e.Changes) (hcl : last.Changes) (hcf : first.Changes)
    (hn : last.who ≠ first.who) (ha : as[first.who]? = some a) (hua : a.Updates)
    (hb : as[last.who]? = some b) (hub : b.Updates)
    (hr : read ∈ l₁ ++ last :: (l₂ ++ first :: l₃)) (hw : read.who = first.who) (hf : read.Finds u)
    (hr' : read' ∈ l₁ ++ last :: (l₂ ++ first :: l₃)) (hw' : read'.who = last.who)
    (hf' : read'.Finds v) (hx : v.id = u.id) :
    ¬Stale (l₁ ++ last :: (l₂ ++ first :: l₃)) first.who ∧
      (Stale (l₁ ++ last :: (l₂ ++ first :: l₃)) last.who →
        (replay users (l₁ ++ last :: (l₂ ++ first :: l₃))).record u.id =
          (b.alone P s users read'.now).record u.id) ∧
      (¬Stale (l₁ ++ last :: (l₂ ++ first :: l₃)) last.who →
        (replay users (l₁ ++ last :: (l₂ ++ first :: l₃))).record u.id =
          (b.alone P s (a.alone P s users read.now) read'.now).record u.id) := by
  have hq₂ : ∀ e ∈ l₂, ¬e.Changes := fun e he => hq e (by simp [he])
  have hq₃ : ∀ e ∈ l₃, ¬e.Changes := fun e he => hq e (by simp [he])
  have hnl : read' ≠ last := fun he => hf'.not_changes (he ▸ hcl)
  have hnf : read' ≠ first := fun he => hf'.not_changes (he ▸ hcf)
  have hmid : read' ∈ l₂ ++ l₃ := by
    rcases List.mem_append.mp hr' with hr' | hr'
    · exact absurd hw' (h.silent_after (pair_append hr' (by simp)) hcl)
    · simpa [hnl, hnf] using hr'
  have hearly : read ∈ l₃ := by
    have hnf : read ≠ first := fun he => hf.not_changes (he ▸ hcf)
    rcases List.mem_append.mp hr with hr | hr
    · exact absurd hw (h.silent_after (pair_append hr (by simp)) hcf)
    · rcases List.mem_cons.mp hr with rfl | hr
      · exact absurd hw hn
      · rcases List.mem_append.mp hr with hr | hr
        · exact absurd hw (h.drop.tail.silent_after (pair_append hr (by simp)) hcf)
        · exact (List.mem_cons.mp hr).resolve_left hnf
  have hstale := h.stale_iff hq hcl hcf hn hmid hw' hf'
  rw [hstale, hstale, h.replay_append fun e he => hq e (by simp [he])]
  refine ⟨fun hs => hn hs.1.symm, ?_, ?_⟩
  · rintro ⟨-, hrep, hr'⟩
    exact h.drop.alone_of_stale hk hq₂ hq₃ hrep hcf ha hua hb hub hearly hw hf hr' hw' hf' hx
  · intro hs
    by_cases hrep : last.Replaces
    · have hr' := (List.mem_append.mp hmid).resolve_right fun hr' => hs ⟨rfl, hrep, hr'⟩
      exact h.drop.both_of_fresh hk hq₂ hq₃ hcl hcf ha hua hb hub hearly hw hf hr' hw' hf' hx
    · refine h.drop.both_of_reset hk hq₂ hq₃ hcl hrep hcf ha hua hb hub hearly hw hf ?_ hw' hf' hx
      rcases List.mem_append.mp hmid with hr' | hr' <;> simp [hr']

/-- `r` is the record that two requests leave one after the other, in one order or in the other. -/
def OneByOne (P : Primitives) (s : Settings) (users : Store) (a : Arrival) (t : Instant)
    (b : Arrival) (t' : Instant) (id : UserId) (r : Option User) : Prop :=
  r = (b.alone P s (a.alone P s users t) t').record id ∨
    r = (a.alone P s (b.alone P s users t') t).record id

end Logs

namespace World

variable {P : Primitives} {s : Settings} {users : Store} {a b : Arrival} {w : World}

/-- The world after two requests have come in, and their calls have been answered in the order of
`turns`. -/
def both (P : Primitives) (s : Settings) (users : Store) (a b : Arrival)
    (turns : List (Nat × Instant)) : World :=
  (opening users).run P s (.arrive a :: .arrive b :: turns.map fun (i, t) => .turn i t)

theorem both_arrivals (turns : List (Nat × Instant)) : (both P s users a b turns).arrivals = [a, b] := by
  have key : ∀ w : World, (w.run P s (turns.map fun (i, t) => .turn i t)).arrivals = w.arrivals := by
    induction turns with
    | nil => exact fun w => rfl
    | cons p turns ih =>
      intro w
      refine (ih _).trans ?_
      simp only [apply]
      split
      · rename_i ht
        exact arrivals_proceed ht
      · rfl
  exact key _

theorem Served.outcome {i : Nat} {u : User} {t : Instant} (hs : w.Served i u t)
    (ha : w.arrivals[i]? = some a) :
    ∃ o, w.tasks[i]? = some ⟨a, .done (.ok o)⟩ ∧ o ≠ .resetLink none := by
  obtain ⟨⟨b, rest⟩, ht, h⟩ := Option.any_eq_true _ _ |>.mp hs.ended
  obtain rfl : b = a := by simpa [arrivals, ht] using ha
  simp only [Task.succeeded] at h
  split at h
  · rename_i o
    refine ⟨o, ht, ?_⟩
    rintro rfl
    cases h
  · cases h

/-- A request that has succeeded has changed the users. -/
theorem Served.changes (ho : w.Orderly P s users) {i : Nat} {u : User} {t : Instant}
    (hs : w.Served i u t) (ha : w.arrivals[i]? = some a) (hup : a.Updates) :
    ∃ e ∈ w.log, e.who = i ∧ e.Changes := by
  obtain ⟨o, ht, hn⟩ := hs.outcome ha
  have hy : a.Yields P s (heard i a.since w.log) o := ho.conduct i _ ht
  have hw : ∃ c, (heard i a.since w.log).wrote = some (c, true) := by
    cases hup with
    | updateProfile => cases hy; exact ⟨_, ‹_›⟩
    | changePassword => cases hy; exact ⟨_, ‹_›⟩
    | forgotPassword =>
      cases hy with
      | noLink => exact absurd rfl hn
      | resetLink hw => exact ⟨_, hw⟩
    | resetPassword => cases hy; exact ⟨_, ‹_›⟩
    | updateUser => cases hy; exact ⟨_, ‹_›⟩
  obtain ⟨c, hw⟩ := hw
  obtain ⟨e, hm, hi, _, hc⟩ := ho.lawful.changed hw
  exact ⟨e, hm, hi, hc⟩

/-- Two requests that change one user leave what they leave one after the other, if and only if the one
that undoes the change of the other would leave this also when it were alone. -/
theorem serial_iff (hk : users.Kept) (ha : a.Updates) (hb : b.Updates) (turns : List (Nat × Instant))
    {u v : User} {t t' : Instant} (h₀ : (both P s users a b turns).Served 0 u t)
    (h₁ : (both P s users a b turns).Served 1 v t') (hx : v.id = u.id) :
    OneByOne P s users a t b t' u.id ((both P s users a b turns).users.record u.id) ↔
      (Stale (both P s users a b turns).log 0 →
        OneByOne P s users a t b t' u.id ((a.alone P s users t).record u.id)) ∧
      (Stale (both P s users a b turns).log 1 →
        OneByOne P s users a t b t' u.id ((b.alone P s users t').record u.id)) := by
  have ho : (both P s users a b turns).Orderly P s users := run_orderly users _
  have has : (both P s users a b turns).arrivals = [a, b] := both_arrivals turns
  generalize both P s users a b turns = w at *
  obtain ⟨e, he, hwe, hce⟩ := h₀.changes ho (by rw [has]; rfl) ha
  obtain ⟨e', he', hwe', hce'⟩ := h₁.changes ho (by rw [has]; rfl) hb
  obtain ⟨r, hr, hwr, rfl, hf⟩ := h₀.found
  obtain ⟨r', hr', hwr', rfl, hf'⟩ := h₁.found
  have hl := ho.lawful
  rw [has] at hl
  rw [ho.replayed]
  obtain ⟨last, first, l₁, l₂, l₃, hlog, hcl, hcf, hn, hq⟩ :=
    hl.two_changes rfl he he' hce hce' (by omega)
  rw [hlog] at hl hr hr' ⊢
  have hlast : last.who < 2 := hl.who_lt (by simp)
  have hfirst : first.who < 2 := hl.who_lt (by simp)
  obtain ⟨hil, hif⟩ | ⟨hil, hif⟩ : (last.who = 1 ∧ first.who = 0) ∨ (last.who = 0 ∧ first.who = 1) := by
    omega
  · obtain ⟨hno, hst, hns⟩ := hl.overlapped hk hq hcl hcf hn (by rw [hif]; rfl) ha
      (by rw [hil]; rfl) hb hr (hwr.trans hif.symm) hf hr' (hwr'.trans hil.symm) hf' hx
    rw [hil] at hst hns
    rw [hif] at hno
    constructor
    · intro hs
      exact ⟨fun h => absurd h hno, fun h => hst h ▸ hs⟩
    · rintro ⟨-, hs⟩
      by_cases h : Stale (l₁ ++ last :: (l₂ ++ first :: l₃)) 1
      · rw [hst h]
        exact hs h
      · exact .inl (hns h)
  · obtain ⟨hno, hst, hns⟩ := hl.overlapped hk hq hcl hcf hn (by rw [hif]; rfl) hb
      (by rw [hil]; rfl) ha hr' (hwr'.trans hif.symm) hf' hr (hwr.trans hil.symm) hf hx.symm
    rw [hil, hx] at hst hns
    rw [hif] at hno
    constructor
    · intro hs
      exact ⟨fun h => hst h ▸ hs, fun h => absurd h hno⟩
    · rintro ⟨hs, -⟩
      by_cases h : Stale (l₁ ++ last :: (l₂ ++ first :: l₃)) 0
      · rw [hst h]
        exact hs h
      · exact .inr (hns h)

instance {r : Option User} {id : UserId} {t t' : Instant} :
    Decidable (OneByOne P s users a t b t' id r) := inferInstanceAs (Decidable (_ ∨ _))

/-- Ann, who has registered. -/
def ann : User :=
  .new (.ofNat 1) ⟨"Ann"⟩ ⟨"ann@b.co"⟩ (Password.Clear.hash .legible ⟨"Violet-77".toList⟩ none [])
    .user 1

def annComes : List Event :=
  [.arrive ⟨.register ⟨some "Ann", some "ann@b.co", some "Violet-77", none⟩, ⟨.ofNat 1, [], ⟨""⟩⟩, 0⟩,
   .turn 0 1, .turn 0 2]

theorem annComes_users : ((opening []).run .legible .usual annComes).users = [(ann.id, ann)] := by
  decide +kernel

def newPassword : Arrival :=
  ⟨.changePassword ann.id ⟨some "Violet-77", some "Indigo-88", some "Indigo-88"⟩,
    ⟨.ofNat 2, [], ⟨""⟩⟩, 3⟩

def newName : Arrival := ⟨.updateProfile ann.id ⟨some "Anna", none⟩, ⟨.ofNat 3, [], ⟨""⟩⟩, 3⟩

/-- The name is changed in the record that was found before the password was changed. -/
def undone : List (Nat × Instant) := [(1, 4), (0, 5), (0, 6), (1, 7)]

theorem undone_served :
    (both .legible .usual [(ann.id, ann)] newPassword newName undone).Served 0 ann 5 ∧
      (both .legible .usual [(ann.id, ann)] newPassword newName undone).Served 1 ann 4 :=
  ⟨⟨by decide +kernel, by decide +kernel⟩, by decide +kernel, by decide +kernel⟩

/-- A new name brings the old password back. -/
theorem serial_fails : ∃ (es : List Event) (a b : Arrival) (turns : List (Nat × Instant)) (u : User)
    (t t' : Instant), a.Updates ∧ b.Updates ∧
      (both .legible .usual ((opening []).run .legible .usual es).users a b turns).Served 0 u t ∧
      (both .legible .usual ((opening []).run .legible .usual es).users a b turns).Served 1 u t' ∧
      ¬OneByOne .legible .usual ((opening []).run .legible .usual es).users a t b t' u.id
        ((both .legible .usual ((opening []).run .legible .usual es).users a b turns).users.record
          u.id) := by
  refine ⟨annComes, newPassword, newName, undone, ann, 5, 4, .changePassword, .updateProfile, ?_⟩
  rw [annComes_users]
  exact ⟨undone_served.1, undone_served.2, by decide +kernel⟩

theorem serial_iff_undone :
    Store.Kept [(ann.id, ann)] ∧
      (both .legible .usual [(ann.id, ann)] newPassword newName undone).Served 0 ann 5 ∧
      (both .legible .usual [(ann.id, ann)] newPassword newName undone).Served 1 ann 4 ∧
      ¬((Stale (both .legible .usual [(ann.id, ann)] newPassword newName undone).log 0 →
          OneByOne .legible .usual [(ann.id, ann)] newPassword 5 newName 4 ann.id
            ((newPassword.alone .legible .usual [(ann.id, ann)] 5).record ann.id)) ∧
        (Stale (both .legible .usual [(ann.id, ann)] newPassword newName undone).log 1 →
          OneByOne .legible .usual [(ann.id, ann)] newPassword 5 newName 4 ann.id
            ((newName.alone .legible .usual [(ann.id, ann)] 4).record ann.id))) := by
  have hk : Store.Kept [(ann.id, ann)] := annComes_users ▸ run_kept .nil annComes
  obtain ⟨h₀, h₁⟩ := undone_served
  refine ⟨hk, h₀, h₁, ?_⟩
  intro h
  have hs := (serial_iff hk .changePassword .updateProfile undone h₀ h₁ rfl).mpr h
  exact absurd hs (by decide +kernel)

end World

end Storefront.Account
