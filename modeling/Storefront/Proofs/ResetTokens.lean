import Storefront.Proofs.Canonical
import Storefront.Proofs.Overlap

namespace Storefront.Account

namespace Arrival

/-- The token that is drawn for a request, if it can have a use for it. -/
def draws? (a : Arrival) : Option ResetToken :=
  match a.command with
  | .forgotPassword _ => some a.draws.token
  | _ => none

/-- The token that a client sends in exchange for a new password. -/
def presents? (a : Arrival) : Option ResetToken :=
  match a.command with
  | .resetPassword r => (nonBlank r.token).map ResetToken.mk
  | _ => none

end Arrival

namespace Step

/-- A token with the digest `h` is exchanged for a new password. -/
inductive Spends (h : String) : Step → Prop where
  | mk {who now id p t} : Spends h ⟨who, now, .consumeReset id h p t, .ok true⟩

/-- A record that waits for a token with the digest `h` is found. -/
inductive Reads (h : String) : Step → Prop where
  | mk {who now id u} (hu : u.resetHash = some h) : Reads h ⟨who, now, .findById id, .ok (some u)⟩

/-- A record that waits for a token with the digest `h` is stored. -/
inductive Stores (h : String) : Step → Prop where
  | mk {who now u} (hu : u.resetHash = some h) : Stores h ⟨who, now, .update u, .ok true⟩

variable {e : Step} {h : String}

theorem Spends.changes (hs : e.Spends h) : e.Changes := by
  cases hs
  exact .consumeReset

theorem Spends.call (hs : e.Spends h) : ∃ id p t, e.call = .consumeReset id h p t := by
  cases hs
  exact ⟨_, _, _, rfl⟩

theorem Changes.spends (hc : e.Changes) {id : UserId} {p : Password.Hashed} {t : Instant}
    (he : e.call = .consumeReset id h p t) : e.Spends h := by
  cases hc with
  | consumeReset =>
    cases he
    exact .mk
  | _ => cases he

theorem Changes.stores (hc : e.Changes) {u : User} (he : e.call = .update u)
    (hu : u.resetHash = some h) : e.Stores h := by
  cases hc with
  | update =>
    cases he
    exact .mk hu
  | _ => cases he

end Step

section Logs

variable (as : List Arrival) (h : String) (log : List Step)

/-- A request has found a record, a token is spent for which the record waits, and the request stores
a record that waits for it still.  The latest call comes first. -/
inductive Revives (as : List Arrival) (h : String) : List Step → Prop where
  | mk {back first read a} (hb : back.Stores h) (hf : first.Spends h) (hr : read.Reads h)
    (hw : back.who = read.who) (ha : as[back.who]? = some a) (he : a.Edits) :
    Revives as h [back, first, read]

def ComesBack : Prop := ∃ l, l.Sublist log ∧ Revives as h l

/-- A token is spent after it came back. -/
def SpentAgain : Prop := ∃ again l, (again :: l).Sublist log ∧ again.Spends h ∧ Revives as h l

/-- The request had found a record when a token was spent for which the record waits. -/
def Lingers (who : Nat) : Prop :=
  ∃ first read, [first, read].Sublist log ∧ first.Spends h ∧ read.Reads h ∧ read.who = who

end Logs

/-- The token with which a request has set a new password. -/
def Task.spent? (t : Task) : Option ResetToken :=
  match t.rest with
  | .done (.ok .passwordReset) => t.arrival.presents?
  | _ => none

namespace World

variable (P : Primitives) (w : World)

def drawn : List ResetToken := w.arrivals.filterMap Arrival.draws?

def presented : List ResetToken := w.arrivals.filterMap Arrival.presents?

/-- No token is drawn twice, and no two tokens that occur have the same digest. -/
structure Unmistakable : Prop where
  fresh : w.drawn.Nodup
  digest : ∀ t ∈ w.drawn ++ w.presented, ∀ t' ∈ w.drawn ++ w.presented,
    t.hash P = t'.hash P → t = t'

/-- The request has presented the token and has set the new password with it. -/
def Spent (t : ResetToken) (i : Nat) : Prop := w.tasks[i]?.bind Task.spent? = some t

instance {t : ResetToken} {i : Nat} : Decidable (w.Spent t i) := inferInstanceAs (Decidable (_ = _))

end World

section Trace

variable {P : Primitives} {s : Settings} {as : List Arrival} {users : Store} {log : List Step}
  {h : String}

/-- A record that waits for a token with the digest `h` is stored, or has been found by some request. -/
def Around (users : Store) (h : String) (log : List Step) (u : User) : Prop :=
  u.resetHash = some h ∧
    (u ∈ (replay users log).values ∨ ∃ i t, (heard i t log).found = some (some u))

/-- A record that waits for a token is made by drawing it, or by editing a record that waits for it. -/
theorem Arrival.Asks.update_waits {a : Arrival} {k : Progress} {u : User}
    (hc : a.Asks P s k (.update u)) (hu : u.resetHash = some h) :
    ∃ v, k.found = some (some v) ∧ v.id = u.id ∧
      ((∃ t, a.draws? = some t ∧ t.hash P = h) ∨ (a.Edits ∧ v.resetHash = some h)) := by
  cases hc with
  | looks hl => cases hl
  | writes hw =>
    cases hw with
    | forgotPassword hf _ => exact ⟨_, hf, rfl, .inl ⟨_, rfl, Option.some.inj hu⟩⟩
    | updateProfile _ hf => exact ⟨_, hf, rfl, .inr ⟨.updateProfile, hu⟩⟩
    | changePassword => cases hu
    | @updateUser _ _ _ _ _ v _ _ role _ hf =>
      refine ⟨v, hf, ?_, .inr ⟨.updateUser, ?_⟩⟩
      · cases role <;> rfl
      · cases role <;> exact hu

/-- A stored record that waits for a token was stored before, or is stored as it is. -/
theorem waits_cons {who : Nat} {now : Instant} {c : Call} {a : Arrival} {k : Progress} {u : User}
    (hc : a.Asks P s k c) (hh : u.resetHash = some h)
    (hu : u ∈ (replay users (.next users log who now c :: log)).values) :
    u ∈ (replay users log).values ∨
      (c = .update u ∧ (replay users log).Written now c ((replay users log).answer now c).2) := by
  rcases Store.answer_written now (replay users log) c with hw | he
  · rcases hw.mem_values hu with hm | rfl | rfl | ⟨_, _, _, _, _, _, _, rfl⟩
    · exact .inl hm
    · cases hc with
      | looks hl => cases hl
      | writes hw => cases hw <;> cases hh
    · exact .inr ⟨rfl, hw⟩
    · cases hh
  · rw [replay, he] at hu
    exact .inl hu

theorem around_cons {who : Nat} {now : Instant} {c : Call} {a : Arrival} {k : Progress} {u : User}
    (hk : (replay users log).Kept) (hc : a.Asks P s k c)
    (hu : Around users h (.next users log who now c :: log) u) :
    Around users h log u ∨
      (c = .update u ∧ (replay users log).Written now c ((replay users log).answer now c).2) := by
  obtain ⟨hh, hm | ⟨i, t, hf⟩⟩ := hu
  · rcases waits_cons hc hh hm with hm | he
    · exact .inl ⟨hh, .inl hm⟩
    · exact .inr he
  · rcases found_cons hf with hf | ⟨_, hr⟩
    · exact .inl ⟨hh, .inr ⟨i, t, hf⟩⟩
    · exact .inl ⟨hh, .inl (hk.mem_values.mpr (hk.get?_of_finds hr rfl))⟩

/-- What it takes to spend a token, and what is left. -/
theorem Step.Spends.answered {who : Nat} {now : Instant} {c : Call}
    (hs : Step.Spends h ⟨who, now, c, (users.answer now c).1⟩) :
    ∃ id p t v, c = .consumeReset id h p t ∧ users.get? id = some v ∧ v.resetHash = some h ∧
      (users.answer now c).2 = users.put id (v.changePassword p now) := by
  have hw := Step.changes_iff.mp hs.changes
  obtain ⟨id, p, t, rfl⟩ := hs.call
  generalize (users.answer now (.consumeReset id h p t)).2 = s' at hw ⊢
  cases hw with
  | @consumeReset _ _ _ _ v hg hl =>
    simp only [Store.resetLive, Bool.and_eq_true, decide_eq_true_eq] at hl
    exact ⟨id, p, t, v, rfl, hg, hl.1, rfl⟩

/-- A request that edits a record has found it by its identifier. -/
theorem Lawful.reads (hl : Lawful P s as users log) {i : Nat} {a : Arrival} (ha : as[i]? = some a)
    (he : a.Edits) {u : User} (hu : u.resetHash = some h)
    (hf : (heard i a.since log).found = some (some u)) : ∃ e ∈ log, e.who = i ∧ e.Reads h := by
  obtain ⟨e, hm, rfl, hfe⟩ := hl.finds hf
  obtain ⟨b, hb, hc, _⟩ := hl.found_of_finds hm hfe
  obtain rfl : a = b := Option.some.inj (ha.symm.trans hb)
  refine ⟨e, hm, rfl, ?_⟩
  cases hfe with
  | byId => exact .mk hu
  | byEmail => cases he <;> cases hc
  | byResetHash => cases he <;> cases hc

theorem ComesBack.cons (hb : ComesBack as h log) (e : Step) : ComesBack as h (e :: log) := by
  obtain ⟨l, hl, hr⟩ := hb
  exact ⟨l, hl.cons e, hr⟩

theorem Lingers.cons {i : Nat} (hb : Lingers h log i) (e : Step) : Lingers h (e :: log) i := by
  obtain ⟨first, read, hl, hr⟩ := hb
  exact ⟨first, read, hl.cons e, hr⟩

/-- A request for which a record lingers brings the token back when it stores one. -/
theorem Lingers.comesBack {e : Step} {a : Arrival} (hl : Lingers h log e.who) (hs : e.Stores h)
    (ha : as[e.who]? = some a) (he : a.Edits) : ComesBack as h (e :: log) := by
  obtain ⟨first, read, hl, hf, hr, hw⟩ := hl
  exact ⟨_, hl.cons_cons e, .mk hs hf hr hw.symm ha he⟩

/-- What is true of a token `t` with the digest `h` after every call.  It has been given to one user, by
the one request for which it was drawn; and where it is seen after it was spent, it has come back. -/
structure Traced (as : List Arrival) (users : Store) (t : ResetToken) (h : String) (log : List Step) :
    Prop where
  one : ∀ u v, Around users h log u → Around users h log v → u.id = v.id
  issued : (∃ u, Around users h log u) ∨ (∃ e ∈ log, e.Spends h) → ∀ (i : Nat) (a : Arrival),
    as[i]? = some a → a.draws? = some t → (heard i a.since log).wrote ≠ none
  stored : (∃ e ∈ log, e.Spends h) → ∀ u ∈ (replay users log).values, u.resetHash = some h →
    ComesBack as h log
  stale : (∃ e ∈ log, e.Spends h) → ∀ (i : Nat) (a : Arrival) (u : User), as[i]? = some a →
    a.Edits → u.resetHash = some h → (heard i a.since log).found = some (some u) →
    Lingers h log i ∨ ComesBack as h log

section Step

variable {t : ResetToken} {who : Nat} {a : Arrival} {now : Instant} {c : Call}
  (hk : (replay users log).Kept) (hi : Traced as users t h log)
  (ha : as[who]? = some a) (hc : a.Asks P s (heard who a.since log) c)
  (hd : ∀ b ∈ as, ∀ t', b.draws? = some t' → t'.hash P = h → t' = t)

include hi ha hd

/-- If the digest is around already, or was, then only edits store records with it, and they have found one
with it. -/
theorem Traced.edited {u : User} (hc : a.Asks P s (heard who a.since log) (.update u))
    (hu : u.resetHash = some h) (hb : (∃ u, Around users h log u) ∨ ∃ e ∈ log, e.Spends h) :
    ∃ v, (heard who a.since log).found = some (some v) ∧ v.id = u.id ∧ a.Edits ∧
      v.resetHash = some h := by
  obtain ⟨v, hf, hv, ⟨t', ht, hh⟩ | he⟩ := hc.update_waits hu
  · obtain rfl := hd a (List.mem_of_getElem? ha) t' ht hh
    exact absurd hc.wrote_none (hi.issued hb who a ha ht)
  · exact ⟨v, hf, hv, he⟩

/-- A record that an edit stores belongs to the user whom the token was given to. -/
theorem Traced.edited_id {u v : User} (hc : a.Asks P s (heard who a.since log) (.update u))
    (hu : u.resetHash = some h) (hv : Around users h log v) : u.id = v.id := by
  obtain ⟨w, hf, hw, _, hh⟩ := hi.edited ha hd hc hu (.inl ⟨v, hv⟩)
  rw [← hw]
  exact hi.one w v ⟨hh, .inr ⟨who, a.since, hf⟩⟩ hv

include hk hc

theorem Traced.one_cons (u v : User)
    (hu : Around users h (.next users log who now c :: log) u)
    (hv : Around users h (.next users log who now c :: log) v) :
    u.id = v.id := by
  rcases around_cons hk hc hu with hu' | ⟨rfl, _⟩
  · rcases around_cons hk hc hv with hv' | ⟨rfl, _⟩
    · exact hi.one u v hu' hv'
    · exact (hi.edited_id ha hd hc hv.1 hu').symm
  · rcases around_cons hk hc hv with hv' | ⟨he, _⟩
    · exact hi.edited_id ha hd hc hu.1 hv'
    · cases he
      rfl

theorem Traced.issued_cons
    (hone : ∀ (i j : Nat) (a b : Arrival), as[i]? = some a → as[j]? = some b →
      a.draws? = some t → b.draws? = some t → i = j)
    (hb : (∃ u, Around users h (.next users log who now c :: log) u) ∨
      ∃ e ∈ Step.next users log who now c :: log, e.Spends h)
    {i : Nat} {b : Arrival} (hib : as[i]? = some b) (ht : b.draws? = some t) :
    (heard i b.since (.next users log who now c :: log)).wrote ≠ none := by
  have key : (∃ u, Around users h log u) ∨ (∃ e ∈ log, e.Spends h) →
      (heard i b.since (.next users log who now c :: log)).wrote ≠ none :=
    fun hb => heard_wrote_cons (hi.issued hb i b hib ht) _
  rcases hb with ⟨u, hu⟩ | ⟨e, he, hs⟩
  · rcases around_cons hk hc hu with hu' | ⟨rfl, _⟩
    · exact key (.inl ⟨u, hu'⟩)
    · obtain ⟨v, hf, _, ⟨t', ht', hh⟩ | ⟨_, hv⟩⟩ := hc.update_waits hu.1
      · obtain rfl := hd a (List.mem_of_getElem? ha) t' ht' hh
        obtain rfl := hone _ _ _ _ ha hib ht' ht
        rw [heard, if_pos rfl]
        exact Progress.learn_update _ _ _ _
      · exact key (.inl ⟨v, hv, .inr ⟨who, a.since, hf⟩⟩)
  · rcases List.mem_cons.mp he with rfl | he
    · obtain ⟨_, _, _, v, rfl, hg, hv, _⟩ := hs.answered
      have hm := hk.mem_values.mpr ((hk.own_of_get? hg).symm ▸ hg)
      exact key (.inl ⟨v, hv, .inl hm⟩)
    · exact key (.inr ⟨e, he, hs⟩)

/-- The digest is not stored when a token has just been spent, and later it is stored by an edit. -/
theorem Traced.stored_cons (hs : ∃ e ∈ Step.next users log who now c :: log, e.Spends h) (u : User)
    (hu : u ∈ (replay users (.next users log who now c :: log)).values)
    (hh : u.resetHash = some h) : ComesBack as h (.next users log who now c :: log) := by
  obtain ⟨e, he, hs⟩ := hs
  rcases List.mem_cons.mp he with rfl | hm
  · obtain ⟨id, p, t, v, rfl, hg, hv, hput⟩ := hs.answered
    obtain rfl := hk.own_of_get? hg
    rw [replay, hput] at hu
    obtain ⟨⟨k, w⟩, hp, rfl⟩ := List.mem_map.mp hu
    rcases Keyed.mem_put.mp hp with he | ⟨hm, hn⟩
    · cases he
      cases hh
    · have hw : Around users h log w := ⟨hh, .inl (List.mem_map.mpr ⟨_, hm, rfl⟩)⟩
      have hid := hi.one w v hw ⟨hv, .inl (hk.mem_values.mpr hg)⟩
      exact absurd ((hk.own _ hm).symm.trans hid) hn
  · rcases waits_cons hc hh hu with hu' | ⟨rfl, hw⟩
    · exact (hi.stored ⟨e, hm, hs⟩ u hu' hh).cons _
    · obtain ⟨v, hf, _, hed, hv⟩ := hi.edited ha hd hc hh (.inr ⟨e, hm, hs⟩)
      rcases hi.stale ⟨e, hm, hs⟩ who a v ha hed hv hf with hl | hb
      · exact hl.comesBack ((Step.changes_iff.mpr hw).stores rfl hh) ha hed
      · exact hb.cons _

omit ha hd in
theorem Traced.stale_cons (hl : Lawful P s as users log)
    (hs : ∃ e ∈ Step.next users log who now c :: log, e.Spends h) {i : Nat} {b : Arrival} {u : User}
    (hib : as[i]? = some b) (he : b.Edits) (hh : u.resetHash = some h)
    (hf : (heard i b.since (.next users log who now c :: log)).found = some (some u)) :
    Lingers h (.next users log who now c :: log) i ∨
      ComesBack as h (.next users log who now c :: log) := by
  obtain ⟨e, hm, hs⟩ := hs
  rcases List.mem_cons.mp hm with rfl | hm
  · rcases found_cons hf with hf | ⟨_, hr⟩
    · obtain ⟨read, hm, hw, hr⟩ := hl.reads hib he hh hf
      exact .inl ⟨_, read, (List.singleton_sublist.mpr hm).cons_cons _, hs, hr, hw⟩
    · obtain ⟨_, _, _, _, rfl, _⟩ := hs.answered
      cases hr
  · rcases found_cons hf with hf | ⟨_, hr⟩
    · rcases hi.stale ⟨e, hm, hs⟩ i b u hib he hh hf with hg | hb
      · exact .inl (hg.cons _)
      · exact .inr (hb.cons _)
    · have hu := hk.mem_values.mpr (hk.get?_of_finds hr rfl)
      exact .inr ((hi.stored ⟨e, hm, hs⟩ u hu hh).cons _)

end Step

/-- Where the digest of a token is seen in a run, if the token is drawn for one request alone. -/
theorem Lawful.traced {t : ResetToken} (hu : users.Kept)
    (hn : ∀ u ∈ users.values, u.resetHash ≠ some h)
    (hone : ∀ (i j : Nat) (a b : Arrival), as[i]? = some a → as[j]? = some b →
      a.draws? = some t → b.draws? = some t → i = j)
    (hd : ∀ b ∈ as, ∀ t', b.draws? = some t' → t'.hash P = h → t' = t)
    (hl : Lawful P s as users log) : Traced as users t h log := by
  induction hl with
  | nil =>
    have hno : ¬∃ u, Around users h [] u := by
      rintro ⟨u, hh, hm | ⟨_, _, hf⟩⟩
      · exact hn u hm hh
      · cases hf
    refine ⟨fun u _ hu' => absurd ⟨u, hu'⟩ hno, ?_, by simp, by simp⟩
    rintro (he | ⟨_, he, _⟩)
    · exact absurd he hno
    · cases he
  | cons hl ha now c hc ih =>
    have hk := hl.kept hu
    exact ⟨ih.one_cons hk ha hc hd, fun hb i b => ih.issued_cons hk ha hc hd hone hb,
      ih.stored_cons hk ha hc hd, fun hs i b u => ih.stale_cons hk hc hl hs⟩

/-- A token is spent twice if and only if it came back in between. -/
theorem Lawful.spent_twice {t : ResetToken} (hu : users.Kept)
    (hn : ∀ u ∈ users.values, u.resetHash ≠ some h)
    (hone : ∀ (i j : Nat) (a b : Arrival), as[i]? = some a → as[j]? = some b →
      a.draws? = some t → b.draws? = some t → i = j)
    (hd : ∀ b ∈ as, ∀ t', b.draws? = some t' → t'.hash P = h → t' = t)
    (hl : Lawful P s as users log) {again first : Step} (hsub : [again, first].Sublist log)
    (ha : again.Spends h) (hf : first.Spends h) : SpentAgain as h log := by
  induction hl with
  | nil => cases hsub
  | @cons log _ _ hl ha' now c hc ih =>
    rcases List.sublist_cons_iff.mp hsub with hsub | ⟨r, he, hr⟩
    · obtain ⟨again, l, hl, h⟩ := ih hsub
      exact ⟨again, l, hl.cons _, h⟩
    · obtain ⟨rfl, rfl⟩ := List.cons.inj he
      obtain ⟨_, _, _, v, rfl, hg, hv, _⟩ := ha.answered
      have hk := hl.kept hu
      have hm := hk.mem_values.mpr ((hk.own_of_get? hg).symm ▸ hg)
      have hfirst : first ∈ log := List.singleton_sublist.mp hr
      obtain ⟨l, hsub, hr⟩ := (hl.traced hu hn hone hd).stored ⟨first, hfirst, hf⟩ v hm hv
      exact ⟨_, l, hsub.cons_cons _, ha, hr⟩

end Trace

theorem Reset.check_token {P : Primitives} {r : Reset} {t : ResetToken} {p : Password.Clear}
    (h : r.check P = .ok (t, p)) : nonBlank r.token = some t.text := by
  simp only [Reset.check] at h
  split at h
  · rename_i ht _
    split at h
    · split at h <;> cases h
      exact ht
    · cases h
  · cases h

namespace World

variable {P : Primitives} {s : Settings} {users : Store} {w : World} {t : ResetToken}

theorem Orderly.spends (ho : w.Orderly P s users) {i : Nat} (hs : w.Spent t i) :
    ∃ e ∈ w.log, e.who = i ∧ e.Spends (t.hash P) := by
  obtain ⟨⟨a, rest⟩, ht, hs⟩ := Option.bind_eq_some_iff.mp hs
  have hc := ho.conduct i _ ht
  simp only [Task.spent?] at hs hc
  split at hs
  · cases hc with
    | @passwordReset r d since _ c hw =>
      have ha : w.arrivals[i]? = some ⟨.resetPassword r, d, since⟩ := by simp [arrivals, ht]
      obtain ⟨k, hk, _⟩ := ho.lawful.wrote ha hw
      cases hk with
      | resetPassword hr _ _ =>
        simp only [Arrival.presents?, Reset.check_token hr, Option.map_some] at hs
        obtain rfl := Option.some.inj hs
        obtain ⟨e, hm, hi, he, hc⟩ := ho.lawful.changed hw
        exact ⟨e, hm, hi, hc.spends he⟩
  · cases hs

theorem Orderly.spent (ho : w.Orderly P s users) (hu : w.Unmistakable P) (ht : t ∈ w.drawn)
    {e : Step} (hm : e ∈ w.log) (hs : e.Spends (t.hash P)) : w.Spent t e.who := by
  obtain ⟨a, ha, hw⟩ := ho.lawful.wrote_of_changes hm hs.changes
  obtain ⟨id, p, asOf, he⟩ := hs.call
  rw [he] at hw
  obtain ⟨k, hk, _⟩ := ho.lawful.wrote ha hw
  obtain ⟨⟨b, rest⟩, hb, rfl⟩ : ∃ task, w.tasks[e.who]? = some task ∧ task.arrival = a := by
    simpa [arrivals] using ha
  have hc := ho.conduct _ _ hb
  generalize hh : t.hash P = h at hk hw
  cases hk with
  | @resetPassword r d since _ _ token _ hr _ _ =>
    have hp : Arrival.presents? ⟨.resetPassword r, d, since⟩ = some token := by
      simp [Arrival.presents?, Reset.check_token hr]
    have hin : token ∈ w.presented := List.mem_filterMap.mpr ⟨_, List.mem_of_getElem? ha, hp⟩
    obtain rfl := hu.digest t (List.mem_append_left _ ht) token (List.mem_append_right _ hin) hh
    refine Option.bind_eq_some_iff.mpr ⟨_, hb, ?_⟩
    -- the plan has nothing left to do, and has not been refused
    cases rest with
    | ask c next => exact absurd hc.1.wrote_none (by rw [hw]; simp)
    | done o =>
      cases o with
      | error r => exact absurd hw (hc _)
      | ok o =>
        cases hc
        exact hp

theorem Unmistakable.one (hu : w.Unmistakable P) {i j : Nat} {a b : Arrival}
    (ha : w.arrivals[i]? = some a) (hb : w.arrivals[j]? = some b) (hat : a.draws? = some t)
    (hbt : b.draws? = some t) : i = j :=
  filterMap_inj hu.fresh ha hb hat hbt

theorem Unmistakable.drawn_eq (hu : w.Unmistakable P) (ht : t ∈ w.drawn) {b : Arrival}
    (hb : b ∈ w.arrivals) {t' : ResetToken} (hbt : b.draws? = some t')
    (hh : t'.hash P = t.hash P) : t' = t := by
  have hin : t' ∈ w.drawn := List.mem_filterMap.mpr ⟨b, hb, hbt⟩
  exact hu.digest t' (List.mem_append_left _ hin) t (List.mem_append_left _ ht) hh

/-- However requests overlap, a token sets one new password, unless it comes back. -/
theorem single_use_iff (hk : users.Kept) (es : List Event)
    (hu : ((opening users).run P s es).Unmistakable P) (ht : t ∈ ((opening users).run P s es).drawn)
    (hn : ∀ u ∈ users.values, u.resetHash ≠ some (t.hash P)) :
    (∀ i j, ((opening users).run P s es).Spent t i → ((opening users).run P s es).Spent t j → i = j) ↔
      ¬SpentAgain ((opening users).run P s es).arrivals (t.hash P) ((opening users).run P s es).log := by
  have ho := run_orderly (P := P) (s := s) users es
  generalize (opening users).run P s es = w at *
  constructor
  · rintro hone ⟨again, _, hsub, ha, hr⟩
    obtain ⟨_, hf, _, _, _, _⟩ := hr
    have hi := ho.spent hu ht (hsub.subset (by simp)) ha
    have hj := ho.spent hu ht (hsub.subset (by simp)) hf
    refine ho.lawful.silent_after (.trans ?_ hsub) hf.changes (hone _ _ hi hj)
    simp
  · intro hno i j hi hj
    by_contra hne
    obtain ⟨e, he, rfl, hse⟩ := ho.spends hi
    obtain ⟨e', he', rfl, hse'⟩ := ho.spends hj
    have hone : ∀ (i j : Nat) (a b : Arrival), w.arrivals[i]? = some a → w.arrivals[j]? = some b →
        a.draws? = some t → b.draws? = some t → i = j := fun _ _ _ _ => hu.one
    have hd : ∀ b ∈ w.arrivals, ∀ t', b.draws? = some t' → t'.hash P = t.hash P → t' = t :=
      fun _ hb _ => hu.drawn_eq ht hb
    rcases pair_sublist he he' (fun h => hne (by rw [h])) with hsub | hsub
    · exact hno (ho.lawful.spent_twice hk hn hone hd hsub hse hse')
    · exact hno (ho.lawful.spent_twice hk hn hone hd hsub hse' hse)

/-- A user asks for a link, and changes the name in a request that finds the user before the token is spent
and stores what it found afterwards. -/
def revival : List Event :=
  let arrive (since : Instant) (c : Command) :=
    Event.arrive ⟨c, ⟨.ofNat 1, [], ⟨"0f1e2d3c"⟩⟩, since⟩
  [arrive 0 (.register ⟨some "Ann", some "ann@b.co", some "Violet-77", none⟩), .turn 0 1, .turn 0 2,
   arrive 3 (.forgotPassword (some "ann@b.co")), .turn 1 4, .turn 1 5,
   arrive 6 (.updateProfile (.ofNat 1) ⟨some "Anna", none⟩), .turn 2 7,
   arrive 8 (.resetPassword ⟨some "0f1e2d3c", some "Indigo-88", none⟩), .turn 3 9, .turn 3 10,
   .turn 2 11,
   arrive 12 (.resetPassword ⟨some "0f1e2d3c", some "Yellow-99", none⟩), .turn 4 13, .turn 4 14]

theorem revival_run :
    ((opening []).run .ascii .usual revival).drawn = [⟨"0f1e2d3c"⟩] ∧
      ((opening []).run .ascii .usual revival).presented = [⟨"0f1e2d3c"⟩, ⟨"0f1e2d3c"⟩] ∧
      ((opening []).run .ascii .usual revival).Spent ⟨"0f1e2d3c"⟩ 3 ∧
      ((opening []).run .ascii .usual revival).Spent ⟨"0f1e2d3c"⟩ 4 := by
  decide +kernel

theorem revival_unmistakable : ((opening []).run .ascii .usual revival).Unmistakable .ascii := by
  obtain ⟨hd, hp, _⟩ := revival_run
  refine ⟨by rw [hd]; simp, ?_⟩
  rw [hd, hp]
  simp

/-- A token that came back sets two new passwords. -/
theorem single_use_fails : ∃ (es : List Event) (t : ResetToken),
    ((opening []).run .ascii .usual es).Unmistakable .ascii ∧
      t ∈ ((opening []).run .ascii .usual es).drawn ∧
      ¬∀ i j, ((opening []).run .ascii .usual es).Spent t i →
        ((opening []).run .ascii .usual es).Spent t j → i = j := by
  obtain ⟨hd, _, h3, h4⟩ := revival_run
  refine ⟨revival, ⟨"0f1e2d3c"⟩, revival_unmistakable, by rw [hd]; simp, ?_⟩
  intro h
  exact absurd (h 3 4 h3 h4) (by decide)

theorem single_use_iff_revival :
    Store.Kept [] ∧ ((opening []).run .ascii .usual revival).Unmistakable .ascii ∧
      ⟨"0f1e2d3c"⟩ ∈ ((opening []).run .ascii .usual revival).drawn ∧
      SpentAgain ((opening []).run .ascii .usual revival).arrivals
        (ResetToken.hash .ascii ⟨"0f1e2d3c"⟩) ((opening []).run .ascii .usual revival).log := by
  obtain ⟨hd, _, h3, h4⟩ := revival_run
  have ht : ⟨"0f1e2d3c"⟩ ∈ ((opening []).run .ascii .usual revival).drawn := by
    rw [hd]
    simp
  refine ⟨.nil, revival_unmistakable, ht, ?_⟩
  by_contra hno
  have hone := (single_use_iff .nil revival revival_unmistakable ht (by simp [Keyed.values])).mpr hno
  exact absurd (hone 3 4 h3 h4) (by decide)

end World

end Storefront.Account
