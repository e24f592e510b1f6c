import Mathlib.Data.List.Pairwise
import Storefront.Account.Store
import Storefront.Proofs.Conduct
import Storefront.Proofs.Keyed

namespace Storefront

namespace Account

namespace Store

/-- The user a call finds. -/
inductive Finds (s : Store) : Call → Option User → Prop where
  | byId {id} : Finds s (.findById id) (s.get? id)
  | byEmail {e} : Finds s (.findByEmail e) (s.findByEmail e)
  | byResetHash {h} : Finds s (.findByResetHash h) (s.findByResetHash h)

theorem finds_findById {s : Store} {id : UserId} {r : Option User} :
    s.Finds (.findById id) r ↔ s.get? id = r :=
  ⟨fun h => by cases h; rfl, fun h => h ▸ .byId⟩

theorem finds_findByEmail {s : Store} {e : Email} {r : Option User} :
    s.Finds (.findByEmail e) r ↔ s.findByEmail e = r :=
  ⟨fun h => by cases h; rfl, fun h => h ▸ .byEmail⟩

theorem finds_findByResetHash {s : Store} {h : String} {r : Option User} :
    s.Finds (.findByResetHash h) r ↔ s.findByResetHash h = r :=
  ⟨fun h => by cases h; rfl, fun h => h ▸ .byResetHash⟩

/-- A change of the users by a call at `now`. -/
inductive Written (now : Instant) (s : Store) : Call → Store → Prop where
  | create {u} (hf : s.emailTakenByOther u.email u.id = false) :
    Written now s (.create u) (s.put u.id u)
  | update {u v} (hf : s.emailTakenByOther u.email u.id = false) (hg : s.get? u.id = some v) :
    Written now s (.update u) (s.put u.id u)
  | consumeReset {id h p t u} (hg : s.get? id = some u) (hl : resetLive u h t = true) :
    Written now s (.consumeReset id h p t) (s.put id (u.changePassword p now))
  | delete {id u} (hg : s.get? id = some u) : Written now s (.delete id) (s.remove id)

/-- A call changes the users and is known to have done so, or it leaves them alone. -/
theorem answer_cases (now : Instant) (s : Store) (c : Call) (k : Progress) :
    (Written now s c (s.answer now c).2 ∧
      k.learn now c (s.answer now c).1 = ⟨now, k.found, some (c, true)⟩) ∨
    ((s.answer now c).2 = s ∧
      ((k.learn now c (s.answer now c).1).found = k.found ∨
        ∃ u, Finds s c u ∧ (k.learn now c (s.answer now c).1).found = some u) ∧
      ((k.learn now c (s.answer now c).1).wrote = k.wrote ∨
        (k.learn now c (s.answer now c).1).wrote = some (c, false))) := by
  cases c with
  | create u =>
    cases hf : s.emailTakenByOther u.email u.id with
    | true => right; simp [answer, Store.create, hf, Progress.learn, Except.isOk, Except.toBool]
    | false =>
      left
      refine ⟨?_, by simp [answer, Store.create, hf, Progress.learn, Except.isOk, Except.toBool]⟩
      simpa [answer, Store.create, hf] using Written.create hf
  | findById id => exact .inr ⟨rfl, .inr ⟨_, .byId, rfl⟩, .inl rfl⟩
  | findByEmail e => exact .inr ⟨rfl, .inr ⟨_, .byEmail, rfl⟩, .inl rfl⟩
  | findByResetHash h => exact .inr ⟨rfl, .inr ⟨_, .byResetHash, rfl⟩, .inl rfl⟩
  | existsByEmail e => exact .inr ⟨rfl, .inl rfl, .inl rfl⟩
  | list => exact .inr ⟨rfl, .inl rfl, .inl rfl⟩
  | update u =>
    cases hf : s.emailTakenByOther u.email u.id with
    | true => right; simp [answer, Store.update, hf, Progress.learn]
    | false =>
      cases hg : s.get? u.id with
      | none => right; simp [answer, Store.update, hf, hg, Progress.learn]
      | some v =>
        left
        refine ⟨?_, by simp [answer, Store.update, hf, hg, Progress.learn]⟩
        simpa [answer, Store.update, hf, hg] using Written.update hf hg
  | consumeReset id h p t =>
    cases hg : s.get? id with
    | none => right; simp [answer, Store.consumeReset, hg, Progress.learn]
    | some u =>
      cases hl : resetLive u h t with
      | false => right; simp [answer, Store.consumeReset, hg, hl, Progress.learn]
      | true =>
        left
        refine ⟨?_, by simp [answer, Store.consumeReset, hg, hl, Progress.learn]⟩
        simpa [answer, Store.consumeReset, hg, hl] using Written.consumeReset hg hl
  | delete id =>
    cases hg : s.get? id with
    | none =>
      right
      exact ⟨Keyed.remove_absent hg, .inl rfl,
        .inr (by simp [answer, Store.delete, hg, Progress.learn])⟩
    | some u =>
      left
      refine ⟨?_, by simp [answer, Store.delete, hg, Progress.learn]⟩
      simpa [answer, Store.delete, hg] using Written.delete hg

/-- A call changes the users in one of the four ways, or leaves them alone. -/
theorem answer_written (now : Instant) (s : Store) (c : Call) :
    Written now s c (s.answer now c).2 ∨ (s.answer now c).2 = s := by
  rcases s.answer_cases now c (.start now) with ⟨hw, _⟩ | ⟨he, _⟩
  · exact .inl hw
  · exact .inr he

/-- The users that a change leaves: those of before, the one it stores, or the one whose password it
changes. -/
theorem Written.mem_values {now : Instant} {s s' : Store} {c : Call} (hw : Written now s c s')
    {u : User} (hu : u ∈ s'.values) :
    u ∈ s.values ∨ c = .create u ∨ c = .update u ∨
      ∃ id h p t v, c = .consumeReset id h p t ∧ s.get? id = some v ∧ u = v.changePassword p now := by
  obtain ⟨⟨k, v⟩, hp, rfl⟩ := List.mem_map.mp hu
  cases hw with
  | create =>
    rcases Keyed.mem_put.mp hp with he | ⟨hm, _⟩
    · cases he
      exact .inr (.inl rfl)
    · exact .inl (List.mem_map.mpr ⟨_, hm, rfl⟩)
  | update =>
    rcases Keyed.mem_put.mp hp with he | ⟨hm, _⟩
    · cases he
      exact .inr (.inr (.inl rfl))
    · exact .inl (List.mem_map.mpr ⟨_, hm, rfl⟩)
  | consumeReset hg =>
    rcases Keyed.mem_put.mp hp with he | ⟨hm, _⟩
    · cases he
      exact .inr (.inr (.inr ⟨_, _, _, _, _, rfl, hg, rfl⟩))
    · exact .inl (List.mem_map.mpr ⟨_, hm, rfl⟩)
  | delete => exact .inl (List.mem_map.mpr ⟨_, (Keyed.mem_remove.mp hp).1, rfl⟩)

/-- Users are kept under their own identifiers, each once. -/
structure Kept (s : Store) : Prop where
  distinct : Keyed.Distinct s
  own : ∀ p ∈ s, p.2.id = p.1

namespace Kept

variable {s s' : Store} {now : Instant} {c : Call}

theorem nil : Kept [] := ⟨.nil, by simp⟩

theorem get?_eq (h : s.Kept) {id : UserId} {u : User} :
    s.get? id = some u ↔ (id, u) ∈ s := h.distinct.get?_eq

theorem toOwn (h : s.Kept) : Keyed.Own User.id s := ⟨h.distinct, h.own⟩

theorem own_of_get? (h : s.Kept) {id : UserId} {u : User} (hg : s.get? id = some u) : u.id = id :=
  h.toOwn.key_of_get? hg

theorem mem_values (h : s.Kept) {u : User} : u ∈ s.values ↔ s.get? u.id = some u := h.toOwn.mem_values

theorem get?_of_finds (h : s.Kept) {r : Option User} {u : User} (hf : Finds s c r)
    (hr : r = some u) : s.get? u.id = some u := by
  cases hf with
  | byId => rw [h.own_of_get? hr, hr]
  | byEmail => exact h.mem_values.mp (List.mem_of_find?_eq_some hr)
  | byResetHash => exact h.mem_values.mp (List.mem_of_find?_eq_some hr)

theorem put (h : s.Kept) (u : User) : Kept (s.put u.id u) :=
  have ho : (s.put u.id u).Own User.id := h.toOwn.put rfl
  ⟨ho.distinct, ho.own⟩

theorem written (h : s.Kept) (hw : Written now s c s') : s'.Kept := by
  cases hw with
  | create => exact h.put _
  | update => exact h.put _
  | @consumeReset id _ p _ u hg =>
    obtain rfl := h.own_of_get? hg
    exact h.put (u.changePassword p now)
  | delete => exact ⟨h.distinct.remove _, fun p hp => h.own p (Keyed.mem_remove.mp hp).1⟩

theorem answer (h : s.Kept) (now : Instant) (c : Call) : (s.answer now c).2.Kept := by
  rcases s.answer_written now c with hw | he
  · exact h.written hw
  · rwa [he]

end Kept

theorem emailTakenByOther_eq_false {s : Store} {e : Email} {id : UserId} :
    s.emailTakenByOther e id = false ↔ ∀ p ∈ s, p.2.email = e → p.2.id = id := by
  simp [emailTakenByOther, Keyed.values]

/-- Each user is kept once and under its own identifier, and all have different addresses. -/
structure Addressed (s : Store) : Prop extends Kept s where
  emails : s.Pairwise fun p q => p.2.email ≠ q.2.email

namespace Addressed

variable {s s' : Store} {now : Instant} {c : Call}

theorem email_inj (h : s.Addressed) {p q : UserId × User} (hp : p ∈ s) (hq : q ∈ s)
    (he : p.2.email = q.2.email) : p = q := by
  by_contra hn
  have hs : Std.Symm fun p q : UserId × User => p.2.email ≠ q.2.email := ⟨fun _ _ h => Ne.symm h⟩
  exact h.emails.forall hp hq hn he

/-- Nobody else has the address of a user. -/
theorem own_email (h : s.Addressed) {u : User} (hg : s.get? u.id = some u) :
    s.emailTakenByOther u.email u.id = false := by
  rw [emailTakenByOther_eq_false]
  intro p hp he
  rw [h.email_inj hp (h.get?_eq.mp hg) he]

theorem findByEmail_eq (h : s.Addressed) {e : Email} {u : User} :
    s.findByEmail e = some u ↔ u ∈ s.values ∧ u.email = e := by
  constructor
  · intro hf
    exact ⟨List.mem_of_find?_eq_some hf, by simpa using List.find?_some hf⟩
  · rintro ⟨hm, rfl⟩
    obtain ⟨p, hp, rfl⟩ := List.mem_map.mp hm
    cases hf : s.findByEmail p.2.email with
    | none => simpa using List.find?_eq_none.mp hf _ hm
    | some v =>
      obtain ⟨q, hq, rfl⟩ := List.mem_map.mp (List.mem_of_find?_eq_some hf)
      have he : q.2.email = p.2.email := by simpa using List.find?_some hf
      rw [h.email_inj hq hp he]

/-- A record may be put in place if nobody else has its address. -/
theorem put (h : s.Addressed) {u : User} (hf : ∀ p ∈ s, p.2.email = u.email → p.2.id = u.id) :
    Addressed (s.put u.id u) := by
  refine ⟨h.toKept.put u, List.pairwise_cons.mpr ⟨?_, h.emails.filter _⟩⟩
  intro q hq he
  obtain ⟨hm, hn⟩ := Keyed.mem_remove.mp hq
  exact hn (by rw [← h.own q hm]; exact hf q hm he.symm)

theorem written (h : s.Addressed) (hw : Written now s c s') : s'.Addressed := by
  cases hw with
  | create hf => exact h.put (emailTakenByOther_eq_false.mp hf)
  | update hf => exact h.put (emailTakenByOther_eq_false.mp hf)
  | @consumeReset id _ p _ u hg =>
    obtain rfl := h.own_of_get? hg
    refine h.put (u := u.changePassword p now) ?_
    intro q hq he
    rw [h.email_inj hq (h.get?_eq.mp hg) he]
    rfl
  | delete hg => exact ⟨h.toKept.written (.delete hg : Written now s _ _), h.emails.filter _⟩

theorem answer (h : s.Addressed) (now : Instant) (c : Call) : (s.answer now c).2.Addressed := by
  rcases s.answer_written now c with hw | he
  · exact h.written hw
  · rwa [he]

end Addressed

/-- An address is free for a user if nobody else has it and the user has another one. -/
theorem Kept.existsByEmail_eq_false {s : Store} (h : s.Kept) {u : User} {e : Email}
    (hg : s.get? u.id = some u) (he : e ≠ u.email) (hf : s.emailTakenByOther e u.id = false) :
    s.existsByEmail e = false := by
  simp only [existsByEmail, Keyed.values, List.any_eq_false, List.mem_map, decide_eq_true_eq]
  rintro v ⟨p, hp, rfl⟩ hv
  have hi : p.1 = u.id := (h.own p hp).symm.trans (emailTakenByOther_eq_false.mp hf p hp hv)
  have hg' : s.get? u.id = some p.2 := h.get?_eq.mpr (hi ▸ hp)
  rw [Option.some.inj (hg.symm.trans hg')] at he
  exact he hv.symm

/-- Whether another user has an address does not depend on the user's own record. -/
theorem Kept.emailTakenByOther_put {s : Store} (h : s.Kept) (u : User) (e : Email) :
    emailTakenByOther (s.put u.id u) e u.id = s.emailTakenByOther e u.id := by
  have hb : ∀ x y : Bool, (x = false ↔ y = false) → x = y := by decide
  apply hb
  rw [emailTakenByOther_eq_false, emailTakenByOther_eq_false]
  constructor
  · intro hf p hp he
    by_cases hi : p.1 = u.id
    · exact (h.own p hp).trans hi
    · exact hf p (Keyed.mem_put.mpr (.inr ⟨hp, hi⟩)) he
  · intro hf p hp he
    rcases Keyed.mem_put.mp hp with rfl | ⟨hm, _⟩
    · rfl
    · exact hf p hm he

end Store

end Account
end Storefront
