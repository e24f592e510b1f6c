import Storefront.Proofs.ResetChecks
import Storefront.Proofs.Users

namespace Storefront.Account

namespace Plan
variable {α β σ : Type} {answer : Backend σ} {now : Instant} {st st' : σ}

theorem run_ofExcept (x : α) (f : α → Plan β) :
    (ofExcept (.ok x) >>= f).run answer now st = (f x).run answer now st := rfl

theorem run_orRefuse (x : α) (r : Refusal) (f : α → Plan β) :
    (orRefuse (some x) r >>= f).run answer now st = (f x).run answer now st := rfl

theorem run_call {c : Call} {a : c.Answer} (h : answer now st c = (.ok a, st'))
    (f : Instant × c.Answer → Plan β) :
    (call c >>= f).run answer now st = (f (now, a)).run answer now st' := by
  change ((Plan.done ((answer now st c).1.map (now, ·))).bind f).run answer now (answer now st c).2 = _
  rw [h]
  rfl

theorem run_callUnlessTaken {taken : Refusal} {c : Call} {a : c.Answer}
    (h : answer now st c = (.ok a, st')) (f : Instant × c.Answer → Plan β) :
    (callUnlessTaken taken c >>= f).run answer now st = (f (now, a)).run answer now st' := by
  simp only [callUnlessTaken, Bind.bind, bind, run, h]

end Plan

section Commands
open Plan

variable {P : Primitives} {s : Settings} {d : Draws} {users : Store} {t : Instant} {u : User}

theorem Store.answer_update {v : User} (hg : users.get? u.id = some v) (hf : users.emailTakenByOther u.email u.id = false) :
    users.answer t (.update u) = (.ok true, users.put u.id u) := by
  simp [Store.answer, Store.update, hg, hf]

theorem forgotPassword_alone {email : Option String} {text : String} {e : Email} {v : User}
    (ht : nonBlank email = some text) (he : Email.parse P text = .ok e)
    (hu : users.findByEmail e = some u) (hg : users.get? u.id = some v)
    (hf : users.emailTakenByOther u.email u.id = false) (hr : t.Reaches s.resetLifetime) :
    (forgotPassword P s d email).run Store.answer t users =
      (.ok (.resetLink (some (s.resetLink d.token.text))),
        users.put u.id (u.issueReset P d.token s.resetTtlMs t)) := by
  have hl : Store.answer t users (.findByEmail e) = (.ok (some u), users) := by rw [Store.answer, hu]
  have hw : users.answer t (.update (u.issueReset P d.token s.resetTtlMs t)) =
      (.ok true, users.put u.id (u.issueReset P d.token s.resetTtlMs t)) := Store.answer_update hg hf
  have hi : u.issueReset? P d.token s.resetLifetime t = some (u.issueReset P d.token s.resetTtlMs t) :=
    User.issueReset?_eq_some.mpr ⟨hr, rfl⟩
  simp only [forgotPassword, ht, run_orRefuse, he, Plan.findByEmail, Plan.update]
  rw [run_call hl]
  simp only [hi, run_orRefuse]
  rw [run_call hw]
  rfl

theorem requireFree_run {email : Option Email} {taken : Refusal} {f : Instant → Plan Outcome}
    (hf : ∀ e, email = some e → e ≠ u.email → users.existsByEmail e = false) :
    (requireFree u email taken t >>= f).run Store.answer t users = (f t).run Store.answer t users := by
  cases email with
  | none => rfl
  | some e =>
    by_cases he : e = u.email
    · rw [requireFree, if_pos he]
      rfl
    · have hl : Store.answer t users (.existsByEmail e) = (.ok false, users) := by rw [Store.answer, hf e rfl he]
      simp only [requireFree, if_neg he, Plan.existsByEmail, call, Bind.bind, Plan.bind, Plan.run, hl]
      rfl

theorem updateProfile_alone {who : UserId} {c : ProfileChange} {name : Option DisplayName}
    {email : Option Email} (hc : c.check P = .ok (name, email)) (hu : users.get? who = some u)
    (hk : u.id = who) (he : ∀ e, email = some e → e ≠ u.email → users.existsByEmail e = false)
    (hf : users.emailTakenByOther (u.updateProfile name email t).email u.id = false) :
    ((updateProfile P who c).run Store.answer t users).2 = users.put who (u.updateProfile name email t) := by
  have hl : Store.answer t users (.findById who) = (.ok (some u), users) := by rw [Store.answer, hu]
  have hw : users.answer t (.update (u.updateProfile name email t)) =
      (.ok true, users.put u.id (u.updateProfile name email t)) := Store.answer_update (hk ▸ hu) hf
  simp only [updateProfile, hc, Plan.findById, Plan.updateUnlessTaken]
  rw [run_ofExcept, run_call hl, run_orRefuse, requireFree_run he, run_callUnlessTaken hw, hk]
  rfl

theorem changePassword_alone {who : UserId} {c : PasswordChange} {old p : Password.Clear}
    (hc : c.check P = .ok (old, p)) (hu : users.get? who = some u) (hk : u.id = who)
    (hv : u.password.verify P old s.pepper = true)
    (hf : users.emailTakenByOther u.email u.id = false) :
    (changePassword P s d who c).run Store.answer t users =
      (.ok .passwordChanged, users.put who (u.changePassword (p.hash P s.pepper d.salt) t)) := by
  have hl : Store.answer t users (.findById who) = (.ok (some u), users) := by rw [Store.answer, hu]
  have hw : users.answer t (.update (u.changePassword (p.hash P s.pepper d.salt) t)) =
      (.ok true, users.put u.id (u.changePassword (p.hash P s.pepper d.salt) t)) :=
    Store.answer_update (hk ▸ hu) hf
  simp only [changePassword, hc, Plan.findById, Plan.update]
  rw [run_ofExcept, run_call hl, run_orRefuse]
  simp only [hv, if_true]
  rw [run_call hw, hk]
  rfl

theorem updateUser_alone {id : UserId} {c : UserChange} {name : Option DisplayName}
    {email : Option Email} {role : Option Role} (hc : c.check P = .ok (name, email, role))
    (hu : users.get? id = some u) (hk : u.id = id)
    (he : ∀ e, email = some e → e ≠ u.email → users.existsByEmail e = false)
    (hi : (u.administer name email role t).id = u.id)
    (hf : users.emailTakenByOther (u.administer name email role t).email u.id = false) :
    ((updateUser P id c).run Store.answer t users).2 = users.put id (u.administer name email role t) := by
  have hl : Store.answer t users (.findById id) = (.ok (some u), users) := by rw [Store.answer, hu]
  have hw : users.answer t (.update (u.administer name email role t)) =
      (.ok true, users.put (u.administer name email role t).id (u.administer name email role t)) :=
    Store.answer_update (hi ▸ hk ▸ hu) (hi ▸ hf)
  simp only [updateUser, hc, Plan.findById, Plan.updateUnlessTaken]
  rw [run_ofExcept, run_call hl, run_orRefuse, requireFree_run he, run_callUnlessTaken hw, hi, hk]
  rfl

theorem resetPassword_alone {r : Reset} {token : ResetToken} {p : Password.Clear}
    (hc : r.check P = .ok (token, p)) (hu : users.findByResetHash (token.hash P) = some u)
    (hg : users.get? u.id = some u) (hl : Store.resetLive u (token.hash P) t = true) :
    (resetPassword P s d r).run Store.answer t users =
      (.ok .passwordReset, users.put u.id (u.changePassword (p.hash P s.pepper d.salt) t)) := by
  have hf : Store.answer t users (.findByResetHash (token.hash P)) = (.ok (some u), users) := by
    rw [Store.answer, hu]
  have hw : Store.answer t users (.consumeReset u.id (token.hash P) (p.hash P s.pepper d.salt) t) =
      (.ok true, users.put u.id (u.changePassword (p.hash P s.pepper d.salt) t)) := by
    simp [Store.answer, Store.consumeReset, hg, hl]
  simp only [resetPassword, hc, Plan.findByResetHash, Plan.consumeReset]
  rw [run_ofExcept, run_call hf, run_orRefuse]
  simp only [User.resetMatches_eq, hl, if_true]
  rw [run_call hw]
  rfl
end Commands

namespace Arrival

/-- The users after a request that is carried out at one instant. -/
def alone (P : Primitives) (s : Settings) (a : Arrival) (users : Store) (t : Instant) : Store :=
  ((a.plan P s).run Store.answer t users).2

variable {P : Primitives} {s : Settings} {a : Arrival} {users : Store} {t : Instant} {u f : User}

/-- A request stores what it makes of the user it finds, if the address is free. -/
theorem alone_update (hk : users.Kept) {c : Call} (hl : a.Looks P s c)
    (hu : users.Finds c (some u)) (hw : a.Writes P s ⟨t, some (some u), none⟩ (.update f))
    (hf : users.emailTakenByOther f.email u.id = false) :
    a.alone P s users t = users.put u.id f := by
  have hg := hk.get?_of_finds hu rfl
  cases hw with
  | forgotPassword h hr =>
    cases h
    cases hl with
    | forgotPassword ht he =>
      exact congrArg Prod.snd (forgotPassword_alone ht he (Store.finds_findByEmail.mp hu) hg hf hr)
  | updateProfile hc h =>
    cases h
    cases hl
    have hu := Store.finds_findById.mp hu
    have hi := hk.own_of_get? hu
    rw [hi]
    refine updateProfile_alone hc hu hi ?_ hf
    rintro e rfl he
    exact hk.existsByEmail_eq_false hg he hf
  | changePassword hc h hv =>
    cases h
    cases hl
    have hu := Store.finds_findById.mp hu
    have hi := hk.own_of_get? hu
    rw [hi]
    exact congrArg Prod.snd (changePassword_alone hc hu hi hv hf)
  | @updateUser _ _ _ _ _ _ _ _ role hc h =>
    cases h
    cases hl
    have hu := Store.finds_findById.mp hu
    have hi := hk.own_of_get? hu
    rw [hi]
    refine updateUser_alone hc hu hi ?_ (by cases role <;> rfl) hf
    rintro e rfl he
    refine hk.existsByEmail_eq_false hg he ?_
    cases role <;> exact hf

/-- A request that finds a user with its token changes the password. -/
theorem alone_reset {r : Reset} {d : Draws} {since : Instant} {token : ResetToken}
    {p : Password.Clear} (hk : users.Kept) (hc : r.check P = .ok (token, p))
    (hu : users.findByResetHash (token.hash P) = some u)
    (hl : Store.resetLive u (token.hash P) t = true) :
    alone P s ⟨.resetPassword r, d, since⟩ users t =
      users.put u.id (u.changePassword (p.hash P s.pepper d.salt) t) := by
  have hg := hk.get?_of_finds (Store.finds_findByResetHash.mpr hu) rfl
  exact congrArg Prod.snd (resetPassword_alone hc hu hg hl)

end Arrival

end Storefront.Account
