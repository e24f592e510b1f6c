import Storefront.Account.Service
import Storefront.Account.Store

namespace Storefront.Account

/-- A plan is refused for a reason of this kind, as long as its calls are. -/
def Plan.RefusesBy {α : Type} (q : Refusal → Prop) : Plan α → Prop
  | .done r => ∀ e, r = .error e → q e
  | .ask _ next => ∀ now a, (∀ e, a = .error e → q e) → (next now a).RefusesBy q

namespace Plan

variable {α β σ : Type} {q : Refusal → Prop} {p : Plan α} {f : α → Plan β} {answer : Backend σ} {now : Instant}

theorem refusesBy_pure (a : α) : RefusesBy q (pure a) := by
  rintro e ⟨⟩

theorem refusesBy_ofExcept {r : Except Refusal α} (h : ∀ e, r = .error e → q e) : RefusesBy q (ofExcept r) := h

theorem refusesBy_refuse {r : Refusal} (h : q r) : RefusesBy q (refuse r : Plan α) := by
  rintro e ⟨⟩
  exact h

theorem refusesBy_orRefuse {a : Option α} {r : Refusal} (h : q r) : RefusesBy q (orRefuse a r) := by
  cases a with
  | none => exact refusesBy_refuse h
  | some x => exact refusesBy_pure x

theorem refusesBy_bind (hp : p.RefusesBy q) (hf : ∀ a, (f a).RefusesBy q) : RefusesBy q (p >>= f) := by
  induction p with
  | done r =>
    cases r with
    | error e =>
      rintro _ ⟨⟩
      exact hp e rfl
    | ok a => exact hf a
  | ask c next ih => exact fun now a ha => ih now a (hp now a ha)

theorem refusesBy_call (c : Call) : RefusesBy q (call c) := by
  intro now a ha e he
  cases a with
  | error r =>
    cases he
    exact ha e rfl
  | ok x => cases he

theorem RefusesBy.run (h : p.RefusesBy q) (ha : ∀ s c e, (answer now s c).1 = .error e → q e) {s : σ} {e : Refusal}
    (he : (p.run answer now s).1 = .error e) : q e := by
  induction p generalizing s with
  | done r => exact h e he
  | ask c next ih => exact ih now _ (h now _ (ha s c)) he

end Plan

/-- The refusal does not come from a limit. -/
def Refusal.Unlimited (r : Refusal) : Prop := ∀ k, r ≠ .rateLimited k

theorem Refusal.unlimited_validation (m : String) : (Refusal.validation m).Unlimited := by
  rintro k ⟨⟩

theorem Refusal.Unlimited.status {r : Refusal} (h : r.Unlimited) : r.response.status ≠ 429 := by
  cases r with
  | rateLimited k => exact absurd rfl (h k)
  | _ => exact Nat.ne_of_beq_eq_false rfl

section Commands

open Plan Refusal

variable {P : Primitives} {s : Settings} {d : Draws}

theorem Store.answer_unlimited (now : Instant) (users : Store) (c : Call) (e : Refusal)
    (h : (users.answer now c).1 = .error e) : e.Unlimited := by
  have hx : ∀ k, Refusal.emailInUse ≠ .rateLimited k := by
    rintro k ⟨⟩
  cases c with
  | create u =>
    cases ht : users.emailTakenByOther u.email u.id with
    | true =>
      simp only [Store.answer, Store.create, ht, if_true] at h
      cases h
      exact hx
    | false =>
      simp only [Store.answer, Store.create, ht, Bool.false_eq_true, if_false] at h
      cases h
  | update u =>
    cases ht : users.emailTakenByOther u.email u.id with
    | true =>
      simp only [Store.answer, Store.update, ht, if_true] at h
      cases h
      exact hx
    | false =>
      simp only [Store.answer, Store.update, ht, Bool.false_eq_true, if_false] at h
      cases hg : users.get? u.id with
      | none =>
        simp only [hg] at h
        cases h
      | some v =>
        simp only [hg] at h
        cases h
  | _ => cases h

theorem login_unlimited (c : Credentials) : (login P s c).RefusesBy Unlimited := by
  have hc : ∀ e, c.check P = .error e → e.Unlimited := by
    unfold Credentials.check
    split
    · split
      · rintro e ⟨⟩
      · rintro e ⟨⟩ k ⟨⟩
    · rintro e ⟨⟩
      exact unlimited_validation _
  have hi : invalidCredentials.Unlimited := by
    rintro k ⟨⟩
  refine refusesBy_bind (refusesBy_ofExcept hc) ?_
  rintro ⟨email, password⟩
  refine refusesBy_bind (refusesBy_call _) ?_
  rintro ⟨now, found⟩
  refine refusesBy_bind (refusesBy_orRefuse hi) ?_
  intro u
  split
  · exact refusesBy_pure _
  · exact refusesBy_refuse hi

theorem forgotPassword_unlimited (email : Option String) : (forgotPassword P s d email).RefusesBy Unlimited := by
  refine refusesBy_bind (refusesBy_orRefuse (unlimited_validation _)) ?_
  intro text
  split
  · exact refusesBy_pure _
  · refine refusesBy_bind (refusesBy_call _) ?_
    rintro ⟨now, found⟩
    cases found with
    | none => exact refusesBy_pure _
    | some u =>
      refine refusesBy_bind (refusesBy_orRefuse ?_) fun v => ?_
      · rintro k ⟨⟩
      · exact refusesBy_bind (refusesBy_call _) fun _ => refusesBy_pure _

theorem resetPassword_unlimited (r : Reset) : (resetPassword P s d r).RefusesBy Unlimited := by
  have hc : ∀ e, r.check P = .error e → e.Unlimited := by
    unfold Reset.check
    split
    · split
      · split
        · rintro e ⟨⟩
        · rintro e ⟨⟩
          exact unlimited_validation _
      · rintro e ⟨⟩
        exact unlimited_validation _
    · rintro e ⟨⟩
      exact unlimited_validation _
  have hi : invalidLink.Unlimited := unlimited_validation _
  refine refusesBy_bind (refusesBy_ofExcept hc) ?_
  rintro ⟨token, password⟩
  refine refusesBy_bind (refusesBy_call _) ?_
  rintro ⟨now, found⟩
  refine refusesBy_bind (refusesBy_orRefuse hi) ?_
  intro u
  split
  · refine refusesBy_bind (refusesBy_call _) ?_
    rintro ⟨now, done⟩
    cases done with
    | true => exact refusesBy_pure _
    | false => exact refusesBy_refuse hi
  · exact refusesBy_refuse hi

theorem changePassword_unlimited (who : UserId) (c : PasswordChange) :
    (changePassword P s d who c).RefusesBy Unlimited := by
  have hc : ∀ e, c.check P = .error e → e.Unlimited := by
    unfold PasswordChange.check
    split
    · split
      · split
        · rintro e ⟨⟩
        · rintro e ⟨⟩
          exact unlimited_validation _
      · rintro e ⟨⟩
        exact unlimited_validation _
    · rintro e ⟨⟩
      exact unlimited_validation _
  have hi : noProfile.Unlimited := by
    rintro k ⟨⟩
  refine refusesBy_bind (refusesBy_ofExcept hc) ?_
  rintro ⟨old, password⟩
  refine refusesBy_bind (refusesBy_call _) ?_
  rintro ⟨now, found⟩
  refine refusesBy_bind (refusesBy_orRefuse hi) ?_
  intro u
  split
  · refine refusesBy_bind (refusesBy_call _) ?_
    rintro ⟨now, stored⟩
    cases stored with
    | true => exact refusesBy_pure _
    | false => exact refusesBy_refuse hi
  · exact refusesBy_refuse (unlimited_validation _)

end Commands

end Storefront.Account
