import Mathlib.Data.List.Forall2
import Storefront.Proofs.Discretion

namespace Storefront

section Lists

variable {α β : Type} {R : α → β → Prop} {l : List α} {l' : List β}

theorem any_eq_of_forall₂ {p : α → Bool} {q : β → Bool} (h : List.Forall₂ R l l')
    (hp : ∀ a b, R a b → p a = q b) : l.any p = l'.any q := by
  induction h with
  | nil => rfl
  | cons hr _ ih => rw [List.any_cons, List.any_cons, hp _ _ hr, ih]

theorem rel_find? {p : α → Bool} {q : β → Bool} (h : List.Forall₂ R l l')
    (hp : ∀ a b, R a b → p a = q b) : Option.Rel R (l.find? p) (l'.find? q) := by
  induction h with
  | nil => exact .none
  | cons hr _ ih =>
    rw [List.find?_cons, List.find?_cons, hp _ _ hr]
    split
    · exact .some hr
    · exact ih

/-- Sorting keeps counterparts together, for it looks at nothing in which they differ. -/
theorem rel_mergeSort {le : α → α → Bool} {le' : β → β → Bool} (h : List.Forall₂ R l l')
    (hle : ∀ a a' b b', R a b → R a' b' → le a a' = le' b b') :
    List.Forall₂ R (l.mergeSort le) (l'.mergeSort le') := by
  obtain ⟨hl, hz⟩ := List.forall₂_iff_zip.mp h
  have hr : ∀ x ∈ l.zip l', R x.1 x.2 := fun x hx => hz hx
  have hs := List.map_mergeSort (r := fun x y => le x.1 y.1) (s := le) (f := Prod.fst) (l := l.zip l')
    fun _ _ _ _ => rfl
  have hs' := List.map_mergeSort (r := fun x y => le x.1 y.1) (s := le') (f := Prod.snd) (l := l.zip l')
    fun x hx y hy => hle _ _ _ _ (hr x hx) (hr y hy)
  rw [List.map_fst_zip hl.le] at hs
  rw [List.map_snd_zip hl.ge] at hs'
  rw [← hs, ← hs', List.forall₂_map_left_iff, List.forall₂_map_right_iff, List.forall₂_same]
  exact fun x hx => hr x (List.mem_mergeSort.mp hx)

end Lists

/-- The hashes accept the same passwords. -/
def Password.Hashed.Alike (P : Primitives) (pepper : Option Bytes) (h h' : Hashed) : Prop :=
  ∀ text, h.verify P (.forVerification P text) pepper = h'.verify P (.forVerification P text) pepper

namespace Account

open Http (Request Response)
open Password (Clear Hashed)

/-- The users differ in their hashes alone, and these accept the same passwords. -/
inductive User.Alike (P : Primitives) (pepper : Option Bytes) (u : User) : User → Prop where
  | mk (h : Hashed) (hh : u.password.Alike P pepper h) : Alike P pepper u { u with password := h }

/-- The same users, up to hashes that accept the same passwords. -/
abbrev Store.Alike (P : Primitives) (pepper : Option Bytes) (users users' : Store) : Prop :=
  List.Forall₂ (fun x y => x.1 = y.1 ∧ x.2.Alike P pepper y.2) users users'

/-- The same is drawn but for the salt, under which every password gets a hash that accepts the same passwords. -/
inductive Draws.Alike (P : Primitives) (pepper : Option Bytes) (d : Draws) : Draws → Prop where
  | mk (salt : Bytes)
    (hs : ∀ p : Clear, (p.hash P pepper d.salt).Alike P pepper (p.hash P pepper salt)) :
    Alike P pepper d { d with salt := salt }

/-- The same request at the same time. -/
inductive Visit.Alike (P : Primitives) (pepper : Option Bytes) (v : Visit) : Visit → Prop where
  | mk {d : Draws} (hd : v.draws.Alike P pepper d) : Alike P pepper v { v with draws := d }

/-- Under a faithful hash the salt makes no difference to what is accepted. -/
theorem Draws.Alike.of_faithful {P : Primitives} (hP : P.Faithful) (pepper : Option Bytes) (d : Draws)
    (salt : Bytes) : d.Alike P pepper { d with salt := salt } := by
  refine ⟨salt, fun p text => ?_⟩
  rw [Bool.eq_iff_iff, Clear.verify_hash hP, Clear.verify_hash hP]

section Users

variable {P : Primitives} {pepper : Option Bytes} {users users' : Store} {u u' : User}

namespace User

theorem Alike.updateProfile (h : u.Alike P pepper u') (name : Option DisplayName) (email : Option Email)
    (now : Instant) : (u.updateProfile name email now).Alike P pepper (u'.updateProfile name email now) := by
  obtain ⟨p, hp⟩ := h
  exact ⟨p, hp⟩

theorem Alike.administer (h : u.Alike P pepper u') (name : Option DisplayName) (email : Option Email)
    (role : Option Role) (now : Instant) :
    (u.administer name email role now).Alike P pepper (u'.administer name email role now) := by
  obtain ⟨p, hp⟩ := h
  cases role with
  | none => exact ⟨p, hp⟩
  | some r => exact ⟨p, hp⟩

theorem Alike.issueReset? (h : u.Alike P pepper u') (t : ResetToken) (ttl : Duration) (now : Instant) :
    Option.Rel (User.Alike P pepper) (u.issueReset? P t ttl now) (u'.issueReset? P t ttl now) := by
  obtain ⟨p, hp⟩ := h
  unfold User.issueReset?
  split
  · exact .some ⟨p, hp⟩
  · exact .none

theorem Alike.changePassword (h : u.Alike P pepper u') {p p' : Hashed} (hp : p.Alike P pepper p')
    (now : Instant) : (u.changePassword p now).Alike P pepper (u'.changePassword p' now) := by
  obtain ⟨_, _⟩ := h
  exact ⟨p', hp⟩

end User

namespace Store

theorem Alike.values (h : users.Alike P pepper users') :
    List.Forall₂ (User.Alike P pepper) users.values users'.values := by
  rw [Keyed.values, Keyed.values, List.forall₂_map_left_iff, List.forall₂_map_right_iff]
  exact h.imp fun _ _ hx => hx.2

theorem Alike.get? (h : users.Alike P pepper users') (id : UserId) :
    Option.Rel (User.Alike P pepper) (users.get? id) (users'.get? id) := by
  induction h with
  | nil => exact .none
  | @cons x y _ _ hx _ ih =>
    obtain ⟨k, u⟩ := x
    obtain ⟨k', u'⟩ := y
    obtain ⟨rfl, hu⟩ := hx
    rw [Keyed.get?, Keyed.get?]
    split
    · exact .some hu
    · exact ih

/-- A user is found among both, or among neither. -/
theorem Alike.get?_cases (h : users.Alike P pepper users') (id : UserId) :
    (users.get? id = none ∧ users'.get? id = none) ∨
      ∃ u u', users.get? id = some u ∧ users'.get? id = some u' ∧ u.Alike P pepper u' := by
  have hg := h.get? id
  generalize users.get? id = a at hg
  generalize users'.get? id = b at hg
  cases hg with
  | none => exact .inl ⟨rfl, rfl⟩
  | some hu => exact .inr ⟨_, _, rfl, rfl, hu⟩

theorem Alike.remove (h : users.Alike P pepper users') (id : UserId) :
    Store.Alike P pepper (users.remove id) (users'.remove id) :=
  List.rel_filter (fun x y hx => by simp [hx.1]) h

theorem Alike.put (h : users.Alike P pepper users') (id : UserId) (hu : u.Alike P pepper u') :
    Store.Alike P pepper (users.put id u) (users'.put id u') :=
  .cons ⟨rfl, hu⟩ (h.remove id)

theorem Alike.emailTakenByOther (h : users.Alike P pepper users') (e : Email) (id : UserId) :
    users.emailTakenByOther e id = users'.emailTakenByOther e id := by
  refine any_eq_of_forall₂ h.values ?_
  rintro u _ ⟨p, hp⟩
  rfl

end Store

end Users

/-- Both are refused for the same reason, or their results are counterparts. -/
inductive Agree {α β : Type} (R : α → β → Prop) : Except Refusal α → Except Refusal β → Prop where
  | error (r : Refusal) : Agree R (.error r) (.error r)
  | ok {a : α} {b : β} (h : R a b) : Agree R (.ok a) (.ok b)

/-- Counterparts at the same time. -/
inductive AtOnce {α β : Type} (R : α → β → Prop) : Instant × α → Instant × β → Prop where
  | mk {now : Instant} {a : α} {b : β} (h : R a b) : AtOnce R (now, a) (now, b)

/-- The calls are answered with counterparts where the users are alike, and these stay so. -/
def Call.Alike (P : Primitives) (pepper : Option Bytes) (c c' : Call) (R : c.Answer → c'.Answer → Prop) :
    Prop :=
  ∀ now users users', Store.Alike P pepper users users' →
    Agree R (users.answer now c).1 (users'.answer now c').1 ∧
      Store.Alike P pepper (users.answer now c).2 (users'.answer now c').2

/-- The plans end with counterparts where the users are alike, and these stay so. -/
def Plan.Alike {α β : Type} (P : Primitives) (pepper : Option Bytes) (R : α → β → Prop) (p : Plan α)
    (q : Plan β) : Prop :=
  ∀ now users users', Store.Alike P pepper users users' →
    Agree R (p.run Store.answer now users).1 (q.run Store.answer now users').1 ∧
      Store.Alike P pepper (p.run Store.answer now users).2 (q.run Store.answer now users').2

section Calls

variable {P : Primitives} {pepper : Option Bytes} {u u' : User}

/-- A question is answered with counterparts and leaves the users as they are. -/
theorem Call.Alike.read {c : Call} {f : Store → c.Answer} {R : c.Answer → c.Answer → Prop}
    (hc : ∀ now users, Store.answer now users c = (.ok (f users), users))
    (hf : ∀ {users users'}, Store.Alike P pepper users users' → R (f users) (f users')) :
    Call.Alike P pepper c c R := by
  intro now users users' h
  rw [hc, hc]
  exact ⟨.ok (hf h), h⟩

theorem findById_alike (id : UserId) :
    Call.Alike P pepper (.findById id) (.findById id) (Option.Rel (User.Alike P pepper)) :=
  .read (fun _ _ => rfl) fun h => h.get? id

theorem findByEmail_alike (e : Email) :
    Call.Alike P pepper (.findByEmail e) (.findByEmail e) (Option.Rel (User.Alike P pepper)) := by
  refine .read (fun _ _ => rfl) fun h => rel_find? h.values ?_
  rintro u _ ⟨p, hp⟩
  rfl

theorem findByResetHash_alike (t : String) :
    Call.Alike P pepper (.findByResetHash t) (.findByResetHash t) (Option.Rel (User.Alike P pepper)) := by
  refine .read (fun _ _ => rfl) fun h => rel_find? h.values ?_
  rintro u _ ⟨p, hp⟩
  rfl

theorem existsByEmail_alike (e : Email) :
    Call.Alike P pepper (.existsByEmail e) (.existsByEmail e) Eq := by
  refine .read (fun _ _ => rfl) fun h => any_eq_of_forall₂ h.values ?_
  rintro u _ ⟨p, hp⟩
  rfl

theorem list_alike : Call.Alike P pepper .list .list (List.Forall₂ (User.Alike P pepper)) := by
  refine .read (fun _ _ => rfl) fun h => rel_mergeSort h.values ?_
  rintro u v _ _ ⟨p, hp⟩ ⟨q, hq⟩
  rfl

theorem create_alike (hu : u.Alike P pepper u') : Call.Alike P pepper (.create u) (.create u') (@Eq Unit) := by
  obtain ⟨p, hp⟩ := hu
  intro now users users' h
  simp only [Store.answer, Store.create, h.emailTakenByOther]
  cases users'.emailTakenByOther u.email u.id with
  | true => exact ⟨.error _, h⟩
  | false => exact ⟨.ok rfl, h.put u.id ⟨p, hp⟩⟩

theorem update_alike (hu : u.Alike P pepper u') : Call.Alike P pepper (.update u) (.update u') (@Eq Bool) := by
  obtain ⟨p, hp⟩ := hu
  intro now users users' h
  simp only [Store.answer, Store.update, h.emailTakenByOther]
  cases users'.emailTakenByOther u.email u.id with
  | true => exact ⟨.error _, h⟩
  | false =>
    rcases h.get?_cases u.id with ⟨hn, hn'⟩ | ⟨_, _, hg, hg', _⟩
    · rw [hn, hn']
      exact ⟨.ok rfl, h⟩
    · rw [hg, hg']
      exact ⟨.ok rfl, h.put u.id ⟨p, hp⟩⟩

theorem consumeReset_alike {p p' : Hashed} (hp : p.Alike P pepper p') (id : UserId) (t : String)
    (asOf : Instant) :
    Call.Alike P pepper (.consumeReset id t p asOf) (.consumeReset id t p' asOf) (@Eq Bool) := by
  intro now users users' h
  simp only [Store.answer, Store.consumeReset]
  rcases h.get?_cases id with ⟨hn, hn'⟩ | ⟨u, u', hg, hg', hu⟩
  · rw [hn, hn']
    exact ⟨.ok rfl, h⟩
  · have hl : Store.resetLive u t asOf = Store.resetLive u' t asOf := by
      obtain ⟨q, hq⟩ := hu
      rfl
    rw [hg, hg']
    dsimp only
    rw [hl]
    cases Store.resetLive u' t asOf with
    | true => exact ⟨.ok rfl, h.put id (hu.changePassword hp now)⟩
    | false => exact ⟨.ok rfl, h⟩

theorem delete_alike (id : UserId) : Call.Alike P pepper (.delete id) (.delete id) Eq := by
  intro now users users' h
  refine ⟨.ok ?_, h.remove id⟩
  rcases h.get?_cases id with ⟨hn, hn'⟩ | ⟨_, _, hg, hg', _⟩
  · rw [hn, hn']
  · rw [hg, hg']
    rfl

end Calls

namespace Plan

variable {α α' β β' : Type} {P : Primitives} {pepper : Option Bytes} {R : α → β → Prop}
  {S : α' → β' → Prop} {p : Plan α} {q : Plan β}

theorem Alike.done {a : Except Refusal α} {b : Except Refusal β} (h : Agree R a b) :
    Alike P pepper R (done a) (done b) :=
  fun _ _ _ hu => ⟨h, hu⟩

theorem Alike.refuse (r : Refusal) : Alike P pepper R (refuse r) (refuse r) := .done (.error r)

theorem Alike.pure {a : α} {b : β} (h : R a b) : Alike P pepper R (pure a) (pure b) := .done (.ok h)

theorem Alike.bind {f : α → Plan α'} {g : β → Plan β'} (h : Alike P pepper R p q)
    (hf : ∀ a b, R a b → Alike P pepper S (f a) (g b)) : Alike P pepper S (p >>= f) (q >>= g) := by
  intro now users users' hu
  change Agree S ((p.bind f).run _ now users).1 ((q.bind g).run _ now users').1 ∧ Store.Alike P pepper
    ((p.bind f).run _ now users).2 ((q.bind g).run _ now users').2
  rw [run_bind, run_bind]
  obtain ⟨hr, hs⟩ := h now users users' hu
  generalize p.run Store.answer now users = x at hr hs
  generalize q.run Store.answer now users' = y at hr hs
  obtain ⟨a, users⟩ := x
  obtain ⟨b, users'⟩ := y
  cases hr with
  | error r => exact ⟨.error r, hs⟩
  | ok h => exact hf _ _ h now users users' hs

/-- What is checked depends on nothing that was drawn. -/
theorem Alike.ofExcept (r : Except Refusal α) :
    Alike P pepper (fun a b => r = .ok a ∧ a = b) (ofExcept r) (ofExcept r) := by
  cases r with
  | error r => exact .refuse r
  | ok a => exact .pure ⟨rfl, rfl⟩

theorem Alike.orRefuse {a : Option α} {b : Option β} (h : Option.Rel R a b) (r : Refusal) :
    Alike P pepper R (orRefuse a r) (orRefuse b r) := by
  cases h with
  | none => exact .refuse r
  | some h => exact .pure h

theorem Alike.orRefuse_same (a : Option α) (r : Refusal) :
    Alike P pepper Eq (Plan.orRefuse a r) (Plan.orRefuse a r) := by
  cases a with
  | none => exact .refuse r
  | some a => exact .pure rfl

theorem Alike.ite {b b' : Bool} {p p' : Plan α} {q q' : Plan β} (hb : b = b')
    (hp : Alike P pepper R p q) (hq : Alike P pepper R p' q') :
    Alike P pepper R (if b then p else p') (if b' then q else q') := by
  subst hb
  cases b with
  | true => exact hp
  | false => exact hq

theorem Alike.call {c c' : Call} {T : c.Answer → c'.Answer → Prop} (h : Call.Alike P pepper c c' T) :
    Alike P pepper (AtOnce T) (call c) (call c') := by
  intro now users users' hu
  obtain ⟨hr, hs⟩ := h now users users' hu
  refine ⟨?_, hs⟩
  simp only [Plan.call, run]
  generalize (users.answer now c).1 = a at hr
  generalize (users'.answer now c').1 = b at hr
  cases hr with
  | error r => exact .error r
  | ok h => exact .ok ⟨h⟩

theorem Alike.callUnlessTaken {c c' : Call} {T : c.Answer → c'.Answer → Prop}
    (h : Call.Alike P pepper c c' T) (taken : Refusal) :
    Alike P pepper (AtOnce T) (callUnlessTaken taken c) (callUnlessTaken taken c') := by
  intro now users users' hu
  obtain ⟨hr, hs⟩ := h now users users' hu
  refine ⟨?_, hs⟩
  simp only [Plan.callUnlessTaken, run]
  generalize (users.answer now c).1 = a at hr
  generalize (users'.answer now c').1 = b at hr
  cases hr with
  | error r =>
    cases r with
    | emailInUse => exact .error taken
    | _ => exact .error _
  | ok h => exact .ok ⟨h⟩

end Plan

/-- What comes of the commands is told in the same words. -/
def SameTold (s : Settings) (o o' : Outcome) : Prop := o.response s = o'.response s

/-- The passwords to compare are those that clients have sent. -/
theorem Credentials.check_sent {P : Primitives} {c : Credentials} {e : Email} {p : Clear}
    (h : c.check P = .ok (e, p)) : ∃ text, p = .forVerification P text := by
  simp only [Credentials.check] at h
  split at h
  · split at h
    · cases h
      exact ⟨_, rfl⟩
    · cases h
  · cases h

section Commands

open Plan

variable {P : Primitives} {s : Settings} {d d' : Draws}

/-- A user who is going to be stored, with a password that is hashed under either salt. -/
theorem Opening.alike (hd : d.Alike P s.pepper d') (o : Opening) (role : Role) (now : Instant) :
    (o.user P s d role now).Alike P s.pepper (o.user P s d' role now) := by
  obtain ⟨salt, hs⟩ := hd
  exact ⟨_, hs o.password⟩

theorem register_alike (hd : d.Alike P s.pepper d') (r : Registration) :
    Plan.Alike P s.pepper (SameTold s) (register P s d r) (register P s d' r) := by
  refine (Alike.ofExcept _).bind ?_
  rintro o _ ⟨_, rfl⟩
  refine (Alike.call (existsByEmail_alike o.email)).bind ?_
  rintro ⟨now, _⟩ _ ⟨rfl⟩
  refine .ite rfl (.refuse _) ?_
  refine (Alike.call (create_alike (o.alike hd .user now))).bind ?_
  rintro _ _ ⟨_⟩
  obtain ⟨salt, _⟩ := hd
  exact .pure rfl

theorem login_alike (c : Credentials) :
    Plan.Alike P s.pepper (SameTold s) (login P s c) (login P s c) := by
  refine (Alike.ofExcept _).bind ?_
  rintro ⟨e, password⟩ _ ⟨hc, rfl⟩
  obtain ⟨text, rfl⟩ := Credentials.check_sent hc
  refine (Alike.call (findByEmail_alike e)).bind ?_
  rintro _ _ ⟨hf⟩
  refine (Alike.orRefuse hf _).bind ?_
  rintro u _ ⟨p, hp⟩
  exact .ite (hp text) (.pure rfl) (.refuse _)

theorem refresh_alike (now : Instant) (token : Option String) :
    Plan.Alike P s.pepper (SameTold s) (refresh P s now token) (refresh P s now token) := by
  refine (Alike.ofExcept _).bind ?_
  rintro id _ ⟨_, rfl⟩
  refine (Alike.call (findById_alike id)).bind ?_
  rintro _ _ ⟨hf⟩
  refine (Alike.orRefuse hf _).bind ?_
  rintro u _ ⟨p, hp⟩
  exact .pure rfl

theorem forgotPassword_alike (hd : d.Alike P s.pepper d') (email : Option String) :
    Plan.Alike P s.pepper (SameTold s) (forgotPassword P s d email) (forgotPassword P s d' email) := by
  obtain ⟨salt, _⟩ := hd
  refine (Alike.orRefuse_same _ _).bind ?_
  rintro text _ rfl
  split
  · exact .pure rfl
  · rename_i e _
    refine (Alike.call (findByEmail_alike e)).bind ?_
    rintro ⟨now, _⟩ _ ⟨hf⟩
    cases hf with
    | none => exact .pure rfl
    | some hu =>
      refine (Alike.orRefuse (hu.issueReset? d.token s.resetLifetime now) _).bind ?_
      intro v v' hv
      refine (Alike.call (update_alike hv)).bind ?_
      rintro _ _ ⟨rfl⟩
      exact .pure rfl

/-- A record is stored, and the plan ends. -/
theorem store_alike {p q : Plan (Instant × Bool)} (h : Alike P s.pepper (AtOnce Eq) p q) {o o' : Outcome}
    (ho : SameTold s o o') (r : Refusal) : Plan.Alike P s.pepper (SameTold s)
      (do let (_, stored) ← p; if stored then pure o else refuse r)
      (do let (_, stored) ← q; if stored then pure o' else refuse r) := by
  refine h.bind ?_
  rintro _ _ ⟨hb⟩
  exact .ite hb (.pure ho) (.refuse r)

theorem resetPassword_alike (hd : d.Alike P s.pepper d') (r : Reset) :
    Plan.Alike P s.pepper (SameTold s) (resetPassword P s d r) (resetPassword P s d' r) := by
  obtain ⟨salt, hs⟩ := hd
  refine (Alike.ofExcept _).bind ?_
  rintro ⟨token, password⟩ _ ⟨_, rfl⟩
  refine (Alike.call (findByResetHash_alike _)).bind ?_
  rintro ⟨now, _⟩ _ ⟨hf⟩
  refine (Alike.orRefuse hf _).bind ?_
  rintro u _ ⟨p, hp⟩
  refine .ite rfl ?_ (.refuse _)
  exact store_alike (.call (consumeReset_alike (hs password) u.id _ now)) rfl _

theorem profile_alike (who : UserId) :
    Plan.Alike P s.pepper (SameTold s) (profile who) (profile who) := by
  refine (Alike.call (findById_alike who)).bind ?_
  rintro _ _ ⟨hf⟩
  refine (Alike.orRefuse hf _).bind ?_
  rintro u _ ⟨p, hp⟩
  exact .pure rfl

theorem requireFree_alike (u : User) (email : Option Email) (taken : Refusal) (now : Instant) :
    Plan.Alike P s.pepper Eq (requireFree u email taken now) (requireFree u email taken now) := by
  unfold requireFree
  split
  · exact .pure rfl
  · rename_i e
    split
    · exact .pure rfl
    · refine (Alike.call (existsByEmail_alike e)).bind ?_
      rintro _ _ ⟨rfl⟩
      exact .ite rfl (.refuse _) (.pure rfl)

theorem updateProfile_alike (who : UserId) (c : ProfileChange) :
    Plan.Alike P s.pepper (SameTold s) (updateProfile P who c) (updateProfile P who c) := by
  refine (Alike.ofExcept _).bind ?_
  rintro ⟨name, email⟩ _ ⟨_, rfl⟩
  refine (Alike.call (findById_alike who)).bind ?_
  rintro ⟨now, _⟩ _ ⟨hf⟩
  refine (Alike.orRefuse hf _).bind ?_
  rintro u _ ⟨p, hp⟩
  refine (requireFree_alike u email _ now).bind ?_
  rintro now _ rfl
  have hu : u.Alike P s.pepper { u with password := p } := ⟨p, hp⟩
  refine store_alike (.callUnlessTaken (update_alike (hu.updateProfile name email now)) _) ?_ _
  rfl

theorem changePassword_alike (hd : d.Alike P s.pepper d') (who : UserId) (c : PasswordChange) :
    Plan.Alike P s.pepper (SameTold s) (changePassword P s d who c) (changePassword P s d' who c) := by
  obtain ⟨salt, hs⟩ := hd
  refine (Alike.ofExcept _).bind ?_
  rintro ⟨old, password⟩ _ ⟨hc, rfl⟩
  obtain ⟨text, _, _, _, rfl, rfl⟩ := PasswordChange.check_eq_ok.mp hc
  refine (Alike.call (findById_alike who)).bind ?_
  rintro ⟨now, _⟩ _ ⟨hf⟩
  refine (Alike.orRefuse hf _).bind ?_
  rintro u _ ⟨p, hp⟩
  refine .ite (hp text) ?_ (.refuse _)
  have hu : u.Alike P s.pepper { u with password := p } := ⟨p, hp⟩
  exact store_alike (.call (update_alike (hu.changePassword (hs _) now))) rfl _

theorem createAdmin_alike (hd : d.Alike P s.pepper d') (a : Appointment) :
    Plan.Alike P s.pepper (SameTold s) (createAdmin P s d a) (createAdmin P s d' a) := by
  refine (Alike.ofExcept _).bind ?_
  rintro ⟨o, role⟩ _ ⟨_, rfl⟩
  refine (Alike.call (existsByEmail_alike o.email)).bind ?_
  rintro ⟨now, _⟩ _ ⟨rfl⟩
  refine .ite rfl (.refuse _) ?_
  refine (Alike.callUnlessTaken (create_alike (o.alike hd role now)) _).bind ?_
  rintro _ _ ⟨_⟩
  obtain ⟨salt, _⟩ := hd
  exact .pure rfl

theorem listUsers_alike : Plan.Alike P s.pepper (SameTold s) listUsers listUsers := by
  refine (Alike.call list_alike).bind ?_
  rintro ⟨_, us⟩ ⟨_, us'⟩ ⟨hl⟩
  have hv : us.map User.value = us'.map User.value := by
    rw [← List.forall₂_eq_eq_eq, List.forall₂_map_left_iff, List.forall₂_map_right_iff]
    refine hl.imp ?_
    rintro u _ ⟨p, hp⟩
    rfl
  refine .pure ?_
  rw [SameTold, Outcome.response, hv]
  rfl

theorem updateUser_alike (id : UserId) (c : UserChange) :
    Plan.Alike P s.pepper (SameTold s) (updateUser P id c) (updateUser P id c) := by
  refine (Alike.ofExcept _).bind ?_
  rintro ⟨name, email, role⟩ _ ⟨_, rfl⟩
  refine (Alike.call (findById_alike id)).bind ?_
  rintro ⟨now, _⟩ _ ⟨hf⟩
  refine (Alike.orRefuse hf _).bind ?_
  rintro u _ ⟨p, hp⟩
  refine (requireFree_alike u email _ now).bind ?_
  rintro now _ rfl
  have hu : u.Alike P s.pepper { u with password := p } := ⟨p, hp⟩
  refine store_alike (.callUnlessTaken (update_alike (hu.administer name email role now)) _) ?_ _
  cases role with
  | none => rfl
  | some r => rfl

/-- The same command ends in the same words under either salt. -/
theorem Command.plan_alike (hd : d.Alike P s.pepper d') (now : Instant) (c : Command) :
    Plan.Alike P s.pepper (SameTold s) (c.plan P s d now) (c.plan P s d' now) := by
  cases c with
  | register r => exact register_alike hd r
  | login c => exact login_alike c
  | refresh token => exact refresh_alike now token
  | logout => exact .pure rfl
  | forgotPassword email => exact forgotPassword_alike hd email
  | resetPassword r => exact resetPassword_alike hd r
  | profile who => exact profile_alike who
  | updateProfile who c => exact updateProfile_alike who c
  | changePassword who c => exact changePassword_alike hd who c
  | deleteAccount who => exact store_alike (.call (delete_alike who)) rfl _
  | createAdmin a => exact createAdmin_alike hd a
  | listUsers => exact listUsers_alike
  | deleteUser id => exact store_alike (.call (delete_alike id)) rfl _
  | updateUser id c => exact updateUser_alike id c

end Commands

/-- The same counters, and users that are alike. -/
structure State.Alike (P : Primitives) (pepper : Option Bytes) (st st' : State Store) : Prop where
  users : st.users.Alike P pepper st'.users
  limits : st.limits = st'.limits

theorem Agree.answerOf_eq {s : Settings} {a b : Except Refusal Outcome} (h : Agree (SameTold s) a b) :
    answerOf s a = answerOf s b := by
  cases h with
  | error r => rfl
  | ok h => exact h

namespace Setup

/-- The steps answer in the same way where the users are alike, and these stay so. -/
def StepsAlike (P : Primitives) (pepper : Option Bytes) (f g : Step Store) : Prop :=
  ∀ st st', State.Alike P pepper st st' → (f st).1 = (g st').1 ∧ State.Alike P pepper (f st).2 (g st').2

namespace StepsAlike

variable {P : Primitives} {pepper : Option Bytes} {s : Settings} {d d' : Draws} {now : Instant} {r : Request}
  {f g : Step Store}

theorem unmoved (a : Response) : StepsAlike P pepper (unmoved a) (unmoved a) := fun _ _ h => ⟨rfl, h⟩

theorem perform (hd : d.Alike P s.pepper d') (c : Except Response Command) :
    StepsAlike P s.pepper ((inMemory P s).perform d now c) ((inMemory P s).perform d' now c) := by
  cases c with
  | error a => exact .unmoved a
  | ok c =>
    intro st st' h
    obtain ⟨hr, hs⟩ := c.plan_alike hd now now _ _ h.users
    exact ⟨hr.answerOf_eq, hs, h.limits⟩

theorem throttled (h : StepsAlike P pepper f g) (t : Option Throttle) (who : String) :
    StepsAlike P pepper (throttled t who now f) (throttled t who now g) := by
  cases t with
  | none => exact h
  | some t =>
    rintro ⟨users, limits⟩ ⟨users', _⟩ ⟨hu, rfl⟩
    simp only [Setup.throttled]
    generalize limits.check (t.key who) t.limit now = x
    obtain ⟨v, limits⟩ := x
    dsimp only
    split
    · obtain ⟨ha, hs⟩ := h ⟨users, limits⟩ ⟨users', limits⟩ ⟨hu, rfl⟩
      exact ⟨by rw [ha], hs⟩
    · exact ⟨rfl, hu, rfl⟩

theorem ifMethod (h : StepsAlike P pepper f g) (res : Resource) :
    StepsAlike P pepper (ifMethod res r f) (ifMethod res r g) := by
  unfold Setup.ifMethod
  split
  · exact h
  · exact .unmoved _

theorem withCaller {f g : Caller → Step Store} (h : ∀ c, StepsAlike P pepper (f c) (g c)) :
    StepsAlike P pepper ((inMemory P s).withCaller r now f) ((inMemory P s).withCaller r now g) := by
  unfold Setup.withCaller
  split
  · exact h _
  · exact .unmoved _

theorem withRole (h : StepsAlike P pepper f g) (roles : List Role) (c : Caller) :
    StepsAlike P pepper (withRole roles f c) (withRole roles g c) := by
  unfold Setup.withRole
  split
  · exact h
  · exact .unmoved _

theorem route (hd : d.Alike P s.pepper d') (res : Resource) :
    StepsAlike P s.pepper ((inMemory P s).route d now r res) ((inMemory P s).route d' now r res) := by
  cases res with
  | entrance e => exact ((perform hd _).ifMethod _).throttled _ _
  | own o => exact .withCaller fun c => ((perform hd _).throttled _ _).ifMethod _
  | panel p => exact .withCaller fun c => ((perform hd _).ifMethod _).withRole _ c

theorem respond (hd : d.Alike P s.pepper d') (now : Instant) (r : Request) :
    StepsAlike P s.pepper ((inMemory P s).respond d now r) ((inMemory P s).respond d' now r) := by
  intro st st' h
  simp only [Setup.respond]
  split
  · exact ⟨rfl, h⟩
  · rename_i res _
    obtain ⟨ha, hs⟩ := route hd res st st' h
    exact ⟨by rw [ha], hs⟩

end StepsAlike

end Setup

/-- Where two services differ in password hashes alone, and corresponding hashes accept the same passwords, the
same requests at the same times are answered in the same way, whatever salts are drawn for them; and after each
request the services differ in this way alone. -/
theorem hashes_never_show {P : Primitives} {s : Settings} {users users' : Store} {vs vs' : List Visit}
    (hu : users.Alike P s.pepper users') (hv : List.Forall₂ (Visit.Alike P s.pepper) vs vs')
    (limits : RateLimit.Store) :
    List.Forall₂
      (fun e e' => e.answer = e'.answer ∧ e.after.limits = e'.after.limits ∧
        e.after.users.Alike P s.pepper e'.after.users)
      ((Setup.inMemory P s).history ⟨users, limits⟩ vs)
      ((Setup.inMemory P s).history ⟨users', limits⟩ vs') := by
  have hs : State.Alike P s.pepper ⟨users, limits⟩ ⟨users', limits⟩ := ⟨hu, rfl⟩
  generalize (⟨users, limits⟩ : State Store) = st at hs
  generalize (⟨users', limits⟩ : State Store) = st' at hs
  induction hv generalizing st st' with
  | nil => exact .nil
  | @cons v _ _ _ hv _ ih =>
    obtain ⟨hd⟩ := hv
    obtain ⟨ha, hs⟩ := Setup.StepsAlike.respond hd v.time v.request st st' hs
    exact .cons ⟨ha, hs.limits, hs.users⟩ (ih _ _ hs)

/-- Passwords are kept in a form that can be read back, with the salt in front. -/
def salted : Primitives :=
  { Primitives.ascii with
    hashPassword := fun salt p => String.ofList (Token.encodePart salt ++ '.' :: Token.encodePart p)
    verifyPassword := fun h p => (Text.cut? '.' h.toList).any (·.2 == Token.encodePart p) }

theorem salted_faithful : salted.Faithful := by
  intro salt b b'
  have hi : Token.encodePart b = Token.encodePart b' ↔ b' = b := by
    refine ⟨?_, fun h => h ▸ rfl⟩
    intro h
    have hb := Base64.decode?_encode Base64.url_lawful b
    change Base64.decode? Base64.url (Token.encodePart b) = some b at hb
    rw [h] at hb
    exact Option.some.inj ((Base64.decode?_encode Base64.url_lawful b').symm.trans hb)
  simp [salted, String.toList_ofList, Text.cut?_append (Token.dot_not_mem salt), hi]

/-- Ann's password is kept under some salt. -/
def annUnder (salt : Bytes) : Store :=
  let password := (Clear.forVerification salted "Violet-77x").hash salted none salt
  [(.ofNat 1, .new (.ofNat 1) ⟨"Ann"⟩ ⟨"ann@b.co"⟩ password .user 0)]

/-- Ann signs in, Bob registers, and signs in with a wrong password and with the right one. -/
def annAndBob (salt : Bytes) : List Visit :=
  [asksFor "/auth/login" "\x7b\"email\":\"ann@b.co\",\"password\":\"Violet-77x\"\x7d",
    asksFor "/auth/register"
      "\x7b\"name\":\"Bob\",\"email\":\"bob@b.co\",\"password\":\"Indigo-88\"\x7d",
    asksFor "/auth/login" "\x7b\"email\":\"bob@b.co\",\"password\":\"Violet-77x\"\x7d",
    asksFor "/auth/login" "\x7b\"email\":\"bob@b.co\",\"password\":\"Indigo-88\"\x7d"].map
      (⟨·, ⟨.ofNat 2, salt, ⟨""⟩⟩, 1000⟩)

/-- The answers to Ann and Bob where the service draws the second salt, and Ann's password is under the first. -/
def annAndBobSee (first second : Bytes) : List (Exchange Store) :=
  (Setup.inMemory salted .usual).history ⟨annUnder first, []⟩ (annAndBob second)

theorem annUnder_alike (salt salt' : Bytes) :
    (annUnder salt).Alike salted Settings.usual.pepper (annUnder salt') :=
  .cons ⟨rfl, _, fun _ => by
    rw [Bool.eq_iff_iff]
    exact (Clear.verify_hash salted_faithful).trans (Clear.verify_hash salted_faithful).symm⟩ .nil

theorem annAndBob_alike (salt salt' : Bytes) : List.Forall₂ (Visit.Alike salted Settings.usual.pepper)
    (annAndBob salt) (annAndBob salt') := by
  rw [annAndBob, annAndBob, List.forall₂_map_left_iff, List.forall₂_map_right_iff, List.forall₂_same]
  exact fun r _ => ⟨.of_faithful salted_faithful _ _ salt'⟩

/-- Everybody is let in, or turned away, in the same way under other salts. -/
theorem annAndBob_see_alike :
    (annUnder [1]).Alike salted Settings.usual.pepper (annUnder [2]) ∧
    List.Forall₂ (Visit.Alike salted Settings.usual.pepper) (annAndBob [3]) (annAndBob [4]) ∧
    (annAndBobSee [1] [3]).map (·.answer) = (annAndBobSee [2] [4]).map (·.answer) ∧
    (annAndBobSee [1] [3]).map (·.answer.status) = [200, 201, 400, 200] ∧
    (annAndBobSee [1] [3]).map (·.after.users) ≠ (annAndBobSee [2] [4]).map (·.after.users) := by
  have h := hashes_never_show (annUnder_alike [1] [2]) (annAndBob_alike [3] [4]) []
  refine ⟨annUnder_alike _ _, annAndBob_alike _ _, ?_, by decide +kernel, by decide +kernel⟩
  rw [← List.forall₂_eq_eq_eq, List.forall₂_map_left_iff, List.forall₂_map_right_iff]
  exact h.imp fun _ _ he => he.1

end Account
end Storefront
