import Mathlib.Data.List.Induction
import Storefront.Proofs.Overlap

namespace Storefront.Account

/-- A call that stores a record: of a new user, or of one who is there. -/
inductive Storing where
  | create (u : User)
  | update (u : User)
  deriving DecidableEq

namespace Storing

def record : Storing → User
  | .create u => u
  | .update u => u

def call : Storing → Call
  | .create u => .create u
  | .update u => .update u

/-- The first step: whether the address of the record is free for it. -/
def finds (c : Storing) (s : Store) : Bool := !s.emailTakenByOther c.record.email c.record.id

/-- The second step: whether the record has been stored, and the store afterwards. -/
def finish (s : Store) : Storing → Bool × Store
  | .create u => (true, s.put u.id u)
  | .update u =>
    match s.get? u.id with
    | some _ => (true, s.put u.id u)
    | none => (false, s)

/-- What is answered in the end. -/
def answer : (c : Storing) → Bool → c.call.Answer
  | .create _, _ => ()
  | .update _, found => found

/-- A call that nothing comes in between does what it does as a whole. -/
theorem answer_call (now : Instant) (s : Store) (c : Storing) :
    s.answer now c.call =
      if c.finds s then (.ok (c.answer (c.finish s).1), (c.finish s).2) else (.error .emailInUse, s) := by
  cases c with
  | create u =>
    simp only [call, Store.answer, Store.create, finds, record, Bool.not_eq_true']
    by_cases ht : s.emailTakenByOther u.email u.id = true
    · simp [ht]
    · simp [ht, answer, finish]
  | update u =>
    simp only [call, Store.answer, Store.update, finds, record, finish, Bool.not_eq_true']
    by_cases ht : s.emailTakenByOther u.email u.id = true
    · simp [ht]
    · cases s.get? u.id with
      | none => simp [ht, answer]
      | some v => simp [ht, answer]

theorem finds_iff {c : Storing} {s : Store} :
    c.finds s = true ↔ ∀ p ∈ s, p.2.email = c.record.email → p.2.id = c.record.id := by
  rw [finds, Bool.not_eq_true', Store.emailTakenByOther_eq_false]

/-- What is stored is the record under its own identifier, if anything is. -/
theorem finish_eq (s : Store) (c : Storing) :
    c.finish s = (true, s.put c.record.id c.record) ∨ c.finish s = (false, s) := by
  cases c with
  | create u => exact .inl rfl
  | update u =>
    rw [finish, record]
    cases s.get? u.id with
    | none => exact .inr rfl
    | some v => exact .inl rfl

end Storing

/-- How far a call has come: it has found its address free, or it has ended, perhaps with a record stored. -/
inductive Stage where
  | found
  | ended (r : Except Refusal Bool)
  deriving DecidableEq

/-- What is remembered of the calls: which have found their address free, and which have stored their record. -/
inductive Mark where
  | found (who : Nat) (c : Storing)
  | stored (who : Nat) (c : Storing)
  deriving DecidableEq

/-- The users with all calls there have been, each with how far it has come, and what is remembered of them, the
latest first. -/
structure Race where
  users : Store
  calls : List (Storing × Stage)
  marks : List Mark

namespace Race

/-- A new call comes in and searches for its address, or the call with some number stores its record. -/
inductive Event where
  | start (c : Storing)
  | finish (who : Nat)

def apply (w : Race) : Event → Race
  | .start c =>
    if c.finds w.users then ⟨w.users, w.calls ++ [(c, .found)], .found w.calls.length c :: w.marks⟩
    else ⟨w.users, w.calls ++ [(c, .ended (.error .emailInUse))], w.marks⟩
  | .finish who =>
    match w.calls[who]? with
    | some (c, .found) =>
      let (done, users) := c.finish w.users
      ⟨users, w.calls.set who (c, .ended (.ok done)), (if done then [.stored who c] else []) ++ w.marks⟩
    | _ => w

/-- Where some events lead from some users. -/
def after (users : Store) (es : List Event) : Race := es.foldl apply ⟨users, [], []⟩

theorem after_concat (users : Store) (es : List Event) (e : Event) :
    after users (es ++ [e]) = (after users es).apply e := by
  rw [after, List.foldl_append]
  rfl

/-- A call has created a user, and has been told so. -/
def Created (w : Race) (who : Nat) (u : User) : Prop := w.calls[who]? = some (.create u, .ended (.ok true))

/-- Of all calls that create a user with the address one at most has been successful. -/
def CreatedOnce (w : Race) (e : Email) : Prop :=
  ∀ i j u v, w.Created i u → w.Created j v → u.email = e → v.email = e → i = j

/-- After a call had found its address free, and before it stored its record, another user was stored with this
address and has kept it. -/
def Overtaken (ms : List Mark) : Prop :=
  ∃ i c j d newer between older,
    ms = newer ++ .stored j d :: (between ++ .stored i c :: older) ∧ .found j d ∈ older ∧
      c.record.email = d.record.email ∧ c.record.id ≠ d.record.id ∧
        ∀ k x, .stored k x ∈ between → x.record.id ≠ c.record.id

theorem Overtaken.append {ms : List Mark} (h : Overtaken ms) (later : List Mark) : Overtaken (later ++ ms) := by
  obtain ⟨i, c, j, d, newer, between, older, rfl, hx⟩ := h
  exact ⟨i, c, j, d, later ++ newer, between, older, by rw [List.append_assoc], hx⟩

/-- What lets a user be created with the address with which another call has created one before. -/
inductive CreatedAgain (ms : List Mark) (i : Nat) (u : User) (j : Nat) (v : User) : Prop where
  /-- The address was found free before the first of them was stored. -/
  | overtaken (h : [.stored j (.create v), .stored i (.create u), .found j (.create v)].Sublist ms)
  /-- Both have the same identifier, so that the second takes the place of the first. -/
  | replaced (h : [.stored j (.create v), .stored i (.create u)].Sublist ms) (hid : u.id = v.id)
  /-- The first has been stored with another address before this one was found free. -/
  | moved {k : Nat} {c : Storing} (hid : c.record.id = u.id) (he : c.record.email ≠ u.email)
    (h : [.stored j (.create v), .found j (.create v), .stored k c, .stored i (.create u)].Sublist ms)

end Race

namespace Mark

/-- The users after what a mark tells. -/
def leave (users : Store) : Mark → Store
  | .found _ _ => users
  | .stored _ c => users.put c.record.id c.record

/-- The users after all that is remembered. -/
def held (users : Store) (ms : List Mark) : Store := ms.foldr (fun m s => m.leave s) users

/-- Addresses have been free when they were found so, and only a call that has found its address free stores its
record. -/
inductive Lawful (users : Store) : List Mark → Prop where
  | nil : Lawful users []
  | found {i c ms} (h : Lawful users ms) (hf : c.finds (held users ms) = true) : Lawful users (.found i c :: ms)
  | stored {i c ms} (h : Lawful users ms) (hf : .found i c ∈ ms) : Lawful users (.stored i c :: ms)

variable {users : Store} {ms newer older : List Mark} {i : Nat} {c : Storing} {id : UserId} {u : User}

/-- A user is held from earlier on, or has been stored since and not been replaced. -/
theorem held_cases (h : (held users (newer ++ older)).get? id = some u) :
    (held users older).get? id = some u ∨
      ∃ i c later between, newer = later ++ .stored i c :: between ∧ c.record = u ∧ u.id = id ∧
        ∀ k x, .stored k x ∈ later → x.record.id ≠ id := by
  induction newer with
  | nil => exact .inl h
  | cons m newer ih =>
    cases m with
    | found k x =>
      rcases ih h with h | ⟨i, c, later, between, rfl, hc, hid, hl⟩
      · exact .inl h
      · refine .inr ⟨i, c, .found k x :: later, between, rfl, hc, hid, fun k' x' hm => ?_⟩
        exact hl k' x' ((List.mem_cons.mp hm).resolve_left nofun)
    | stored k x =>
      rcases Keyed.get?_put_eq_some.mp h with ⟨rfl, rfl⟩ | ⟨hne, h⟩
      · exact .inr ⟨k, x, [], newer, rfl, rfl, rfl, by simp⟩
      · rcases ih h with h | ⟨i, c, later, between, rfl, hc, hid, hl⟩
        · exact .inl h
        · refine .inr ⟨i, c, .stored k x :: later, between, rfl, hc, hid, fun k' x' hm => ?_⟩
          rcases List.mem_cons.mp hm with he | hm
          · cases he
            exact hne.symm
          · exact hl k' x' hm

/-- A record that was stored is held as long as none is stored in its place. -/
theorem held_stored (later : List Mark) (hl : ∀ k x, .stored k x ∈ later → x.record.id ≠ c.record.id) :
    (held users (later ++ .stored i c :: older)).get? c.record.id = some c.record := by
  induction later with
  | nil => exact (Keyed.get?_put _ _ _ _).trans (if_pos rfl)
  | cons m later ih =>
    have ih := ih fun k x hm => hl k x (List.mem_cons_of_mem _ hm)
    cases m with
    | found k x => exact ih
    | stored k x =>
      have hne : c.record.id ≠ x.record.id := (hl k x List.mem_cons_self).symm
      exact ((Keyed.get?_put _ _ _ _).trans (if_neg hne)).trans ih

/-- Where a record was stored, it is held or another one that was stored after it. -/
theorem held_of_stored (h : .stored i c ∈ ms) :
    (held users ms).get? c.record.id = some c.record ∨
      ∃ k x, x.record.id = c.record.id ∧ (held users ms).get? c.record.id = some x.record ∧
        [.stored k x, .stored i c].Sublist ms := by
  induction ms with
  | nil => cases h
  | cons m ms ih =>
    by_cases hm : m = .stored i c
    · subst hm
      exact .inl (held_stored [] (by simp))
    · have hms := (List.mem_cons.mp h).resolve_left (Ne.symm hm)
      have hstill : (held users ms).get? c.record.id = some c.record ∨
          ∃ k x, x.record.id = c.record.id ∧ (held users ms).get? c.record.id = some x.record ∧
          [.stored k x, .stored i c].Sublist (m :: ms) :=
        (ih hms).imp_right fun ⟨k, x, hx, hg, hs⟩ => ⟨k, x, hx, hg, hs.cons m⟩
      cases m with
      | found _ _ => exact hstill
      | stored k x =>
        by_cases hid : c.record.id = x.record.id
        · have hg : (held users (.stored k x :: ms)).get? c.record.id = some x.record := by
            rw [hid]
            exact held_stored [] (by simp)
          exact .inr ⟨k, x, hid.symm, hg, (List.singleton_sublist.mpr hms).cons_cons _⟩
        · have hg : (held users (.stored k x :: ms)).get? c.record.id = (held users ms).get? c.record.id :=
            (Keyed.get?_put _ _ _ _).trans (if_neg hid)
          rwa [hg]

namespace Lawful

theorem earlier (h : Lawful users (newer ++ older)) : Lawful users older := by
  induction newer with
  | nil => exact h
  | cons m newer ih =>
    cases h with
    | found h _ => exact ih h
    | stored h _ => exact ih h

theorem found_before (h : Lawful users (.stored i c :: ms)) : .found i c ∈ ms := by
  cases h with
  | stored _ hf => exact hf

theorem found_free (h : Lawful users (.found i c :: ms)) : c.finds (held users ms) = true := by
  cases h with
  | found _ hf => exact hf

end Lawful

end Mark

namespace Race

open Mark (held)

variable {users : Store} {w : Race}

/-- What is remembered is what has happened: the users are those that the marks tell of, and the marks tell how far
each call has come. -/
structure Recorded (users : Store) (w : Race) : Prop where
  lawful : Mark.Lawful users w.marks
  users_eq : w.users = held users w.marks
  found : ∀ i c, w.calls[i]? = some (c, .found) → .found i c ∈ w.marks
  stored : ∀ i c, .stored i c ∈ w.marks ↔ w.calls[i]? = some (c, .ended (.ok true))

namespace Recorded

theorem empty (users : Store) : Recorded users ⟨users, [], []⟩ where
  lawful := .nil
  users_eq := rfl
  found i c h := by simp at h
  stored i c := by simp

/-- A call has come in, and nothing has been stored. -/
theorem begun (h : Recorded users w) {c : Storing} {r : Stage} (hr : r ≠ .ended (.ok true))
    (hf : r = .found → .found w.calls.length c ∈ w.marks) : Recorded users ⟨w.users, w.calls ++ [(c, r)], w.marks⟩ where
  lawful := h.lawful
  users_eq := h.users_eq
  found i d hd := by
    rcases getElem?_concat hd with hd | ⟨rfl, he⟩
    · exact h.found i d hd
    · cases he
      exact hf rfl
  stored i d := by
    rw [h.stored]
    constructor
    · intro hd
      obtain ⟨hi, _⟩ := List.getElem?_eq_some_iff.mp hd
      rwa [List.getElem?_append_left hi]
    · intro hd
      rcases getElem?_concat hd with hd | ⟨_, he⟩
      · exact hd
      · cases he
        exact absurd rfl hr

/-- A call has found its address free. -/
theorem marked (h : Recorded users w) {c : Storing} (i : Nat) (hf : c.finds w.users = true) :
    Recorded users ⟨w.users, w.calls, .found i c :: w.marks⟩ where
  lawful := .found h.lawful (h.users_eq ▸ hf)
  users_eq := h.users_eq
  found j d hd := List.mem_cons_of_mem _ (h.found j d hd)
  stored j d := by
    rw [← h.stored j d, List.mem_cons, or_iff_right nofun]

theorem start (h : Recorded users w) (c : Storing) : Recorded users (w.apply (.start c)) := by
  rw [apply]
  split
  · rename_i hf
    exact (h.marked w.calls.length hf).begun nofun fun _ => List.mem_cons_self
  · exact h.begun nofun nofun

/-- A call has come to its end. -/
theorem ended (h : Recorded users w) {who : Nat} {c : Storing} (hc : w.calls[who]? = some (c, .found)) {done : Bool}
    (ms : List Mark) {users' : Store} (hm : ∀ i d, .stored i d ∈ ms ↔ i = who ∧ d = c ∧ done = true)
    (hl : Mark.Lawful users (ms ++ w.marks)) (hu : users' = held users (ms ++ w.marks)) :
    Recorded users ⟨users', w.calls.set who (c, .ended (.ok done)), ms ++ w.marks⟩ where
  lawful := hl
  users_eq := hu
  found i d hd := by
    rw [List.getElem?_set] at hd
    split at hd
    · split at hd
      · cases hd
      · cases hd
    · exact List.mem_append_right _ (h.found i d hd)
  stored i d := by
    obtain ⟨hi, hw⟩ := List.getElem?_eq_some_iff.mp hc
    rw [List.mem_append, hm, h.stored, List.getElem?_set]
    by_cases he : who = i
    · subst he
      simp [hi, hw, eq_comm]
    · simp [he, Ne.symm he]

theorem finish (h : Recorded users w) (who : Nat) : Recorded users (w.apply (.finish who)) := by
  rw [apply]
  split
  · rename_i c hc
    rcases c.finish_eq w.users with hf | hf
    · rw [hf]
      refine h.ended hc [.stored who c] (by simp) (.stored h.lawful (h.found who c hc)) ?_
      exact congrArg (fun s => Keyed.put s c.record.id c.record) h.users_eq
    · rw [hf]
      exact h.ended hc [] (by simp) h.lawful h.users_eq
  · exact h

end Recorded

/-- However calls overlap, what is remembered of them is what has happened. -/
theorem recorded_after (users : Store) (es : List Event) : Recorded users (after users es) := by
  induction es using List.reverseRecOn with
  | nil => exact .empty users
  | append_singleton es e ih =>
    rw [after_concat]
    cases e with
    | start c => exact ih.start c
    | finish who => exact ih.finish who

theorem marks_apply (w : Race) (e : Event) : ∃ m : Option Mark, (w.apply e).marks = m.toList ++ w.marks := by
  cases e with
  | start c =>
    rw [apply]
    split
    · exact ⟨some _, rfl⟩
    · exact ⟨none, rfl⟩
  | finish who =>
    rw [apply]
    split
    · rename_i c _
      rcases c.finish_eq w.users with hf | hf
      · exact ⟨some (.stored who c), by rw [hf]; rfl⟩
      · exact ⟨none, by rw [hf]; rfl⟩
    · exact ⟨none, rfl⟩

/-- What is remembered is not forgotten. -/
theorem marks_grow (users : Store) (fs gs : List Event) :
    ∃ newer, (after users (fs ++ gs)).marks = newer ++ (after users fs).marks := by
  induction gs using List.reverseRecOn with
  | nil => exact ⟨[], by rw [List.append_nil, List.nil_append]⟩
  | append_singleton gs e ih =>
    obtain ⟨newer, hn⟩ := ih
    obtain ⟨m, hm⟩ := (after users (fs ++ gs)).marks_apply e
    exact ⟨m.toList ++ newer, by rw [← List.append_assoc, after_concat, hm, hn, List.append_assoc]⟩

/-- A run has come by whatever it remembers. -/
theorem marks_after {es : List Event} {newer older : List Mark} (h : (after users es).marks = newer ++ older) :
    ∃ fs, fs <+: es ∧ (after users fs).marks = older := by
  induction es using List.reverseRecOn generalizing newer with
  | nil => exact ⟨[], List.prefix_rfl, (List.append_eq_nil_iff.mp h.symm).2.symm⟩
  | append_singleton es e ih =>
    have hpast : ∀ {newer}, (after users es).marks = newer ++ older →
        ∃ fs, fs <+: es ++ [e] ∧ (after users fs).marks = older := fun h => by
      obtain ⟨fs, hp, hm⟩ := ih h
      exact ⟨fs, hp.trans (List.prefix_append _ _), hm⟩
    cases newer with
    | nil => exact ⟨_, List.prefix_rfl, h⟩
    | cons n newer =>
      obtain ⟨m, hm⟩ := (after users es).marks_apply e
      rw [after_concat, hm] at h
      cases m with
      | none => exact hpast h
      | some m => exact hpast (List.cons.inj h).2

/-- Where two users have come to the same address, one of them has been overtaken. -/
theorem overtaken_of_held {ms : List Mark} (hu : users.Addressed) (hl : Mark.Lawful users ms)
    (hn : ¬(held users ms).Addressed) : Overtaken ms := by
  induction hl with
  | nil => exact absurd hu hn
  | @found i c ms hl hf ih => exact (ih hn).append [_]
  | @stored j d ms hl hf ih =>
    by_cases ha : (held users ms).Addressed
    · have hp : ∃ p ∈ held users ms, p.2.email = d.record.email ∧ p.2.id ≠ d.record.id := by
        by_contra hx
        push Not at hx
        exact hn (ha.put hx)
      obtain ⟨⟨id, u⟩, hp, he, hid⟩ := hp
      obtain rfl : u.id = id := ha.own _ hp
      obtain ⟨newer, older, rfl⟩ := List.append_of_mem hf
      have hfree := hl.earlier.found_free
      -- the user has not been there when the address was found free
      rcases Mark.held_cases (ha.get?_eq.mpr hp) with hg | ⟨i, c, later, between, rfl, rfl, _, hk⟩
      · exact absurd (Storing.finds_iff.mp hfree _ (Keyed.mem_of_get? hg) he) hid
      · exact ⟨i, c, j, d, [], later, between ++ .found j d :: older, by simp, by simp, he, hid, hk⟩
    · exact (ih ha).append [_]

/-- Where a call is overtaken, its record is stored beside that of another user. -/
theorem held_of_overtaken {i j : Nat} {c d : Storing} {between older : List Mark}
    (he : c.record.email = d.record.email) (hid : c.record.id ≠ d.record.id)
    (hb : ∀ k x, .stored k x ∈ between → x.record.id ≠ c.record.id) :
    ¬(held users (.stored j d :: (between ++ .stored i c :: older))).Addressed := by
  intro ha
  have hd : (held users (.stored j d :: (between ++ .stored i c :: older))).get? d.record.id = some d.record :=
    Mark.held_stored [] (by simp)
  have hc : (held users (.stored j d :: (between ++ .stored i c :: older))).get? c.record.id = some c.record := by
    refine Mark.held_stored (.stored j d :: between) fun k x hm => ?_
    rcases List.mem_cons.mp hm with hm | hm
    · cases hm
      exact hid.symm
    · exact hb k x hm
  exact hid (congrArg Prod.fst (ha.email_inj (Keyed.mem_of_get? hc) (Keyed.mem_of_get? hd) he))

/-- A second user is created with an address only for one of the three reasons. -/
theorem createdAgain_of_stored {ms : List Mark} {i j : Nat} {u v : User} (hl : Mark.Lawful users ms)
    (he : u.email = v.email) (hs : [.stored j (.create v), .stored i (.create u)].Sublist ms) :
    CreatedAgain ms i u j v := by
  obtain ⟨newer, between, older, rfl⟩ := split_of_pair hs
  rcases List.mem_append.mp hl.earlier.found_before with hf | hf
  · obtain ⟨later, past, rfl⟩ := List.append_of_mem hf
    rw [List.append_assoc, List.cons_append] at hl hs ⊢
    have hfree : (Storing.create v).finds (held users (past ++ .stored i (.create u) :: older)) = true := by
      rw [← List.cons_append, ← List.append_assoc] at hl
      exact hl.earlier.found_free
    -- whoever has the address of the first user when it is found free is the second user
    have hid : ∀ x : User, (held users (past ++ .stored i (.create u) :: older)).get? u.id = some x →
        x.email = u.email → x.id = v.id := fun x hg hx =>
      Storing.finds_iff.mp hfree _ (Keyed.mem_of_get? hg) (hx.trans he)
    have hm : .stored i (.create u) ∈ past ++ .stored i (.create u) :: older :=
      List.mem_append_right past List.mem_cons_self
    rcases Mark.held_of_stored hm with hg | ⟨k, x, hx, hg, hk⟩
    · exact .replaced hs (hid u hg rfl)
    · by_cases hm : x.record.email = u.email
      · exact .replaced hs (hx.symm.trans (hid x.record hg hm))
      · have hk' : [.found j (.create v), .stored k x, .stored i (.create u)].Sublist
            (later ++ .found j (.create v) :: (past ++ .stored i (.create u) :: older)) :=
          (hk.cons_cons _).trans (List.sublist_append_right _ _)
        exact .moved hx hm ((hk'.cons_cons _).trans (List.sublist_append_right _ _))
  · have hf' : [.stored i (.create u), .found j (.create v)].Sublist
        (between ++ .stored i (.create u) :: older) := by
      rcases List.mem_cons.mp hf with hf | hf
      · cases hf
      · exact (pair_cons hf).trans (List.sublist_append_right _ _)
    exact .overtaken ((hf'.cons_cons _).trans (List.sublist_append_right _ _))

theorem CreatedAgain.stored {ms : List Mark} {i j : Nat} {u v : User} (h : CreatedAgain ms i u j v) :
    .stored i (.create u) ∈ ms ∧ .stored j (.create v) ∈ ms := by
  cases h with
  | overtaken h => exact ⟨h.subset (by simp), h.subset (by simp)⟩
  | replaced h => exact ⟨h.subset (by simp), h.subset (by simp)⟩
  | moved _ _ h => exact ⟨h.subset (by simp), h.subset (by simp)⟩

/-- However calls that create and update users overlap, no two users ever come to the same address if and only if no
call is overtaken by one that stores another user with its address; and at most one of the calls that create a user with
an address is successful if and only if none is overtaken by another one of them, or takes the place of the user of
another one, or comes after this user was given another address. -/
theorem addresses_unique_iff {users : Store} (h : users.Addressed) (es : List Event) :
    ((∀ fs, fs <+: es → (after users fs).users.Addressed) ↔ ¬Overtaken (after users es).marks) ∧
      ∀ e, (after users es).CreatedOnce e ↔
        ¬∃ i u j v, i ≠ j ∧ u.email = e ∧ v.email = e ∧ CreatedAgain (after users es).marks i u j v := by
  have hr := recorded_after users es
  refine ⟨⟨?_, ?_⟩, fun e => ⟨?_, ?_⟩⟩
  · rintro ha ⟨i, c, j, d, newer, between, older, hm, _, he, hid, hb⟩
    obtain ⟨fs, hp, hfs⟩ := marks_after hm
    have hx := ha fs hp
    rw [(recorded_after users fs).users_eq, hfs] at hx
    exact held_of_overtaken he hid hb hx
  · intro hn fs hp
    by_contra ha
    have hf := recorded_after users fs
    rw [hf.users_eq] at ha
    obtain ⟨gs, rfl⟩ := hp
    obtain ⟨newer, hm⟩ := marks_grow users fs gs
    rw [hm] at hn
    exact hn ((overtaken_of_held h hf.lawful ha).append newer)
  · rintro ho ⟨i, u, j, v, hn, hu, hv, hc⟩
    obtain ⟨hi, hj⟩ := hc.stored
    exact hn (ho i j u v ((hr.stored _ _).mp hi) ((hr.stored _ _).mp hj) hu hv)
  · intro hn i j u v hi hj hu hv
    by_contra hne
    have hi := (hr.stored _ _).mpr hi
    have hj := (hr.stored _ _).mpr hj
    rcases pair_sublist hi hj (by simp [hne]) with hs | hs
    · exact hn ⟨j, v, i, u, Ne.symm hne, hv, hu, createdAgain_of_stored hr.lawful (hv.trans hu.symm) hs⟩
    · exact hn ⟨i, u, j, v, hne, hu, hv, createdAgain_of_stored hr.lawful (hu.trans hv.symm) hs⟩

section Contest

def contender (n : Nat) (email : String) : User := .new (.ofNat n) ⟨"Ann"⟩ ⟨email⟩ ⟨""⟩ .user 1

/-- One user asks for an address, and before it is stored another one is created with it. -/
def outrun : List Event :=
  [.start (.update (contender 1 "ann@b.co")), .start (.create (contender 2 "ann@b.co")), .finish 1, .finish 0]

theorem outrun_shares :
    Store.Addressed [(.ofNat 1, contender 1 "bea@b.co")] ∧
      ¬(∀ fs, fs <+: outrun → (after [(.ofNat 1, contender 1 "bea@b.co")] fs).users.Addressed) ∧
      (after [(.ofNat 1, contender 1 "bea@b.co")] outrun).CreatedOnce ⟨"ann@b.co"⟩ := by
  have hs : Store.Addressed [(.ofNat 1, contender 1 "bea@b.co")] :=
    ⟨⟨List.pairwise_singleton _ _, List.forall_mem_singleton.mpr rfl⟩, List.pairwise_singleton _ _⟩
  have hm : (after [(.ofNat 1, contender 1 "bea@b.co")] outrun).marks =
      [.stored 0 (.update (contender 1 "ann@b.co")), .stored 1 (.create (contender 2 "ann@b.co")),
        .found 1 (.create (contender 2 "ann@b.co")), .found 0 (.update (contender 1 "ann@b.co"))] := rfl
  obtain ⟨ha, ho⟩ := addresses_unique_iff hs outrun
  refine ⟨hs, fun h => ha.mp h ?_, (ho _).mpr ?_⟩
  · rw [hm]
    exact ⟨1, _, 0, _, [], [], _, rfl, by simp, rfl, by decide, by simp⟩
  · rintro ⟨i, u, j, v, hn, -, -, hc⟩
    rw [hm] at hc
    obtain ⟨hi, hj⟩ := hc.stored
    simp only [List.mem_cons, Mark.stored.injEq, reduceCtorEq, and_false, false_or, or_false, List.not_mem_nil] at hi hj
    exact hn (hi.1.trans hj.1.symm)

/-- Two users are created with the same address at the same time. -/
def rush : List Event :=
  [.start (.create (contender 1 "ann@b.co")), .start (.create (contender 2 "ann@b.co")), .finish 0, .finish 1]

theorem rush_succeeds :
    Store.Addressed [] ∧
      (after [] rush).calls = [(.create (contender 1 "ann@b.co"), .ended (.ok true)),
        (.create (contender 2 "ann@b.co"), .ended (.ok true))] ∧
      (after [] rush).users = [(.ofNat 2, contender 2 "ann@b.co"), (.ofNat 1, contender 1 "ann@b.co")] ∧
      ¬(after [] rush).users.Addressed ∧ ¬(after [] rush).CreatedOnce ⟨"ann@b.co"⟩ := by
  have hc : (after [] rush).calls = [(.create (contender 1 "ann@b.co"), .ended (.ok true)),
      (.create (contender 2 "ann@b.co"), .ended (.ok true))] := rfl
  have hu : (after [] rush).users = [(.ofNat 2, contender 2 "ann@b.co"), (.ofNat 1, contender 1 "ann@b.co")] := rfl
  refine ⟨⟨.nil, .nil⟩, hc, hu, fun ha => ?_, fun ho => ?_⟩
  · rw [hu] at ha
    have he := ha.email_inj List.mem_cons_self (List.mem_cons_of_mem _ List.mem_cons_self) rfl
    exact absurd (congrArg Prod.fst he) (by decide)
  · simp only [CreatedOnce, Created, hc] at ho
    exact absurd (ho 0 1 _ _ rfl rfl rfl rfl) (by decide)

end Contest

end Race
end Storefront.Account
