import Storefront.Proofs.Users

namespace Storefront.Account

/-- A call that was answered. -/
structure Step where
  /-- The request that made it, counted from zero in the order of arrival. -/
  who : Nat
  now : Instant
  call : Call
  answer : Except Refusal call.Answer

/-- A request with what it has still to do. -/
structure Task where
  arrival : Arrival
  rest : Plan Outcome

/-- The users, the requests that have come in with what each has still to do, and the calls that were answered. -/
structure World where
  users : Store
  /-- In the order of arrival. -/
  tasks : List Task
  /-- The latest call comes first. -/
  log : List Step

inductive Event where
  | arrive (a : Arrival)
  /-- The next call of a request is answered at `now`. -/
  | turn (who : Nat) (now : Instant)

namespace World

/-- A world into which no request has come. -/
def opening (users : Store) : World := ⟨users, [], []⟩

/-- The call `c` of a request is answered, which then goes on with `next`. -/
def proceed (w : World) (who : Nat) (now : Instant) (a : Arrival) (c : Call)
    (next : Instant → Except Refusal c.Answer → Plan Outcome) : World :=
  let (r, users) := w.users.answer now c
  ⟨users, w.tasks.set who ⟨a, next now r⟩, ⟨who, now, c, r⟩ :: w.log⟩

/-- A turn of a request that has ended, or of none, changes nothing. -/
def apply (P : Primitives) (s : Settings) (w : World) : Event → World
  | .arrive a => { w with tasks := w.tasks ++ [⟨a, a.plan P s⟩] }
  | .turn who now =>
    match w.tasks[who]? with
    | some ⟨a, .ask c next⟩ => w.proceed who now a c next
    | _ => w

def run (P : Primitives) (s : Settings) (w : World) (es : List Event) : World :=
  es.foldl (apply P s) w

/-- The requests that have come in. -/
def arrivals (w : World) : List Arrival := w.tasks.map Task.arrival

end World

/-- What a request has been told according to a log. -/
def heard (who : Nat) (since : Instant) : List Step → Progress
  | [] => .start since
  | e :: log =>
    if e.who = who then (heard who since log).learn e.now e.call e.answer else heard who since log

/-- The users after the calls of a log. -/
def replay (users : Store) : List Step → Store
  | [] => users
  | e :: log => ((replay users log).answer e.now e.call).2

section Order

variable {α : Type} {l : List α} {a b : α}

theorem pair_sublist (ha : a ∈ l) (hb : b ∈ l) (hn : a ≠ b) :
    [a, b].Sublist l ∨ [b, a].Sublist l := by
  induction l with
  | nil => cases ha
  | cons c l ih =>
    rcases List.mem_cons.mp ha with rfl | ha'
    · rcases List.mem_cons.mp hb with rfl | hb'
      · exact absurd rfl hn
      · exact .inl ((List.singleton_sublist.mpr hb').cons_cons _)
    · rcases List.mem_cons.mp hb with rfl | hb'
      · exact .inr ((List.singleton_sublist.mpr ha').cons_cons _)
      · exact (ih ha' hb').imp (·.cons _) (·.cons _)

/-- Of what stands in front and behind of something, one occurs twice. -/
theorem pair_twice (hab : [a, b].Sublist l) (hba : [b, a].Sublist l) :
    [a, a].Sublist l ∨ [b, b].Sublist l := by
  induction l with
  | nil => cases hab
  | cons c l ih =>
    rcases List.sublist_cons_iff.mp hab with hab' | ⟨r, hr, hb⟩
    · rcases List.sublist_cons_iff.mp hba with hba' | ⟨r, hr, _⟩
      · exact (ih hab' hba').imp (·.cons _) (·.cons _)
      · obtain ⟨rfl, _⟩ := List.cons.inj hr
        exact .inr ((List.singleton_sublist.mpr (hab'.subset (by simp))).cons_cons _)
    · obtain ⟨rfl, rfl⟩ := List.cons.inj hr
      rcases List.sublist_cons_iff.mp hba with hba' | ⟨r, hr', ha⟩
      · exact .inl ((List.singleton_sublist.mpr (hba'.subset (by simp))).cons_cons _)
      · obtain ⟨rfl, rfl⟩ := List.cons.inj hr'
        exact .inl (ha.cons_cons _)

theorem pair_append {r : List α} (ha : a ∈ l) (hb : b ∈ r) : [a, b].Sublist (l ++ r) :=
  (List.singleton_sublist.mpr ha).append (List.singleton_sublist.mpr hb)

theorem pair_cons (hb : b ∈ l) : [a, b].Sublist (a :: l) := (List.singleton_sublist.mpr hb).cons_cons a

theorem split_of_pair (h : [a, b].Sublist l) : ∃ l₁ l₂ l₃, l = l₁ ++ a :: (l₂ ++ b :: l₃) := by
  induction l with
  | nil => cases h
  | cons c l ih =>
    rcases List.sublist_cons_iff.mp h with h | ⟨r, hr, hb⟩
    · obtain ⟨l₁, l₂, l₃, rfl⟩ := ih h
      exact ⟨c :: l₁, l₂, l₃, rfl⟩
    · obtain ⟨rfl, rfl⟩ := List.cons.inj hr
      obtain ⟨l₂, l₃, rfl⟩ := List.append_of_mem (List.singleton_sublist.mp hb)
      exact ⟨[], l₂, l₃, rfl⟩

/-- Where nothing is drawn twice, what is drawn tells for whom. -/
theorem filterMap_inj {β : Type} {f : α → Option β} (h : (l.filterMap f).Nodup) {i j : Nat} {x : β}
    (ha : l[i]? = some a) (hb : l[j]? = some b) (hax : f a = some x) (hbx : f b = some x) : i = j := by
  have hp := List.pairwise_iff_getElem.mp (List.pairwise_filterMap.mp h)
  obtain ⟨hi, rfl⟩ := List.getElem?_eq_some_iff.mp ha
  obtain ⟨hj, rfl⟩ := List.getElem?_eq_some_iff.mp hb
  rcases Nat.lt_trichotomy i j with hlt | heq | hlt
  · exact absurd rfl (hp i j hi hj hlt x hax x hbx)
  · exact heq
  · exact absurd rfl (hp j i hj hi hlt x hbx x hax)

end Order

/-- The step by which a call is answered after a log. -/
abbrev Step.next (users : Store) (log : List Step) (who : Nat) (now : Instant) (c : Call) : Step :=
  ⟨who, now, c, ((replay users log).answer now c).1⟩

theorem heard_wrote_cons {i : Nat} {since : Instant} {log : List Step}
    (h : (heard i since log).wrote ≠ none) (e : Step) : (heard i since (e :: log)).wrote ≠ none := by
  rw [heard]
  split
  · exact Progress.learn_wrote h _ _ _
  · exact h

namespace Step

/-- A user is found. -/
inductive Finds (u : User) : Step → Prop where
  | byId {who now id} : Finds u ⟨who, now, .findById id, .ok (some u)⟩
  | byEmail {who now e} : Finds u ⟨who, now, .findByEmail e, .ok (some u)⟩
  | byResetHash {who now h} : Finds u ⟨who, now, .findByResetHash h, .ok (some u)⟩

/-- The user that is found, if any. -/
def found? : Step → Option User
  | ⟨_, _, .findById _, .ok u⟩ => u
  | ⟨_, _, .findByEmail _, .ok u⟩ => u
  | ⟨_, _, .findByResetHash _, .ok u⟩ => u
  | _ => none

theorem found?_eq_some {e : Step} {u : User} : e.found? = some u ↔ e.Finds u := by
  constructor
  · intro h
    unfold found? at h
    split at h <;> cases h
    · exact .byId
    · exact .byEmail
    · exact .byResetHash
  · intro h
    cases h <;> rfl

instance {e : Step} {u : User} : Decidable (e.Finds u) := decidable_of_iff _ found?_eq_some

/-- The users are changed. -/
inductive Changes : Step → Prop where
  | create {who now u} : Changes ⟨who, now, .create u, .ok ()⟩
  | update {who now u} : Changes ⟨who, now, .update u, .ok true⟩
  | consumeReset {who now id h p t} : Changes ⟨who, now, .consumeReset id h p t, .ok true⟩
  | delete {who now id} : Changes ⟨who, now, .delete id, .ok true⟩

variable {u : Store} {who : Nat} {now : Instant} {c : Call}

theorem Changes.learn {e : Step} (h : e.Changes) (k : Progress) :
    (k.learn e.now e.call e.answer).wrote = some (e.call, true) := by
  cases h <;> rfl

theorem Finds.learn {e : Step} {v : User} (h : e.Finds v) (k : Progress) :
    (k.learn e.now e.call e.answer).found = some (some v) := by
  cases h <;> rfl

theorem finds_iff {v : User} : Finds v ⟨who, now, c, (u.answer now c).1⟩ ↔ u.Finds c (some v) := by
  constructor
  · intro h
    generalize hr : (u.answer now c).1 = r at h
    cases h with
    | @byId _ _ id => exact (Except.ok.inj hr) ▸ Store.Finds.byId
    | @byEmail _ _ e => exact (Except.ok.inj hr) ▸ Store.Finds.byEmail
    | @byResetHash _ _ h => exact (Except.ok.inj hr) ▸ Store.Finds.byResetHash
  · intro h
    generalize hr : some v = r at h
    cases h with
    | byId => simp only [Store.answer, ← hr]; exact .byId
    | byEmail => simp only [Store.answer, ← hr]; exact .byEmail
    | byResetHash => simp only [Store.answer, ← hr]; exact .byResetHash

theorem changes_iff :
    Changes ⟨who, now, c, (u.answer now c).1⟩ ↔ u.Written now c (u.answer now c).2 := by
  constructor
  · intro h
    have hl := h.learn (.start now)
    rcases u.answer_cases now c (.start now) with ⟨hw, _⟩ | ⟨_, _, hk | hk⟩
    · exact hw
    · cases hk.symm.trans hl
    · cases hk.symm.trans hl
  · intro h
    generalize (u.answer now c).2 = u' at h
    cases h with
    | create hf => simp only [Store.answer, Store.create, hf]; exact .create
    | update hf hg => simp only [Store.answer, Store.update, hf, hg]; exact .update
    | consumeReset hg hl =>
      simp only [Store.answer, Store.consumeReset, hg, hl, if_true]
      exact .consumeReset
    | delete hg => simp only [Store.answer, Store.delete, hg]; exact .delete

theorem unchanged (h : ¬Changes ⟨who, now, c, (u.answer now c).1⟩) : (u.answer now c).2 = u := by
  rcases u.answer_written now c with hw | he
  · exact absurd (changes_iff.mpr hw) h
  · exact he

end Step

/-- A record that a request has found was found before, or is found by the latest call. -/
theorem found_cons {u : Store} {who i : Nat} {since now : Instant} {c : Call} {log : List Step}
    {v : User}
    (hf : (heard i since (⟨who, now, c, (u.answer now c).1⟩ :: log)).found = some (some v)) :
    (heard i since log).found = some (some v) ∨ (who = i ∧ u.Finds c (some v)) := by
  by_cases hi : who = i
  · rw [heard, if_pos hi] at hf
    rcases u.answer_cases now c (heard i since log) with ⟨_, hl⟩ | ⟨_, hl | ⟨r, hr, hl⟩, _⟩
    · rw [hl] at hf
      exact .inl hf
    · exact .inl (hl.symm.trans hf)
    · obtain rfl : r = some v := Option.some.inj (hl.symm.trans hf)
      exact .inr ⟨hi, hr⟩
  · rw [heard, if_neg hi] at hf
    exact .inl hf

/-- The change that a request has made was made before, or is made by the latest call. -/
theorem wrote_cons {u : Store} {who i : Nat} {since now : Instant} {c d : Call} {log : List Step}
    {b : Bool}
    (hw : (heard i since (⟨who, now, c, (u.answer now c).1⟩ :: log)).wrote = some (d, b)) :
    (heard i since log).wrote = some (d, b) ∨
      (who = i ∧ d = c ∧ (b = true → u.Written now c (u.answer now c).2)) := by
  by_cases hi : who = i
  · rw [heard, if_pos hi] at hw
    rcases u.answer_cases now c (heard i since log) with ⟨hc, hl⟩ | ⟨_, _, hl | hl⟩
    · rw [hl] at hw
      cases hw
      exact .inr ⟨hi, rfl, fun _ => hc⟩
    · exact .inl (hl.symm.trans hw)
    · cases hl.symm.trans hw
      exact .inr ⟨hi, rfl, by simp⟩
  · rw [heard, if_neg hi] at hw
    exact .inl hw

variable {P : Primitives} {s : Settings} {as : List Arrival} {users : Store} {log : List Step}

/-- A log of calls that requests may make after what they have been told, with the answers of the store. -/
inductive Lawful (P : Primitives) (s : Settings) (as : List Arrival) (users : Store) :
    List Step → Prop where
  | nil : Lawful P s as users []
  | cons {log who a} (h : Lawful P s as users log) (ha : as[who]? = some a) (now : Instant)
    (c : Call) (hc : a.Asks P s (heard who a.since log) c) :
    Lawful P s as users (.next users log who now c :: log)

theorem Lawful.more (h : Lawful P s as users log) (l : List Arrival) :
    Lawful P s (as ++ l) users log := by
  induction h with
  | nil => exact .nil
  | cons _ ha now c hc ih =>
    have hlt := (List.getElem?_eq_some_iff.mp ha).1
    exact ih.cons (by rw [List.getElem?_append_left hlt, ha]) now c hc

/-- A request that has not come in has been told nothing. -/
theorem Lawful.heard_unknown (h : Lawful P s as users log) {i : Nat} (hi : as.length ≤ i)
    (since : Instant) : heard i since log = .start since := by
  induction h with
  | nil => rfl
  | @cons log who a _ ha now c hc ih =>
    have hlt := (List.getElem?_eq_some_iff.mp ha).1
    rw [heard, if_neg (by dsimp only; omega)]
    exact ih

theorem Lawful.tail {e : Step} (h : Lawful P s as users (e :: log)) : Lawful P s as users log := by
  cases h with
  | cons h => exact h

theorem Lawful.head {e : Step} (h : Lawful P s as users (e :: log)) :
    e = .next users log e.who e.now e.call ∧
      ∃ a, as[e.who]? = some a ∧ a.Asks P s (heard e.who a.since log) e.call := by
  cases h with
  | cons _ ha _ _ hc => exact ⟨rfl, _, ha, hc⟩

theorem Lawful.drop {l : List Step} (h : Lawful P s as users (l ++ log)) :
    Lawful P s as users log := by
  induction l with
  | nil => exact h
  | cons e l ih => exact ih h.tail

theorem Lawful.kept (hu : users.Kept) (h : Lawful P s as users log) : (replay users log).Kept := by
  induction h with
  | nil => exact hu
  | cons _ _ now c _ ih => exact ih.answer now c

/-- Nothing is said to a request that has written. -/
theorem Lawful.silent {e : Step} (h : Lawful P s as users (e :: log)) {i : Nat} {a : Arrival}
    (ha : as[i]? = some a) (hw : (heard i a.since log).wrote ≠ none) : e.who ≠ i := by
  cases h with
  | @cons _ who a' _ ha' now c hc =>
    rintro rfl
    obtain rfl : a = a' := Option.some.inj (ha.symm.trans ha')
    exact hw hc.wrote_none

theorem Lawful.addressed (hu : users.Addressed) (h : Lawful P s as users log) :
    (replay users log).Addressed := by
  induction h with
  | nil => exact hu
  | cons _ _ now c _ ih => exact ih.answer now c

/-- What a request has written is what its conduct lets it make of the user it had found. -/
theorem Lawful.wrote (h : Lawful P s as users log) {i : Nat} {a : Arrival} (ha : as[i]? = some a)
    {c : Call} {b : Bool} (hw : (heard i a.since log).wrote = some (c, b)) :
    ∃ k, a.Writes P s k c ∧ k.found = (heard i a.since log).found := by
  induction h with
  | nil => cases hw
  | @cons log who a' h ha' now d hd ih =>
    have hs := h.cons ha' now d hd
    rcases wrote_cons hw with hw' | ⟨rfl, rfl, _⟩
    · have hn := hs.silent ha (by rw [hw']; simp)
      rw [heard, if_neg hn]
      exact ih hw'
    · obtain rfl : a = a' := Option.some.inj (ha.symm.trans ha')
      have hl : ((heard who a.since log).learn now c ((replay users log).answer now c).1).wrote ≠
          none := by
        rw [heard, if_pos rfl] at hw
        rw [hw]
        simp
      have hc := hd.writes_of_learn hl
      refine ⟨_, hc, ?_⟩
      rw [heard, if_pos rfl]
      exact (hc.found_learn now _).symm

theorem Lawful.changed {i : Nat} {since : Instant} {c : Call} (h : Lawful P s as users log)
    (hw : (heard i since log).wrote = some (c, true)) :
    ∃ e ∈ log, e.who = i ∧ e.call = c ∧ e.Changes := by
  induction h with
  | nil => cases hw
  | cons _ _ now d _ ih =>
    rcases wrote_cons hw with hw | ⟨rfl, rfl, hw⟩
    · obtain ⟨e, hm, he⟩ := ih hw
      exact ⟨e, List.mem_cons_of_mem _ hm, he⟩
    · exact ⟨_, List.mem_cons_self, rfl, rfl, Step.changes_iff.mpr (hw rfl)⟩

theorem Lawful.wrote_of_changes (h : Lawful P s as users log) {e : Step} (hm : e ∈ log)
    (he : e.Changes) : ∃ a, as[e.who]? = some a ∧
      (heard e.who a.since log).wrote = some (e.call, true) := by
  induction h with
  | nil => cases hm
  | @cons log who a h ha now c hc ih =>
    rcases List.mem_cons.mp hm with rfl | hm'
    · refine ⟨a, ha, ?_⟩
      rw [heard, if_pos rfl]
      exact he.learn _
    · obtain ⟨b, hb, hw⟩ := ih hm'
      have hn := (h.cons ha now c hc).silent hb (by rw [hw]; simp)
      refine ⟨b, hb, ?_⟩
      rw [heard, if_neg hn]
      exact hw

/-- What comes after a change is asked by others. -/
theorem Lawful.silent_after (h : Lawful P s as users log) {e e' : Step}
    (hsub : [e', e].Sublist log) (he : e.Changes) : e'.who ≠ e.who := by
  induction h with
  | nil => cases hsub
  | @cons log who a h ha now c hc ih =>
    rcases List.sublist_cons_iff.mp hsub with hsub | ⟨r, hr, hs⟩
    · exact ih hsub
    · obtain ⟨rfl, rfl⟩ := List.cons.inj hr
      obtain ⟨b, hb, hw⟩ := h.wrote_of_changes (List.singleton_sublist.mp hs) he
      exact (h.cons ha now c hc).silent hb (by rw [hw]; simp)

theorem Lawful.finds {i : Nat} {since : Instant} {u : User} (h : Lawful P s as users log)
    (hf : (heard i since log).found = some (some u)) : ∃ e ∈ log, e.who = i ∧ e.Finds u := by
  induction h with
  | nil => cases hf
  | cons _ _ now c _ ih =>
    rcases found_cons hf with hf | ⟨rfl, hr⟩
    · obtain ⟨e, hm, he⟩ := ih hf
      exact ⟨e, List.mem_cons_of_mem _ hm, he⟩
    · exact ⟨_, List.mem_cons_self, rfl, Step.finds_iff.mpr hr⟩

/-- A user is found by the one search that a request makes. -/
theorem Step.Finds.looks {e : Step} {u : User} {a : Arrival} {k : Progress} (he : e.Finds u)
    (hc : a.Asks P s k e.call) : a.Looks P s e.call ∧ k.found = none := by
  cases he with
  | byId =>
    cases hc with
    | looks h hf => exact ⟨h, hf⟩
    | writes h => cases h
  | byEmail =>
    cases hc with
    | looks h hf => exact ⟨h, hf⟩
    | writes h => cases h
  | byResetHash =>
    cases hc with
    | looks h hf => exact ⟨h, hf⟩
    | writes h => cases h

/-- A request remembers whom it has found, and has looked for the user in its own way. -/
theorem Lawful.found_of_finds (h : Lawful P s as users log) {e : Step} {u : User} (hm : e ∈ log)
    (he : e.Finds u) : ∃ a, as[e.who]? = some a ∧ a.Looks P s e.call ∧
      (heard e.who a.since log).found = some (some u) := by
  induction h with
  | nil => cases hm
  | @cons log who a h ha now c hc ih =>
    rcases List.mem_cons.mp hm with rfl | hm'
    · refine ⟨a, ha, (he.looks hc).1, ?_⟩
      rw [heard, if_pos rfl]
      exact he.learn _
    · obtain ⟨b, hb, hl, hf⟩ := ih hm'
      refine ⟨b, hb, hl, ?_⟩
      by_cases hw : who = e.who
      · subst hw
        obtain rfl : a = b := Option.some.inj (ha.symm.trans hb)
        rw [heard, if_pos rfl, hc.found_learn (by rw [hf]; simp)]
        exact hf
      · rw [heard, if_neg hw]
        exact hf

/-- A request that has found a user looks for nobody any more. -/
theorem Lawful.looks_once (h : Lawful P s as users log) {e e' : Step} {u v : User}
    (hsub : [e', e].Sublist log) (he : e.Finds u) (he' : e'.Finds v) : e'.who ≠ e.who := by
  induction h with
  | nil => cases hsub
  | @cons log who a h ha now c hc ih =>
    rcases List.sublist_cons_iff.mp hsub with hsub | ⟨r, hr, hs⟩
    · exact ih hsub
    · obtain ⟨rfl, rfl⟩ := List.cons.inj hr
      obtain ⟨b, hb, _, hf⟩ := h.found_of_finds (List.singleton_sublist.mp hs) he
      rintro rfl
      obtain rfl : a = b := Option.some.inj (ha.symm.trans hb)
      cases (he'.looks hc).2.symm.trans hf

theorem Lawful.finds_at {e : Step} (h : Lawful P s as users (e :: log)) {u : User} (he : e.Finds u) :
    (replay users log).Finds e.call (some u) := by
  rw [h.head.1] at he
  exact Step.finds_iff.mp he

theorem Lawful.written_at {e : Step} (h : Lawful P s as users (e :: log)) (he : e.Changes) :
    (replay users log).Written e.now e.call (replay users (e :: log)) ∧
      ∃ a, as[e.who]? = some a ∧ a.Writes P s (heard e.who a.since log) e.call := by
  obtain ⟨hn, a, ha, hc⟩ := h.head
  have hl := he.learn (heard e.who a.since log)
  refine ⟨?_, a, ha, hc.writes_of_learn (by rw [hl]; simp)⟩
  rw [hn] at he
  exact Step.changes_iff.mp he

theorem Lawful.who_lt (h : Lawful P s as users log) {e : Step} (hm : e ∈ log) :
    e.who < as.length := by
  induction h with
  | nil => cases hm
  | cons _ ha _ _ _ ih =>
    rcases List.mem_cons.mp hm with rfl | hm'
    · exact (List.getElem?_eq_some_iff.mp ha).1
    · exact ih hm'

/-- Where nothing changes the users they stay the same. -/
theorem Lawful.replay_append {l : List Step} (h : Lawful P s as users (l ++ log))
    (hq : ∀ e ∈ l, ¬e.Changes) : replay users (l ++ log) = replay users log := by
  induction l with
  | nil => rfl
  | cons e l ih =>
    have hn := hq e List.mem_cons_self
    rw [h.head.1] at hn
    exact (Step.unchanged hn).trans (ih h.tail fun e he => hq e (List.mem_cons_of_mem _ he))

/-- Two requests that each change the users change them nowhere else. -/
theorem Lawful.two_changes (h : Lawful P s as users log) (has : as.length = 2) {e e' : Step}
    (he : e ∈ log) (he' : e' ∈ log) (hc : e.Changes) (hc' : e'.Changes) (hn : e.who ≠ e'.who) :
    ∃ last first l₁ l₂ l₃, log = l₁ ++ last :: (l₂ ++ first :: l₃) ∧ last.Changes ∧
      first.Changes ∧ last.who ≠ first.who ∧ ∀ e ∈ l₁ ++ (l₂ ++ l₃), ¬e.Changes := by
  obtain ⟨last, first, hsub, hl, hf, hn⟩ : ∃ last first, [last, first].Sublist log ∧
      last.Changes ∧ first.Changes ∧ last.who ≠ first.who := by
    rcases pair_sublist he he' (fun h => hn (by rw [h])) with hs | hs
    · exact ⟨e, e', hs, hc, hc', hn⟩
    · exact ⟨e', e, hs, hc', hc, Ne.symm hn⟩
  obtain ⟨l₁, l₂, l₃, rfl⟩ := split_of_pair hsub
  refine ⟨last, first, l₁, l₂, l₃, rfl, hl, hf, hn, ?_⟩
  intro d hd hcd
  have hlast := h.who_lt (e := last) (by simp)
  have hfirst := h.who_lt (e := first) (by simp)
  -- a third change would be made by one of the two requests
  suffices hd : d.who < as.length ∧ d.who ≠ last.who ∧ d.who ≠ first.who by omega
  rcases List.mem_append.mp hd with hd | hd
  · refine ⟨h.who_lt (e := d) (by simp [hd]), ?_, ?_⟩
    · exact h.silent_after (pair_append hd (by simp)) hl
    · exact h.silent_after (pair_append hd (by simp)) hf
  · have hr := List.sublist_append_right l₁ (last :: (l₂ ++ first :: l₃))
    rcases List.mem_append.mp hd with hd | hd
    · refine ⟨h.who_lt (e := d) (by simp [hd]), ?_, ?_⟩
      · exact (h.silent_after (.trans (pair_cons (by simp [hd])) hr) hcd).symm
      · exact h.silent_after (.trans ((pair_append hd (by simp)).cons _) hr) hf
    · refine ⟨h.who_lt (e := d) (by simp [hd]), ?_, ?_⟩
      · exact (h.silent_after (.trans (pair_cons (by simp [hd])) hr) hcd).symm
      · have hs : [first, d].Sublist (l₂ ++ first :: l₃) :=
          (pair_cons hd).trans (List.sublist_append_right _ _)
        exact (h.silent_after (.trans (hs.cons _) hr) hcd).symm

namespace World

/-- Every request is where rules have brought it that may depend on the request. -/
def Follows (w : World) (asks : Arrival → Progress → Call → Prop)
    (ends : Arrival → Progress → Except Refusal Outcome → Prop) : Prop :=
  ∀ (i : Nat) (t : Task), w.tasks[i]? = some t →
    t.rest.Follows (asks t.arrival) (ends t.arrival) (heard i t.arrival.since w.log)

section Rules

variable {asks : Arrival → Progress → Call → Prop}
  {ends : Arrival → Progress → Except Refusal Outcome → Prop} {w : World}

theorem Follows.arrive (h : w.Follows asks ends) {a : Arrival}
    (hl : heard w.tasks.length a.since w.log = .start a.since)
    (ha : (a.plan P s).Follows (asks a) (ends a) (.start a.since)) :
    (w.apply P s (.arrive a)).Follows asks ends := by
  intro i t ht
  simp only [apply] at ht ⊢
  rcases Nat.lt_or_ge i w.tasks.length with hi | hi
  · rw [List.getElem?_append_left hi] at ht
    exact h i t ht
  · rw [List.getElem?_append_right hi] at ht
    obtain ⟨hz, rfl⟩ : i - w.tasks.length = 0 ∧ t = ⟨a, a.plan P s⟩ := by
      cases hz : i - w.tasks.length <;> simp_all
    obtain rfl : i = w.tasks.length := by omega
    change (a.plan P s).Follows (asks a) (ends a) (heard w.tasks.length a.since w.log)
    rw [hl]
    exact ha

theorem Follows.proceed (h : w.Follows asks ends) {who : Nat} {a : Arrival} {c : Call}
    {next : Instant → Except Refusal c.Answer → Plan Outcome}
    (ht : w.tasks[who]? = some ⟨a, .ask c next⟩) (now : Instant) :
    (w.proceed who now a c next).Follows asks ends := by
  obtain ⟨_, hn⟩ := h _ _ ht
  have hlt : who < w.tasks.length := (List.getElem?_eq_some_iff.mp ht).1
  intro i t hi
  simp only [World.proceed] at hi ⊢
  by_cases he : who = i
  · subst he
    rw [List.getElem?_set_self hlt] at hi
    cases hi
    simp only [heard, if_true]
    exact hn now _
  · rw [List.getElem?_set_ne he] at hi
    simp only [heard, if_neg he]
    exact h i t hi

end Rules

/-- What a run keeps true of its world. -/
structure Orderly (P : Primitives) (s : Settings) (users : Store) (w : World) : Prop where
  conduct : ∀ (i : Nat) (t : Task), w.tasks[i]? = some t →
    t.arrival.Conducts P s (heard i t.arrival.since w.log) t.rest
  lawful : Lawful P s w.arrivals users w.log
  replayed : w.users = replay users w.log

theorem Orderly.heard_next {w : World} (h : w.Orderly P s users) (since : Instant) :
    heard w.tasks.length since w.log = .start since :=
  h.lawful.heard_unknown (by simp [arrivals]) since

theorem Orderly.arrive {w : World} (h : w.Orderly P s users) (a : Arrival) :
    (w.apply P s (.arrive a)).Orderly P s users := by
  refine ⟨Follows.arrive h.conduct (h.heard_next _) a.plan_conducts, ?_, h.replayed⟩
  simpa [arrivals, apply] using h.lawful.more [a]

theorem arrivals_proceed {w : World} {who : Nat} {now : Instant} {a : Arrival} {c : Call}
    {next : Instant → Except Refusal c.Answer → Plan Outcome}
    (ht : w.tasks[who]? = some ⟨a, .ask c next⟩) :
    (w.proceed who now a c next).arrivals = w.arrivals := by
  obtain ⟨hlt, he⟩ := List.getElem?_eq_some_iff.mp ht
  apply List.ext_getElem?
  intro i
  simp only [arrivals, proceed, List.map_set]
  by_cases hi : who = i
  · subst hi
    rw [List.getElem?_set_self (by simpa using hlt)]
    simp [ht]
  · rw [List.getElem?_set_ne hi]

theorem Orderly.proceed {w : World} (h : w.Orderly P s users) {who : Nat} {a : Arrival} {c : Call}
    {next : Instant → Except Refusal c.Answer → Plan Outcome}
    (ht : w.tasks[who]? = some ⟨a, .ask c next⟩) (now : Instant) :
    (w.proceed who now a c next).Orderly P s users := by
  obtain ⟨hc, _⟩ := h.conduct _ _ ht
  refine ⟨Follows.proceed h.conduct ht now, ?_, ?_⟩
  · rw [arrivals_proceed ht]
    have ha : w.arrivals[who]? = some a := by simp [arrivals, ht]
    have hl := h.lawful.cons ha now c hc
    rwa [Step.next, ← h.replayed] at hl
  · simp [World.proceed, replay, h.replayed]

/-- The one induction over runs: the log of a run is lawful, the users are what the log makes of the first ones, and
every request is where its conduct has brought it.  What else is true of runs is true of lawful logs. -/
theorem run_orderly (users : Store) (es : List Event) :
    ((opening users).run P s es).Orderly P s users := by
  suffices h : ∀ w : World, w.Orderly P s users → (w.run P s es).Orderly P s users from
    h _ ⟨by simp [opening], .nil, rfl⟩
  induction es with
  | nil => exact fun w h => h
  | cons e es ih =>
    intro w h
    refine ih _ ?_
    cases e with
    | arrive a => exact h.arrive a
    | turn who now =>
      simp only [apply]
      split
      · rename_i ht
        exact h.proceed ht now
      · exact h

/-- What every plan follows from its start is followed throughout a run. -/
theorem run_follows {asks : Arrival → Progress → Call → Prop}
    {ends : Arrival → Progress → Except Refusal Outcome → Prop}
    (h : ∀ a : Arrival, (a.plan P s).Follows (asks a) (ends a) (.start a.since)) (users : Store)
    (es : List Event) : ((opening users).run P s es).Follows asks ends := by
  suffices hw : ∀ w : World, w.Orderly P s users → w.Follows asks ends →
      (w.run P s es).Follows asks ends by
    refine hw _ ⟨by simp [opening], .nil, rfl⟩ ?_
    intro i t ht
    simp [opening] at ht
  induction es with
  | nil => exact fun w _ hf => hf
  | cons e es ih =>
    intro w ho hf
    cases e with
    | arrive a => exact ih _ (ho.arrive a) (hf.arrive (ho.heard_next _) (h a))
    | turn who now =>
      rw [run, List.foldl_cons, apply]
      split
      · rename_i ht
        exact ih _ (ho.proceed ht now) (hf.proceed ht now)
      · exact ih _ ho hf

theorem run_kept (hu : users.Kept) (es : List Event) : ((opening users).run P s es).users.Kept := by
  have ho := run_orderly (P := P) (s := s) users es
  rw [ho.replayed]
  exact ho.lawful.kept hu

theorem run_addressed (hu : users.Addressed) (es : List Event) :
    ((opening users).run P s es).users.Addressed := by
  have ho := run_orderly (P := P) (s := s) users es
  rw [ho.replayed]
  exact ho.lawful.addressed hu

end World

end Storefront.Account
