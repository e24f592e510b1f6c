import Storefront.Proofs.Canonical
import Storefront.Proofs.Overlap

namespace Storefront.Account

/-- The identifier of the user whom a request may create. -/
def Arrival.newId? (a : Arrival) : Option UserId :=
  match a.command with
  | .register _ | .createAdmin _ => some a.draws.id
  | _ => none

/-- The refusal of a request that looks for a user by identifier and finds nobody. -/
def Command.lost? : Command → Option Refusal
  | .refresh _ => some .invalidRefreshToken
  | .profile _ | .updateProfile _ _ | .changePassword _ _ => some noProfile
  | .updateUser _ _ => some noUser
  | _ => none

/-- No identifier is drawn twice, nor one that a user has. -/
structure NewIds (users : Store) (as : List Arrival) : Prop where
  once : (as.filterMap Arrival.newId?).Nodup
  unused : ∀ id ∈ as.filterMap Arrival.newId?, users.get? id = none

namespace Step

/-- The user with this identifier is created. -/
inductive Creates (id : UserId) : Step → Prop where
  | mk {who now u} (hu : u.id = id) : Creates id ⟨who, now, .create u, .ok ()⟩

/-- The user with this identifier is deleted. -/
inductive Deletes (id : UserId) : Step → Prop where
  | mk {who now} : Deletes id ⟨who, now, .delete id, .ok true⟩

variable {e : Step} {id : UserId}

theorem Creates.changes (h : e.Creates id) : e.Changes := by
  cases h
  exact .create

theorem Creates.call (h : e.Creates id) : ∃ u, e.call = .create u ∧ u.id = id := by
  cases h with
  | mk hu => exact ⟨_, rfl, hu⟩

theorem Changes.creates (hc : e.Changes) {u : User} (he : e.call = .create u) : e.Creates u.id := by
  cases hc with
  | create =>
    cases he
    exact .mk rfl
  | _ => cases he

theorem Deletes.changes (h : e.Deletes id) : e.Changes := by
  cases h
  exact .delete

theorem Deletes.call (h : e.Deletes id) : e.call = .delete id := by
  cases h
  rfl

end Step

/-- Only what is created is there without having been there. -/
theorem Store.Written.get?_none {now : Instant} {s s' : Store} {c : Call} (h : s.Written now c s')
    {id : UserId} (hn : s.get? id = none) :
    s'.get? id = none ∨ ∃ u, c = .create u ∧ u.id = id := by
  cases h with
  | create =>
    rw [Keyed.get?_put]
    split
    · rename_i hi
      exact .inr ⟨_, rfl, hi.symm⟩
    · exact .inl hn
  | update _ hg => exact .inl (Keyed.get?_replaced hg hn)
  | consumeReset hg => exact .inl (Keyed.get?_replaced hg hn)
  | delete =>
    rw [Keyed.get?_remove]
    split
    · exact .inl rfl
    · exact .inl hn

section Calls

variable {P : Primitives} {s : Settings} {as : List Arrival} {users : Store} {log : List Step}
  {id : UserId}

/-- The identifier is that of one of the first users, or of one who was created. -/
def Known (users : Store) (id : UserId) (log : List Step) : Prop :=
  users.get? id ≠ none ∨ ∃ e ∈ log, e.Creates id

theorem Known.append (h : Known users id log) (l : List Step) : Known users id (l ++ log) := by
  rcases h with h | ⟨e, hm, he⟩
  · exact .inl h
  · exact .inr ⟨e, List.mem_append_right _ hm, he⟩

theorem Arrival.Writes.newId {a : Arrival} {k : Progress} {u : User} (h : a.Writes P s k (.create u)) :
    a.newId? = some u.id := by
  cases h with
  | register => rfl
  | createAdmin => rfl

theorem Arrival.Asks.newId {a : Arrival} {k : Progress} {u : User} (h : a.Asks P s k (.create u)) :
    a.newId? = some u.id := by
  cases h with
  | looks h => cases h
  | writes h => exact h.newId

/-- Whoever is stored is known. -/
theorem Lawful.known (h : Lawful P s as users log) (hg : (replay users log).get? id ≠ none) :
    Known users id log := by
  induction h with
  | nil => exact .inl hg
  | @cons log who _ _ _ now c _ ih =>
    by_cases hn : (replay users log).get? id = none
    · rcases Store.answer_written now (replay users log) c with hw | he
      · rcases hw.get?_none hn with hr | ⟨u, rfl, rfl⟩
        · exact absurd hr hg
        · have hc : (Step.next users log who now (.create u)).Changes := Step.changes_iff.mpr hw
          exact .inr ⟨_, List.mem_cons_self, hc.creates rfl⟩
      · rw [replay, he] at hg
        exact absurd hn hg
    · exact (ih hn).append [_]

/-- A user who is created was not known. -/
theorem Lawful.create_unknown (h : Lawful P s as users log) (hi : NewIds users as) {who : Nat}
    {a : Arrival} (ha : as[who]? = some a) {u : User}
    (hc : a.Asks P s (heard who a.since log) (.create u)) : ¬Known users u.id log := by
  rintro (hk | ⟨e, hm, he⟩)
  · exact hk (hi.unused _ (List.mem_filterMap.mpr ⟨a, List.mem_of_getElem? ha, hc.newId⟩))
  · obtain ⟨v, hcall, hv⟩ := he.call
    obtain ⟨b, hb, hw⟩ := h.wrote_of_changes hm he.changes
    rw [hcall] at hw
    obtain ⟨k, hk, _⟩ := h.wrote hb hw
    -- the identifier was drawn for one request, which has created a user already
    obtain rfl := filterMap_inj hi.once ha hb hc.newId (hv ▸ hk.newId)
    obtain rfl : a = b := Option.some.inj (ha.symm.trans hb)
    cases hc.wrote_none.symm.trans hw

theorem Lawful.deleted {d : Step} (h : Lawful P s as users (d :: log)) (hd : d.Deletes id) :
    (replay users log).get? id ≠ none ∧ (replay users (d :: log)).get? id = none := by
  have hw := (h.written_at hd.changes).1
  rw [hd.call] at hw
  generalize replay users (d :: log) = s' at hw ⊢
  cases hw with
  | delete hg =>
    rw [Keyed.get?_remove, if_pos rfl, hg]
    simp

/-- A user who was deleted is not there, whatever has happened since. -/
theorem Lawful.gone (hi : NewIds users as) {l : List Step} {d : Step}
    (h : Lawful P s as users (l ++ d :: log)) (hd : d.Deletes id) :
    (replay users (l ++ d :: log)).get? id = none := by
  have hk : Known users id (d :: log) := (h.drop.tail.known (h.drop.deleted hd).1).append [d]
  induction l with
  | nil => exact (h.deleted hd).2
  | cons e l ih =>
    have hn := ih h.tail
    obtain ⟨he, a, ha, hc⟩ := h.head
    rw [List.cons_append, replay]
    rcases Store.answer_written e.now (replay users (l ++ d :: log)) e.call with hw | hu
    · rcases hw.get?_none hn with hr | ⟨u, hu, rfl⟩
      · exact hr
      · rw [hu] at hc
        exact absurd (hk.append l) (h.tail.create_unknown hi ha hc)
    · rw [hu]
      exact hn

/-- A request that has looked for a user keeps to what it was told. -/
theorem Lawful.found_append {l : List Step} (h : Lawful P s as users (l ++ log)) {i : Nat} {a : Arrival}
    (ha : as[i]? = some a) (hf : (heard i a.since log).found ≠ none) :
    (heard i a.since (l ++ log)).found = (heard i a.since log).found := by
  induction l with
  | nil => rfl
  | cons e l ih =>
    rw [List.cons_append] at h ⊢
    have hl := ih h.tail
    obtain ⟨_, b, hb, hc⟩ := h.head
    rw [heard]
    split
    · rename_i hi
      subst hi
      obtain rfl : a = b := Option.some.inj (ha.symm.trans hb)
      rw [hc.found_learn (by rw [hl]; exact hf), hl]
    · exact hl

/-- A request that looks for a deleted user finds nobody. -/
theorem Lawful.lost (hi : NewIds users as) {l : List Step} {d e : Step}
    (h : Lawful P s as users (l ++ d :: log)) (hd : d.Deletes id) (hm : e ∈ l)
    (he : e.call = .findById id) :
    ∃ a r, as[e.who]? = some a ∧ a.command.lost? = some r ∧
      (heard e.who a.since (l ++ d :: log)).found = some none := by
  obtain ⟨l₁, l₂, rfl⟩ := List.append_of_mem hm
  rw [List.append_assoc, List.cons_append] at h ⊢
  obtain ⟨hn, a, ha, hc⟩ := h.drop.head
  have hl : (heard e.who a.since (e :: (l₂ ++ d :: log))).found = some none := by
    have hg := h.drop.tail.gone hi hd
    obtain ⟨who, now, c, r⟩ := e
    cases he
    rw [hn, heard, if_pos rfl]
    simp only [Store.answer, hg, Progress.learn]
  rw [he] at hc
  cases hc with
  | looks hx =>
    obtain ⟨r, hr⟩ : ∃ r, a.command.lost? = some r := by
      cases hx
      all_goals exact ⟨_, rfl⟩
    refine ⟨a, r, ha, hr, ?_⟩
    rw [h.found_append ha (by rw [hl]; simp), hl]
  | writes hx => cases hx

end Calls

namespace Arrival

variable {P : Primitives} {s : Settings} {a : Arrival} {k : Progress} {r : Refusal}

/-- Whoever has found nobody asks for nothing more. -/
def AsksOn (a : Arrival) (k : Progress) (_ : Call) : Prop :=
  a.command.lost? ≠ none → k.found ≠ some none

/-- Whoever has found nobody is refused. -/
def EndsLost (a : Arrival) (k : Progress) (x : Except Refusal Outcome) : Prop :=
  k.found = some none → ∀ r ∈ a.command.lost?, x = .error r

theorem Conducts.follows_found {p : Plan Outcome} (h : a.Conducts P s k p) {u : User}
    (hk : k.found = some (some u)) : p.Follows a.AsksOn a.EndsLost k := by
  induction p generalizing k with
  | done x =>
    intro hf
    cases hk.symm.trans hf
  | ask c next ih =>
    refine ⟨fun _ => by rw [hk]; simp, ?_⟩
    intro now x
    have hl := h.1.found_learn (by rw [hk]; simp) now x
    exact ih now x (h.2 now x) (hl.trans hk)

theorem Conducts.follows_search {id : UserId} {next : Instant × Option User → Plan Outcome}
    (h : a.Conducts P s k (Plan.findById id >>= next)) (hk : k.found = none)
    (hr : a.command.lost? = some r) (hn : ∀ now, next (now, none) = .done (.error r)) :
    (Plan.findById id >>= next).Follows a.AsksOn a.EndsLost k := by
  refine ⟨fun _ => by rw [hk]; simp, ?_⟩
  intro now x
  cases x with
  | error e =>
    intro hf
    cases hk.symm.trans hf
  | ok found =>
    cases found with
    | none =>
      change (next (now, none)).Follows _ _ _
      rw [hn]
      intro _ r' hr'
      cases hr.symm.trans hr'
      rfl
    | some u => exact Conducts.follows_found (h.2 now (.ok (some u))) rfl

theorem follows_of_not_lost (h : a.command.lost? = none) (p : Plan Outcome) (k : Progress) :
    p.Follows a.AsksOn a.EndsLost k := by
  induction p generalizing k with
  | done x =>
    intro _ r hr
    cases h.symm.trans hr
  | ask c next ih => exact ⟨fun hn => absurd h hn, fun now x => ih now x _⟩

/-- A request that finds nobody where it looks for a user by identifier is refused at once. -/
theorem plan_lost (a : Arrival) :
    (a.plan P s).Follows a.AsksOn a.EndsLost (.start a.since) := by
  have h := a.plan_conducts (P := P) (s := s)
  obtain ⟨command, d, t⟩ := a
  cases command with
  | refresh token =>
    refine Plan.follows_ofExcept (fun id hc => ?_) (fun _ hf => nomatch hf)
    simp only [plan, Command.plan, Account.refresh, hc] at h
    exact Conducts.follows_search h rfl rfl fun _ => rfl
  | profile who => exact Conducts.follows_search h rfl rfl fun _ => rfl
  | updateProfile who c =>
    refine Plan.follows_ofExcept (fun x hc => ?_) (fun _ hf => nomatch hf)
    simp only [plan, Command.plan, Account.updateProfile, hc] at h
    exact Conducts.follows_search h rfl rfl fun _ => rfl
  | changePassword who c =>
    refine Plan.follows_ofExcept (fun x hc => ?_) (fun _ hf => nomatch hf)
    simp only [plan, Command.plan, Account.changePassword, hc] at h
    exact Conducts.follows_search h rfl rfl fun _ => rfl
  | updateUser id c =>
    refine Plan.follows_ofExcept (fun x hc => ?_) (fun _ hf => nomatch hf)
    simp only [plan, Command.plan, Account.updateUser, hc] at h
    exact Conducts.follows_search h rfl rfl fun _ => rfl
  | _ => exact follows_of_not_lost rfl _ _

end Arrival

namespace World

variable {P : Primitives} {s : Settings} {users : Store} {id : UserId} {d : Step}

/-- However requests overlap, a user who was deleted stays deleted, and whoever looks for the user afterwards
is refused. -/
theorem deleted_for_good (hu : users.Kept) (es : List Event)
    (hi : NewIds users ((opening users).run P s es).arrivals) {later earlier : List Step}
    (h : ((opening users).run P s es).log = later ++ d :: earlier) (hd : d.Deletes id) :
    (∀ u ∈ ((opening users).run P s es).users.values, u.id ≠ id) ∧
    ∀ e ∈ later, e.call = .findById id → ∃ a r,
      ((opening users).run P s es).tasks[e.who]? = some ⟨a, .done (.error r)⟩ ∧
        a.command.lost? = some r := by
  have ho := run_orderly (P := P) (s := s) users es
  have hf := run_follows (P := P) (s := s) Arrival.plan_lost users es
  have hk := run_kept (P := P) (s := s) hu es
  generalize (opening users).run P s es = w at *
  have hl := ho.lawful
  rw [h] at hl
  constructor
  · rintro u hm rfl
    have hg := hk.mem_values.mp hm
    rw [ho.replayed, h, hl.gone hi hd] at hg
    cases hg
  · intro e hm he
    obtain ⟨a, r, ha, hr, hn⟩ := hl.lost hi hd hm he
    obtain ⟨⟨b, rest⟩, ht, rfl⟩ : ∃ t, w.tasks[e.who]? = some t ∧ t.arrival = a := by
      simpa [arrivals] using ha
    have hx := hf e.who _ ht
    rw [h] at hx
    dsimp only at hr hn hx
    refine ⟨b, r, ?_, hr⟩
    cases rest with
    | ask c next => exact absurd hn (hx.1 (by rw [hr]; simp))
    | done x => rw [ht, hx hn r hr]

/-- Ann asks for another name, deletes her account before it is stored, and then looks at her profile. -/
def departure : List Event :=
  let arrive (since : Instant) (c : Command) := Event.arrive ⟨c, ⟨.ofNat 1, [], ⟨""⟩⟩, since⟩
  [arrive 0 (.register ⟨some "Ann", some "ann@b.co", some "Violet-77", none⟩), .turn 0 1, .turn 0 2,
   arrive 3 (.updateProfile (.ofNat 1) ⟨some "Anna", none⟩), .turn 1 4,
   arrive 5 (.deleteAccount (.ofNat 1)), .turn 2 6, .turn 1 7,
   arrive 8 (.profile (.ofNat 1)), .turn 3 9]

theorem departure_newIds : NewIds [] ((opening []).run .ascii .usual departure).arrivals := by
  have h : ((opening []).run .ascii .usual departure).arrivals.filterMap Arrival.newId? = [.ofNat 1] := by
    decide +kernel
  refine ⟨by rw [h]; simp, ?_⟩
  rw [h]
  simp [Keyed.get?]

/-- Ann is not stored again, and has no profile to look at. -/
theorem departure_for_good : ∃ later d earlier,
    ((opening []).run .ascii .usual departure).log = later ++ d :: earlier ∧
      d.Deletes (.ofNat 1) ∧
      (∀ u ∈ ((opening []).run .ascii .usual departure).users.values, u.id ≠ .ofNat 1) ∧
      ∃ a r, ((opening []).run .ascii .usual departure).tasks[3]? = some ⟨a, .done (.error r)⟩ ∧
        a.command.lost? = some r := by
  have hlog : ∃ read write d earlier,
      ((opening []).run .ascii .usual departure).log = [read, write] ++ d :: earlier ∧
        d.Deletes (.ofNat 1) ∧ read.who = 3 ∧ read.call = .findById (.ofNat 1) :=
    ⟨_, _, _, _, rfl, .mk, rfl, rfl⟩
  obtain ⟨read, write, d, earlier, h, hd, hw, hc⟩ := hlog
  obtain ⟨hgone, hlost⟩ := deleted_for_good .nil departure departure_newIds h hd
  refine ⟨_, d, earlier, h, hd, hgone, ?_⟩
  rw [← hw]
  exact hlost read (by simp) hc

end World
end Storefront.Account
