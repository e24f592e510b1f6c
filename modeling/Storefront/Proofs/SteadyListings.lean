import Storefront.Proofs.DeletedUsers
import Storefront.Proofs.OverlappingCarts

namespace Storefront

section Order

variable {α γ ι : Type} [LinearOrder γ] {key : α → γ} {there there' : α → Prop} {l l' : List α} {name : α → ι}

/-- What is in both lists stands in the same order in both. -/
def SameOrder (l l' : List ι) : Prop :=
  ∀ i j, i ∈ l → j ∈ l → i ∈ l' → j ∈ l' → ([i, j].Sublist l ↔ [i, j].Sublist l')

theorem SameOrder.pair {l l' : List ι} (h : SameOrder l l') {i j : ι} (hs : [i, j].Sublist l) (hi : i ∈ l')
    (hj : j ∈ l') : [i, j].Sublist l' :=
  (h i j (hs.subset (by simp)) (hs.subset (by simp)) hi hj).mp hs

theorem Listing.pair_iff (h : Listing key there l) {x y : α} (hx : x ∈ l) (hy : y ∈ l) :
    [x, y].Sublist l ↔ key x < key y := by
  have hs : ∀ a b, [a, b].Sublist l → key a < key b := fun _ _ hab =>
    List.pairwise_iff_forall_sublist.mp h.increasing hab
  refine ⟨hs x y, ?_⟩
  intro hlt
  rcases Account.pair_sublist hx hy (by rintro rfl; exact lt_irrefl _ hlt) with hxy | hyx
  · exact hxy
  · exact absurd (hs y x hyx) hlt.asymm

theorem Listing.named_pair_iff (h : Listing key there l) {i j : ι} :
    [i, j].Sublist (l.map name) ↔ ∃ x ∈ l, ∃ y ∈ l, name x = i ∧ name y = j ∧ key x < key y := by
  rw [List.sublist_map_iff]
  constructor
  · rintro ⟨p, hp, he⟩
    obtain ⟨x, q, rfl, rfl, hq⟩ := List.map_eq_cons_iff.mp he.symm
    obtain ⟨y, r, rfl, rfl, hr⟩ := List.map_eq_cons_iff.mp hq
    obtain rfl := List.map_eq_nil_iff.mp hr
    have hx : x ∈ l := hp.subset (by simp)
    have hy : y ∈ l := hp.subset (by simp)
    exact ⟨x, hx, y, hy, rfl, rfl, (h.pair_iff hx hy).mp hp⟩
  · rintro ⟨x, hx, y, hy, rfl, rfl, hlt⟩
    exact ⟨[x, y], (h.pair_iff hx hy).mpr hlt, rfl⟩

theorem Listing.order_kept (h : Listing key there l) (h' : Listing key there' l')
    (hk : ∀ x ∈ l, ∀ y ∈ l', name x = name y → key x = key y) {i j : ι} (hi : i ∈ l'.map name) (hj : j ∈ l'.map name)
    (hs : [i, j].Sublist (l.map name)) : [i, j].Sublist (l'.map name) := by
  obtain ⟨x, hx, y, hy, rfl, rfl, hlt⟩ := h.named_pair_iff.mp hs
  obtain ⟨x', hx', hix⟩ := List.mem_map.mp hi
  obtain ⟨y', hy', hiy⟩ := List.mem_map.mp hj
  refine h'.named_pair_iff.mpr ⟨x', hx', y', hy', hix, hiy, ?_⟩
  rwa [← hk x hx x' hx' hix.symm, ← hk y hy y' hy' hiy.symm]

/-- Where the keys of what is in both listings are the same, so is the order. -/
theorem Listing.sameOrder (h : Listing key there l) (h' : Listing key there' l')
    (hk : ∀ x ∈ l, ∀ y ∈ l', name x = name y → key x = key y) : SameOrder (l.map name) (l'.map name) := by
  intro i j hi hj hi' hj'
  refine ⟨h.order_kept h' hk hi' hj', h'.order_kept h ?_ hi hj⟩
  exact fun y hy x hx he => (hk x hx y hy he.symm).symm

end Order

section Origins

variable {κ ν γ : Type} [DecidableEq κ] {ever : κ → ν → Prop} {origin : ν → γ}

/-- All records there have ever been under one key are of one origin. -/
def OneOrigin (ever : κ → ν → Prop) (origin : ν → γ) : Prop :=
  ∀ k v w, ever k v → ever k w → origin v = origin w

/-- A map has records of earlier origin, and others under keys that have not been in use. -/
theorem OneOrigin.step (h : OneOrigin ever origin) {m : Keyed κ ν}
    (hm : ∀ k v, m.get? k = some v → (∃ w, ever k w ∧ origin v = origin w) ∨ ∀ w, ¬ever k w) :
    OneOrigin (fun k v => ever k v ∨ m.get? k = some v) origin := by
  have hnew : ∀ k v w, m.get? k = some v → ever k w → origin v = origin w := by
    intro k v w hv hw
    rcases hm k v hv with ⟨x, hx, he⟩ | hn
    · exact he.trans (h k x w hx hw)
    · exact absurd hw (hn w)
  rintro k v w (hv | hv) (hw | hw)
  · exact h k v w hv hw
  · exact (hnew k w v hw hv).symm
  · exact hnew k v w hv hw
  · rw [Option.some.inj (hv.symm.trans hw)]

end Origins

namespace Account

/-- What a listing goes by: first the time of creation, then the identifier. -/
def User.age (u : User) : Int ×ₗ Nat := toLex (u.createdAt, u.id.bits.toNat)

namespace Store

theorem notAfter_iff {u v : User} : notAfter u v = true ↔ u.age ≤ v.age := by
  simp [notAfter, User.age, Prod.Lex.toLex_le_toLex, BitVec.le_def]

namespace Kept

variable {s s' : Store}

theorem listing (h : s.Kept) : Listing User.age (fun u => s.get? u.id = some u) s.list := by
  have hi := h.toOwn.nodup_keys
  have hl : Listing User.age (· ∈ s.values) s.list :=
    .mergeSort (fun _ _ => notAfter_iff) (.refl _) (.of_map _ hi)
      fun u hu v hv he => List.inj_on_of_nodup_map hi hu hv (Uuid.eq_of_age he)
  exact ⟨fun u => (hl.mem u).trans h.mem_values, hl.once, hl.increasing⟩

theorem of_perm (h : s.Kept) (hp : s'.Perm s) : s'.Kept :=
  have ho : s'.Own User.id := h.toOwn.of_perm hp
  ⟨ho.distinct, ho.own⟩

/-- The listing does not depend on the order in which the users are found. -/
theorem list_perm (h : s.Kept) (hp : s'.Perm s) : s'.list = s.list := by
  have hl := (h.of_perm hp).listing
  simp only [h.distinct.get?_perm hp] at hl
  exact hl.unique h.listing

end Kept
end Store

section Runs

variable {P : Primitives} {s : Settings} {as : List Arrival} {users : Store} {log : List Step}

/-- A record that has been stored at some time. -/
def EverStored (users : Store) (log : List Step) (id : UserId) (u : User) : Prop :=
  ∃ past, past <:+ log ∧ (replay users past).get? id = some u

theorem everStored_cons {e : Step} {id : UserId} {u : User} :
    EverStored users (e :: log) id u ↔ EverStored users log id u ∨ (replay users (e :: log)).get? id = some u := by
  constructor
  · rintro ⟨past, hp, hg⟩
    rcases List.suffix_cons_iff.mp hp with rfl | hp
    · exact .inr hg
    · exact .inl ⟨past, hp, hg⟩
  · rintro (⟨past, hp, hg⟩ | hg)
    · exact ⟨past, hp.trans (List.suffix_cons e log), hg⟩
    · exact ⟨_, List.suffix_rfl, hg⟩

theorem Lawful.known_of_everStored (h : Lawful P s as users log) {id : UserId} {u : User}
    (hu : EverStored users log id u) : Known users id log := by
  obtain ⟨past, ⟨l, rfl⟩, hg⟩ := hu
  exact (h.drop.known (by rw [hg]; simp)).append l

/-- A request that stores a record of a user stores the time of creation that it has found. -/
theorem Arrival.Writes.update_createdAt {a : Arrival} {k : Progress} {u f : User}
    (hw : a.Writes P s k (.update f)) (hf : k.found = some (some u)) : f.createdAt = u.createdAt := by
  cases hw with
  | forgotPassword h => cases h.symm.trans hf; rfl
  | updateProfile _ h => cases h.symm.trans hf; rfl
  | changePassword _ h => cases h.symm.trans hf; rfl
  | @updateUser _ _ _ _ _ _ _ _ role _ h => cases h.symm.trans hf; cases role <;> rfl

/-- A record that a request has found was stored then. -/
theorem Lawful.everStored_of_found (h : Lawful P s as users log) (hk : users.Kept) {i : Nat} {since : Instant}
    {u : User} (hf : (heard i since log).found = some (some u)) : EverStored users log u.id u := by
  obtain ⟨e, hm, _, he⟩ := h.finds hf
  obtain ⟨l, past, rfl⟩ := List.append_of_mem hm
  have hg := (h.drop.tail.kept hk).get?_of_finds (h.drop.finds_at he) rfl
  exact ⟨past, (List.suffix_cons e past).trans (List.suffix_append l _), hg⟩

/-- Under an identifier there is the record of before, one that the call stores, or the old one with a new password. -/
theorem Store.Written.get?_cases {now : Instant} {s s' : Store} {c : Call} (h : Written now s c s') {id : UserId}
    {u : User} (hg : s'.get? id = some u) :
    s.get? id = some u ∨ (c = .create u ∧ u.id = id) ∨ (c = .update u ∧ u.id = id) ∨
      ∃ p v, s.get? id = some v ∧ u = v.changePassword p now := by
  cases h with
  | create =>
    rcases Keyed.get?_put_eq_some.mp hg with ⟨rfl, rfl⟩ | ⟨_, hg⟩
    · exact .inr (.inl ⟨rfl, rfl⟩)
    · exact .inl hg
  | update =>
    rcases Keyed.get?_put_eq_some.mp hg with ⟨rfl, rfl⟩ | ⟨_, hg⟩
    · exact .inr (.inr (.inl ⟨rfl, rfl⟩))
    · exact .inl hg
  | consumeReset hv =>
    rcases Keyed.get?_put_eq_some.mp hg with ⟨rfl, rfl⟩ | ⟨_, hg⟩
    · exact .inr (.inr (.inr ⟨_, _, hv, rfl⟩))
    · exact .inl hg
  | delete => exact .inl (Keyed.get?_of_remove hg)

/-- The records after a call are those of before, later ones of the same creation, and those of new users. -/
theorem Lawful.stored_origin (hi : NewIds users as) (hk : users.Kept) {e : Step}
    (h : Lawful P s as users (e :: log)) {id : UserId} {u : User} (hg : (replay users (e :: log)).get? id = some u) :
    (∃ v, EverStored users log id v ∧ u.createdAt = v.createdAt) ∨ ∀ v, ¬EverStored users log id v := by
  have hnow : ∀ v, (replay users log).get? id = some v → EverStored users log id v := fun v hv =>
    ⟨log, List.suffix_rfl, hv⟩
  obtain ⟨_, a, ha, hc⟩ := h.head
  rw [replay] at hg
  rcases Store.answer_written e.now (replay users log) e.call with hw | he
  · rcases hw.get?_cases hg with hg | ⟨hcall, rfl⟩ | ⟨hcall, rfl⟩ | ⟨p, v, hv, rfl⟩
    · exact .inl ⟨u, hnow u hg, rfl⟩
    · rw [hcall] at hc
      exact .inr fun v hv => h.tail.create_unknown hi ha hc (h.tail.known_of_everStored hv)
    · -- the record that was found may be out of date, but it was stored once
      rw [hcall] at hc
      have hx : a.Writes P s (heard e.who a.since log) (.update u) := by
        cases hc with
        | looks hl => cases hl
        | writes hx => exact hx
      obtain ⟨v, hv⟩ := hx.found_update
      have hstored := h.tail.everStored_of_found hk hv
      rw [← hx.update_id hv] at hstored
      exact .inl ⟨v, hstored, hx.update_createdAt hv⟩
    · exact .inl ⟨v, hnow v hv, rfl⟩
  · rw [he] at hg
    exact .inl ⟨u, hnow u hg, rfl⟩

/-- A user is created once. -/
theorem Lawful.created_once (hi : NewIds users as) (hk : users.Kept) (h : Lawful P s as users log) :
    OneOrigin (EverStored users log) User.createdAt := by
  induction h with
  | nil =>
    rintro id u v ⟨past, hp, hu⟩ ⟨past', hp', hv⟩
    obtain rfl := List.suffix_nil.mp hp
    obtain rfl := List.suffix_nil.mp hp'
    rw [Option.some.inj (hu.symm.trans hv)]
  | cons h ha now c hc ih =>
    intro id u v hu hv
    exact ih.step (fun id w hg => (h.cons ha now c hc).stored_origin hi hk hg) id u v
      (everStored_cons.mp hu) (everStored_cons.mp hv)

namespace World

theorem log_apply (w : World) (e : Event) : w.log <:+ (w.apply P s e).log := by
  cases e with
  | arrive a => exact List.suffix_rfl
  | turn who now =>
    rw [apply]
    split
    · exact List.suffix_cons _ _
    · exact List.suffix_rfl

theorem log_run (w : World) (es : List Event) : w.log <:+ (w.run P s es).log := by
  induction es generalizing w with
  | nil => exact List.suffix_rfl
  | cons e es ih => exact (w.log_apply e).trans (ih _)

/-- Users who stay keep their places in the listing. -/
theorem users_sameOrder (hk : users.Kept) {es later : List Event}
    (hi : NewIds users ((opening users).run P s (es ++ later)).arrivals) :
    SameOrder (((opening users).run P s es).users.list.map User.id)
      (((opening users).run P s (es ++ later)).users.list.map User.id) := by
  have ho := run_orderly (P := P) (s := s) users es
  have ho' := run_orderly (P := P) (s := s) users (es ++ later)
  have hs : ((opening users).run P s es).log <:+ ((opening users).run P s (es ++ later)).log := by
    rw [run, run, List.foldl_append]
    exact log_run _ later
  have hl := (run_kept (P := P) (s := s) hk es).listing
  have hl' := (run_kept (P := P) (s := s) hk (es ++ later)).listing
  refine hl.sameOrder hl' ?_
  intro u hu v hv he
  have hu := (hl.mem u).mp hu
  have hv := (hl'.mem v).mp hv
  rw [ho.replayed] at hu
  rw [ho'.replayed, ← he] at hv
  have hc := ho'.lawful.created_once hi hk u.id u v ⟨_, hs, hu⟩ ⟨_, List.suffix_rfl, hv⟩
  rw [User.age, User.age, hc, he]

end World
end Runs
end Account

namespace Cart

theorem Store.listing {s : Store} (h : s.items.Own Item.id) (user : UserId) :
    Listing Item.age (fun i => s.items.get? i.id = some i ∧ i.user = user) (s.list user) := by
  have hi := h.nodup_keys
  have hl : Listing Item.age (· ∈ s.items.values.filter fun i => i.user = user) (s.list user) :=
    .mergeSort (fun _ _ => Mirrors.notAfter_iff) (.refl _) ((List.Nodup.of_map _ hi).filter _) fun i hm j hn he =>
      List.inj_on_of_nodup_map hi (List.mem_filter.mp hm).1 (List.mem_filter.mp hn).1 (Uuid.eq_of_age he)
  refine ⟨fun i => (hl.mem i).trans ?_, hl.once, hl.increasing⟩
  rw [List.mem_filter, decide_eq_true_eq, h.mem_values]

/-- The listing does not depend on the order in which the items are found. -/
theorem Store.list_perm {s s' : Store} (h : s.items.Own Item.id) (hp : s'.items.Perm s.items) (user : UserId) :
    s'.list user = s.list user := by
  have hl := Store.listing (h.of_perm hp) user
  simp only [h.distinct.get?_perm hp] at hl
  exact hl.unique (Store.listing h user)

namespace World

/-- A store to which no call has come. -/
def opening (s : Store) : World := ⟨s, [], []⟩

def run (w : World) (es : List Event) : World := es.foldl apply w

theorem run_concat (w : World) (es : List Event) (e : Event) : w.run (es ++ [e]) = (w.run es).apply e := by
  rw [run, List.foldl_append]
  rfl

/-- The identifiers under which new items have been stored. -/
def insertedIds (w : World) : List ItemId := w.marks.filterMap Mark.inserted?

/-- What a step does to the items: it drops some of them, changes the quantity of one, or stores one that is new, which
is remembered. -/
inductive Moves (w w' : World) : Prop where
  | drops (p : ItemId × Item → Bool) (hi : w'.store.items = w.store.items.filter p) (hm : w.marks <:+ w'.marks)
  | changes {id old} (q : Quantity) (now : Instant) (hg : w.Holds id old)
    (hi : w'.store.items = w.store.items.put id (old.setQuantity q now)) (hm : w.marks <:+ w'.marks)
  | stores (i : Item) (hi : w'.store.items = w.store.items.put i.id i)
    (hm : w'.marks = .inserted i.id i.line :: w.marks)

/-- A step that leaves the items alone drops none. -/
theorem Moves.of_eq {w w' : World} (hi : w'.store.items = w.store.items) (hm : w.marks <:+ w'.marks) : Moves w w' :=
  .drops (fun _ => true) (by rw [hi]; simp) hm

theorem apply_moves (w : World) (e : Event) : Moves w (w.apply e) := by
  cases e with
  | start now c =>
    have hm : w.marks <:+ (w.apply (.start now c)).marks := List.suffix_append _ _
    cases c with
    | list user => exact .of_eq rfl hm
    | add i =>
      rcases w.store.add_cases i now with ⟨ha, _⟩ | ⟨e, ha⟩ | ⟨id, old, q, hg, ha⟩
      · exact .stores i (by simp [apply, Store.start, Store.answer, ha, Store.insert])
          (by simp [apply, Mark.ofCall?, ha])
      · exact .of_eq (by simp [apply, Store.start, Store.answer, ha]) hm
      · exact .changes q now hg (by simp [apply, Store.start, Store.answer, ha]) hm
    | setQuantity id q =>
      cases hg : w.store.items.get? id with
      | none => exact .of_eq (by simp [apply, Store.start, Store.answer, Store.setQuantity, hg]) hm
      | some i => exact .changes q now hg (by simp [apply, Store.start, Store.answer, Store.setQuantity, hg]) hm
    | delete id =>
      refine .drops (fun p => p.1 ≠ id) ?_ hm
      cases hg : w.store.items.get? id with
      | none => simp [apply, Store.start, Store.take, hg, Keyed.remove]
      | some i => simp [apply, Store.start, Store.take, hg, Keyed.remove]
    | clear user => exact .drops (fun p => p.2.user ≠ user) rfl hm
  | finish who =>
    rw [apply]
    split
    · rename_i r _
      refine .of_eq ?_ (List.suffix_append _ _)
      cases r with
      | free line id =>
        simp only [Store.finish, Store.free]
        split
        · rfl
        · rfl
      | dropLines user => rfl
    · exact .of_eq rfl List.suffix_rfl

namespace Moves

variable {w w' : World} {id : ItemId} {i : Item}

theorem own (h : Moves w w') (ho : w.store.items.Own Item.id) : w'.store.items.Own Item.id := by
  cases h with
  | drops p hi =>
    rw [hi]
    exact ho.filter p
  | changes q now hg hi =>
    rw [hi]
    have hid := ho.key_of_get? hg
    exact ho.put hid
  | stores i hi =>
    rw [hi]
    exact ho.put rfl

theorem marks (h : Moves w w') : w.marks <:+ w'.marks := by
  cases h with
  | drops _ _ hm => exact hm
  | changes _ _ _ _ hm => exact hm
  | stores i _ hm =>
    rw [hm]
    exact List.suffix_cons _ _

/-- An item was there before, created when it was, or it is the new one. -/
theorem item (h : Moves w w') (ho : w.store.items.Own Item.id) (hg : w'.Holds id i) :
    (∃ old, w.Holds id old ∧ i.createdAt = old.createdAt) ∨ w'.insertedIds = id :: w.insertedIds := by
  cases h with
  | drops p hi =>
    rw [Holds, hi, ho.distinct.get?_filter, Option.filter_eq_some_iff] at hg
    exact .inl ⟨i, hg.1, rfl⟩
  | changes q now hx hi =>
    rw [Holds, hi] at hg
    rcases Keyed.get?_put_eq_some.mp hg with ⟨rfl, rfl⟩ | ⟨_, hg⟩
    · exact .inl ⟨_, hx, rfl⟩
    · exact .inl ⟨i, hg, rfl⟩
  | stores j hi hm =>
    rw [Holds, hi] at hg
    rcases Keyed.get?_put_eq_some.mp hg with ⟨rfl, rfl⟩ | ⟨_, hg⟩
    · exact .inr (by rw [insertedIds, hm]; rfl)
    · exact .inl ⟨i, hg, rfl⟩

end Moves

section Runs

variable {s : Store} {es : List Event} {id : ItemId} {i : Item}

/-- No item has been stored under an identifier that another one has had. -/
structure NewItems (s : Store) (w : World) : Prop where
  once : w.insertedIds.Nodup
  unused : ∀ id ∈ w.insertedIds, s.items.get? id = none

theorem NewItems.before {w w' : World} (h : NewItems s w') (hm : w.marks <:+ w'.marks) : NewItems s w := by
  have hs : w.insertedIds.Sublist w'.insertedIds := hm.sublist.filterMap _
  exact ⟨h.once.sublist hs, fun id hid => h.unused id (hs.subset hid)⟩

theorem run_own (ho : s.items.Own Item.id) (es : List Event) : ((opening s).run es).store.items.Own Item.id := by
  induction es using List.reverseRecOn with
  | nil => exact ho
  | append_singleton es e ih =>
    rw [run_concat]
    exact (apply_moves _ e).own ih

/-- An item that has been there at some time. -/
def EverHeld (s : Store) (es : List Event) (id : ItemId) (i : Item) : Prop :=
  ∃ past, past <+: es ∧ ((opening s).run past).Holds id i

theorem everHeld_concat {e : Event} :
    EverHeld s (es ++ [e]) id i ↔ EverHeld s es id i ∨ (((opening s).run es).apply e).Holds id i := by
  rw [← run_concat]
  constructor
  · rintro ⟨past, hp, hg⟩
    rcases List.prefix_concat_iff.mp hp with rfl | hp
    · exact .inr hg
    · exact .inl ⟨past, hp, hg⟩
  · rintro (⟨past, hp, hg⟩ | hg)
    · exact ⟨past, hp.trans (List.prefix_append es [e]), hg⟩
    · exact ⟨_, List.prefix_rfl, hg⟩

/-- An item has been there from the start, or it was stored as a new one. -/
theorem known_of_everHeld (ho : s.items.Own Item.id) (h : EverHeld s es id i) :
    s.items.get? id ≠ none ∨ id ∈ ((opening s).run es).insertedIds := by
  induction es using List.reverseRecOn generalizing i with
  | nil =>
    obtain ⟨past, hp, hg⟩ := h
    obtain rfl := List.prefix_nil.mp hp
    have hg : s.items.get? id = some i := hg
    exact .inl (by simp [hg])
  | append_singleton es e ih =>
    have hx := apply_moves ((opening s).run es) e
    have hs := hx.marks.sublist.filterMap Mark.inserted?
    rw [run_concat]
    rcases everHeld_concat.mp h with h | hg
    · exact (ih h).imp_right fun hm => hs.subset hm
    · rcases hx.item (run_own ho es) hg with ⟨old, hold, _⟩ | hn
      · exact (ih ⟨es, List.prefix_rfl, hold⟩).imp_right fun hm => hs.subset hm
      · exact .inr (by rw [hn]; exact List.mem_cons_self)

/-- The items after a step are those of before, later forms of them, and new ones. -/
theorem held_origin (ho : s.items.Own Item.id) {e : Event} (hn : NewItems s (((opening s).run es).apply e))
    (hg : (((opening s).run es).apply e).Holds id i) :
    (∃ old, EverHeld s es id old ∧ i.createdAt = old.createdAt) ∨ ∀ old, ¬EverHeld s es id old := by
  rcases (apply_moves ((opening s).run es) e).item (run_own ho es) hg with ⟨old, hold, he⟩ | hnew
  · exact .inl ⟨old, ⟨es, List.prefix_rfl, hold⟩, he⟩
  · -- the identifier is new to the store and to all items that were stored before
    have honce := hn.once
    have hunused := hn.unused id (by rw [hnew]; exact List.mem_cons_self)
    rw [hnew] at honce
    refine .inr fun old hold => ?_
    rcases known_of_everHeld ho hold with hs | hm
    · exact hs hunused
    · exact (List.nodup_cons.mp honce).1 hm

/-- An item is created once. -/
theorem created_once (ho : s.items.Own Item.id) (hn : NewItems s ((opening s).run es)) :
    OneOrigin (EverHeld s es) Item.createdAt := by
  induction es using List.reverseRecOn with
  | nil =>
    rintro id i j ⟨past, hp, hi⟩ ⟨past', hp', hj⟩
    obtain rfl := List.prefix_nil.mp hp
    obtain rfl := List.prefix_nil.mp hp'
    rw [Option.some.inj (hi.symm.trans hj)]
  | append_singleton es e ih =>
    rw [run_concat] at hn
    intro id i j hi hj
    exact (ih (hn.before (apply_moves _ e).marks)).step (fun id i hg => held_origin ho hn hg) id i j
      (everHeld_concat.mp hi) (everHeld_concat.mp hj)

/-- Items that stay keep their places in the listing. -/
theorem items_sameOrder (ho : s.items.Own Item.id) {later : List Event}
    (hn : NewItems s ((opening s).run (es ++ later))) (user : UserId) :
    SameOrder ((((opening s).run es).store.list user).map Item.id)
      ((((opening s).run (es ++ later)).store.list user).map Item.id) := by
  have hl := Store.listing (run_own ho es) user
  have hl' := Store.listing (run_own ho (es ++ later)) user
  refine hl.sameOrder hl' ?_
  intro i hi j hj he
  have hi := ((hl.mem i).mp hi).1
  have hj := ((hl'.mem j).mp hj).1
  rw [← he] at hj
  have hc := created_once ho hn i.id i j ⟨es, List.prefix_append es later, hi⟩ ⟨_, List.prefix_rfl, hj⟩
  rw [Item.age, Item.age, hc, he]

end Runs
end World
end Cart

/-- Users and items are listed in one way, in whatever order the stores are gone through: each user once, or each item of
the owner and of nobody else, by time of creation and identifier.  Of those who stay nobody changes places, whatever
requests and calls come in between and overlap, as long as new users and new items get new identifiers; where nobody is
created and nothing new is added this asks for nothing. -/
theorem listings_steady :
    (∀ users : Account.Store, users.Kept →
      (∀ users' : Account.Store, users'.Perm users → users'.list = users.list) ∧
      Listing Account.User.age (fun u => users.get? u.id = some u) users.list ∧
      ∀ (P : Primitives) (s : Account.Settings) (es later : List Account.Event),
        Account.NewIds users ((Account.World.opening users).run P s (es ++ later)).arrivals →
          SameOrder (((Account.World.opening users).run P s es).users.list.map Account.User.id)
            (((Account.World.opening users).run P s (es ++ later)).users.list.map Account.User.id)) ∧
    ∀ carts : Cart.Store, carts.items.Own Cart.Item.id → ∀ owner : UserId,
      (∀ carts' : Cart.Store, carts'.items.Perm carts.items → carts'.list owner = carts.list owner) ∧
      Listing Cart.Item.age (fun i => carts.items.get? i.id = some i ∧ i.user = owner) (carts.list owner) ∧
      ∀ es later : List Cart.Event, Cart.World.NewItems carts ((Cart.World.opening carts).run (es ++ later)) →
        SameOrder ((((Cart.World.opening carts).run es).store.list owner).map Cart.Item.id)
          ((((Cart.World.opening carts).run (es ++ later)).store.list owner).map Cart.Item.id) := by
  refine ⟨fun users hu => ⟨?_, hu.listing, ?_⟩, fun carts hc owner => ⟨?_, Cart.Store.listing hc owner, ?_⟩⟩
  · exact fun users' hp => hu.list_perm hp
  · exact fun P s es later hi => Account.World.users_sameOrder hu hi
  · exact fun carts' hp => Cart.Store.list_perm hc hp owner
  · exact fun es later hn => Cart.World.items_sameOrder hc hn owner

section Company

/-- A user with this number. -/
def newcomer (n : Nat) (name email : String) (t : Instant) : Account.User :=
  .new (.ofNat n) ⟨name⟩ ⟨email⟩ (Password.Clear.hash .legible ⟨"Violet-77".toList⟩ none []) .user t

/-- Bo and Ann, who came at the same time, and Cy, who had come before them. -/
def company : Account.Store :=
  [(⟨2⟩, newcomer 2 "Bo" "bo@b.co" 5), (⟨1⟩, newcomer 1 "Ann" "ann@b.co" 5), (⟨3⟩, newcomer 3 "Cy" "cy@b.co" 4)]

theorem company_kept : company.Kept := ⟨by unfold Keyed.Distinct; decide, by decide⟩

open Account in
/-- Bo changes name and password at once, Ann leaves, and Di comes. -/
def bustle : List Event :=
  let arrive (n : Nat) (c : Command) := Event.arrive ⟨c, ⟨.ofNat n, [], ⟨""⟩⟩, 6⟩
  [arrive 0 (.updateProfile ⟨2⟩ ⟨some "Bob", none⟩),
   arrive 0 (.changePassword ⟨2⟩ ⟨some "Violet-77", some "Indigo-88", some "Indigo-88"⟩),
   .turn 0 7, .turn 1 8, .turn 1 9, .turn 0 10,
   arrive 0 (.deleteAccount ⟨1⟩), .turn 2 11,
   arrive 4 (.register ⟨some "Di", some "di@b.co", some "Violet-77", none⟩), .turn 3 12, .turn 3 13]

/-- The users after that. -/
def companyLater : Account.Store := ((Account.World.opening company).run .legible .usual bustle).users

theorem bustle_newIds :
    Account.NewIds company ((Account.World.opening company).run .legible .usual bustle).arrivals := by
  have h : ((Account.World.opening company).run .legible .usual bustle).arrivals.filterMap Account.Arrival.newId? =
      [⟨4⟩] := by
    decide +kernel
  refine ⟨by rw [h]; simp, ?_⟩
  rw [h]
  decide

/-- Two items of one user. -/
def basket : Cart.Store where
  items := [(⟨5⟩, Cart.numbered 5 7 30 1), (⟨4⟩, Cart.numbered 4 7 31 2)]
  lines := [((⟨7⟩, ⟨30⟩), ⟨5⟩), ((⟨7⟩, ⟨31⟩), ⟨4⟩)]

theorem basket_own : basket.items.Own Cart.Item.id := ⟨by unfold Keyed.Distinct; decide, by decide⟩

/-- More is added to one of them, and the quantity of the other one is changed. -/
def refill : List Cart.Event := [.start 6 (.add (Cart.numbered 6 7 30 2)), .start 7 (.setQuantity ⟨4⟩ ⟨9⟩)]

/-- The items after that. -/
def basketLater : Cart.Store := ((Cart.World.opening basket).run refill).store

theorem refill_newItems : Cart.World.NewItems basket ((Cart.World.opening basket).run refill) := by
  have h : ((Cart.World.opening basket).run refill).insertedIds = [] := rfl
  exact ⟨by rw [h]; exact .nil, by simp [h]⟩

/-- Cy stays in front of Bo, and the older item in front of the other one. -/
theorem company_steady :
    (company.Kept ∧ Account.Store.list company.reverse = company.list ∧
      Account.NewIds company ((Account.World.opening company).run .legible .usual bustle).arrivals ∧
      companyLater.values.map (fun u => (u.id.bits, u.name.text)) = [(4, "Di"), (2, "Bob"), (3, "Cy")] ∧
      [⟨3⟩, ⟨2⟩].Sublist (companyLater.list.map Account.User.id)) ∧
    basket.items.Own Cart.Item.id ∧ Cart.World.NewItems basket ((Cart.World.opening basket).run refill) ∧
      basketLater.items.values.map (fun i => (i.id.bits, i.quantity.count)) = [(4, 9), (5, 3)] ∧
      [⟨4⟩, ⟨5⟩].Sublist ((basketLater.list ⟨7⟩).map Cart.Item.id) := by
  obtain ⟨hperm, hl, ho⟩ := listings_steady.1 company company_kept
  obtain ⟨_, hl', ho'⟩ := listings_steady.2 basket basket_own ⟨7⟩
  refine ⟨⟨company_kept, hperm _ (List.reverse_perm company), bustle_newIds, by decide +kernel, ?_⟩,
    basket_own, refill_newItems, by decide, ?_⟩
  · have hbefore : [⟨3⟩, ⟨2⟩].Sublist (company.list.map Account.User.id) := hl.named_pair_iff.mpr
      ⟨newcomer 3 "Cy" "cy@b.co" 4, (hl.mem _).mpr (by decide +kernel),
        newcomer 2 "Bo" "bo@b.co" 5, (hl.mem _).mpr (by decide +kernel), rfl, rfl, by decide⟩
    have hlater : ∀ id ∈ [⟨3⟩, ⟨2⟩], id ∈ companyLater.list.map Account.User.id := by
      intro id hid
      refine ((List.mergeSort_perm _ _).map _).mem_iff.mpr ?_
      revert id
      decide +kernel
    exact (ho .legible .usual [] bustle bustle_newIds).pair hbefore (hlater _ (by simp)) (hlater _ (by simp))
  · have hbefore : [⟨4⟩, ⟨5⟩].Sublist ((basket.list ⟨7⟩).map Cart.Item.id) := hl'.named_pair_iff.mpr
      ⟨Cart.numbered 4 7 31 2, (hl'.mem _).mpr ⟨rfl, rfl⟩,
        Cart.numbered 5 7 30 1, (hl'.mem _).mpr ⟨rfl, rfl⟩, rfl, rfl, by decide⟩
    have hlater : ∀ id ∈ [⟨4⟩, ⟨5⟩], id ∈ (basketLater.list ⟨7⟩).map Cart.Item.id := by
      intro id hid
      refine ((List.mergeSort_perm _ _).map _).mem_iff.mpr ?_
      revert id
      decide +kernel
    exact (ho' [] refill refill_newItems).pair hbefore (hlater _ (by simp)) (hlater _ (by simp))

end Company

end Storefront
