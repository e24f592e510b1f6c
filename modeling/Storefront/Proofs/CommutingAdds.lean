import Mathlib.Algebra.BigOperators.Group.List.Basic
import Mathlib.Algebra.Ring.Int.Defs
import Storefront.Cart.Router
import Storefront.Proofs.OverlappingCarts

namespace Storefront.Cart

open Http (Request Response)

/-- The item with the identifier and the time that it gets when it is added. -/
def Item.served (i : Item) (fresh : ItemId) (now : Instant) : Item :=
  .new fresh i.user i.product i.quantity i.price now

/-- The item that a request asks to add, before it gets an identifier and a time. -/
def asked? (r : Request) : Option Item :=
  if Resource.ofTarget? r.target = some .carts ∧ r.method = .post then
    match Resource.carts.call r ⟨0⟩ 0 with
    | .ok (.add i) => some i
    | _ => none
  else none

/-- The quantity that is read from a number is in range, and it is that number. -/
theorem Quantity.ofNumber_eq_ok {x : Float} {q : Quantity} (h : ofNumber x = .ok q) :
    q.InRange ∧ ((UInt64.ofNat q.count.toNat).toFloat == x) = true := by
  unfold ofNumber at h
  dsimp only at h
  split at h
  · rename_i hx
    obtain ⟨hc, hq⟩ := new_eq_ok.mp h
    refine ⟨hq, ?_⟩
    rw [hc, Int.toNat_natCast, UInt64.ofNat_toNat]
    exact hx
  · cases h

theorem Quantity.one_inRange : one.InRange := by decide

/-- Whether an addition passes the rules depends neither on the identifier nor on the time. -/
theorem Addition.item_eq_ok {a : Addition} {id : ItemId} {now : Instant} {i : Item} (h : a.item id now = .ok i) :
    i.quantity.InRange ∧ ∀ fresh t, a.item fresh t = .ok (i.served fresh t) := by
  obtain ⟨user, product, quantity, price⟩ := a
  cases user with
  | none => cases h
  | some user =>
  cases product with
  | none => cases h
  | some product =>
  cases price with
  | none => cases h
  | some price =>
    obtain ⟨u, hu, h⟩ := bind_ok h
    obtain ⟨p, hp, h⟩ := bind_ok h
    cases quantity with
    | none =>
      obtain ⟨q, hq, h⟩ := bind_ok h
      obtain ⟨x, hx, h⟩ := bind_ok h
      cases hq
      cases h
      exact ⟨Quantity.one_inRange, fun _ _ => by simp [item, hu, hp, hx, bind, Except.bind, Item.served, Item.new]⟩
    | some n =>
      obtain ⟨q, hq, h⟩ := bind_ok h
      obtain ⟨x, hx, h⟩ := bind_ok h
      cases h
      exact ⟨(Quantity.ofNumber_eq_ok hq).1,
        fun _ _ => by simp [item, hu, hp, hq, hx, bind, Except.bind, Item.served, Item.new]⟩

theorem asked?_eq_some {r : Request} {i : Item} (h : asked? r = some i) :
    (Resource.ofTarget? r.target = some .carts ∧ r.method = .post) ∧ i.quantity.InRange ∧
      ∀ fresh now, Resource.carts.call r fresh now = .ok (.add (i.served fresh now)) := by
  unfold asked? at h
  split at h
  · rename_i hr
    refine ⟨hr, ?_⟩
    split at h
    · rename_i j hc
      obtain rfl := Option.some.inj h
      have hc := mapError_eq_ok.mp hc
      obtain ⟨a, ha, hc⟩ := bind_ok hc
      obtain ⟨j, hj, hc⟩ := bind_ok hc
      cases hc
      obtain ⟨hq, hs⟩ := Addition.item_eq_ok hj
      refine ⟨hq, fun fresh now => mapError_eq_ok.mpr ?_⟩
      simp only [ha, hs, bind, Except.bind]
    · cases h
  · cases h

/-- How the client is told what has become of an addition. -/
def statusOf : Except Refusal (Item × Bool) → Nat
  | .ok (_, inserted) => if inserted then 201 else 200
  | .error e => e.response.status

/-- A request to add something is answered as the addition is. -/
theorem respond_asked {σ : Type} (answer : Backend σ) (fresh : ItemId) (now : Instant) (s : σ) {r : Request} {i : Item}
    (h : asked? r = some i) :
    (respond answer fresh now r s).1.status = statusOf (answer now s (.add (i.served fresh now))).1 ∧
      (respond answer fresh now r s).2 = (answer now s (.add (i.served fresh now))).2 := by
  obtain ⟨⟨ht, hm⟩, _, hc⟩ := asked?_eq_some h
  have hl : Http.hasMethod Resource.carts.methods r.method = true := by rw [hm]; rfl
  have hf : ∀ a, Http.finish Resource.carts.methods r.method a = a := by
    intro a
    rw [Http.finish, if_pos hl, hm]
    rfl
  simp only [respond, ht, hl, if_true, hc, hf, perform]
  generalize answer now s (.add (i.served fresh now)) = x
  obtain ⟨o, s'⟩ := x
  cases o with
  | error e => exact ⟨rfl, rfl⟩
  | ok o => exact ⟨rfl, rfl⟩

namespace Store

/-- The item that a line points to. -/
def item? (s : Store) (line : UserId × ProductId) : Option Item := (s.lines.get? line).bind s.items.get?

/-- How many pieces are in a line. -/
def quantity (s : Store) (line : UserId × ProductId) : Int := ((s.item? line).map fun i => i.quantity.count).getD 0

/-- Nothing has been done to a line and to the items that stand for it. -/
structure Untouched (line : UserId × ProductId) (s s' : Store) : Prop where
  lines : s'.lines.get? line = s.lines.get? line
  items : ∀ id i, i.line = line → (s'.items.get? id = some i ↔ s.items.get? id = some i)

/-- What it takes to add to carts: a line points to no item of another line, and no identifier has been used that is
not among those in `past`. -/
structure Sound (past : List ItemId) (s : Store) : Prop where
  items : s.items.Distinct
  lines : s.lines.Distinct
  own : ∀ id i, s.items.get? id = some i → i.id = id ∧ id ∈ past
  pointed : ∀ line id, s.lines.get? line = some id → id ∈ past ∧ ∀ i, s.items.get? id = some i → i.line = line
  inRange : ∀ id i, s.items.get? id = some i → i.quantity.InRange

/-- Puts an item in the place of the one that has its identifier. -/
def change (s : Store) (i : Item) : Store := { s with items := s.items.put i.id i }

/-- What becomes of an item that is to be added: it goes to the item of its line, if there is one and the sum is in
range. -/
inductive Adds (s : Store) (i : Item) (now : Instant) : Except Refusal (Item × Bool) → Store → Prop where
  | inserted (hi : s.item? i.line = none) : Adds s i now (.ok (i, true)) (s.insert i)
  | increased {old} (hi : s.item? i.line = some old) (hq : old.quantity.count + i.quantity.count ≤ Quantity.most) :
    Adds s i now (.ok (old.setQuantity ⟨old.quantity.count + i.quantity.count⟩ now, false))
      (s.change (old.setQuantity ⟨old.quantity.count + i.quantity.count⟩ now))
  | refused {old} (hi : s.item? i.line = some old) (hq : Quantity.most < old.quantity.count + i.quantity.count) :
    Adds s i now (.error Quantity.outOfRange) s

namespace Untouched

variable {s s' s'' : Store} {line : UserId × ProductId}

theorem refl (line : UserId × ProductId) (s : Store) : Untouched line s s := ⟨rfl, fun _ _ _ => .rfl⟩

theorem trans (h : Untouched line s s') (h' : Untouched line s' s'') : Untouched line s s'' :=
  ⟨h'.lines.trans h.lines, fun id i hi => (h'.items id i hi).trans (h.items id i hi)⟩

end Untouched

namespace Sound

variable {past past' : List ItemId} {s s' : Store} {i old : Item} {id : ItemId} {line : UserId × ProductId}
  {now : Instant}

theorem empty : Sound [] .empty := ⟨.nil, .nil, nofun, nofun, nofun⟩

theorem mono (h : Sound past s) (hp : past ⊆ past') : Sound past' s :=
  { h with
    own := fun id i hi => ⟨(h.own id i hi).1, hp (h.own id i hi).2⟩
    pointed := fun line id hl => ⟨hp (h.pointed line id hl).1, (h.pointed line id hl).2⟩ }

theorem item?_eq_some (h : Sound past s) (hi : s.item? line = some i) :
    s.lines.get? line = some i.id ∧ s.items.get? i.id = some i ∧ i.line = line := by
  obtain ⟨id, hl, hg⟩ := Option.bind_eq_some_iff.mp hi
  obtain rfl := (h.own id i hg).1
  exact ⟨hl, hg, (h.pointed line i.id hl).2 i hg⟩

theorem item?_of_untouched (h : Sound past s) (h' : Sound past' s') (hu : Untouched line s s') :
    s'.item? line = s.item? line := by
  rw [item?, hu.lines, item?]
  cases hl : s.lines.get? line with
  | none => rfl
  | some id =>
    apply Option.ext
    intro i
    constructor
    · intro hi
      exact (hu.items id i ((h'.pointed line id (hu.lines.trans hl)).2 i hi)).mp hi
    · intro hi
      exact (hu.items id i ((h.pointed line id hl).2 i hi)).mpr hi

theorem unchanged (h : Sound past s) (hg : s.items.get? id = some i) :
    ∃ j, s.items.get? id = some j ∧ i.id = j.id ∧ i.line = j.line ∧ i.quantity.InRange :=
  ⟨i, hg, rfl, rfl, h.inRange id i hg⟩

/-- Some items and lines are gone, or items have been changed. -/
theorem fewer (h : Sound past s) (hi : s'.items.Distinct) (hl : s'.lines.Distinct)
    (hitems : ∀ id i, s'.items.get? id = some i →
      ∃ j, s.items.get? id = some j ∧ i.id = j.id ∧ i.line = j.line ∧ i.quantity.InRange)
    (hlines : ∀ line id, s'.lines.get? line = some id → s.lines.get? line = some id) : Sound past s' where
  items := hi
  lines := hl
  own id i hg := by
    obtain ⟨j, hj, hid, _, _⟩ := hitems id i hg
    rw [hid]
    exact h.own id j hj
  pointed line id hg := by
    obtain ⟨hp, hx⟩ := h.pointed line id (hlines line id hg)
    refine ⟨hp, fun i hi => ?_⟩
    obtain ⟨j, hj, _, hl, _⟩ := hitems id i hi
    rw [hl]
    exact hx j hj
  inRange id i hg := by
    obtain ⟨_, _, _, _, hq⟩ := hitems id i hg
    exact hq

theorem insert (h : Sound past s) (hn : i.id ∉ past) (hq : i.quantity.InRange) :
    Sound (past ++ [i.id]) (s.insert i) where
  items := h.items.put _ _
  lines := h.lines.put _ _
  own id j hg := by
    rcases get?_insert hg with ⟨rfl, rfl⟩ | ⟨_, hg⟩
    · exact ⟨rfl, by simp⟩
    · exact ⟨(h.own id j hg).1, List.mem_append_left _ (h.own id j hg).2⟩
  pointed line id hl := by
    rcases Keyed.get?_put_eq_some.mp hl with ⟨rfl, rfl⟩ | ⟨_, hl⟩
    · refine ⟨by simp, fun j hj => ?_⟩
      rcases get?_insert hj with ⟨_, rfl⟩ | ⟨hne, _⟩
      · rfl
      · exact absurd rfl hne
    · obtain ⟨hp, hx⟩ := h.pointed line id hl
      refine ⟨List.mem_append_left _ hp, fun j hj => ?_⟩
      rcases get?_insert hj with ⟨rfl, _⟩ | ⟨_, hj⟩
      · exact absurd hp hn
      · exact hx j hj
  inRange id j hg := by
    rcases get?_insert hg with ⟨_, rfl⟩ | ⟨_, hg⟩
    · exact hq
    · exact h.inRange id j hg

theorem change (h : Sound past s) (hg : s.items.get? i.id = some old) (hl : i.line = old.line)
    (hq : i.quantity.InRange) : Sound past (s.change i) := by
  refine h.fewer (h.items.put _ _) h.lines (fun id j hj => ?_) fun _ _ hl => hl
  rcases Keyed.get?_put_eq_some.mp hj with ⟨rfl, rfl⟩ | ⟨_, hj⟩
  · exact ⟨old, hg, ((h.own _ old hg).1).symm, hl, hq⟩
  · exact h.unchanged hj

theorem finish (h : Sound past s) (r : Rest) : Sound past (s.finish r) := by
  cases r with
  | free line id =>
    simp only [Store.finish, Store.free]
    split
    · exact h.fewer h.items (h.lines.remove _) (fun _ _ => h.unchanged) fun _ _ hl => Keyed.get?_of_remove hl
    · exact h
  | dropLines user =>
    refine h.fewer h.items (h.lines.filter _) (fun _ _ => h.unchanged) fun line id hl => ?_
    rw [Store.finish, Store.dropLines, h.lines.get?_filter] at hl
    exact (Option.filter_eq_some_iff.mp hl).1

/-- An addition becomes one of the three things. -/
theorem adds (h : Sound past s) (hq : i.quantity.InRange) (now : Instant) :
    s.Adds i now (s.answer now (.add i)).1 (s.answer now (.add i)).2 := by
  cases hi : s.item? i.line with
  | none =>
    have ha : s.add i now = .ok (i, true, s.insert i) := by
      rw [Store.add]
      cases hl : s.lines.get? i.line with
      | none => rfl
      | some id =>
        have hg : s.items.get? id = none := by simpa [item?, hl] using hi
        simp only [hg]
    rw [Store.answer, ha]
    exact .inserted hi
  | some old =>
    obtain ⟨hl, hg, _⟩ := h.item?_eq_some hi
    have ha : s.add i now = (old.quantity.add i.quantity).map fun q =>
        (old.setQuantity q now, false, s.change (old.setQuantity q now)) := by
      simp only [Store.add, hl, hg]
      cases old.quantity.add i.quantity with
      | error e => rfl
      | ok q => rfl
    rw [Store.answer, ha]
    by_cases hm : old.quantity.count + i.quantity.count ≤ Quantity.most
    · rw [Quantity.add_of_le (h.inRange _ old hg) hq hm]
      exact .increased hi hm
    · rw [Quantity.add_of_lt (Int.not_le.mp hm)]
      exact .refused hi (Int.not_le.mp hm)

end Sound

namespace Adds

variable {past : List ItemId} {s s' : Store} {i : Item} {now : Instant} {o : Except Refusal (Item × Bool)}
  {line : UserId × ProductId}

theorem sound (ha : s.Adds i now o s') (h : Sound past s) (hn : i.id ∉ past) (hq : i.quantity.InRange) :
    Sound (past ++ [i.id]) s' := by
  cases ha with
  | inserted => exact h.insert hn hq
  | @increased old hi hm =>
    obtain ⟨_, hg, _⟩ := h.item?_eq_some hi
    have ho := h.inRange _ old hg
    have hr : Quantity.least ≤ old.quantity.count + i.quantity.count := by
      simp only [Quantity.InRange, Quantity.least] at ho hq ⊢
      omega
    exact (h.change (i := old.setQuantity ⟨_⟩ now) hg rfl ⟨hr, hm⟩).mono (List.subset_append_left _ _)
  | refused => exact h.mono (List.subset_append_left _ _)

/-- Other lines are left as they are. -/
theorem untouched (ha : s.Adds i now o s') (h : Sound past s) (hn : i.id ∉ past) (hl : line ≠ i.line) :
    Untouched line s s' := by
  cases ha with
  | inserted =>
    refine ⟨(Keyed.get?_put _ _ _ _).trans (if_neg hl), fun id j hj => ?_⟩
    rw [Store.insert, Keyed.get?_put_eq_some]
    constructor
    · rintro (⟨_, rfl⟩ | ⟨_, hg⟩)
      · exact absurd hj.symm hl
      · exact hg
    · intro hg
      refine .inr ⟨?_, hg⟩
      rintro rfl
      exact hn (h.own _ j hg).2
  | @increased old hi _ =>
    obtain ⟨_, hg, ho⟩ := h.item?_eq_some hi
    refine ⟨rfl, fun id j hj => ?_⟩
    rw [change, Keyed.get?_put_eq_some]
    constructor
    · rintro (⟨_, rfl⟩ | ⟨_, hg⟩)
      · exact absurd (hj.symm.trans ho) hl
      · exact hg
    · intro hx
      refine .inr ⟨?_, hx⟩
      rintro rfl
      obtain rfl := Option.some.inj (hx.symm.trans hg)
      exact hl (hj.symm.trans ho)
  | refused => exact .refl _ _

/-- The line of the item has an item afterwards, and as many pieces as before and those that were not refused. -/
theorem held (ha : s.Adds i now o s') (h : Sound past s) (hq : i.quantity.InRange) :
    s'.item? i.line ≠ none ∧ s'.quantity i.line = s.quantity i.line + (if o.isOk then i.quantity.count else 0) ∧
      (o.isOk = true ↔ s.quantity i.line + i.quantity.count ≤ Quantity.most) := by
  cases ha with
  | inserted hi =>
    have hs : (s.insert i).item? i.line = some i := by simp [item?, Store.insert, Keyed.get?_put]
    simp only [quantity, hi, hs]
    refine ⟨Option.some_ne_none _, ?_, ?_⟩
    · simp [Except.isOk, Except.toBool]
    · simpa [Except.isOk, Except.toBool] using hq.2
  | @increased old hi hm =>
    obtain ⟨hl, _, _⟩ := h.item?_eq_some hi
    have hs : (s.change (old.setQuantity ⟨old.quantity.count + i.quantity.count⟩ now)).item? i.line =
        some (old.setQuantity ⟨old.quantity.count + i.quantity.count⟩ now) := by
      simp [item?, change, hl, Keyed.get?_put, Item.setQuantity]
    simp only [quantity, hi, hs]
    refine ⟨Option.some_ne_none _, ?_, ?_⟩
    · simp [Except.isOk, Except.toBool, Item.setQuantity]
    · simpa [Except.isOk, Except.toBool] using hm
  | @refused old hi hm =>
    simp only [quantity, hi]
    refine ⟨Option.some_ne_none _, ?_⟩
    simpa [Except.isOk, Except.toBool] using hm

end Adds

namespace Sound

variable {past : List ItemId} {s : Store}

/-- The first step of a call. -/
theorem start (h : Sound past s) (now : Instant) (c : Call) (hf : ∀ id, c.added? = some id → id ∉ past)
    (hq : c.InRange) : Sound (past ++ c.added?.toList) (s.start now c).1 := by
  have hp : past ⊆ past ++ c.added?.toList := List.subset_append_left _ _
  cases c with
  | list user => exact h.mono hp
  | add i => exact (h.adds hq now).sound h (hf i.id rfl) hq
  | setQuantity id q =>
    refine mono ?_ hp
    simp only [Store.start, Store.answer, Store.setQuantity]
    cases hg : s.items.get? id with
    | none => exact h
    | some i =>
      obtain rfl := (h.own id i hg).1
      exact h.change (i := i.setQuantity q now) hg rfl hq
  | delete id =>
    refine mono ?_ hp
    have ht : Sound past (s.take id).2 := by
      refine h.fewer (h.items.remove _) h.lines (fun id i hi => h.unchanged ?_) fun _ _ hl => hl
      exact Keyed.get?_of_remove hi
    have he : (s.start now (.delete id)).1 = (s.take id).2 := by
      rw [Store.start, take]
      cases s.items.get? id with
      | none => rfl
      | some i => rfl
    rwa [he]
  | clear user =>
    refine mono ?_ hp
    refine h.fewer (h.items.filter _) h.lines (fun id i hi => h.unchanged ?_) fun _ _ hl => hl
    rw [Store.start, dropItems, h.items.get?_filter] at hi
    exact (Option.filter_eq_some_iff.mp hi).1

end Sound
end Store

/-- Overlapping calls leave a store to whose carts may be added, as long as new items have new identifiers. -/
theorem World.sound_after {es : List Event} (hf : (es.filterMap Event.added?).Nodup)
    (hq : ∀ now c, .start now c ∈ es → c.InRange) : (after es).store.Sound (es.filterMap Event.added?) := by
  induction es using List.reverseRecOn with
  | nil => exact .empty
  | append_singleton es e ih =>
    rw [List.filterMap_append] at hf ⊢
    obtain ⟨hes, _, hd⟩ := List.nodup_append.mp hf
    have hs := ih hes fun now c hm => hq now c (List.mem_append_left _ hm)
    rw [after_concat]
    cases e with
    | start now c =>
      rw [Event.added_start] at hd ⊢
      exact hs.start now c (fun id hid hm => hd id hm id (by simp [hid]) rfl) (hq now c (by simp))
    | finish who =>
      refine Store.Sound.mono ?_ (List.subset_append_left _ _)
      rw [apply]
      split
      · exact hs.finish _
      · exact hs

theorem World.apply_whole (w : World) (now : Instant) (c : Call) :
    ((w.apply (.start now c)).apply (.finish w.rests.length)).store = (w.store.answer now c).2 := by
  rw [← Store.finish_start]
  simp only [apply, List.getElem?_concat_length]
  cases (w.store.start now c).2 with
  | none => rfl
  | some r => rfl

/-- Calls that do not overlap lead to no other stores. -/
theorem World.after_calls (cs : List (Instant × Call)) :
    ∃ es, (after es).store = Backend.after Store.answer .empty cs ∧ es.filterMap Event.added? = addedIds cs ∧
      ∀ now c, .start now c ∈ es → (now, c) ∈ cs := by
  induction cs using List.reverseRecOn with
  | nil => exact ⟨[], rfl, rfl, nofun⟩
  | append_singleton cs c ih =>
    obtain ⟨now, c⟩ := c
    obtain ⟨es, hs, ha, hc⟩ := ih
    refine ⟨es ++ [.start now c, .finish (after es).rests.length], ?_, ?_, ?_⟩
    · rw [List.append_cons, after_concat, after_concat, apply_whole, hs]
      rw [Backend.after, Backend.after, List.foldl_append]
      rfl
    · rw [List.filterMap_append, ha, addedIds, addedIds, List.filterMap_append]
      rfl
    · intro t d hm
      rcases List.mem_append.mp hm with hm | hm
      · exact List.mem_append_left _ (hc t d hm)
      · obtain ⟨rfl, rfl⟩ : t = now ∧ d = c := by simpa using hm
        exact List.mem_append_right _ List.mem_cons_self

/-- Where calls do not overlap, the item of a line is the one that its user is shown. -/
theorem Mirrors.item?_eq_some {s : Store} {l : Ledger} (h : Mirrors s l) {line : UserId × ProductId} {i : Item} :
    s.item? line = some i ↔ i ∈ s.list line.1 ∧ i.product = line.2 := by
  have hm : i ∈ s.list line.1 ↔ i ∈ l ∧ i.user = line.1 := by
    rw [h.list, Ledger.list, (List.perm_insertionSort _ _).mem_iff, List.mem_filter, decide_eq_true_eq]
  have hl : i.line = line ↔ i.user = line.1 ∧ i.product = line.2 := Prod.ext_iff
  rw [hm, and_assoc, ← hl, Store.item?, h.get?_lines]
  constructor
  · intro hi
    obtain ⟨id, hid, hg⟩ := Option.bind_eq_some_iff.mp hi
    obtain ⟨j, hj, rfl⟩ := Option.map_eq_some_iff.mp hid
    have hjl := List.mem_of_find?_eq_some hj
    rw [h.get?_items, find?_key h.ids hjl] at hg
    obtain rfl := Option.some.inj hg
    exact ⟨hjl, by simpa using List.find?_some hj⟩
  · rintro ⟨hi, rfl⟩
    rw [find?_key h.apart hi, Option.map_some, Option.bind_some, h.get?_items, find?_key h.ids hi]

/-- A request that is served at an instant, with the identifier for a new item. -/
structure Serving where
  now : Instant
  fresh : ItemId
  request : Request

/-- The requests with their answers, and the store afterwards. -/
def serve (s : Store) : List Serving → List (Request × Response) × Store
  | [] => ([], s)
  | v :: vs =>
    let (a, s) := respond Store.answer v.fresh v.now v.request s
    let (xs, s) := serve s vs
    ((v.request, a) :: xs, s)

def asksFor (line : UserId × ProductId) (r : Request) : Bool := (asked? r).any fun i => i.line = line

/-- How many pieces a request asks to add to a line. -/
def pieces (line : UserId × ProductId) (r : Request) : Int :=
  (((asked? r).filter fun i => i.line = line).map fun i => i.quantity.count).getD 0

def total (line : UserId × ProductId) (rs : List Request) : Int := (rs.map (pieces line)).sum

/-- Something has been added. -/
def isSuccess (a : Response) : Bool := a.status = 200 || a.status = 201

def accepted (xs : List (Request × Response)) : List Request := (xs.filter fun x => isSuccess x.2).map Prod.fst

/-- How many requests were told that they have made the item of a line. -/
def creations (line : UserId × ProductId) (xs : List (Request × Response)) : Nat :=
  xs.countP fun x => asksFor line x.1 && x.2.status = 201

/-- Requests are served one after the other, and each becomes an addition. -/
inductive Serves : List ItemId → Store → List (Request × Response) → Store → Prop where
  | nil {past s} (h : s.Sound past) : Serves past s [] s
  | cons {past s s' s'' r a xs i fresh now o} (h : s.Sound past) (hi : asked? r = some i) (hn : fresh ∉ past)
    (ha : s.Adds (i.served fresh now) now o s') (hc : a.status = statusOf o) (hx : Serves (past ++ [fresh]) s' xs s'') :
    Serves past s ((r, a) :: xs) s''

theorem serves {past : List ItemId} {s : Store} {vs : List Serving} (h : s.Sound past)
    (hf : (past ++ vs.map Serving.fresh).Nodup) (hv : ∀ v ∈ vs, (asked? v.request).isSome = true) :
    Serves past s (serve s vs).1 (serve s vs).2 := by
  induction vs generalizing past s with
  | nil => exact .nil h
  | cons v vs ih =>
    obtain ⟨i, hi⟩ := Option.isSome_iff_exists.mp (hv v List.mem_cons_self)
    obtain ⟨hc, hs⟩ := respond_asked Store.answer v.fresh v.now s hi
    have hn : v.fresh ∉ past := by
      intro hm
      exact (List.nodup_append.mp hf).2.2 _ hm v.fresh (by simp) rfl
    have hq := (asked?_eq_some hi).2.1
    have ha := h.adds (i := i.served v.fresh v.now) hq v.now
    rw [← hs] at ha
    refine .cons h hi hn ha hc (ih (ha.sound h hn hq) ?_ fun w hw => hv w (List.mem_cons_of_mem _ hw))
    simpa using hf

section Line

variable {past : List ItemId} {s s' s'' : Store} {r : Request} {a : Response} {xs : List (Request × Response)}
  {i : Item} {o : Except Refusal (Item × Bool)} {line : UserId × ProductId} {fresh : ItemId} {now : Instant}

theorem isSuccess_status (hc : a.status = statusOf o) : isSuccess a = o.isOk := by
  rw [isSuccess, hc]
  cases o with
  | ok o =>
    obtain ⟨j, inserted⟩ := o
    cases inserted with
    | true => rfl
    | false => rfl
  | error e =>
    cases e with
    | _ => rfl

theorem pieces_asked (hi : asked? r = some i) : pieces line r = if i.line = line then i.quantity.count else 0 := by
  simp only [pieces, hi, Option.filter_some]
  split
  · rename_i hl
    rw [if_pos (of_decide_eq_true hl)]
    rfl
  · rename_i hl
    rw [if_neg fun h => hl (decide_eq_true h)]
    rfl

theorem pieces_nonneg (line : UserId × ProductId) (r : Request) : 0 ≤ pieces line r := by
  cases hi : asked? r with
  | none => simp [pieces, hi]
  | some i =>
    have hq := (asked?_eq_some hi).2.1.1
    rw [pieces_asked hi]
    split
    · exact Int.le_trans (by decide) hq
    · exact le_refl _

theorem pieces_of_not_asked (h : asksFor line r = false) : pieces line r = 0 := by
  cases hi : asked? r with
  | none => simp [pieces, hi]
  | some i =>
    have hne : i.line ≠ line := by simpa [asksFor, hi] using h
    rw [pieces_asked hi, if_neg hne]

theorem total_cons (line : UserId × ProductId) (r : Request) (rs : List Request) :
    total line (r :: rs) = pieces line r + total line rs := by
  rw [total, List.map_cons, List.sum_cons, total]

theorem total_nonneg (line : UserId × ProductId) (rs : List Request) : 0 ≤ total line rs := by
  induction rs with
  | nil => exact le_refl _
  | cons r rs ih =>
    rw [total_cons]
    exact Int.add_nonneg (pieces_nonneg line r) ih

theorem Store.Sound.quantity_le (h : s.Sound past) (line : UserId × ProductId) : s.quantity line ≤ Quantity.most := by
  cases hi : s.item? line with
  | none => simp [Store.quantity, hi, Quantity.most]
  | some i =>
    obtain ⟨_, hg, _⟩ := h.item?_eq_some hi
    simpa [Store.quantity, hi] using (h.inRange _ i hg).2

theorem Store.Untouched.quantity (hu : Store.Untouched line s s') (h : s.Sound past) {past' : List ItemId}
    (h' : s'.Sound past') : s'.quantity line = s.quantity line := by
  rw [Store.quantity, h.item?_of_untouched h' hu, Store.quantity]

/-- What one request does to a line: it adds to it, or leaves it as it is. -/
theorem step_line (h : s.Sound past) (hi : asked? r = some i) (hn : fresh ∉ past)
    (ha : s.Adds (i.served fresh now) now o s') (hc : a.status = statusOf o) (line : UserId × ProductId) :
    s'.quantity line = s.quantity line + if isSuccess a then pieces line r else 0 := by
  have hq := (asked?_eq_some hi).2.1
  rw [isSuccess_status hc, pieces_asked hi]
  by_cases hl : i.line = line
  · subst hl
    rw [if_pos rfl]
    exact (ha.held h hq).2.1
  · have hu := ha.untouched h hn (Ne.symm hl)
    rw [if_neg hl, hu.quantity h (ha.sound h hn hq), ite_self, Int.add_zero]

theorem Store.Adds.status_eq (ha : s.Adds i now o s') : statusOf o = 201 ↔ s.item? i.line = none := by
  cases ha with
  | inserted hi => exact ⟨fun _ => hi, fun _ => rfl⟩
  | increased hi => exact ⟨nofun, fun h => absurd (h.symm.trans hi) nofun⟩
  | refused hi => exact ⟨nofun, fun h => absurd (h.symm.trans hi) nofun⟩

theorem creations_cons (hi : asked? r = some i) :
    creations line ((r, a) :: xs) = creations line xs + if i.line = line ∧ a.status = 201 then 1 else 0 := by
  simp [creations, List.countP_cons, asksFor, hi]

/-- If the requests for a line are accepted, they are all there is to add to it. -/
theorem total_accepted (ha : ∀ x ∈ xs, asksFor line x.1 = true → isSuccess x.2 = true) :
    total line (accepted xs) = total line (xs.map Prod.fst) := by
  induction xs with
  | nil => rfl
  | cons x xs ih =>
    obtain ⟨hx, ha⟩ := List.forall_mem_cons.mp ha
    rw [List.map_cons, total_cons, ← ih ha, accepted, accepted, List.filter_cons]
    split
    · rw [List.map_cons, total_cons]
    · rename_i hs
      have hz : pieces line x.1 = 0 := pieces_of_not_asked (by simpa [hs] using hx)
      rw [hz, Int.zero_add]

namespace Serves

theorem finish (h : Serves past s xs s') : ∃ past', s'.Sound past' := by
  induction h with
  | nil h => exact ⟨_, h⟩
  | cons _ _ _ _ _ _ ih => exact ih

/-- What has been added to a line is what the accepted requests have asked for. -/
theorem quantity_eq (h : Serves past s xs s') (line : UserId × ProductId) :
    s'.quantity line = s.quantity line + total line (accepted xs) := by
  induction h with
  | nil => exact (Int.add_zero _).symm
  | @cons past s s' s'' r a xs i fresh now o h hi hn ha hc hx ih =>
    rw [ih, step_line h hi hn ha hc line]
    cases hs : isSuccess a with
    | true =>
      have hacc : accepted ((r, a) :: xs) = r :: accepted xs := by simp [accepted, hs]
      rw [hacc, total_cons, if_pos rfl, Int.add_assoc]
    | false =>
      have hacc : accepted ((r, a) :: xs) = accepted xs := by simp [accepted, hs]
      rw [hacc, if_neg (by simp), Int.add_zero]

/-- Requests are accepted where all of them together stay in range. -/
theorem accepts (h : Serves past s xs s')
    (hq : s.quantity line + total line (xs.map Prod.fst) ≤ Quantity.most) :
    ∀ x ∈ xs, asksFor line x.1 = true → isSuccess x.2 = true := by
  induction h with
  | nil => exact nofun
  | @cons past s s' s'' r a xs i fresh now o h hi hn ha hc hx ih =>
    have hq : s.quantity line + (pieces line r + total line (xs.map Prod.fst)) ≤ Quantity.most := by
      rwa [List.map_cons, total_cons] at hq
    have hs := step_line h hi hn ha hc line
    have hr := pieces_nonneg line r
    have ht := total_nonneg line (xs.map Prod.fst)
    intro x hm hl
    rcases List.mem_cons.mp hm with rfl | hm
    · obtain rfl : i.line = line := by simpa [asksFor, hi] using hl
      rw [isSuccess_status hc, (ha.held h (asked?_eq_some hi).2.1).2.2]
      rw [pieces_asked hi, if_pos rfl] at hq
      change s.quantity i.line + i.quantity.count ≤ _
      omega
    · refine ih ?_ x hm hl
      rw [hs]
      split <;> omega

theorem untouched (h : Serves past s xs s') (hl : ∀ x ∈ xs, asksFor line x.1 = false) :
    Store.Untouched line s s' := by
  induction h with
  | nil => exact .refl _ _
  | @cons past s s' s'' r a xs i fresh now o h hi hn ha hc hx ih =>
    have hne : i.line ≠ line := by simpa [asksFor, hi] using hl _ List.mem_cons_self
    exact (ha.untouched h hn hne.symm).trans (ih fun x hm => hl x (List.mem_cons_of_mem _ hm))

/-- Where a line has an item, none is made. -/
theorem creations_of_item (h : Serves past s xs s') (hl : s.item? line ≠ none) : creations line xs = 0 := by
  induction h with
  | nil => rfl
  | @cons past s s' s'' r a xs i fresh now o h hi hn ha hc hx ih =>
    have hq := (asked?_eq_some hi).2.1
    by_cases he : i.line = line
    · subst he
      have hs : a.status ≠ 201 := fun hs => hl (ha.status_eq.mp (hc.symm.trans hs))
      rw [creations_cons hi, if_neg fun hx => hs hx.2, ih (ha.held h hq).1]
    · have hu := (ha.untouched h hn (Ne.symm he))
      rw [creations_cons hi, if_neg fun hx => he hx.1, ih]
      rwa [h.item?_of_untouched (ha.sound h hn hq) hu]

/-- Where a line has none, one request makes it, if there are any for the line. -/
theorem creations_of_none (h : Serves past s xs s') (hl : s.item? line = none)
    (hx : ∃ x ∈ xs, asksFor line x.1 = true) : creations line xs = 1 := by
  induction h with
  | nil =>
    obtain ⟨x, hm, _⟩ := hx
    cases hm
  | @cons past s s' s'' r a xs i fresh now o h hi hn ha hc hv ih =>
    have hq := (asked?_eq_some hi).2.1
    by_cases he : i.line = line
    · subst he
      have hs : a.status = 201 := hc.trans (ha.status_eq.mpr hl)
      have hz : creations i.line xs = 0 := hv.creations_of_item (ha.held h hq).1
      rw [creations_cons hi, if_pos ⟨rfl, hs⟩, hz]
    · have hu := (ha.untouched h hn (Ne.symm he))
      obtain ⟨x, hm, hx⟩ := hx
      have hm : x ∈ xs := by
        rcases List.mem_cons.mp hm with rfl | hm
        · exact absurd (by simpa [asksFor, hi] using hx) he
        · exact hm
      rw [creations_cons hi, if_neg fun hx => he hx.1, ih ?_ ⟨x, hm, hx⟩]
      rwa [h.item?_of_untouched (ha.sound h hn hq) hu]

end Serves

end Line

theorem serve_requests (s : Store) (vs : List Serving) : (serve s vs).1.map Prod.fst = vs.map Serving.request := by
  induction vs generalizing s with
  | nil => rfl
  | cons v vs ih =>
    rw [List.map_cons, ← ih]
    rfl

/-- Requests to add to carts may be served in any order.  As long as all requests for a line stay in range together
with what is there, they all succeed, and the line has as many pieces as there were and were asked for; in any case it
has no more than there may be, and as many as there were and the accepted requests have asked for.  One request makes
the item of a line that is asked for if there was none, and lines that nobody asks for are left as they are. -/
theorem adds_commute {es : List Event} {rs : List Request} {vs : List Serving}
    (hq : ∀ now c, .start now c ∈ es → c.InRange)
    (hf : (es.filterMap Event.added? ++ vs.map Serving.fresh).Nodup)
    (hr : ∀ r ∈ rs, (asked? r).isSome = true) (ho : (vs.map Serving.request).Perm rs) :
    let s := (World.after es).store
    let xs := (serve s vs).1
    let s' := (serve s vs).2
    (∀ line, s.quantity line + total line rs ≤ Quantity.most →
      (∀ x ∈ xs, asksFor line x.1 = true → isSuccess x.2 = true) ∧
        s'.quantity line = s.quantity line + total line rs) ∧
    (∀ line, (∃ r ∈ rs, asksFor line r = true) → creations line xs = if (s.item? line).isNone then 1 else 0) ∧
    (∀ line, (∀ r ∈ rs, asksFor line r = false) → Store.Untouched line s s') ∧
    ∀ line, s'.quantity line ≤ Quantity.most ∧ s'.quantity line = s.quantity line + total line (accepted xs) := by
  intro s xs s'
  have hs : s.Sound (es.filterMap Event.added?) := World.sound_after (List.nodup_append.mp hf).1 hq
  have hv : Serves (es.filterMap Event.added?) s xs s' :=
    serves hs hf fun v hm => hr _ (ho.mem_iff.mp (List.mem_map_of_mem hm))
  have hm : (xs.map Prod.fst).Perm rs := (serve_requests s vs).symm ▸ ho
  have ht : ∀ line, total line (xs.map Prod.fst) = total line rs := fun line => (hm.map _).sum_eq
  refine ⟨fun line hl => ?_, fun line hx => ?_, fun line hl => ?_, fun line => ⟨?_, hv.quantity_eq line⟩⟩
  · rw [← ht] at hl
    have ha := hv.accepts hl
    refine ⟨ha, ?_⟩
    rw [hv.quantity_eq, total_accepted ha, ht]
  · obtain ⟨r, hr, hx⟩ := hx
    obtain ⟨x, hx', rfl⟩ := List.mem_map.mp (hm.mem_iff.mpr hr)
    cases hi : s.item? line with
    | none => exact hv.creations_of_none hi ⟨x, hx', hx⟩
    | some i => exact hv.creations_of_item (hi ▸ nofun)
  · exact hv.untouched fun x hx => hl _ (hm.mem_iff.mp (List.mem_map_of_mem hx))
  · obtain ⟨_, hf⟩ := hv.finish
    exact hf.quantity_le line

section Sale

def numberedLine (user product : Nat) : UserId × ProductId := (⟨.ofNat 128 user⟩, ⟨.ofNat 128 product⟩)

/-- A request for a product, in the number that is written; without one, a piece is meant. -/
def wants (product : Nat) (written : Option String) : Request where
  method := .post
  target := "/api/cart"
  headers := [("content-type", Bytes.ofText "application/json")]
  body := Bytes.ofText ("\x7b\x22userId\x22: \x22" ++ (numberedLine 7 product).1.text ++
    "\x22, \x22productId\x22: \x22" ++ (numberedLine 7 product).2.text ++
    (match written with
      | some n => "\x22, \x22quantity\x22: " ++ n
      | none => "\x22") ++ ", \x22price\x22: 2\x7d")
  peer := none

def wanted : List Request :=
  [wants 30 none, wants 30 (some "2.0"), wants 31 (some "3"), wants 31 (some "4e1")]

/-- A line has all pieces but one that it may have. -/
def stocked : List Event := [.start 1 (.add (numbered 1 7 30 9999))]

def sale : List Serving :=
  [⟨2, ⟨2⟩, wants 31 (some "4e1")⟩, ⟨3, ⟨3⟩, wants 31 (some "3")⟩, ⟨4, ⟨4⟩, wants 30 (some "2.0")⟩,
   ⟨5, ⟨5⟩, wants 30 none⟩]

theorem sale_commutes :
    ((∀ now c, .start now c ∈ stocked → c.InRange) ∧
      (stocked.filterMap Event.added? ++ sale.map Serving.fresh).Nodup ∧
      (∀ r ∈ wanted, (asked? r).isSome = true) ∧ (sale.map Serving.request).Perm wanted) ∧
    (serve (World.after stocked).store sale).2.quantity (numberedLine 7 31) = 43 ∧
    creations (numberedLine 7 31) (serve (World.after stocked).store sale).1 = 1 ∧
    (serve (World.after stocked).store sale).2.quantity (numberedLine 7 30) =
      9999 + total (numberedLine 7 30) (accepted (serve (World.after stocked).store sale).1) ∧
    Store.Untouched (numberedLine 8 30) (World.after stocked).store (serve (World.after stocked).store sale).2 := by
  have hq : ∀ now c, .start now c ∈ stocked → c.InRange := by
    intro now c hm
    cases List.mem_singleton.mp hm
    decide
  have hf : (stocked.filterMap Event.added? ++ sale.map Serving.fresh).Nodup := by decide
  have hr : ∀ r ∈ wanted, (asked? r).isSome = true := by decide +kernel
  have ho : (sale.map Serving.request).Perm wanted := List.reverse_perm wanted
  have ht : total (numberedLine 7 31) wanted = 43 := by decide +kernel
  have hs : (World.after stocked).store.quantity (numberedLine 7 31) = 0 := rfl
  obtain ⟨ha, hc, hu, hx⟩ := adds_commute hq hf hr ho
  refine ⟨⟨hq, hf, hr, ho⟩, ?_, ?_, ?_, ?_⟩
  · rw [(ha (numberedLine 7 31) (by rw [ht, hs]; decide)).2, ht, hs]
    rfl
  · exact hc (numberedLine 7 31) ⟨wants 31 (some "3"), by simp [wanted], by decide +kernel⟩
  · exact (hx (numberedLine 7 30)).2
  · exact hu (numberedLine 8 30) (by decide +kernel)

end Sale

end Storefront.Cart
