import Storefront.Cart.Store
import Storefront.Proofs.Keyed
import Storefront.Proofs.Listing

namespace Storefront

section Keys

variable {α κ ν : Type} [DecidableEq κ] {key : α → κ} {l : List α} {x y : α}

theorem find?_key (h : (l.map key).Nodup) (hx : x ∈ l) : l.find? (fun y => key y = key x) = some x := by
  cases hf : l.find? (fun y => key y = key x) with
  | none => simpa using List.find?_eq_none.mp hf x hx
  | some y =>
    have hk : key y = key x := by simpa using List.find?_some hf
    rw [List.inj_on_of_nodup_map h (List.mem_of_find?_eq_some hf) hx hk]

theorem filter_key (h : (l.map key).Nodup) (hx : x ∈ l) : l.filter (fun y => key y = key x) = [x] := by
  induction l with
  | nil => cases hx
  | cons z l ih =>
    obtain ⟨hz, hl⟩ := List.nodup_cons.mp h
    rcases List.mem_cons.mp hx with rfl | hx
    · have hn : l.filter (fun y => key y = key x) = [] := by
        apply List.filter_eq_nil_iff.mpr
        intro y hy he
        rw [decide_eq_true_eq] at he
        exact hz (he ▸ List.mem_map_of_mem hy)
      simp [hn]
    · have hzx : key z ≠ key x := by
        intro he
        exact hz (he ▸ List.mem_map_of_mem hx)
      rw [List.filter_cons_of_neg (by simpa using hzx), ih hl hx]

/-- An element of a list with keys, and all others. -/
theorem perm_cons_filter (h : (l.map key).Nodup) (hx : x ∈ l) :
    l.Perm (x :: l.filter fun y => key y ≠ key x) := by
  have hp := List.filter_append_perm (fun y => decide (key y = key x)) l
  rw [filter_key h hx] at hp
  simpa using hp.symm

/-- What is found in a map that is made of a list. -/
theorem Keyed.get?_of_perm {m : Keyed κ ν} {value : α → ν} (hm : m.Perm (l.map fun x => (key x, value x)))
    (h : (l.map key).Nodup) (k : κ) : m.get? k = (l.find? fun x => key x = k).map value := by
  have hk : (m.map (·.1)).Nodup := by
    have hp := hm.map (·.1)
    rw [List.map_map] at hp
    exact hp.nodup_iff.mpr h
  have hd : Keyed.Distinct m := List.pairwise_map.mp hk
  cases hf : l.find? (fun x => key x = k) with
  | none =>
    refine Keyed.get?_eq_none.mpr ?_
    intro p hp
    obtain ⟨x, hx, rfl⟩ := List.mem_map.mp (hm.mem_iff.mp hp)
    simpa using List.find?_eq_none.mp hf x hx
  | some x =>
    have hx : key x = k := by simpa using List.find?_some hf
    have hp : (key x, value x) ∈ m :=
      hm.mem_iff.mpr (List.mem_map_of_mem (f := fun x => (key x, value x)) (List.mem_of_find?_eq_some hf))
    rw [← hx]
    exact hd.get?_eq.mpr hp

end Keys

namespace Cart

namespace Quantity

/-- What the service takes from clients. -/
def InRange (q : Quantity) : Prop := least ≤ q.count ∧ q.count ≤ most

instance (q : Quantity) : Decidable q.InRange := inferInstanceAs (Decidable (_ ∧ _))

theorem new_eq_ok {n : Int} {q : Quantity} : new n = .ok q ↔ q.count = n ∧ q.InRange := by
  unfold new InRange
  split
  · rename_i h
    constructor
    · intro hq
      cases hq
      exact ⟨rfl, h⟩
    · rintro ⟨rfl, _⟩
      rfl
  · rename_i h
    constructor
    · intro hq
      cases hq
    · rintro ⟨rfl, hq⟩
      exact absurd hq h

theorem add_of_le {a b : Quantity} (ha : a.InRange) (hb : b.InRange) (h : a.count + b.count ≤ most) :
    a.add b = .ok ⟨a.count + b.count⟩ := by
  refine new_eq_ok.mpr ⟨rfl, ?_, h⟩
  simp only [InRange, least] at *
  omega

theorem add_of_lt {a b : Quantity} (h : most < a.count + b.count) : a.add b = .error outOfRange := by
  rw [add, new, if_neg (by omega)]

end Quantity

/-- The items of all carts in the order in which they came. -/
abbrev Ledger := List Item

/-- What a listing goes by: first the time of creation, then the identifier. -/
def Item.age (i : Item) : Int ×ₗ Nat := toLex (i.createdAt, i.id.bits.toNat)

namespace Ledger

/-- Puts an item in the place of the one that has its identifier. -/
def replace (l : Ledger) (i : Item) : Ledger := l.map fun j => if j.id = i.id then i else j

def add (l : Ledger) (i : Item) (now : Instant) : Except Refusal (Item × Bool) × Ledger :=
  match l.find? fun j => j.line = i.line with
  | none => (.ok (i, true), l ++ [i])
  | some old =>
    let sum := old.quantity.count + i.quantity.count
    if Quantity.most < sum then (.error Quantity.outOfRange, l)
    else
      let new := { old with quantity := ⟨sum⟩, updatedAt := now }
      (.ok (new, false), l.replace new)

def setQuantity (l : Ledger) (id : ItemId) (q : Quantity) (now : Instant) : Option Item × Ledger :=
  match l.find? fun j => j.id = id with
  | none => (none, l)
  | some old =>
    let new := { old with quantity := q, updatedAt := now }
    (some new, l.replace new)

def delete (l : Ledger) (id : ItemId) : Bool × Ledger :=
  (l.any fun j => j.id = id, l.filter fun j => j.id ≠ id)

def clear (l : Ledger) (user : UserId) : Nat × Ledger :=
  (l.countP fun j => j.user = user, l.filter fun j => j.user ≠ user)

def list (l : Ledger) (user : UserId) : List Item :=
  (l.filter fun j => j.user = user).insertionSort fun i j => i.age ≤ j.age

/-- Answers one call at `now`. -/
def answer (now : Instant) (l : Ledger) : (c : Call) → Except Refusal c.Answer × Ledger
  | .list user => (.ok (l.list user), l)
  | .add i => l.add i now
  | .setQuantity id q => let (i, l) := l.setQuantity id q now; (.ok i, l)
  | .delete id => let (found, l) := l.delete id; (.ok found, l)
  | .clear user => let (n, l) := l.clear user; (.ok n, l)

theorem ids_replace (l : Ledger) (i : Item) : (l.replace i).map Item.id = l.map Item.id := by
  rw [replace, List.map_map]
  refine List.map_congr_left fun j _ => ?_
  by_cases h : j.id = i.id
  · simp [h]
  · simp [h]

end Ledger

/-- Both maps of a store are made of the items of a list, of which no two have the same identifier or stand for the
same line.  As long as this holds, every call is answered as the list answers it. -/
structure Mirrors (s : Store) (l : Ledger) : Prop where
  items : s.items.Perm (l.map fun i => (i.id, i))
  lines : s.lines.Perm (l.map fun i => (i.line, i.id))
  ids : (l.map Item.id).Nodup
  apart : (l.map Item.line).Nodup
  inRange : ∀ i ∈ l, i.quantity.InRange

namespace Mirrors

variable {s : Store} {l : Ledger} {i old : Item} {id : ItemId} {q : Quantity} {user : UserId} {now : Instant}

theorem empty : Mirrors .empty [] := ⟨.nil, .nil, .nil, .nil, by simp⟩

theorem get?_items (h : Mirrors s l) (id : ItemId) : s.items.get? id = l.find? fun j => j.id = id := by
  rw [Keyed.get?_of_perm h.items h.ids, Option.map_id']

theorem get?_lines (h : Mirrors s l) (line : UserId × ProductId) :
    s.lines.get? line = (l.find? fun j => j.line = line).map Item.id :=
  Keyed.get?_of_perm h.lines h.apart line

/-- An item of a new line. -/
theorem insert (h : Mirrors s l) (hi : i.id ∉ l.map Item.id) (hl : i.line ∉ l.map Item.line)
    (hq : i.quantity.InRange) : Mirrors (s.insert i) (l ++ [i]) := by
  have hid : s.items.get? i.id = none := by
    rw [h.get?_items, List.find?_eq_none]
    intro j hj he
    exact hi (List.mem_map.mpr ⟨j, hj, by simpa using he⟩)
  have hline : s.lines.get? i.line = none := by
    rw [h.get?_lines, List.find?_eq_none.mpr ?_, Option.map_none]
    intro j hj he
    exact hl (List.mem_map.mpr ⟨j, hj, by simpa using he⟩)
  refine ⟨?_, ?_, ?_, ?_, ?_⟩
  · simp only [Store.insert, Keyed.put, Keyed.remove_absent hid, List.map_append]
    exact (h.items.cons _).trans (List.perm_append_singleton _ _).symm
  · simp only [Store.insert, Keyed.put, Keyed.remove_absent hline, List.map_append]
    exact (h.lines.cons _).trans (List.perm_append_singleton _ _).symm
  · rw [List.map_append, List.nodup_append]
    simpa using ⟨h.ids, fun j hj he => hi (List.mem_map.mpr ⟨j, hj, he⟩)⟩
  · rw [List.map_append, List.nodup_append]
    simpa using ⟨h.apart, fun j hj he => hl (List.mem_map.mpr ⟨j, hj, he⟩)⟩
  · intro j hj
    rcases List.mem_append.mp hj with hj | hj
    · exact h.inRange j hj
    · rw [List.mem_singleton.mp hj]
      exact hq

/-- An item that is there gets another quantity. -/
theorem replace (h : Mirrors s l) (ho : old ∈ l) (hid : i.id = old.id) (hl : i.line = old.line)
    (hq : i.quantity.InRange) : Mirrors { s with items := s.items.put i.id i } (l.replace i) := by
  have hr : ∀ j ∈ l, j.id = i.id → j = old := fun j hj he =>
    List.inj_on_of_nodup_map h.ids hj ho (he.trans hid)
  have hlines : (l.replace i).map (fun j => (j.line, j.id)) = l.map fun j => (j.line, j.id) := by
    rw [Ledger.replace, List.map_map]
    refine List.map_congr_left fun j hj => ?_
    by_cases he : j.id = i.id
    · obtain rfl := hr j hj he
      simp [hid, hl]
    · simp [he]
  refine ⟨?_, hlines ▸ h.lines, (Ledger.ids_replace l i) ▸ h.ids, ?_, ?_⟩
  · -- the old item goes to the front of the list, where the new one takes its place
    have hp : (l.replace i).Perm (i :: (l.filter fun j => j.id ≠ old.id)) := by
      have hm := (perm_cons_filter h.ids ho).map fun j => if j.id = i.id then i else j
      have hf : (l.filter fun j => j.id ≠ old.id).map (fun j => if j.id = i.id then i else j) =
          l.filter fun j => j.id ≠ old.id := by
        conv_rhs => rw [← List.map_id (l.filter fun j => j.id ≠ old.id)]
        refine List.map_congr_left fun j hj => ?_
        have hn : j.id ≠ i.id := by simpa [hid] using (List.mem_filter.mp hj).2
        simp [hn]
      rw [List.map_cons, hf, if_pos hid.symm] at hm
      exact hm
    have hs : Keyed.remove s.items i.id |>.Perm ((l.filter fun j => j.id ≠ old.id).map fun j => (j.id, j)) := by
      have hf := h.items.filter fun p => p.1 ≠ i.id
      rw [List.filter_map] at hf
      rw [hid] at hf ⊢
      exact hf
    exact (hs.cons _).trans (hp.map fun j : Item => (j.id, j)).symm
  · have hm : (l.replace i).map Item.line = l.map Item.line := by
      have hf := congrArg (List.map Prod.fst) hlines
      simpa [List.map_map, Function.comp_def] using hf
    exact hm ▸ h.apart
  · intro j hj
    obtain ⟨k, hk, rfl⟩ := List.mem_map.mp hj
    by_cases he : k.id = i.id
    · simpa [he] using hq
    · simpa [he] using h.inRange k hk

theorem add (h : Mirrors s l) (hi : i.id ∉ l.map Item.id) (hq : i.quantity.InRange) :
    (s.answer now (.add i)).1 = (l.answer now (.add i)).1 ∧
      Mirrors (s.answer now (.add i)).2 (l.answer now (.add i)).2 := by
  simp only [Store.answer, Store.add, Ledger.answer, Ledger.add, h.get?_lines]
  cases hf : l.find? (fun j => j.line = i.line) with
  | none =>
    have hl : i.line ∉ l.map Item.line := by
      intro hm
      obtain ⟨j, hj, he⟩ := List.mem_map.mp hm
      simpa [he] using List.find?_eq_none.mp hf j hj
    exact ⟨rfl, h.insert hi hl hq⟩
  | some old =>
    have ho : old ∈ l := List.mem_of_find?_eq_some hf
    have hg : s.items.get? old.id = some old := by rw [h.get?_items, find?_key h.ids ho]
    simp only [Option.map_some, hg]
    by_cases hm : Quantity.most < old.quantity.count + i.quantity.count
    · rw [Quantity.add_of_lt hm, if_pos hm]
      exact ⟨rfl, h⟩
    · rw [Quantity.add_of_le (h.inRange old ho) hq (Int.not_lt.mp hm), if_neg hm]
      have hr := h.inRange old ho
      refine ⟨rfl, h.replace (i := old.setQuantity ⟨old.quantity.count + i.quantity.count⟩ now) ho rfl rfl
        ⟨?_, Int.not_lt.mp hm⟩⟩
      simp only [Quantity.InRange, Quantity.least, Item.setQuantity] at *
      omega

theorem setQuantity (h : Mirrors s l) (hq : q.InRange) :
    (s.answer now (.setQuantity id q)).1 = (l.answer now (.setQuantity id q)).1 ∧
      Mirrors (s.answer now (.setQuantity id q)).2 (l.answer now (.setQuantity id q)).2 := by
  simp only [Store.answer, Store.setQuantity, Ledger.answer, Ledger.setQuantity, h.get?_items]
  cases hf : l.find? (fun j => j.id = id) with
  | none => exact ⟨rfl, h⟩
  | some old =>
    obtain rfl : old.id = id := by simpa using List.find?_some hf
    exact ⟨rfl, h.replace (i := old.setQuantity q now) (List.mem_of_find?_eq_some hf) rfl rfl hq⟩

/-- What is left if only some items are kept. -/
theorem filter (h : Mirrors s l) (p : Item → Bool) {s' : Store}
    (hi : s'.items.Perm ((l.filter p).map fun i => (i.id, i)))
    (hl : s'.lines.Perm ((l.filter p).map fun i => (i.line, i.id))) : Mirrors s' (l.filter p) where
  items := hi
  lines := hl
  ids := h.ids.sublist (List.filter_sublist.map _)
  apart := h.apart.sublist (List.filter_sublist.map _)
  inRange i hm := h.inRange i (List.mem_filter.mp hm).1

theorem delete (h : Mirrors s l) :
    (s.answer now (.delete id)).1 = (l.answer now (.delete id)).1 ∧
      Mirrors (s.answer now (.delete id)).2 (l.answer now (.delete id)).2 := by
  have hp : s.items.remove id |>.Perm ((l.filter fun j => j.id ≠ id).map fun j => (j.id, j)) := by
    have hf := h.items.filter fun p => p.1 ≠ id
    rwa [List.filter_map] at hf
  simp only [Store.answer, Store.delete, Store.take, Ledger.answer, Ledger.delete, h.get?_items]
  cases hf : l.find? (fun j => j.id = id) with
  | none =>
    have hn : ∀ j ∈ l, j.id ≠ id := by simpa using hf
    have hl : (l.filter fun j => j.id ≠ id) = l := List.filter_eq_self.mpr (by simpa using hn)
    refine ⟨by simpa using hn, ?_⟩
    rw [hl] at hp ⊢
    exact ⟨hp, h.lines, h.ids, h.apart, h.inRange⟩
  | some old =>
    have ho : old ∈ l := List.mem_of_find?_eq_some hf
    obtain rfl : old.id = id := by simpa using List.find?_some hf
    refine ⟨?_, ?_⟩
    · have ha : (l.any fun j => j.id = old.id) = true := List.any_eq_true.mpr ⟨old, ho, by simp⟩
      simp [ha]
    · have hg : s.lines.get? old.line = some old.id := by
        rw [h.get?_lines, find?_key h.apart ho, Option.map_some]
      simp only [Store.free, hg, if_true]
      refine h.filter _ hp ?_
      have hl := h.lines.filter fun p => p.1 ≠ old.line
      rw [List.filter_map] at hl
      -- the item is the only one of its line
      have he : (l.filter fun j => j.id ≠ old.id) = l.filter fun j => j.line ≠ old.line := by
        refine List.filter_congr fun j hj => ?_
        have hj : j.id = old.id ↔ j.line = old.line :=
          ⟨fun e => congrArg Item.line (List.inj_on_of_nodup_map h.ids hj ho e),
            fun e => congrArg Item.id (List.inj_on_of_nodup_map h.apart hj ho e)⟩
        simp [hj]
      rw [he]
      exact hl

theorem clear (h : Mirrors s l) :
    (s.answer now (.clear user)).1 = (l.answer now (.clear user)).1 ∧
      Mirrors (s.answer now (.clear user)).2 (l.answer now (.clear user)).2 := by
  have hi := h.items.filter fun p => p.2.user ≠ user
  have hl := h.lines.filter fun p => p.1.1 ≠ user
  rw [List.filter_map] at hi hl
  refine ⟨?_, h.filter _ hi hl⟩
  have hn : s.items.length = l.length := by rw [h.items.length_eq, List.length_map]
  have hm : (s.dropItems user).items.length = (l.filter fun j => j.user ≠ user).length := by
    rw [← List.length_map (fun j : Item => (j.id, j))]
    exact hi.length_eq
  have hd := List.length_eq_length_filter_add (l := l) fun j => j.user = user
  rw [← List.countP_eq_length_filter] at hd
  simp only [ne_eq, decide_not] at hm
  have hc : s.items.length - (s.dropItems user).items.length = l.countP fun j => j.user = user := by omega
  exact congrArg Except.ok hc

/-- The order of a listing is that of the ages. -/
theorem notAfter_iff {i j : Item} : Store.notAfter i j = true ↔ i.age ≤ j.age := by
  simp [Store.notAfter, Item.age, Prod.Lex.toLex_le_toLex, BitVec.le_def]

/-- Items of one age are the same, so there is but one way to list them. -/
theorem list (h : Mirrors s l) : s.list user = l.list user := by
  have hp : (s.items.values.filter fun i => i.user = user).Perm (l.filter fun j => j.user = user) := by
    have hv : s.items.values.Perm l := by
      have hm := h.items.map (·.2)
      rwa [List.map_map, Function.comp_def, List.map_id'] at hm
    exact hv.filter _
  have hn : (l.filter fun j => j.user = user).Nodup := (List.Nodup.of_map _ h.ids).filter _
  have hk : ∀ i ∈ l.filter (fun j => j.user = user), ∀ j ∈ l.filter (fun j => j.user = user),
      i.age = j.age → i = j := by
    intro i hi j hj he
    exact List.inj_on_of_nodup_map h.ids (List.mem_filter.mp hi).1 (List.mem_filter.mp hj).1 (Uuid.eq_of_age he)
  have hs : Listing Item.age (· ∈ l.filter fun j => j.user = user) (s.list user) :=
    .mergeSort (fun _ _ => notAfter_iff) hp hn hk
  have hl : Listing Item.age (· ∈ l.filter fun j => j.user = user) (l.list user) :=
    .of_sorted (List.pairwise_insertionSort _ _) (List.perm_insertionSort _ _) hn hk
  exact hs.unique hl

end Mirrors

namespace Backend

variable {σ : Type}

/-- The answers to some calls. -/
def answers (b : Backend σ) (s : σ) : List (Instant × Call) → List (Σ c : Call, Except Refusal c.Answer)
  | [] => []
  | (now, c) :: cs => ⟨c, (b now s c).1⟩ :: answers b (b now s c).2 cs

/-- What is kept after them. -/
def after (b : Backend σ) (s : σ) (cs : List (Instant × Call)) : σ := cs.foldl (fun s c => (b c.1 s c.2).2) s

end Backend

namespace Call

/-- The identifier of an item that is to be added. -/
def added? : Call → Option ItemId
  | .add i => some i.id
  | _ => none

/-- The quantities in a call are such as the service takes. -/
def InRange : Call → Prop
  | .add i => i.quantity.InRange
  | .setQuantity _ q => q.InRange
  | _ => True

instance : (c : Call) → Decidable c.InRange
  | .add i => inferInstanceAs (Decidable i.quantity.InRange)
  | .setQuantity _ q => inferInstanceAs (Decidable q.InRange)
  | .list _ | .delete _ | .clear _ => .isTrue trivial

end Call

/-- The identifiers of the items that are to be added by some calls, in order. -/
def addedIds (cs : List (Instant × Call)) : List ItemId := cs.filterMap fun c => c.2.added?

namespace Mirrors

variable {s : Store} {l : Ledger} {now : Instant} {c : Call} {cs : List (Instant × Call)}

theorem answer (h : Mirrors s l) (hf : ∀ id, c.added? = some id → id ∉ l.map Item.id) (hq : c.InRange) :
    (s.answer now c).1 = (l.answer now c).1 ∧ Mirrors (s.answer now c).2 (l.answer now c).2 := by
  cases c with
  | list user => exact ⟨congrArg Except.ok h.list, h⟩
  | add i => exact h.add (hf i.id rfl) hq
  | setQuantity id q => exact h.setQuantity hq
  | delete id => exact h.delete
  | clear user => exact h.clear

/-- The identifiers of the items in a list, and of those to be added to it later. -/
theorem ids_answer (hf : (l.map Item.id ++ addedIds ((now, c) :: cs)).Nodup) :
    ((l.answer now c).2.map Item.id ++ addedIds cs).Nodup := by
  have hs : ((l.map Item.id) ++ addedIds cs).Nodup := by
    refine hf.sublist ((List.Sublist.refl _).append ?_)
    rw [addedIds, addedIds, List.filterMap_cons]
    split
    · exact .refl _
    · exact List.sublist_cons_self _ _
  cases c with
  | list user => exact hs
  | add i =>
    simp only [Ledger.answer, Ledger.add]
    split
    · simpa [addedIds, Call.added?] using hf
    · split
      · exact hs
      · rw [Ledger.ids_replace]
        exact hs
  | setQuantity id q =>
    simp only [Ledger.answer, Ledger.setQuantity]
    split
    · exact hs
    · rw [Ledger.ids_replace]
      exact hs
  | delete id => exact hs.sublist ((List.filter_sublist.map _).append (.refl _))
  | clear user => exact hs.sublist ((List.filter_sublist.map _).append (.refl _))

/-- As long as new items have new identifiers, a store stays in accord with the list. -/
theorem answers (h : Mirrors s l) (hf : (l.map Item.id ++ addedIds cs).Nodup) (hq : ∀ c ∈ cs, c.2.InRange) :
    Backend.answers Store.answer s cs = Backend.answers Ledger.answer l cs ∧
      Mirrors (Backend.after Store.answer s cs) (Backend.after Ledger.answer l cs) := by
  induction cs generalizing s l with
  | nil => exact ⟨rfl, h⟩
  | cons c cs ih =>
    obtain ⟨now, c⟩ := c
    have hc : ∀ id, c.added? = some id → id ∉ l.map Item.id := by
      intro id hid hm
      have hd := (List.nodup_append.mp hf).2.2 id hm id
      exact hd (by simp [addedIds, hid]) rfl
    obtain ⟨ha, hm⟩ : (s.answer now c).1 = (l.answer now c).1 ∧ Mirrors (s.answer now c).2 (l.answer now c).2 :=
      h.answer hc (hq _ List.mem_cons_self)
    obtain ⟨hs, hm⟩ := ih hm (ids_answer hf) fun c hc => hq c (List.mem_cons_of_mem _ hc)
    refine ⟨?_, hm⟩
    rw [Backend.answers, Backend.answers, ha, hs]

end Mirrors

/-- Items and lines belong together one to one, and no line has two items. -/
structure Store.Paired (s : Store) : Prop where
  own : ∀ p ∈ s.items, p.2.id = p.1
  ids : Keyed.Distinct s.items
  lines : s.lines.Perm (s.items.map fun p => (p.2.line, p.1))
  apart : s.items.Pairwise fun p q => p.2.line ≠ q.2.line
  inRange : ∀ p ∈ s.items, p.2.quantity.InRange

theorem Mirrors.paired {s : Store} {l : Ledger} (h : Mirrors s l) : s.Paired := by
  have hids : (s.items.map (·.1)).Nodup := by
    have hm := h.items.map (·.1)
    rw [List.map_map] at hm
    exact hm.nodup_iff.mpr h.ids
  have hlines : (s.items.map (·.2.line)).Nodup := by
    have hm := h.items.map (·.2.line)
    rw [List.map_map] at hm
    exact hm.nodup_iff.mpr h.apart
  have hmem : ∀ p ∈ s.items, ∃ i ∈ l, p = (i.id, i) := by
    intro p hp
    obtain ⟨i, hi, rfl⟩ := List.mem_map.mp (h.items.mem_iff.mp hp)
    exact ⟨i, hi, rfl⟩
  refine ⟨?_, List.pairwise_map.mp hids, ?_, List.pairwise_map.mp hlines, ?_⟩
  · intro p hp
    obtain ⟨i, _, rfl⟩ := hmem p hp
    rfl
  · have hm := h.items.map fun p => (p.2.line, p.1)
    rw [List.map_map] at hm
    exact h.lines.trans hm.symm
  · intro p hp
    obtain ⟨i, hi, rfl⟩ := hmem p hp
    exact h.inRange i hi

/-- Calls on an empty store are answered as by one list of items, and whatever calls there have been, items and
lines belong together. -/
theorem answers_eq_ledger {cs : List (Instant × Call)} (hf : (addedIds cs).Nodup)
    (hq : ∀ c ∈ cs, c.2.InRange) :
    Backend.answers Store.answer .empty cs = Backend.answers Ledger.answer [] cs ∧
      (Backend.after Store.answer .empty cs).Paired := by
  obtain ⟨ha, hm⟩ := Mirrors.empty.answers hf hq
  exact ⟨ha, hm.paired⟩

section Shopping

/-- The `n`th item, of a user and a product with these numbers. -/
def numbered (n user product : Nat) (count : Int) : Item :=
  .new ⟨.ofNat 128 n⟩ ⟨.ofNat 128 user⟩ ⟨.ofNat 128 product⟩ ⟨count⟩ ⟨0⟩ n

/-- Two carts.  One item is added to twice, the second time too much; another one is changed, a third one goes
and comes back. -/
def shopping : List (Instant × Call) :=
  [(1, .add (numbered 1 7 30 9000)), (2, .add (numbered 2 7 30 900)), (3, .add (numbered 3 7 30 101)),
    (4, .add (numbered 4 7 31 5)), (5, .add (numbered 5 8 30 1)), (6, .setQuantity ⟨4⟩ ⟨6⟩),
    (7, .list ⟨7⟩), (8, .delete ⟨1⟩), (9, .delete ⟨1⟩), (10, .clear ⟨8⟩),
    (11, .add (numbered 11 7 30 2)), (12, .list ⟨7⟩)]

theorem shopping_eq_ledger :
    ((addedIds shopping).Nodup ∧ ∀ c ∈ shopping, c.2.InRange) ∧
      (Backend.answers Store.answer .empty shopping = Backend.answers Ledger.answer [] shopping ∧
        (Backend.after Store.answer .empty shopping).Paired) ∧
      (Backend.after Ledger.answer [] shopping).map (fun i => (i.id.bits, i.quantity.count)) = [(4, 6), (11, 2)] :=
  have hf : (addedIds shopping).Nodup := by decide
  have hq : ∀ c ∈ shopping, c.2.InRange := by decide
  ⟨⟨hf, hq⟩, answers_eq_ledger hf hq, by decide⟩

end Shopping

end Cart
end Storefront
