import Mathlib.Data.List.Induction
import Mathlib.Data.List.Pairwise
import Storefront.Proofs.CartLedger

namespace Storefront.Cart

/-- What is left of a call after its first step. -/
inductive Rest where
  | free (line : UserId × ProductId) (id : ItemId)
  | dropLines (user : UserId)
  deriving DecidableEq

namespace Store

def start (now : Instant) (s : Store) : Call → Store × Option Rest
  | .delete id =>
    match s.take id with
    | (none, s) => (s, none)
    | (some i, s) => (s, some (.free i.line id))
  | .clear user => (s.dropItems user, some (.dropLines user))
  | c => ((s.answer now c).2, none)

def finish (s : Store) : Rest → Store
  | .free line id => s.free line id
  | .dropLines user => s.dropLines user

/-- A call that nothing comes in between leaves what it leaves as a whole. -/
theorem finish_start (now : Instant) (s : Store) (c : Call) :
    (s.start now c).2.elim (s.start now c).1 (s.start now c).1.finish = (s.answer now c).2 := by
  cases c with
  | delete id =>
    rw [start, answer, delete, take]
    cases s.items.get? id with
    | none => rfl
    | some i => rfl
  | _ => rfl

theorem get?_insert {s : Store} {i j : Item} {p : ItemId} (h : (s.insert i).items.get? p = some j) :
    (p = i.id ∧ j = i) ∨ (p ≠ i.id ∧ s.items.get? p = some j) :=
  Keyed.get?_put_eq_some.mp h

/-- An item is added to the one its line points to, if there is one; it becomes a new item only if there is none. -/
theorem add_cases (s : Store) (i : Item) (now : Instant) :
    (s.add i now = .ok (i, true, s.insert i) ∧
      ∀ p j, s.items.get? p = some j → s.lines.get? i.line ≠ some p) ∨
    (∃ e, s.add i now = .error e) ∨
    ∃ id old q, s.items.get? id = some old ∧
      s.add i now = .ok (old.setQuantity q now, false, { s with items := s.items.put id (old.setQuantity q now) }) := by
  unfold add
  cases hl : s.lines.get? i.line with
  | none => exact .inl ⟨rfl, nofun⟩
  | some id =>
    cases hg : s.items.get? id with
    | none =>
      refine .inl ⟨by simp [hg], fun p j hp he => ?_⟩
      obtain rfl := Option.some.inj he
      cases hg.symm.trans hp
    | some old =>
      cases hq : old.quantity.add i.quantity with
      | error e =>
        refine .inr (.inl ⟨e, ?_⟩)
        simp only [hg, hq]
        rfl
      | ok q =>
        refine .inr (.inr ⟨id, old, q, hg, ?_⟩)
        simp only [hg, hq]
        rfl

end Store

/-- What is remembered of the calls: which items have been stored, and when carts have been emptied. -/
inductive Mark where
  | inserted (id : ItemId) (line : UserId × ProductId)
  | emptied (who : Nat) (user : UserId)
  | released (who : Nat) (user : UserId)
  deriving DecidableEq

namespace Mark

def inserted? : Mark → Option ItemId
  | .inserted id _ => some id
  | _ => none

/-- What is remembered of the first step of a call. -/
def ofCall? (now : Instant) (s : Store) (who : Nat) : Call → Option Mark
  | .add i =>
    match s.add i now with
    | .ok (_, true, _) => some (.inserted i.id i.line)
    | _ => none
  | .clear user => some (.emptied who user)
  | _ => none

/-- What is remembered of the second step. -/
def ofRest? (who : Nat) : Rest → Option Mark
  | .free _ _ => none
  | .dropLines user => some (.released who user)

end Mark

/-- A store with all calls there have been, each with what is left of it, and what is remembered of them, the
latest first. -/
structure World where
  store : Store
  rests : List (Option Rest)
  marks : List Mark

/-- A new call comes in, or the call with some number takes its second step. -/
inductive Event where
  | start (now : Instant) (c : Call)
  | finish (who : Nat)

def Event.added? : Event → Option ItemId
  | .start _ c => c.added?
  | .finish _ => none

theorem Event.added_start (now : Instant) (c : Call) :
    [Event.start now c].filterMap Event.added? = c.added?.toList := by
  cases hc : c.added? with
  | none => simp [added?, hc]
  | some id => simp [added?, hc]

namespace World

def apply (w : World) : Event → World
  | .start now c =>
    let (s, r) := w.store.start now c
    ⟨s, w.rests ++ [r], (Mark.ofCall? now w.store w.rests.length c).toList ++ w.marks⟩
  | .finish who =>
    match w.rests[who]? with
    | some (some r) => ⟨w.store.finish r, w.rests.set who none, (Mark.ofRest? who r).toList ++ w.marks⟩
    | _ => w

/-- The world that some events lead to. -/
def after (es : List Event) : World := es.foldl apply ⟨.empty, [], []⟩

theorem after_concat (es : List Event) (e : Event) : after (es ++ [e]) = (after es).apply e := by
  rw [after, List.foldl_append]
  rfl

def Holds (w : World) (id : ItemId) (i : Item) : Prop := w.store.items.get? id = some i

/-- All calls have come to their end. -/
def Ended (w : World) : Prop := ∀ r ∈ w.rests, r = none

instance (w : World) : Decidable w.Ended := inferInstanceAs (Decidable (∀ r ∈ w.rests, r = none))

/-- No line has two items. -/
def OnePerLine (w : World) : Prop := ∀ p i q j, w.Holds p i → w.Holds q j → i.line = j.line → p = q

/-- The line of every item points to it. -/
def Pointed (w : World) : Prop := ∀ p i, w.Holds p i → w.store.lines.get? i.line = some p

/-- An item was stored after a call had dropped the items of its user, and before this call dropped the lines. -/
def Stranded (w : World) (id : ItemId) (line : UserId × ProductId) : Prop :=
  ∃ who, [.released who line.1, .inserted id line, .emptied who line.1].Sublist w.marks

/-- Another item of the line was stored after that. -/
def Doubled (w : World) (id later : ItemId) (line : UserId × ProductId) : Prop :=
  ∃ who, [.inserted later line, .released who line.1, .inserted id line, .emptied who line.1].Sublist w.marks

section Marks

variable {w : World} {s : Store} {rs : List (Option Rest)} {m : Mark} {id later : ItemId}
  {line : UserId × ProductId} {who : Nat} {user : UserId}

theorem stranded_cons (h : ∀ who, m ≠ .released who line.1) :
    Stranded ⟨s, rs, m :: w.marks⟩ id line ↔ w.Stranded id line := by
  refine exists_congr fun who => ?_
  rw [List.cons_sublist_cons']
  exact or_iff_left fun hs => h who hs.1.symm

theorem stranded_released : Stranded ⟨s, rs, .released who user :: w.marks⟩ id line ↔
    w.Stranded id line ∨ (user = line.1 ∧ [.inserted id line, .emptied who line.1].Sublist w.marks) := by
  constructor
  · rintro ⟨who', h⟩
    rcases List.cons_sublist_cons'.mp h with hs | ⟨he, hs⟩
    · exact .inl ⟨who', hs⟩
    · cases he
      exact .inr ⟨rfl, hs⟩
  · rintro (⟨who', h⟩ | ⟨rfl, h⟩)
    · exact ⟨who', h.cons _⟩
    · exact ⟨who, h.cons_cons _⟩

theorem Stranded.inserted (h : w.Stranded id line) : .inserted id line ∈ w.marks := by
  obtain ⟨who, h⟩ := h
  exact h.subset (by simp)

theorem Stranded.doubled (h : w.Stranded id line) :
    Doubled ⟨s, rs, .inserted later line :: w.marks⟩ id later line := by
  obtain ⟨who, h⟩ := h
  exact ⟨who, h.cons_cons _⟩

theorem Doubled.later_inserted (h : w.Doubled id later line) : .inserted later line ∈ w.marks := by
  obtain ⟨who, h⟩ := h
  exact h.subset List.mem_cons_self

theorem Doubled.cons (h : w.Doubled id later line) : Doubled ⟨s, rs, m :: w.marks⟩ id later line := by
  obtain ⟨who, h⟩ := h
  exact ⟨who, h.cons _⟩

end Marks

/-- What must be so as long as a call has its second step in front of it: an item that is to lose its line is
gone for good, and all items of a user whose lines are to go have come since the first step. -/
def Due (past : List ItemId) (w : World) (who : Nat) : Rest → Prop
  | .free _ id => w.store.items.get? id = none ∧ id ∈ past
  | .dropLines user => .emptied who user ∈ w.marks ∧
    ∀ p i, w.Holds p i → i.user = user → [.inserted p i.line, .emptied who user].Sublist w.marks

/-- What is so whenever the items added so far have had the identifiers in `past`, all different.  The line of an
item points to it unless it has been dropped since, and of two items of a line the earlier one has lost it. -/
structure Tidy (past : List ItemId) (w : World) : Prop where
  items : w.store.items.Distinct
  lines : w.store.lines.Distinct
  known : ∀ id line, .inserted id line ∈ w.marks → id ∈ past
  once : w.marks.Pairwise fun m m' => ∀ id, m.inserted? = some id → m'.inserted? ≠ some id
  inserted : ∀ p i, w.Holds p i → .inserted p i.line ∈ w.marks
  due : ∀ who r, w.rests[who]? = some (some r) → w.Due past who r
  pointed : ∀ p i, w.Holds p i → (w.store.lines.get? i.line = some p ↔ ¬w.Stranded p i.line)
  doubled : ∀ p i q j, w.Holds p i → w.Holds q j → i.line = j.line → p ≠ q →
    w.Doubled p q i.line ∨ w.Doubled q p i.line

namespace Tidy

variable {past : List ItemId} {w : World} {s : Store} {i : Item} {p q id : ItemId}
  {line line' : UserId × ProductId} {who : Nat} {user : UserId} {now : Instant}

theorem empty : Tidy [] ⟨.empty, [], []⟩ where
  items := .nil
  lines := .nil
  known := nofun
  once := .nil
  inserted := nofun
  due := nofun
  pointed := nofun
  doubled := nofun

/-- An identifier is stored for one line. -/
theorem line_eq (h : Tidy past w) (hm : .inserted id line ∈ w.marks) (hm' : .inserted id line' ∈ w.marks) :
    line = line' := by
  by_contra hn
  have : Std.Symm fun m m' : Mark => ∀ id, m.inserted? = some id → m'.inserted? ≠ some id :=
    ⟨fun _ _ hx id he he' => hx id he' he⟩
  exact h.once.forall hm hm' (by simp [hn]) id rfl rfl

theorem not_doubled_self (h : Tidy past w) : ¬w.Doubled id id line := by
  rintro ⟨who, hs⟩
  have ho := (List.pairwise_cons.mp (h.once.sublist hs)).1 (.inserted id line) (by simp)
  exact ho id rfl rfl

theorem mono {past' : List ItemId} (h : Tidy past w) (hp : past ⊆ past') : Tidy past' w :=
  { h with
    known := fun id line hm => hp (h.known id line hm)
    due := by
      intro who r hr
      have hd := h.due who r hr
      cases r with
      | free line id => exact ⟨hd.1, hp hd.2⟩
      | dropLines user => exact hd }

/-- Some items are gone or have been changed. -/
theorem fewer (h : Tidy past w) (hd : s.items.Distinct) (hl : s.lines = w.store.lines)
    (hi : ∀ p i, s.items.get? p = some i → ∃ j, w.Holds p j ∧ j.line = i.line) :
    Tidy past ⟨s, w.rests, w.marks⟩ where
  items := hd
  lines := hl ▸ h.lines
  known := h.known
  once := h.once
  inserted p i hp := by
    obtain ⟨j, hj, hl⟩ := hi p i hp
    exact hl ▸ h.inserted p j hj
  due who r hr := by
    have hd := h.due who r hr
    cases r with
    | free line id =>
      refine ⟨Option.eq_none_iff_forall_not_mem.mpr fun i hp => ?_, hd.2⟩
      obtain ⟨j, hj, _⟩ := hi id i hp
      cases hd.1.symm.trans hj
    | dropLines user =>
      refine ⟨hd.1, fun p i hp hu => ?_⟩
      obtain ⟨j, hj, hl⟩ := hi p i hp
      exact hl ▸ hd.2 p j hj ((congrArg Prod.fst hl).trans hu)
  pointed p i hp := by
    obtain ⟨j, hj, hl'⟩ := hi p i hp
    have hs := h.pointed p j hj
    rw [hl'] at hs
    rwa [hl]
  doubled p i q j hp hq he hn := by
    obtain ⟨i', hp', hl⟩ := hi p i hp
    obtain ⟨j', hq', hl'⟩ := hi q j hq
    exact hl ▸ h.doubled p i' q j' hp' hq' (hl.trans (he.trans hl'.symm)) hn

/-- An item gets another quantity. -/
theorem changed (h : Tidy past w) (i' : Item) (hp : w.Holds p i) (hl : i'.line = i.line) :
    Tidy past ⟨{ w.store with items := w.store.items.put p i' }, w.rests, w.marks⟩ := by
  refine h.fewer (h.items.put _ _) rfl fun q j hq => ?_
  rcases Keyed.get?_put_eq_some.mp hq with ⟨rfl, rfl⟩ | ⟨_, hq⟩
  · exact ⟨i, hp, hl.symm⟩
  · exact ⟨j, hq, rfl⟩

theorem take (h : Tidy past w) (id : ItemId) :
    Tidy past ⟨{ w.store with items := w.store.items.remove id }, w.rests, w.marks⟩ := by
  exact h.fewer (h.items.remove _) rfl fun p i hp => ⟨i, Keyed.get?_of_remove hp, rfl⟩

/-- An item that its line does not point to has lost it. -/
theorem stranded_of_ne (h : Tidy past w) {j : Item} (hp : w.Holds p j) (hl : j.line = line)
    (hn : w.store.lines.get? line ≠ some p) : w.Stranded p line := by
  subst hl
  exact not_not.mp fun hx => hn ((h.pointed p j hp).mpr hx)

/-- A new item takes a line that points to no item. -/
theorem insert (h : Tidy past w) (hn : i.id ∉ past)
    (hf : ∀ p j, w.Holds p j → w.store.lines.get? i.line ≠ some p) :
    Tidy (past ++ [i.id]) ⟨w.store.insert i, w.rests, .inserted i.id i.line :: w.marks⟩ := by
  have hknown : ∀ line, .inserted i.id line ∉ w.marks := fun line hm => hn (h.known i.id line hm)
  have hlost : ∀ p j, w.Holds p j → j.line = i.line → w.Stranded p i.line := fun p j hp hl =>
    h.stranded_of_ne hp hl (hf p j hp)
  refine ⟨h.items.put _ _, h.lines.put _ _, ?_, ?_, ?_, ?_, ?_, ?_⟩
  · intro id line hm
    rcases List.mem_cons.mp hm with hm | hm
    · cases hm
      simp
    · exact List.mem_append_left _ (h.known id line hm)
  · refine List.pairwise_cons.mpr ⟨fun m hm id he he' => ?_, h.once⟩
    cases m with
    | inserted id' line =>
      cases he
      cases he'
      exact hknown line hm
    | _ => cases he'
  · intro p j hp
    rcases Store.get?_insert hp with ⟨rfl, rfl⟩ | ⟨_, hp⟩
    · exact List.mem_cons_self
    · exact List.mem_cons_of_mem _ (h.inserted p j hp)
  · intro who r hr
    have hd := h.due who r hr
    cases r with
    | free line id =>
      refine ⟨?_, List.mem_append_left _ hd.2⟩
      have hne : id ≠ i.id := by
        rintro rfl
        exact hn hd.2
      rw [Store.insert, Keyed.get?_put, if_neg hne]
      exact hd.1
    | dropLines user =>
      refine ⟨List.mem_cons_of_mem _ hd.1, fun p j hp hu => ?_⟩
      rcases Store.get?_insert hp with ⟨rfl, rfl⟩ | ⟨_, hp⟩
      · exact (List.singleton_sublist.mpr hd.1).cons_cons _
      · exact (hd.2 p j hp hu).cons _
  · intro p j hp
    rw [stranded_cons (by simp)]
    rcases Store.get?_insert hp with ⟨rfl, rfl⟩ | ⟨hne, hp⟩
    · have hg : (w.store.insert j).lines.get? j.line = some j.id := by
        rw [Store.insert, Keyed.get?_put, if_pos rfl]
      exact ⟨fun _ hs => hknown _ hs.inserted, fun _ => hg⟩
    · by_cases hl : j.line = i.line
      · have hg : (w.store.insert i).lines.get? j.line = some i.id := by
          rw [Store.insert, Keyed.get?_put, if_pos hl]
        rw [hg, hl]
        exact ⟨fun he => absurd (Option.some.inj he).symm hne, fun hs => absurd (hlost p j hp hl) hs⟩
      · have hg : (w.store.insert i).lines.get? j.line = w.store.lines.get? j.line := by
          rw [Store.insert, Keyed.get?_put, if_neg hl]
        rw [hg]
        exact h.pointed p j hp
  · intro p j q k hp hq hl hne
    rcases Store.get?_insert hp with ⟨rfl, rfl⟩ | ⟨_, hp'⟩
    · rcases Store.get?_insert hq with ⟨rfl, rfl⟩ | ⟨_, hq'⟩
      · exact absurd rfl hne
      · exact .inr (hlost q k hq' hl.symm).doubled
    · rcases Store.get?_insert hq with ⟨rfl, rfl⟩ | ⟨_, hq'⟩
      · rw [hl]
        exact .inl (hlost p j hp' hl).doubled
      · exact (h.doubled p j q k hp' hq' hl hne).imp Doubled.cons Doubled.cons

/-- Something other than a new item is remembered, and with it the lines may change. -/
theorem marked {m : Mark} {lines : Keyed (UserId × ProductId) ItemId} (h : Tidy past w) (hm : m.inserted? = none)
    (hl : lines.Distinct) (hp : ∀ p i, w.Holds p i →
      (lines.get? i.line = some p ↔ ¬Stranded ⟨w.store, w.rests, m :: w.marks⟩ p i.line)) :
    Tidy past ⟨⟨w.store.items, lines⟩, w.rests, m :: w.marks⟩ where
  items := h.items
  lines := hl
  known id line hx := by
    rcases List.mem_cons.mp hx with rfl | hx
    · cases hm
    · exact h.known id line hx
  once := List.pairwise_cons.mpr ⟨fun _ _ id he => absurd (hm.symm.trans he) nofun, h.once⟩
  inserted p i hp := List.mem_cons_of_mem _ (h.inserted p i hp)
  due who r hr := by
    have hd := h.due who r hr
    cases r with
    | free line id => exact hd
    | dropLines user => exact ⟨List.mem_cons_of_mem _ hd.1, fun p i hp hu => (hd.2 p i hp hu).cons _⟩
  pointed := hp
  doubled p i q j hp hq hl hn := (h.doubled p i q j hp hq hl hn).imp Doubled.cons Doubled.cons

/-- The items of a user are gone, and it is remembered who has dropped them. -/
theorem dropItems (h : Tidy past w) (who : Nat) (user : UserId) :
    Tidy past ⟨w.store.dropItems user, w.rests, .emptied who user :: w.marks⟩ := by
  have hs : Tidy past ⟨w.store.dropItems user, w.rests, w.marks⟩ := by
    refine h.fewer (h.items.filter _) rfl fun p i hp => ⟨i, ?_, rfl⟩
    rw [Store.dropItems, h.items.get?_filter] at hp
    exact (Option.filter_eq_some_iff.mp hp).1
  refine hs.marked rfl hs.lines fun p i hp => ?_
  rw [stranded_cons (by simp)]
  exact hs.pointed p i hp

theorem dropLines (h : Tidy past w) (hd : w.Due past who (.dropLines user)) :
    Tidy past ⟨w.store.dropLines user, w.rests, .released who user :: w.marks⟩ := by
  refine h.marked rfl (h.lines.filter _) fun p i hp => ?_
  rw [stranded_released, h.lines.get?_filter, Option.filter_eq_some_iff, h.pointed p i hp, not_or, decide_eq_true_eq]
  refine and_congr_right fun _ => not_congr ⟨?_, fun hx => hx.1.symm⟩
  rintro rfl
  exact ⟨rfl, hd.2 p i hp rfl⟩

/-- A call has come in. -/
theorem begun (h : Tidy past w) {r : Option Rest} (hr : ∀ x, r = some x → w.Due past w.rests.length x) :
    Tidy past ⟨w.store, w.rests ++ [r], w.marks⟩ :=
  { h with
    due := by
      intro who x hx
      rcases getElem?_concat hx with hx | ⟨rfl, he⟩
      · exact h.due who x hx
      · exact hr x he.symm }

/-- A call has come to its end. -/
theorem ended (h : Tidy past w) (who : Nat) : Tidy past ⟨w.store, w.rests.set who none, w.marks⟩ :=
  { h with
    due := by
      intro who' x hx
      rw [List.getElem?_set] at hx
      split at hx
      · split at hx
        · cases hx
        · cases hx
      · exact h.due who' x hx }

theorem free (h : Tidy past w) (hd : w.store.items.get? id = none) (line : UserId × ProductId) :
    Tidy past ⟨w.store.free line id, w.rests, w.marks⟩ := by
  unfold Store.free
  split
  · rename_i hl
    refine { h with lines := h.lines.remove _, pointed := ?_ }
    intro p i hp
    rw [Keyed.get?_remove]
    split
    · rename_i he
      -- the line has pointed to an item that is gone, so this one has lost it before
      have hne : w.store.lines.get? line ≠ some p := by
        rintro hx
        obtain rfl := Option.some.inj (hl.symm.trans hx)
        cases hd.symm.trans hp
      have hs := h.stranded_of_ne hp he hne
      rw [← he] at hs
      refine ⟨fun hx => ?_, fun hn => absurd hs hn⟩
      cases hx
    · exact h.pointed p i hp
  · exact h

/-- A call has come in that has one step only. -/
theorem answered (h : Tidy past w) : Tidy past ⟨w.store, w.rests ++ [none], w.marks⟩ := h.begun (by simp)

theorem add (h : Tidy past w) (now : Instant) (hn : i.id ∉ past) :
    Tidy (past ++ [i.id]) (w.apply (.start now (.add i))) := by
  rcases w.store.add_cases i now with ⟨ha, hf⟩ | ⟨e, ha⟩ | ⟨id, old, q, hg, ha⟩
  · simp only [apply, Store.start, Store.answer, Mark.ofCall?, ha]
    exact (h.insert hn hf).answered
  · simp only [apply, Store.start, Store.answer, Mark.ofCall?, ha]
    exact h.answered.mono (List.subset_append_left _ _)
  · simp only [apply, Store.start, Store.answer, Mark.ofCall?, ha]
    exact (h.changed (old.setQuantity q now) hg rfl).answered.mono (List.subset_append_left _ _)

theorem start (h : Tidy past w) (now : Instant) (c : Call) (hf : ∀ id, c.added? = some id → id ∉ past) :
    Tidy (past ++ c.added?.toList) (w.apply (.start now c)) := by
  cases c with
  | list user => exact h.answered.mono (List.subset_append_left _ _)
  | add i => exact h.add now (hf i.id rfl)
  | setQuantity id q =>
    refine Tidy.mono ?_ (List.subset_append_left _ _)
    simp only [apply, Store.start, Store.answer, Store.setQuantity]
    cases hg : w.store.items.get? id with
    | none => exact h.answered
    | some i => exact (h.changed (i.setQuantity q now) hg rfl).answered
  | delete id =>
    refine Tidy.mono ?_ (List.subset_append_left _ _)
    simp only [apply, Store.start, Store.take]
    cases hg : w.store.items.get? id with
    | none => exact (h.take id).answered
    | some i =>
      refine (h.take id).begun ?_
      rintro _ ⟨⟩
      refine ⟨?_, h.known _ _ (h.inserted id i hg)⟩
      rw [Keyed.get?_remove, if_pos rfl]
  | clear user =>
    refine Tidy.mono ?_ (List.subset_append_left _ _)
    refine (h.dropItems w.rests.length user).begun ?_
    rintro _ ⟨⟩
    refine ⟨List.mem_cons_self, fun p i hp hu => ?_⟩
    -- no item of the user is left
    rw [Holds, Store.dropItems, h.items.get?_filter, Option.filter_eq_some_iff] at hp
    exact absurd hu (of_decide_eq_true hp.2)

theorem finish (h : Tidy past w) (who : Nat) : Tidy past (w.apply (.finish who)) := by
  rw [apply]
  split
  · rename_i r hr
    have hd := h.due who r hr
    cases r with
    | free line id => exact (h.free hd.1 line).ended who
    | dropLines user => exact (h.dropLines hd).ended who
  · exact h

end Tidy

/-- As long as new items have new identifiers, overlapping calls keep the store tidy. -/
theorem tidy_after {es : List Event} (h : (es.filterMap Event.added?).Nodup) :
    Tidy (es.filterMap Event.added?) (after es) := by
  induction es using List.reverseRecOn with
  | nil => exact .empty
  | append_singleton es e ih =>
    rw [List.filterMap_append] at h
    obtain ⟨hes, _, hd⟩ := List.nodup_append.mp h
    have hw := ih hes
    rw [after_concat, List.filterMap_append]
    cases e with
    | start now c =>
      rw [Event.added_start] at hd ⊢
      exact hw.start now c fun id hid hm => hd id hm id (by simp [hid]) rfl
    | finish who =>
      have ha : [Event.finish who].filterMap Event.added? = [] := rfl
      rw [ha, List.append_nil]
      exact hw.finish who

/-- In a world of overlapping calls no line has two items and, once all calls have ended, every line points to its
item, if and only if no item is left that came while the cart of its user was being emptied: none at all once all
calls have ended, and none beside an item that came after it. -/
theorem one_line_iff {es : List Event} (h : (es.filterMap Event.added?).Nodup) :
    ((after es).OnePerLine ∧ ((after es).Ended → (after es).Pointed)) ↔
      ¬∃ p i, (after es).Holds p i ∧ (((after es).Ended ∧ (after es).Stranded p i.line) ∨
        ∃ q j, (after es).Holds q j ∧ (after es).Doubled p q i.line) := by
  have ht := tidy_after h
  generalize after es = w at ht ⊢
  constructor
  · rintro ⟨ho, he⟩ ⟨p, i, hp, ⟨hx, hs⟩ | ⟨q, j, hq, hd⟩⟩
    · exact (ht.pointed p i hp).mp (he hx p i hp) hs
    · have hl : i.line = j.line := ht.line_eq hd.later_inserted (ht.inserted q j hq)
      obtain rfl := ho p i q j hp hq hl
      exact ht.not_doubled_self hd
  · intro hn
    refine ⟨?_, ?_⟩
    · intro p i q j hp hq hl
      by_contra hne
      rcases ht.doubled p i q j hp hq hl hne with hd | hd
      · exact hn ⟨p, i, hp, .inr ⟨q, j, hq, hd⟩⟩
      · exact hn ⟨q, j, hq, .inr ⟨p, i, hp, hl ▸ hd⟩⟩
    · intro he p i hp
      exact (ht.pointed p i hp).mpr fun hs => hn ⟨p, i, hp, .inl ⟨he, hs⟩⟩

theorem emptied_by_clear {es : List Event} {who : Nat} {user : UserId} (h : .emptied who user ∈ (after es).marks) :
    ∃ now, .start now (.clear user) ∈ es := by
  induction es using List.reverseRecOn with
  | nil => cases h
  | append_singleton es e ih =>
    have hold : .emptied who user ∈ (after es).marks → ∃ now, .start now (.clear user) ∈ es ++ [e] := fun hm =>
      (ih hm).imp fun _ => List.mem_append_left _
    rw [after_concat] at h
    cases e with
    | start now c =>
      rcases List.mem_append.mp h with h | h
      · refine ⟨now, List.mem_append_right _ ?_⟩
        cases c with
        | clear user' =>
          cases List.mem_singleton.mp h
          exact List.mem_cons_self
        | add i =>
          rw [Option.mem_toList, Mark.ofCall?] at h
          split at h
          · cases h
          · cases h
        | _ => cases h
      · exact hold h
    | finish who' =>
      rw [apply] at h
      split at h
      · rename_i r _
        rcases List.mem_append.mp h with h | h
        · cases r with
          | free line id => cases h
          | dropLines user' => cases List.mem_singleton.mp h
        · exact hold h
      · exact hold h

/-- Where no cart is emptied, deletions do no harm, whatever comes between their steps. -/
theorem one_line_of_no_clear {es : List Event} (h : (es.filterMap Event.added?).Nodup)
    (hn : ∀ now user, .start now (.clear user) ∉ es) : (after es).OnePerLine ∧ (after es).Pointed := by
  have hp : (after es).Pointed := by
    intro p i hp
    refine ((tidy_after h).pointed p i hp).mpr ?_
    rintro ⟨who, hs⟩
    have hm : .emptied who i.line.1 ∈ (after es).marks := hs.subset (by simp)
    obtain ⟨now, hc⟩ := emptied_by_clear hm
    exact hn _ _ hc
  refine ⟨fun p i q j hi hj hl => ?_, hp⟩
  have hq := hp q j hj
  rw [← hl, hp p i hi] at hq
  exact Option.some.inj hq

section Emptying

/-- A user empties a cart with nothing in it.  Before this call has come to its end, something is put into the
cart, and after that the same once more. -/
def emptying : List Event :=
  [.start 1 (.clear ⟨7⟩), .start 2 (.add (numbered 2 7 30 1)), .finish 0, .start 3 (.add (numbered 3 7 30 1))]

theorem emptying_doubles :
    (emptying.filterMap Event.added?).Nodup ∧
      ¬((after emptying).OnePerLine ∧ ((after emptying).Ended → (after emptying).Pointed)) := by
  have hf : (emptying.filterMap Event.added?).Nodup := by decide
  have hd : (after emptying).Doubled ⟨2⟩ ⟨3⟩ (numbered 2 7 30 1).line := ⟨0, .refl _⟩
  exact ⟨hf, fun ho => (one_line_iff hf).mp ho ⟨⟨2⟩, _, rfl, .inr ⟨⟨3⟩, _, rfl, hd⟩⟩⟩

/-- All calls have ended, there are two items of one line, and the line points to one of them only. -/
theorem overlap_fails :
    (emptying.filterMap Event.added?).Nodup ∧ (after emptying).Ended ∧
      ¬(after emptying).OnePerLine ∧ ¬(after emptying).Pointed := by
  have h₂ : (after emptying).Holds ⟨2⟩ (numbered 2 7 30 1) := rfl
  have h₃ : (after emptying).Holds ⟨3⟩ (numbered 3 7 30 1) := rfl
  refine ⟨by decide, by decide, fun ho => ?_, fun hp => ?_⟩
  · exact absurd (ho _ _ _ _ h₂ h₃ rfl) (by decide)
  · have hl : (after emptying).store.lines.get? (numbered 2 7 30 1).line = some ⟨3⟩ := rfl
    exact absurd (hl.symm.trans (hp _ _ h₂)) (by decide)

end Emptying

end World
end Storefront.Cart
