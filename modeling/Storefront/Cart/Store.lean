import Storefront.Cart.Call
import Storefront.Keyed

namespace Storefront.Cart

/-- Carts kept in memory: items under their identifiers, and for each line the item that stands for it.  Deletion
takes the item first and frees its line after that, so that a line may point to an item that is no longer there; the
next item of such a line takes it over. -/
structure Store where
  items : Keyed ItemId Item
  lines : Keyed (UserId × ProductId) ItemId

namespace Store

def empty : Store := ⟨[], []⟩

/-- The order of a listing: by creation, and among items created together by identifier. -/
def notAfter (a b : Item) : Bool :=
  a.createdAt < b.createdAt ∨ (a.createdAt = b.createdAt ∧ a.id.bits ≤ b.id.bits)

def list (s : Store) (user : UserId) : List Item :=
  (s.items.values.filter fun i => i.user = user).mergeSort notAfter

/-- Stores an item and makes it stand for its line. -/
def insert (s : Store) (i : Item) : Store := ⟨s.items.put i.id i, s.lines.put i.line i.id⟩

/-- The stored item and whether it is new.  The item that is there keeps its price. -/
def add (s : Store) (i : Item) (now : Instant) : Except Refusal (Item × Bool × Store) :=
  match s.lines.get? i.line with
  | none => .ok (i, true, s.insert i)
  | some id =>
    match s.items.get? id with
    | none => .ok (i, true, s.insert i)
    | some old => do
      let new := old.setQuantity (← old.quantity.add i.quantity) now
      .ok (new, false, { s with items := s.items.put id new })

def setQuantity (s : Store) (id : ItemId) (q : Quantity) (now : Instant) : Option Item × Store :=
  match s.items.get? id with
  | none => (none, s)
  | some i => let i := i.setQuantity q now; (some i, { s with items := s.items.put id i })

/-- The first step of a deletion. -/
def take (s : Store) (id : ItemId) : Option Item × Store :=
  (s.items.get? id, { s with items := s.items.remove id })

/-- The second step: frees a line if this item still stands for it. -/
def free (s : Store) (line : UserId × ProductId) (id : ItemId) : Store :=
  if s.lines.get? line = some id then { s with lines := s.lines.remove line } else s

def delete (s : Store) (id : ItemId) : Bool × Store :=
  match s.take id with
  | (none, s) => (false, s)
  | (some i, s) => (true, s.free i.line id)

/-- The first step of emptying a cart. -/
def dropItems (s : Store) (user : UserId) : Store :=
  { s with items := s.items.filter fun p => p.2.user ≠ user }

/-- The second step. -/
def dropLines (s : Store) (user : UserId) : Store :=
  { s with lines := s.lines.filter fun p => p.1.1 ≠ user }

/-- The number of items removed, and the store without them. -/
def clear (s : Store) (user : UserId) : Nat × Store :=
  let left := s.dropItems user
  (s.items.length - left.items.length, left.dropLines user)

/-- Answers one call at `now`. -/
def answer (now : Instant) (s : Store) : (c : Call) → Except Refusal c.Answer × Store
  | .list user => (.ok (s.list user), s)
  | .add i => match s.add i now with
    | .ok (i, inserted, s) => (.ok (i, inserted), s)
    | .error r => (.error r, s)
  | .setQuantity id q => let (i, s) := s.setQuantity id q now; (.ok i, s)
  | .delete id => let (found, s) := s.delete id; (.ok found, s)
  | .clear user => let (n, s) := s.clear user; (.ok n, s)

end Store
end Storefront.Cart
