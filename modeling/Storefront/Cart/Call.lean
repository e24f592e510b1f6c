import Storefront.Cart.Item

namespace Storefront.Cart

/-- What the cart service asks of the place where items are kept.  Every request asks once at most. -/
inductive Call where
  /-- The items of a user, oldest first. -/
  | list (user : UserId)
  /-- Adds an item, or its quantity to the item of the same line. -/
  | add (item : Item)
  | setQuantity (id : ItemId) (q : Quantity)
  | delete (id : ItemId)
  /-- Removes all items of a user. -/
  | clear (user : UserId)

namespace Call

/-- What a call is answered with when it does not fail: for `add` the stored item and whether it is new,
for `clear` the number of items removed. -/
@[reducible] def Answer : Call → Type
  | .list _ => List Item
  | .add _ => Item × Bool
  | .setQuantity _ _ => Option Item
  | .delete _ => Bool
  | .clear _ => Nat

end Call

/-- Answers calls at an instant, and keeps what is needed for later calls. -/
abbrev Backend (σ : Type) := Instant → σ → (c : Call) → Except Refusal c.Answer × σ

end Storefront.Cart
