import Storefront.Cart.Refusal
import Storefront.Time
import Storefront.Uuid

namespace Storefront.Cart

abbrev ItemId := Uuid

abbrev ProductId := Uuid

/-- How many pieces.  What clients ask for is checked; what is stored is trusted. -/
structure Quantity where
  count : Int
  deriving DecidableEq

namespace Quantity

def least : Int := 1

def most : Int := 10000

def outOfRange : Refusal := .validation "Quantity must be an integer between 1 and 10000"

def new (n : Int) : Except Refusal Quantity :=
  if least ≤ n ∧ n ≤ most then .ok ⟨n⟩ else .error outOfRange

/-- A number of JSON that is whole; it may be written with a fraction of zero.  It is one that cutting off at the
point does not change, or one below zero, which is out of range as well. -/
def ofNumber (x : Float) : Except Refusal Quantity :=
  let n := x.toUInt64
  if n.toFloat == x then new n.toNat else .error outOfRange

def one : Quantity := ⟨1⟩

/-- The quantity of both together, which must be in range again. -/
def add (a b : Quantity) : Except Refusal Quantity := new (a.count + b.count)

end Quantity

/-- The price of one piece. -/
structure Price where
  amount : Float

namespace Price

/-- Finite and not below zero; the negative zero becomes the positive one. -/
def new (x : Float) : Except Refusal Price :=
  if !x.isFinite || x < 0 then .error (.validation "Price must be a non-negative number")
  else .ok ⟨x + 0⟩

end Price

/-- A line of a cart: so many pieces of a product at a price. -/
structure Item where
  id : ItemId
  user : UserId
  product : ProductId
  quantity : Quantity
  price : Price
  createdAt : Instant
  updatedAt : Instant

namespace Item

def new (id : ItemId) (user : UserId) (product : ProductId) (quantity : Quantity) (price : Price)
    (now : Instant) : Item :=
  ⟨id, user, product, quantity, price, now, now⟩

def setQuantity (i : Item) (q : Quantity) (now : Instant) : Item :=
  { i with quantity := q, updatedAt := now }

/-- Whose item this is, and of which product: what a line stands for. -/
def line (i : Item) : UserId × ProductId := (i.user, i.product)

def value (i : Item) : Json.Value := .object
  [("id", .text i.id.text), ("userId", .text i.user.text), ("productId", .text i.product.text),
   ("quantity", .int i.quantity.count), ("price", .float i.price.amount),
   ("createdAt", .text i.createdAt.text), ("updatedAt", .text i.updatedAt.text)]

end Item
end Storefront.Cart
