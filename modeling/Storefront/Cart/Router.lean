import Storefront.Cart.Call
import Storefront.Http.Request

namespace Storefront.Cart

open Http (Method Request Response)

inductive Resource where
  | carts
  /-- A user's cart when it is read, and an item when it is changed. -/
  | byId (id : Option String)
  /-- All of a user's cart. -/
  | ofUser (id : Option String)
  deriving DecidableEq

def Resource.ofTarget? (target : String) : Option Resource :=
  match Http.segments target with
  | ["", "api", "cart"] => some .carts
  | ["", "api", "cart", id] => if id.isEmpty then none else some (.byId (Http.parameter? id))
  | ["", "api", "cart", "user", id] =>
    if id.isEmpty then none else some (.ofUser (Http.parameter? id))
  | _ => none

def Resource.methods : Resource → List Method
  | .carts => [.post]
  | .byId _ => [.get, .put, .delete]
  | .ofUser _ => [.delete]

def additionForm : Json.Form :=
  ⟨"AddItemRequest",
    [⟨"userId", .text⟩, ⟨"productId", .text⟩, ⟨"quantity", .number⟩, ⟨"price", .number⟩]⟩

def quantityForm : Json.Form := ⟨"UpdateQuantityRequest", [⟨"quantity", .number⟩]⟩

/-- An item that somebody wants to add, as the client sent it. -/
structure Addition where
  user : Option String
  product : Option String
  quantity : Option Float
  price : Option Float

def Addition.ofEntries (e : Json.Entries) : Addition :=
  ⟨e.text? "userId", e.text? "productId", e.number? "quantity", e.number? "price"⟩

/-- An identifier, or the refusal of it by its name. -/
def idOf (name text : String) : Except Refusal Uuid :=
  match Uuid.ofPadded? text with
  | some u => .ok u
  | none => .error (.validation ("Invalid " ++ name))

/-- Holds an addition against the rules.  Without a quantity, one piece is meant. -/
def Addition.item (a : Addition) (id : ItemId) (now : Instant) : Except Refusal Item :=
  match a.user, a.product, a.price with
  | some user, some product, some price => do
    let user ← idOf "userId" user
    let product ← idOf "productId" product
    let quantity ← match a.quantity with
      | some x => Quantity.ofNumber x
      | none => .ok .one
    .ok (.new id user product quantity (← Price.new price) now)
  | _, _, _ => .error (.validation "userId, productId and price are required")

def quantityOf (x : Option Float) : Except Refusal Quantity :=
  match x with
  | some x => Quantity.ofNumber x
  | none => .error (.validation "Quantity is required")

def readForm (r : Request) (f : Json.Form) : Except Refusal Json.Entries :=
  (r.read f).mapError .validation

/-- What a request asks for.  An identifier in the path is read before the body. -/
def Resource.call (r : Request) (fresh : ItemId) (now : Instant) : Resource → Except Response Call
  | .carts => mapError do
    .ok (.add (← (Addition.ofEntries (← readForm r additionForm)).item fresh now))
  | .byId none => .error (Http.unreadableParameter "id")
  | .byId (some id) => mapError do
    if r.method = .put then
      let id ← idOf "cart item id" id
      let e ← readForm r quantityForm
      .ok (.setQuantity id (← quantityOf (e.number? "quantity")))
    else if r.method = .delete then .ok (.delete (← idOf "cart item id" id))
    else .ok (.list (← idOf "userId" id))
  | .ofUser none => .error (Http.unreadableParameter "user_id")
  | .ofUser (some id) => mapError do .ok (.clear (← idOf "userId" id))
where
  mapError (c : Except Refusal Call) : Except Response Call := c.mapError Refusal.response

/-- How the answer to a call is told to the client. -/
def Call.response : (c : Call) → c.Answer → Response
  | .list _, items => .json 200 (.array (items.map Item.value))
  | .add _, (item, inserted) => .json (if inserted then 201 else 200) item.value
  | .setQuantity _ _, some item => .json 200 item.value
  | .setQuantity _ _, none => Refusal.notFound.response
  | .delete _, found => if found then .empty 204 else Refusal.notFound.response
  | .clear _, _ => .empty 204

def perform {σ : Type} (answer : Backend σ) (now : Instant) (c : Except Response Call) (s : σ) :
    Response × σ :=
  match c with
  | .error r => (r, s)
  | .ok c =>
    match answer now s c with
    | (.ok a, s) => (c.response a, s)
    | (.error r, s) => (r.response, s)

/-- Answers one request; `fresh` is the identifier of an item that is added.  Callers are not identified. -/
def respond {σ : Type} (answer : Backend σ) (fresh : ItemId) (now : Instant) (r : Request) (s : σ) :
    Response × σ :=
  match Resource.ofTarget? r.target with
  | none => (.empty 404, s)
  | some res =>
    let (a, s) :=
      if Http.hasMethod res.methods r.method then perform answer now (res.call r fresh now) s
      else (Http.methodNotAllowed, s)
    (Http.finish res.methods r.method a, s)

end Storefront.Cart
