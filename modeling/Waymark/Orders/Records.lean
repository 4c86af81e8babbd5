import Waymark.Value.Reading

/-! # Records of the order API

    The shapes of the sample API of the library: orders with their items, and the errors
    that requests about orders are answered with.
-/

namespace Waymark.Orders

/-- One position of an order. -/
def orderItem : Kind :=
  .record "OrderItem" [("item_id", .int), ("category_id", .int), ("amount", .int)]

/-- An order of a customer. -/
def order : Kind :=
  .record "Order" [("order_id", .int), ("customer_id", .int), ("items", .list orderItem),
    ("total_amount", .int)]

/-- The error for an order whose number is taken. -/
def orderWithIdAlreadyExists : Kind :=
  .record "OrderWithIdAlreadyExists"
    [("kind", .literal "order_with_id_already_exists"), ("id", .int)]

/-- The error for an order without items. -/
def noItems : Kind :=
  .record "NoItems" [("kind", .literal "no_items")]

/-- The error for an order that is not there. -/
def orderNotExists : Kind :=
  .record "OrderNotExists" [("kind", .literal "order_not_exists")]

/-- The records by name. -/
def records : List (String × Kind) :=
  [("OrderItem", orderItem), ("Order", order),
    ("OrderWithIdAlreadyExists", orderWithIdAlreadyExists), ("NoItems", noItems),
    ("OrderNotExists", orderNotExists)]

/-- The shape of a kind of records. -/
def shape? : Kind → Option (String × List (String × Kind))
  | .record name fields => some (name, fields)
  | _ => none

/-- The errors that a new order may be answered with, told apart by their kind. -/
def newOrderError : Kind :=
  .choice "kind" ([orderWithIdAlreadyExists, noItems].filterMap shape?)

end Waymark.Orders
