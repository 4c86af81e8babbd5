import Waymark.Api.Definition

/-! # Classes of the order API

    The sample API of the library: orders can be listed, placed, looked up by number,
    deleted and changed.
-/

namespace Waymark.Orders

open Waymark.Api (Member Definition)

section
variable {ε : Type}

/-- A resource nested in another one. -/
def nestedResource (name segment : String) (members : List (Member ε)) : Member ε :=
  .nested (.mk name none (some segment) none (.parent "p" :: members))

/-- What can be asked of a resource. -/
def getCapability : Member ε := .capability "Get" (some .get) false

/-- What a resource can be handed. -/
def postCapability : Member ε := .capability "Post" (some .post) false

/-- All orders, perhaps of one customer or one category; `nothing` stands for none. -/
def listOrders (nothing : ε) : Member ε :=
  nestedResource "ListOrders" "list"
    [.field "customer_id" (some nothing), .field "category_id" (some nothing), getCapability]

/-- Changes to one order. -/
def update : Member ε :=
  nestedResource "Update" "update"
    [nestedResource "Customer" "customer" [postCapability],
      nestedResource "AddItem" "add-item" [postCapability]]

/-- One order. -/
def orderById : Member ε :=
  nestedResource "Id" "\x7bid\x7d"
    [.field "id" none, getCapability,
      nestedResource "GetAmount" "get-amount" [getCapability],
      nestedResource "Delete" "delete" [postCapability],
      update]

/-- The order API; `nothing` stands for none. -/
def api (nothing : ε) : Definition ε :=
  .mk "OrdersApi" none (some "/orders") none
    [listOrders nothing, nestedResource "New" "new" [postCapability], orderById]

end

end Waymark.Orders
