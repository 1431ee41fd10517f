import VenueGateway.Trading.Market

/-! # Accounts

What a caller has at a venue: orders that are still open, and balances of currencies. Both are
written to JSON and read from it under the same names.
-/

namespace VenueGateway

/-- A caller's order that is still open. -/
structure OpenOrder where
  id : String
  createdAt : Instant
  market : String
  side : Side
  price : Decimal
  remaining : Decimal
  quantity : Decimal
  total : Decimal
deriving DecidableEq

namespace OpenOrder

def json (order : OpenOrder) : Json :=
  .object [("id", .str order.id), ("created_at", .str order.createdAt.text),
    ("market_id", .str order.market), ("order_type", order.side.json), ("price", order.price.json),
    ("quantity_remaining", order.remaining.json), ("original_quantity", order.quantity.json),
    ("total_value", order.total.json)]

def fields : Json.Fields OpenOrder :=
  ((((((((Json.Fields.done mk).andThen (.field 0 "id" .string none)).andThen
    (.field 1 "created_at" .instant none)).andThen
    (.field 2 "market_id" .string none)).andThen
    (.field 3 "order_type" Side.shape none)).andThen
    (.field 4 "price" .decimal none)).andThen
    (.field 5 "quantity_remaining" .decimal none)).andThen
    (.field 6 "original_quantity" .decimal none)).andThen
    (.field 7 "total_value" .decimal none)

def shape : Json.Shape OpenOrder := .record "OpenOrder" 8 fields

end OpenOrder

/-- Balances by currency: what can be traded, and what is held back. -/
structure Balances where
  available : NameMap Decimal
  held : NameMap Decimal
deriving DecidableEq

namespace Balances

def json (balances : Balances) : Json :=
  .object [("available", .ofMap Decimal.json balances.available),
    ("on_hold", .ofMap Decimal.json balances.held)]

def fields : Json.Fields Balances :=
  ((Json.Fields.done mk).andThen (.field 0 "available" (.map .decimal) none)).andThen
    (.field 1 "on_hold" (.map .decimal) none)

def shape : Json.Shape Balances := .record "BalanceInfo" 2 fields

end Balances

end VenueGateway
