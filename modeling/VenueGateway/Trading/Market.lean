import VenueGateway.Decimal.Rounding
import VenueGateway.Failure
import VenueGateway.Json.Shape
import VenueGateway.Text.Ascii
import VenueGateway.Text.Blank

/-! # Markets

The sides of an order, the orders that rest in a market, and the book that lists them. The total of
an order is the product of its price and its quantity; an order whose total is too large does not
exist. Orders and books are written to JSON and read from it under the same names.
-/

namespace VenueGateway

/-- The side of an order. -/
inductive Side
  | buy
  | sell
deriving DecidableEq

namespace Side

def text : Side → String
  | buy => "BUY"
  | sell => "SELL"

def unknown (written : String) : Failure :=
  .invalidArgument ("Invalid order type: " ++ written ++ " - Can only be BUY or SELL")

/-- The side that a caller writes, in any case of letters and with blanks around it. -/
def read (s : String) : Except Failure Side :=
  let written := Text.upper (Text.trim s)
  if written = "BUY" then .ok buy
  else if written = "SELL" then .ok sell
  else .error (unknown written)

def json (side : Side) : Json := .str side.text

/-- The side of a name, exactly as written. -/
def ofName (name : String) : Except Json.ShapeError Side :=
  if name = "BUY" then .ok buy
  else if name = "SELL" then .ok sell
  else .error (.unknownVariant name ["BUY", "SELL"])

/-- The side of a JSON value: its name, or an object with the name over nothing. -/
def shape : Json.Shape Side
  | .str name => ofName name
  | .obj [(name, value)] =>
    match ofName name, value with
    | .error cause, _ => .error cause
    | .ok side, .null => .ok side
    | .ok _, value => Json.Shape.wrongType "unit" value
  | .obj members => .error (.invalidValue (Json.found (.obj members)) "map with a single key")
  | value => Json.Shape.wrongType "string or map" value

end Side

def Decimal.json (x : Decimal) : Json := .str x.text

/-- An order that rests in a market. -/
structure MarketOrder where
  side : Side
  price : Decimal
  quantity : Decimal
  total : Decimal
deriving DecidableEq

namespace MarketOrder

/-- The order with a price and a quantity, if their product is an amount. -/
def ofPrice? (side : Side) (price quantity : Decimal) : Option MarketOrder :=
  (price.mul? quantity).map fun total => ⟨side, price, quantity, total⟩

def json (order : MarketOrder) : Json :=
  .object [("order_type", order.side.json), ("price", order.price.json),
    ("quantity", order.quantity.json), ("total", order.total.json)]

def fields : Json.Fields MarketOrder :=
  ((((Json.Fields.done mk).andThen (.field 0 "order_type" Side.shape none)).andThen
    (.field 1 "price" .decimal none)).andThen
    (.field 2 "quantity" .decimal none)).andThen
    (.field 3 "total" .decimal none)

def shape : Json.Shape MarketOrder := .record "MarketOrder" 4 fields

end MarketOrder

/-- The orders that rest in a market, each side in the venue's order. -/
structure OrderBook where
  market : String
  sells : List MarketOrder
  buys : List MarketOrder
deriving DecidableEq

namespace OrderBook

def json (book : OrderBook) : Json :=
  .object [("market_id", .str book.market), ("sell_orders", .arr (book.sells.map MarketOrder.json)),
    ("buy_orders", .arr (book.buys.map MarketOrder.json))]

def fields : Json.Fields OrderBook :=
  (((Json.Fields.done mk).andThen (.field 0 "market_id" .string none)).andThen
    (.field 1 "sell_orders" (.list MarketOrder.shape) none)).andThen
    (.field 2 "buy_orders" (.list MarketOrder.shape) none)

def shape : Json.Shape OrderBook := .record "MarketOrderBook" 3 fields

end OrderBook

end VenueGateway
