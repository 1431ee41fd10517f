import VenueGateway.Trading.Account

/-! # Calls

Everything that a trading engine asks of a venue, and every kind of answer. No venue's own ways show
through either.
-/

namespace VenueGateway

/-- One thing asked of a venue. -/
inductive Call
  | orderBook (market : String)
  | openOrders (market : String)
  | createOrder (market : String) (side : Side) (quantity price : Decimal)
  | cancelOrder (id market : String)
  | latestPrice (market : String)
  | balances
  | buyFee (market : String)
  | sellFee (market : String)
deriving DecidableEq

/-- What a venue answers. -/
inductive Answer
  | orderBook (book : OrderBook)
  | openOrders (orders : List OpenOrder)
  | orderId (id : String)
  | cancelled
  | price (latest : Decimal)
  | balances (balances : Balances)
  | fee (fraction : Decimal)
deriving DecidableEq

def Answer.json : Answer → Json
  | .orderBook book => book.json
  | .openOrders orders => .arr (orders.map OpenOrder.json)
  | .orderId id => .str id
  | .cancelled => .bool true
  | .price latest => latest.json
  | .balances held => held.json
  | .fee fraction => fraction.json

end VenueGateway
