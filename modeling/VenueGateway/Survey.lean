import VenueGateway.Bittrex.Client

/-! # Surveys of a market

A survey asks a venue for all that can be known of a market without an order: the latest price, the
book and the fees. It shows whether the settings of an adapter work and leaves the account alone.
-/

namespace VenueGateway.Survey

def calls (market : String) : List Call :=
  [.latestPrice market, .orderBook market, .buyFee market, .sellFee market]

/-- The first order of a side, as the venue lists them. -/
def first (orders : List MarketOrder) : Json := (orders.head?.map MarketOrder.json).getD .null

/-- What a report says about one answer. -/
def reported : Call → Answer → List (String × Json)
  | .latestPrice _, answer => [("latest_price", answer.json)]
  | .buyFee _, answer => [("buy_fee", answer.json)]
  | .sellFee _, answer => [("sell_fee", answer.json)]
  | _, .orderBook book =>
    [("bids", .int book.buys.length), ("asks", .int book.sells.length),
      ("best_bid", first book.buys), ("best_ask", first book.sells)]
  | _, _ => []

def report (venue market : String) (answers : List Answer) : Json :=
  .object ([("exchange", .str venue), ("market", .str market)] ++
    (List.zipWith reported (calls market) answers).flatten)

def run (client : Bittrex.Client) (transport : Transport) (market : String) : Except Abort Json :=
  (client.answerAll transport (calls market)).1.map (report Bittrex.title market)

end VenueGateway.Survey
