import VenueGateway.Trading.Account

/-! # The results of Bittrex and what they mean

Each result is a record of its own, read from JSON by the names that the interface uses; members
that are not named here are ignored. From the records the values of the domain are made. What cannot
be made sense of is a failure of the venue, to which the response is attached later.
-/

namespace VenueGateway.Bittrex

/-- A failure that does not know its response yet. -/
def unusable {α : Type} (detail : String) : Except Abort α :=
  .error (.failure (.tradingApi detail none))

/-- A value, or the overflow that there is none. -/
def orOverflow {α : Type} : Option α → Except Abort α
  | some value => .ok value
  | none => .error .overflow

/-! ## Prices and order books -/

/-- The latest trade of a market. -/
structure TickerRecord where
  last : Decimal
deriving DecidableEq

def TickerRecord.fields : Json.Fields TickerRecord :=
  (Json.Fields.done mk).andThen (.field 0 "Last" .decimal none)

def TickerRecord.shape : Json.Shape TickerRecord := .record "BittrexTicker" 1 fields

/-- Both sides of a book, each a list of rows of numbers. A side that is absent is empty. -/
structure BookRecord where
  buy : List (List Decimal)
  sell : List (List Decimal)
deriving DecidableEq

def BookRecord.fields : Json.Fields BookRecord :=
  ((Json.Fields.done mk).andThen (.field 0 "buy" (.list (.list .decimal)) (some []))).andThen
    (.field 1 "sell" (.list (.list .decimal)) (some []))

def BookRecord.shape : Json.Shape BookRecord := .record "BittrexOrderBook" 2 fields

/-- The order that a row stands for: a price, a quantity, and anything more. -/
def orderOfRow (side : Side) : List Decimal → Except Abort MarketOrder
  | price :: quantity :: _ => orOverflow (MarketOrder.ofPrice? side price quantity)
  | short =>
    unusable ("Order book row needs price and quantity. Value: " ++
      Text.bracketed (short.map Decimal.text))

/-- The book of a market, the selling side first. -/
def BookRecord.understand (market : String) (book : BookRecord) : Except Abort OrderBook := do
  let sells ← book.sell.mapM (orderOfRow .sell)
  let buys ← book.buy.mapM (orderOfRow .buy)
  return ⟨market, sells, buys⟩

/-! ## Open orders -/

/-- An order that is still open. -/
structure OpenOrderRecord where
  market : String
  kind : String
  quantity : Decimal
  remaining : Decimal
  limit : Decimal
  opened : String
deriving DecidableEq

def OpenOrderRecord.fields : Json.Fields OpenOrderRecord :=
  ((((((Json.Fields.done mk).andThen (.field 0 "Exchange" .string none)).andThen
    (.field 1 "OrderType" .string none)).andThen
    (.field 2 "Quantity" .decimal none)).andThen
    (.field 3 "QuantityRemaining" .decimal none)).andThen
    (.field 4 "Limit" .decimal none)).andThen
    (.field 5 "Opened" .string none)

def OpenOrderRecord.shape : Json.Shape OpenOrderRecord := .record "BittrexOpenOrder" 6 fields

/-- Open orders under their identifiers; none if they are absent. -/
structure OpenOrdersRecord where
  orders : NameMap OpenOrderRecord
deriving DecidableEq

def OpenOrdersRecord.fields : Json.Fields OpenOrdersRecord :=
  (Json.Fields.done mk).andThen (.field 0 "open" (.map OpenOrderRecord.shape) (some ∅))

def OpenOrdersRecord.shape : Json.Shape OpenOrdersRecord := .record "BittrexOpenOrders" 1 fields

/-- The instant of a timestamp, blanks around it ignored. -/
def readTimestamp (written : String) : Except Failure Instant :=
  let trimmed := Text.trim written
  (Instant.readTimestamp trimmed).mapError fun cause =>
    .tradingApi ("Illegal date/time format '" ++ trimmed ++ "': " ++ cause.message) none

/-- The side of a kind of order. -/
def readKind (kind : String) : Except Failure Side :=
  if kind = "LIMIT_BUY" then .ok .buy
  else if kind = "LIMIT_SELL" then .ok .sell
  else
    .error (.tradingApi
      ("Unrecognised order type received in getYourOpenOrders(). Value: " ++ kind) none)

/-- The open order of a record, under its identifier and the caller's name of the market. The venue
reports no cost, so the total is the limit times the quantity. -/
def OpenOrderRecord.understand (market id : String) (order : OpenOrderRecord) :
    Except Abort OpenOrder := do
  let createdAt ← (readTimestamp order.opened).mapError .failure
  let side ← (readKind order.kind).mapError .failure
  let total ← orOverflow (order.limit.mul? order.quantity)
  return ⟨id, createdAt, market, side, order.limit, order.remaining, order.quantity, total⟩

/-- The open orders of one market, in the order of their identifiers. The result may hold orders of
other markets, which are left alone. -/
def OpenOrdersRecord.understand (market : String) (record : OpenOrdersRecord) :
    Except Abort (List OpenOrder) :=
  (record.orders.entries.filter fun entry => Text.sameIgnoringCase entry.2.market market).mapM
    fun entry => entry.2.understand market entry.1

/-! ## New orders and balances -/

/-- An order that was placed. -/
structure PlacedRecord where
  uuid : String
deriving DecidableEq

def PlacedRecord.fields : Json.Fields PlacedRecord :=
  (Json.Fields.done mk).andThen (.field 0 "uuid" .string none)

def PlacedRecord.shape : Json.Shape PlacedRecord := .record "BittrexOrderCreated" 1 fields

/-- The balance of one currency. -/
structure BalanceRecord where
  currency : String
  available : Decimal
  pending : Decimal
deriving DecidableEq

def BalanceRecord.fields : Json.Fields BalanceRecord :=
  (((Json.Fields.done mk).andThen (.field 0 "Currency" .string none)).andThen
    (.field 1 "Available" .decimal none)).andThen
    (.field 2 "Pending" .decimal none)

def BalanceRecord.shape : Json.Shape BalanceRecord := .record "BittrexBalance" 3 fields

/-- The balances of a list; of a currency that is listed twice the last row counts. -/
def balancesOf (rows : List BalanceRecord) : Balances :=
  rows.foldl (fun balances row =>
      ⟨balances.available.insert row.currency row.available,
        balances.held.insert row.currency row.pending⟩)
    ⟨∅, ∅⟩

/-! ## Amounts in requests -/

/-- An amount as the venue accepts it: at most 8 decimal places, half to even, no trailing zeros. -/
def amountText (x : Decimal) : String := (x.roundTo .even 8).normalize.text

end VenueGateway.Bittrex
