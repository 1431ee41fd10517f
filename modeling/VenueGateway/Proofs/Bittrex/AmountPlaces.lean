import VenueGateway.Proofs.Bittrex.Books
import VenueGateway.Proofs.Bittrex.OpenOrders
import VenueGateway.Proofs.Bittrex.Results

/-! # Where amounts stand

Every price, quantity and balance that is answered is read from one value of the result. `AmountAt`
names the value: by side, row and column in a book, by identifier and field in a list of open orders,
and by currency and field among balances. No amount is answered from anywhere else.
-/

namespace VenueGateway

open Json (Amounts Items Members PartOf Parts Record)

namespace Bittrex

/-! ## Places -/

/-- Where a book has the rows of a side. -/
def sidePosition : Side → ℕ
  | .buy => 0
  | .sell => 1

/-- The name under which a book has the rows of a side. -/
def sideName : Side → String
  | .buy => "buy"
  | .sell => "sell"

def rowsOf (book : BookRecord) : Side → List (List Decimal)
  | .buy => book.buy
  | .sell => book.sell

def ordersOf (book : OrderBook) : Side → List MarketOrder
  | .buy => book.buys
  | .sell => book.sells

/-- Each row with the currency that it names. -/
def Named (rows : List Json) (named : List (String × Json)) : Prop :=
  List.Forall₂ (fun row entry => PartOf 3 0 "Currency" row (.str entry.1) ∧ entry.2 = row) rows named

/-- The last row of a currency. -/
def LastRow (currency : String) (rows : List Json) (row : Json) : Prop :=
  ∃ named, Named rows named ∧ NameMap.LastUnder currency named row

/-- The amounts of an order in a book, by column. -/
def orderColumns (order : MarketOrder) : List (ℕ × Decimal) := [(0, order.price), (1, order.quantity)]

/-- The amounts of an open order, by field. -/
def orderFields (order : OpenOrder) : List ((ℕ × String) × Decimal) :=
  [((2, "Quantity"), order.quantity), ((3, "QuantityRemaining"), order.remaining),
    ((4, "Limit"), order.price)]

/-- The amounts of each currency, by field. -/
def balanceFields (balances : Balances) : List ((ℕ × String) × NameMap Decimal) :=
  [((1, "Available"), balances.available), ((2, "Pending"), balances.held)]

/-- An amount of an answer, and the value of the result that stands for it. -/
inductive AmountAt : Call → Json → Answer → Json → Decimal → Prop
  | price {market : String} {result json : Json} {x : Decimal} :
    PartOf 1 0 "Last" result json → AmountAt (.latestPrice market) result (.price x) json x
  | order {market : String} {result json : Json} {book : OrderBook} {side : Side}
    {rows row : List Json} {place column : ℕ} {order : MarketOrder} {x : Decimal} :
    PartOf 2 (sidePosition side) (sideName side) result (.arr rows) →
    rows[place]? = some (.arr row) → (ordersOf book side)[place]? = some order →
    row[column]? = some json → (column, x) ∈ orderColumns order →
    AmountAt (.orderBook market) result (.orderBook book) json x
  | openOrder {market : String} {result record json : Json} {orders : List (String × Json)}
    {found : List OpenOrder} {listed : OpenOrder} {field : ℕ × String} {x : Decimal} :
    PartOf 1 0 "open" result (.obj orders) → listed ∈ found →
    NameMap.LastUnder listed.id orders record → PartOf 6 field.1 field.2 record json →
    (field, x) ∈ orderFields listed → AmountAt (.openOrders market) result (.openOrders found) json x
  | balance {rows : List Json} {row json : Json} {currency : String} {balances : Balances}
    {field : ℕ × String} {amounts : NameMap Decimal} {x : Decimal} :
    LastRow currency rows row → PartOf 3 field.1 field.2 row json →
    (field, amounts) ∈ balanceFields balances → amounts.get? currency = some x →
    AmountAt .balances (.arr rows) (.balances balances) json x

/-- All amounts of an answer that the venue states; totals are computed from them. -/
def statedAmounts : Answer → List Decimal
  | .price x => [x]
  | .orderBook book => (book.sells ++ book.buys).flatMap fun order => (orderColumns order).map Prod.snd
  | .openOrders orders => orders.flatMap fun order => (orderFields order).map Prod.snd
  | .balances balances =>
    (balanceFields balances).flatMap fun field => field.2.entries.map Prod.snd
  | .orderId _ | .cancelled | .fee _ => []

variable {result json : Json} {x : Decimal} {market : String}

/-! ## Books -/

namespace BookRecord

variable {book : BookRecord} {made : OrderBook} {parts : Parts}

theorem Stated.side (stated : Stated parts book) (side : Side) :
    parts.HoldsOr (sidePosition side) (sideName side) (Items (Items Amounts)) [] (rowsOf book side) := by
  cases side with
  | buy => exact stated.buy
  | sell => exact stated.sell

theorem mapM_rowsOf (understood : book.understand market = .ok made) (side : Side) :
    (rowsOf book side).mapM (orderOfRow side) = .ok (ordersOf made side) := by
  obtain ⟨-, sold, bought⟩ := understand_eq_ok_iff.mp understood
  cases side with
  | buy => exact bought
  | sell => exact sold

/-- Every order of a book is at the place of its row, which has its amounts in front. -/
theorem exists_row (record : Record (fun _ => True) 2 Stated result book)
    (understood : book.understand market = .ok made) {side : Side} {place : ℕ} {order : MarketOrder}
    (listed : (ordersOf made side)[place]? = some order) :
    ∃ rows row, PartOf 2 (sidePosition side) (sideName side) result (.arr rows) ∧
      rows[place]? = some (.arr row) ∧ ∀ column x, (column, x) ∈ orderColumns order →
        ∃ json, row[column]? = some json ∧ Amounts json x := by
  obtain ⟨parts, stated, part_iff⟩ := record.exists_parts
  obtain ⟨list, there, rowRead⟩ :=
    exists_getElem?_of_forall₂ (mapM_eq_ok_iff.mp (mapM_rowsOf understood side)).flip listed
  rcases stated.side side with ⟨json, found, rows, rfl, each⟩ | ⟨-, none⟩
  · obtain ⟨row, here, items, rfl, columns⟩ := exists_getElem?_of_forall₂ each.flip there
    refine ⟨rows, items, part_iff.mpr found, here, fun column x field => ?_⟩
    obtain ⟨-, price, quantity, -⟩ := orderOf_of_ok rowRead
    have column : list[column]? = some x := by
      simp only [orderColumns, List.mem_cons, Prod.mk.injEq, List.not_mem_nil, or_false] at field
      rcases field with ⟨rfl, rfl⟩ | ⟨rfl, rfl⟩
      · exact price
      · exact quantity
    exact exists_getElem?_of_forall₂ columns.flip column
  · rw [none] at there
    cases there

end BookRecord

/-! ## Open orders -/

/-- Every open order that is listed is the last one under its identifier. -/
theorem OpenOrdersRecord.exists_record {record : OpenOrdersRecord} {found : List OpenOrder}
    (read : Record (fun _ => True) 1 (Stated fun _ => True) result record)
    (understood : record.understand market = .ok found) {listed : OpenOrder} (member : listed ∈ found) :
    ∃ orders order, PartOf 1 0 "open" result (.obj orders) ∧
      NameMap.LastUnder listed.id orders order ∧ ∀ field x, (field, x) ∈ orderFields listed →
        ∃ json, PartOf 6 field.1 field.2 order json ∧ Amounts json x := by
  obtain ⟨parts, stated, part_iff⟩ := read.exists_parts
  obtain ⟨_, order, ⟨held, -⟩, listedAs⟩ := (mem_understand_iff understood).mp member
  obtain rfl := listedAs.id
  rcases stated with ⟨json, found, orders, pairs, rfl, each, same⟩ | ⟨-, none⟩
  · rw [same] at held
    obtain ⟨json, last, record⟩ := (NameMap.get?_ofList_eq_some_iff.mp held).exists_of_forall₂ each
    obtain ⟨parts, stated, orderPart_iff⟩ := record.exists_parts
    refine ⟨orders, json, part_iff.mpr found, last, fun field x listed => ?_⟩
    simp only [orderFields, List.mem_cons, Prod.mk.injEq, List.not_mem_nil, or_false] at listed
    simp only [orderPart_iff]
    rcases listed with ⟨rfl, rfl⟩ | ⟨rfl, rfl⟩ | ⟨rfl, rfl⟩
    · rw [listedAs.quantity]
      exact stated.quantity
    · rw [listedAs.remaining]
      exact stated.remaining
    · rw [listedAs.price]
      exact stated.limit
  · rw [none] at held
    cases held

/-! ## Balances -/

/-- Of a currency that is listed twice the last row counts. -/
theorem balancesOf_eq (rows : List BalanceRecord) : balancesOf rows =
    ⟨.ofList (rows.map fun row => (row.currency, row.available)),
      .ofList (rows.map fun row => (row.currency, row.pending))⟩ := by
  have each : ∀ before : Balances, rows.foldl (fun balances row =>
      ⟨balances.available.insert row.currency row.available,
        balances.held.insert row.currency row.pending⟩) before =
      ⟨(rows.map fun row => (row.currency, row.available)).foldl
          (fun map pair => map.insert pair.1 pair.2) before.available,
        (rows.map fun row => (row.currency, row.pending)).foldl
          (fun map pair => map.insert pair.1 pair.2) before.held⟩ := by
    induction rows with
    | nil => exact fun _ => rfl
    | cons row rows ih => exact fun before => ih _
  exact each ⟨∅, ∅⟩

theorem exists_of_get? {rows : List BalanceRecord} {amount : BalanceRecord → Decimal} {currency : String}
    (held : (NameMap.ofList (rows.map fun row => (row.currency, amount row))).get? currency = some x) :
    ∃ row, NameMap.LastUnder currency (rows.map fun row => (row.currency, row)) row ∧ amount row = x := by
  apply (NameMap.get?_ofList_eq_some_iff.mp held).exists_of_forall₂
  rw [List.forall₂_map_left_iff, List.forall₂_map_right_iff, List.forall₂_same]
  exact fun _ _ => ⟨rfl, rfl⟩

theorem exists_named {items : List Json} {rows : List BalanceRecord}
    (each : List.Forall₂ (Record (fun _ => True) 3 BalanceRecord.Stated) items rows) :
    ∃ named, Named items named ∧ List.Forall₂ (fun entry pair => entry.1 = pair.1 ∧
      Record (fun _ => True) 3 BalanceRecord.Stated entry.2 pair.2)
      named (rows.map fun row => (row.currency, row)) := by
  induction each with
  | nil => exact ⟨[], .nil, .nil⟩
  | @cons item row _ _ record _ ih =>
    obtain ⟨named, items, same⟩ := ih
    obtain ⟨parts, stated, part_iff⟩ := record.exists_parts
    obtain ⟨_, found, rfl⟩ := stated.currency
    exact ⟨(row.currency, item) :: named, .cons ⟨part_iff.mpr found, rfl⟩ items,
      .cons ⟨rfl, record⟩ same⟩

/-- A balance of a currency is that of its last row. -/
theorem exists_balance {items : List Json} {rows : List BalanceRecord} {currency : String}
    {field : ℕ × String} {amounts : NameMap Decimal}
    (each : List.Forall₂ (Record (fun _ => True) 3 BalanceRecord.Stated) items rows)
    (listed : (field, amounts) ∈ balanceFields (balancesOf rows))
    (held : amounts.get? currency = some x) :
    ∃ row json, LastRow currency items row ∧ PartOf 3 field.1 field.2 row json ∧ Amounts json x := by
  obtain ⟨named, rowsNamed, same⟩ := exists_named each
  simp only [balanceFields, balancesOf_eq, List.mem_cons, Prod.mk.injEq, List.not_mem_nil, or_false]
    at listed
  rcases listed with ⟨rfl, rfl⟩ | ⟨rfl, rfl⟩
  all_goals
    obtain ⟨record, lastRecord, rfl⟩ := exists_of_get? held
    obtain ⟨row, last, read⟩ := lastRecord.exists_of_forall₂ same
    obtain ⟨parts, stated, part_iff⟩ := read.exists_parts
  · obtain ⟨json, found, amounts⟩ := stated.available
    exact ⟨row, json, ⟨named, rowsNamed, last⟩, part_iff.mpr found, amounts⟩
  · obtain ⟨json, found, amounts⟩ := stated.pending
    exact ⟨row, json, ⟨named, rowsNamed, last⟩, part_iff.mpr found, amounts⟩

theorem LastRow.unique {currency : String} {rows : List Json} {row other : Json}
    (last : LastRow currency rows row) (alsoLast : LastRow currency rows other) : row = other := by
  obtain ⟨named, rowsNamed, here⟩ := last
  obtain ⟨alsoNamed, alsoRowsNamed, there⟩ := alsoLast
  have same : named = alsoNamed := by
    apply List.right_unique_forall₂' ?_ rowsNamed alsoRowsNamed
    rintro row entry other ⟨part, rfl⟩ ⟨alsoPart, same⟩
    exact Prod.ext (Json.str.inj (part.unique alsoPart)) same.symm
  exact here.unique (same ▸ there)

/-! ## All calls -/

variable {call : Call} {answer : Answer}

/-- What stands for an amount of an answer is read as it. -/
theorem AmountAt.amounts (place : AmountAt call result answer json x)
    (tells : Tells (fun _ => True) call result (.ok answer)) : Amounts json x := by
  cases place with
  | price part =>
    obtain ⟨ticker, record, ⟨⟩⟩ := tells
    obtain ⟨parts, stated, part_iff⟩ := record.exists_parts
    obtain ⟨json, found, amounts⟩ := stated
    rwa [part.unique (part_iff.mpr found)]
  | order part here listed there field =>
    obtain ⟨record, read, told⟩ := tells
    obtain ⟨book, understood, ⟨⟩⟩ := map_eq_ok_iff.mp told.symm
    obtain ⟨rows, row, alsoPart, alsoHere, columns⟩ := BookRecord.exists_row read understood listed
    obtain ⟨json, found, amounts⟩ := columns _ _ field
    cases part.unique alsoPart
    cases here.symm.trans alsoHere
    cases there.symm.trans found
    exact amounts
  | openOrder part member last orderPart field =>
    obtain ⟨record, read, told⟩ := tells
    obtain ⟨found, understood, ⟨⟩⟩ := map_eq_ok_iff.mp told.symm
    obtain ⟨orders, order, alsoPart, alsoLast, fields⟩ :=
      OpenOrdersRecord.exists_record read understood member
    obtain ⟨json, found, amounts⟩ := fields _ _ field
    cases part.unique alsoPart
    cases last.unique alsoLast
    cases orderPart.unique found
    exact amounts
  | balance last part listed held =>
    obtain ⟨rows, ⟨_, ⟨⟩, each⟩, ⟨⟩⟩ := tells
    obtain ⟨row, json, alsoLast, found, amounts⟩ := exists_balance each listed held
    cases last.unique alsoLast
    cases part.unique found
    exact amounts

/-- Every amount of an answer has its value in the result. -/
theorem exists_amountAt (tells : Tells (fun _ => True) call result (.ok answer))
    (stated : x ∈ statedAmounts answer) : ∃ json, AmountAt call result answer json x := by
  cases call with
  | latestPrice market =>
    obtain ⟨ticker, record, ⟨⟩⟩ := tells
    obtain rfl := List.mem_singleton.mp stated
    obtain ⟨parts, stated, part_iff⟩ := record.exists_parts
    obtain ⟨json, found, -⟩ := stated
    exact ⟨json, .price (part_iff.mpr found)⟩
  | orderBook market =>
    obtain ⟨record, read, told⟩ := tells
    obtain ⟨book, understood, ⟨⟩⟩ := map_eq_ok_iff.mp told.symm
    obtain ⟨order, member, stated⟩ := List.mem_flatMap.mp stated
    obtain ⟨⟨column, _⟩, field, rfl⟩ := List.mem_map.mp stated
    have side : ∃ side, order ∈ ordersOf book side := by
      rcases List.mem_append.mp member with sold | bought
      · exact ⟨.sell, sold⟩
      · exact ⟨.buy, bought⟩
    obtain ⟨side, member⟩ := side
    obtain ⟨place, listed⟩ := List.getElem?_of_mem member
    obtain ⟨rows, row, part, here, columns⟩ := BookRecord.exists_row read understood listed
    obtain ⟨json, there, -⟩ := columns _ _ field
    exact ⟨json, .order part here listed there field⟩
  | openOrders market =>
    obtain ⟨record, read, told⟩ := tells
    obtain ⟨found, understood, ⟨⟩⟩ := map_eq_ok_iff.mp told.symm
    obtain ⟨listed, member, stated⟩ := List.mem_flatMap.mp stated
    obtain ⟨⟨name, _⟩, field, rfl⟩ := List.mem_map.mp stated
    obtain ⟨orders, order, part, last, fields⟩ := OpenOrdersRecord.exists_record read understood member
    obtain ⟨json, orderPart, -⟩ := fields _ _ field
    exact ⟨json, .openOrder part member last orderPart field⟩
  | balances =>
    obtain ⟨rows, ⟨items, rfl, each⟩, ⟨⟩⟩ := tells
    obtain ⟨⟨field, amounts⟩, listed, stated⟩ := List.mem_flatMap.mp stated
    obtain ⟨⟨currency, _⟩, member, rfl⟩ := List.mem_map.mp stated
    have held := NameMap.mem_entries_iff.mp member
    obtain ⟨row, json, last, part, -⟩ := exists_balance each listed held
    exact ⟨json, .balance last part listed held⟩
  | createOrder market side quantity price =>
    obtain ⟨placed, -, ⟨⟩⟩ := tells
    cases stated
  | cancelOrder | buyFee | sellFee => cases tells

end Bittrex

end VenueGateway
