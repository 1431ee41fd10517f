import VenueGateway.Proofs.Bittrex.Overflow
import VenueGateway.Proofs.Decimal.Value

/-! # Books of orders, row by row

A book is understood row by row, the selling side first. Each row becomes the order at its place: a
price, a quantity, and their product, which is the exact one wherever that is an amount. The first row
that is too short for an order is reported instead, as it was read.
-/

namespace VenueGateway.Bittrex

/-! ## Rows -/

/-- The order of one side that a row stands for. -/
structure OrderOf (side : Side) (row : List Decimal) (order : MarketOrder) : Prop where
  side : order.side = side
  price : row[0]? = some order.price
  quantity : row[1]? = some order.quantity
  total : order.price.IsProduct order.quantity order.total

/-- How a row that is too short is reported, with the numbers in it. -/
inductive ReportsShort : List Decimal → Abort → Prop
  | empty : ReportsShort []
      (.failure (.tradingApi "Order book row needs price and quantity. Value: []" none))
  | single (price : Decimal) : ReportsShort [price]
      (.failure (.tradingApi ("Order book row needs price and quantity. Value: [" ++ price.text ++ "]") none))

theorem orderOf_of_ok {side : Side} {row : List Decimal} {order : MarketOrder}
    (made : orderOfRow side row = .ok order) : OrderOf side row order := by
  match row with
  | [] | [_] => cases made
  | price :: quantity :: more =>
    rw [orderOfRow, MarketOrder.ofPrice?] at made
    obtain ⟨total, product, rfl⟩ := Option.map_eq_some_iff.mp (orOverflow_eq_ok_iff.mp made)
    exact ⟨rfl, rfl, rfl, Decimal.isProduct_iff.mpr product⟩

theorem orderOfRow_eq_failure_iff {failure : Failure} (side : Side) (row : List Decimal) :
    orderOfRow side row = .error (.failure failure) ↔
      row.length < 2 ∧ ReportsShort row (.failure failure) := by
  match row with
  | [] =>
    have reported : orderOfRow side [] = .error
        (.failure (.tradingApi "Order book row needs price and quantity. Value: []" none)) := by
      rfl
    rw [reported]
    constructor
    · rintro ⟨⟩
      exact ⟨by decide, .empty⟩
    · rintro ⟨-, ⟨⟩⟩
      rfl
  | [price] =>
    have reported : orderOfRow side [price] = .error (.failure (.tradingApi
        ("Order book row needs price and quantity. Value: [" ++ price.text ++ "]") none)) := by
      have bracketed : Text.bracketed [price.text] = "[" ++ (price.text ++ "]") := by
        simp [Text.bracketed, String.append_assoc]
      change unusable ("Order book row needs price and quantity. Value: " ++ Text.bracketed [price.text]) = _
      rw [bracketed, ← String.append_assoc, ← String.append_assoc]
      rfl
    rw [reported]
    constructor
    · rintro ⟨⟩
      exact ⟨by simp, .single price⟩
    · rintro ⟨-, ⟨⟩⟩
      rfl
  | price :: quantity :: more =>
    constructor
    · intro failed
      exact absurd failed (orOverflow_ne_failure _ failure)
    · rintro ⟨-, ⟨⟩⟩

/-- Where no product is too large, a row needs no more than its two numbers. -/
theorem rowFits_iff_length {row : List Decimal} (fits : ¬ RowTooLarge row) :
    RowFits row ↔ 2 ≤ row.length := by
  match row with
  | [] | [_] =>
    constructor
    · rintro ⟨_, _, _, ⟨⟩, -⟩
    · intro long
      simp at long
  | price :: quantity :: more =>
    refine ⟨fun _ => by simp, fun _ => ⟨price, quantity, more, rfl, fun large => ?_⟩⟩
    exact fits ⟨price, quantity, more, rfl, large⟩

/-! ## Books -/

namespace BookRecord

variable {market : String} {book : BookRecord}

theorem understand_eq_ok_iff {made : OrderBook} :
    book.understand market = .ok made ↔ made.market = market ∧
      book.sell.mapM (orderOfRow .sell) = .ok made.sells ∧
      book.buy.mapM (orderOfRow .buy) = .ok made.buys := by
  rw [understand, bind_eq_ok_iff]
  constructor
  · rintro ⟨sells, sold, made⟩
    obtain ⟨buys, bought, ⟨⟩⟩ := bind_eq_ok_iff.mp made
    exact ⟨rfl, sold, bought⟩
  · rintro ⟨rfl, sold, bought⟩
    exact ⟨_, sold, bind_eq_ok_iff.mpr ⟨_, bought, rfl⟩⟩

theorem understand_isOk_iff :
    (∃ made, book.understand market = .ok made) ↔ ∀ row ∈ book.sell ++ book.buy, RowFits row := by
  rw [List.forall_mem_append, ← mapM_isOk_iff (orderOfRow_isOk_iff .sell),
    ← mapM_isOk_iff (orderOfRow_isOk_iff .buy)]
  constructor
  · rintro ⟨made, understood⟩
    obtain ⟨-, sold, bought⟩ := understand_eq_ok_iff.mp understood
    exact ⟨⟨_, sold⟩, _, bought⟩
  · rintro ⟨⟨sells, sold⟩, buys, bought⟩
    exact ⟨⟨market, sells, buys⟩, understand_eq_ok_iff.mpr ⟨rfl, sold, bought⟩⟩

/-- A book without a product that is too large is understood when each row has two numbers. Its orders
are those of the rows, in their order; else the first row that is too short is reported. -/
theorem understand_by_rows (market : String) (book : BookRecord)
    (fits : ∀ row ∈ book.sell ++ book.buy, ¬ RowTooLarge row) :
    ((∃ made, book.understand market = .ok made) ↔
      ∀ row ∈ book.sell ++ book.buy, 2 ≤ row.length) ∧
    (∀ made, book.understand market = .ok made → made.market = market ∧
      List.Forall₂ (OrderOf .sell) book.sell made.sells ∧
      List.Forall₂ (OrderOf .buy) book.buy made.buys) ∧
    (∀ abort, book.understand market = .error abort ↔
      ∃ front row back, book.sell ++ book.buy = front ++ row :: back ∧
        (∀ other ∈ front, 2 ≤ other.length) ∧ row.length < 2 ∧ ReportsShort row abort) := by
  have long_iff : ∀ row ∈ book.sell ++ book.buy, (RowFits row ↔ 2 ≤ row.length) := by
    intro row member
    exact rowFits_iff_length (fits row member)
  refine ⟨?_, ?_, ?_⟩
  · rw [understand_isOk_iff]
    exact forall₂_congr long_iff
  · intro made understood
    obtain ⟨named, sold, bought⟩ := understand_eq_ok_iff.mp understood
    refine ⟨named, ?_, ?_⟩
    · exact (mapM_eq_ok_iff.mp sold).imp fun _ _ => orderOf_of_ok
    · exact (mapM_eq_ok_iff.mp bought).imp fun _ _ => orderOf_of_ok
  · rintro (failure | -)
    · rw [understand_eq_error_iff orderOfRow_eq_failure_iff, firstFault_congr long_iff,
        firstFault_iff_split]
    · constructor
      · intro overflow
        obtain ⟨row, member, large⟩ := ((understand_eq_overflow_iff market book).mp overflow).exists_mem
        exact absurd large (fits row member)
      · rintro ⟨_, _, _, -, -, -, ⟨⟩⟩

/-- A book with a row that has more than it needs, and with a short row on each side. -/
def shortRows : BookRecord where
  sell := [[.ofPlaces 25 2, .ofPlaces 4 0, .zero], [.ofPlaces 150 2], []]
  buy := [[]]

/-- The short row that comes first on the selling side is reported, with its number. -/
theorem understand_shortRows :
    (∀ row ∈ shortRows.sell ++ shortRows.buy, ¬ RowTooLarge row) ∧
      shortRows.understand "BTC-LTC" = .error
        (.failure (.tradingApi "Order book row needs price and quantity. Value: [1.50]" none)) := by
  have rows : shortRows.sell ++ shortRows.buy =
      [[.ofPlaces 25 2, .ofPlaces 4 0, .zero], [.ofPlaces 150 2], [], []] := rfl
  have fits : ∀ row ∈ shortRows.sell ++ shortRows.buy, ¬ RowTooLarge row := by
    intro row member large
    obtain ⟨price, quantity, more, rfl, large⟩ := large
    simp only [rows, List.mem_cons, List.cons.injEq, List.not_mem_nil, reduceCtorEq, and_false,
      or_false] at member
    obtain ⟨rfl, rfl, rfl⟩ := member
    exact absurd large (by decide)
  have reported : ReportsShort [.ofPlaces 150 2]
      (.failure (.tradingApi "Order book row needs price and quantity. Value: [1.50]" none)) := by
    have single := ReportsShort.single (.ofPlaces 150 2)
    have number : (Decimal.ofPlaces 150 2).text = "1.50" := by decide +kernel
    rwa [number] at single
  refine ⟨fits, ((understand_by_rows "BTC-LTC" shortRows fits).2.2 _).mpr ?_⟩
  exact ⟨[_], [.ofPlaces 150 2], [[], []], rows, by simp, by decide, reported⟩

end BookRecord

end VenueGateway.Bittrex
