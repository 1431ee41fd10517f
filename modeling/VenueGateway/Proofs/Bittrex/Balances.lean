import VenueGateway.Proofs.Bittrex.AmountPlaces

/-! # Balances by currency

The rows of balances are told as two maps that have the same currencies. Each row sets both entries of
its currency at once and no others, so that both entries of a currency come from its last row, and rows
of different currencies can change places.
-/

namespace VenueGateway.Bittrex

variable {rows others before after : List BalanceRecord} {row : BalanceRecord} {currency : String}

def ofCurrency (currency : String) (rows : List BalanceRecord) : List BalanceRecord :=
  rows.filter fun row => row.currency = currency

/-- Rows in an order in which those of each currency follow each other as before. -/
structure Reordered (rows others : List BalanceRecord) : Prop where
  perm : others.Perm rows
  each : ∀ currency, ofCurrency currency others = ofCurrency currency rows

/-! ## The rows of a currency -/

theorem ofCurrency_eq_nil_iff :
    ofCurrency currency rows = [] ↔ ∀ row ∈ rows, row.currency ≠ currency := by
  rw [ofCurrency, List.filter_eq_nil_iff]
  simp only [decide_eq_true_eq, ne_eq]

/-- The last row of a currency, found where none of that currency follow. -/
structure LastOf (currency : String) (rows : List BalanceRecord) (row : BalanceRecord) : Prop where
  currency_eq : row.currency = currency
  split : ∃ before after, rows = before ++ row :: after ∧ ∀ later ∈ after, later.currency ≠ currency

theorem lastOf_of_getLast? (last : (ofCurrency currency rows).getLast? = some row) :
    LastOf currency rows row := by
  obtain ⟨front, selected⟩ := List.getLast?_eq_some_iff.mp last
  obtain ⟨before, rest, rfl, -, selected⟩ := List.filter_eq_append_iff.mp selected
  obtain ⟨between, after, rfl, -, named, unnamed⟩ := List.filter_eq_cons_iff.mp selected
  exact ⟨of_decide_eq_true named, before ++ between, after, by rw [List.append_assoc],
    ofCurrency_eq_nil_iff.mp unnamed⟩

/-- Rows of different currencies can change places. -/
theorem reordered_swap {next : BalanceRecord} (different : row.currency ≠ next.currency)
    (before after : List BalanceRecord) :
    Reordered (before ++ row :: next :: after) (before ++ next :: row :: after) := by
  refine ⟨(List.Perm.swap row next after).append_left before, ?each⟩
  intro currency
  rw [ofCurrency, List.filter_append, List.filter_cons, List.filter_cons, ofCurrency,
    List.filter_append, List.filter_cons, List.filter_cons]
  by_cases same : row.currency = currency
  · subst same
    simp [Ne.symm different]
  · simp [same]

/-! ## The entries of a currency -/

/-- Of the rows of a currency the last one counts. -/
theorem get?_ofList_rows (amount : BalanceRecord → Decimal) (rows : List BalanceRecord)
    (currency : String) :
    (NameMap.ofList (rows.map fun row => (row.currency, amount row))).get? currency =
      (ofCurrency currency rows).getLast?.map amount := by
  rw [NameMap.get?_ofList, List.filter_map, List.getLast?_map, Option.map_map]
  rfl

theorem get?_available (rows : List BalanceRecord) (currency : String) :
    (balancesOf rows).available.get? currency =
      (ofCurrency currency rows).getLast?.map BalanceRecord.available := by
  rw [balancesOf_eq]
  exact get?_ofList_rows BalanceRecord.available rows currency

theorem get?_held (rows : List BalanceRecord) (currency : String) :
    (balancesOf rows).held.get? currency =
      (ofCurrency currency rows).getLast?.map BalanceRecord.pending := by
  rw [balancesOf_eq]
  exact get?_ofList_rows BalanceRecord.pending rows currency

/-- A map that takes an amount from the last row of each currency has the currencies of the rows. -/
theorem mem_names_of_get? {map : NameMap Decimal} {amount : BalanceRecord → Decimal}
    (entry : map.get? currency = (ofCurrency currency rows).getLast?.map amount) :
    currency ∈ map.names ↔ ∃ row ∈ rows, row.currency = currency := by
  rw [NameMap.mem_names_iff, ← Option.isSome_iff_exists, entry, Option.isSome_map,
    Option.isSome_iff_ne_none, Ne, List.getLast?_eq_none_iff, ofCurrency_eq_nil_iff]
  push Not
  rfl

/-- The balances of rows: two maps of the same currencies, which are those of the rows, with both
entries of a currency from its last row. Rows in an order in which those of each currency follow each
other as before have the same balances. -/
theorem balancesOf_by_currency (rows : List BalanceRecord) :
    (balancesOf rows).available.names = (balancesOf rows).held.names ∧
    (∀ currency, currency ∈ (balancesOf rows).available.names ↔ ∃ row ∈ rows, row.currency = currency) ∧
    (∀ currency ∈ (balancesOf rows).available.names, ∃ row, LastOf currency rows row ∧
      (balancesOf rows).available.get? currency = some row.available ∧
        (balancesOf rows).held.get? currency = some row.pending) ∧
    ∀ others, Reordered rows others → balancesOf others = balancesOf rows := by
  have names : ∀ currency, currency ∈ (balancesOf rows).available.names ↔
      ∃ row ∈ rows, row.currency = currency :=
    fun currency => mem_names_of_get? (get?_available rows currency)
  refine ⟨?same, names, ?entries, ?reordered⟩
  case same =>
    apply NameMap.names_eq_iff.mpr
    intro currency
    exact (names currency).trans (mem_names_of_get? (get?_held rows currency)).symm
  case entries =>
    intro currency listed
    have some_row : (ofCurrency currency rows).getLast? ≠ none := by
      rw [Ne, List.getLast?_eq_none_iff, ofCurrency_eq_nil_iff]
      push Not
      exact (names currency).mp listed
    obtain ⟨row, last⟩ := Option.ne_none_iff_exists'.mp some_row
    refine ⟨row, lastOf_of_getLast? last, ?_⟩
    rw [get?_available, get?_held, last]
    exact ⟨rfl, rfl⟩
  case reordered =>
    intro others reordered
    have available : (balancesOf others).available = (balancesOf rows).available := by
      apply NameMap.eq_of_get?
      intro currency
      rw [get?_available, get?_available, reordered.each]
    have held : (balancesOf others).held = (balancesOf rows).held := by
      apply NameMap.eq_of_get?
      intro currency
      rw [get?_held, get?_held, reordered.each]
    exact congrArg₂ Balances.mk available held

/-- Rows with a currency that is listed twice, and between these another that differs by case alone. -/
def repeatedRows : List BalanceRecord :=
  [⟨"BTC", .ofPlaces 1 0, .ofPlaces 2 0⟩, ⟨"btc", .ofPlaces 5 0, .ofPlaces 6 0⟩,
    ⟨"BTC", .ofPlaces 3 0, .ofPlaces 4 0⟩]

/-- Such rows with the other currency in front. -/
def movedRows : List BalanceRecord :=
  [⟨"btc", .ofPlaces 5 0, .ofPlaces 6 0⟩, ⟨"BTC", .ofPlaces 1 0, .ofPlaces 2 0⟩,
    ⟨"BTC", .ofPlaces 3 0, .ofPlaces 4 0⟩]

/-- The order of these two currencies does not matter, and the second row of the first one counts. -/
theorem balancesOf_by_currency_repeated :
    (∃ row, LastOf "BTC" repeatedRows row ∧
      (balancesOf repeatedRows).available.get? "BTC" = some row.available ∧
      (balancesOf repeatedRows).held.get? "BTC" = some row.pending) ∧
    Reordered repeatedRows movedRows ∧ balancesOf movedRows = balancesOf repeatedRows := by
  obtain ⟨-, -, entries, reordered⟩ := balancesOf_by_currency repeatedRows
  have moved : Reordered repeatedRows movedRows := reordered_swap (by decide) [] _
  exact ⟨entries "BTC" (by decide), moved, reordered movedRows moved⟩

end VenueGateway.Bittrex
