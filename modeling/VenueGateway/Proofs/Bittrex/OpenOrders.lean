import VenueGateway.Proofs.Bittrex.Overflow
import VenueGateway.Proofs.Decimal.Value
import VenueGateway.Proofs.NameMap
import VenueGateway.Proofs.Text.Bytes
import VenueGateway.Proofs.Text.Spelling

/-! # Open orders, one by one

The open orders of a market are listed in the order of their identifiers' bytes, each from its own
record. Records of other markets are not looked at, whatever they hold. The least identifier whose
record cannot be read decides how a list fails.
-/

namespace VenueGateway.Bittrex

/-! ## Kinds -/

def limitKind : Side → String
  | .buy => "LIMIT_BUY"
  | .sell => "LIMIT_SELL"

def unknownKind (kind : String) : Failure :=
  .tradingApi ("Unrecognised order type received in getYourOpenOrders(). Value: " ++ kind) none

theorem readKind_eq_ok_iff {kind : String} {side : Side} :
    readKind kind = .ok side ↔ kind = limitKind side := by
  constructor
  · intro read
    rw [readKind] at read
    split at read
    · cases read
      assumption
    · split at read
      · cases read
        assumption
      · cases read
  · rintro rfl
    cases side <;> rfl

theorem readKind_eq_error_iff {kind : String} {failure : Failure} :
    readKind kind = .error failure ↔ (∀ side, kind ≠ limitKind side) ∧ failure = unknownKind kind := by
  constructor
  · intro failed
    constructor
    · intro side same
      rw [readKind_eq_ok_iff.mpr same] at failed
      cases failed
    · rw [readKind] at failed
      split at failed
      · cases failed
      · split at failed
        · cases failed
        · exact (Except.error.inj failed).symm
  · rintro ⟨neither, rfl⟩
    exact (if_neg (neither .buy)).trans (if_neg (neither .sell))

/-! ## Orders -/

namespace OpenOrderRecord

variable {order : OpenOrderRecord} {market id : String}

/-- An open order whose time is a timestamp, and whose kind is one of the two. -/
def Legible (order : OpenOrderRecord) : Prop :=
  (∃ opened, readTimestamp order.opened = .ok opened) ∧ ∃ side, order.kind = limitKind side

theorem legible_iff_readable : order.Legible ↔ order.Readable := by
  simp only [Legible, Readable, readKind_eq_ok_iff]

/-- What is listed for an open order of a market. -/
structure ListedAs (order : OpenOrderRecord) (market id : String) (listed : OpenOrder) : Prop where
  id : listed.id = id
  createdAt : readTimestamp order.opened = .ok listed.createdAt
  market : listed.market = market
  side : order.kind = limitKind listed.side
  price : listed.price = order.limit
  quantity : listed.quantity = order.quantity
  remaining : listed.remaining = order.remaining
  total : order.limit.IsProduct order.quantity listed.total

theorem understand_eq_ok_iff {listed : OpenOrder} :
    order.understand market id = .ok listed ↔ order.ListedAs market id listed := by
  constructor
  · intro understood
    obtain ⟨createdAt, opened, understood⟩ := bind_eq_ok_iff.mp understood
    obtain ⟨side, kind, understood⟩ := bind_eq_ok_iff.mp understood
    obtain ⟨total, product, ⟨⟩⟩ := bind_eq_ok_iff.mp understood
    have made := Decimal.isProduct_iff.mpr (orOverflow_eq_ok_iff.mp product)
    exact ⟨rfl, mapError_eq_ok_iff.mp opened, rfl, readKind_eq_ok_iff.mp (mapError_eq_ok_iff.mp kind),
      rfl, rfl, rfl, made⟩
  · rintro ⟨rfl, opened, rfl, kind, price, quantity, remaining, total⟩
    rw [understand, opened, readKind_eq_ok_iff.mpr kind, total.made, ← price, ← quantity, ← remaining]
    rfl

/-- The failure of an open order: its time is read first, and its kind after that. -/
inductive FailsWith (order : OpenOrderRecord) : Failure → Prop
  | opened {failure : Failure} :
    readTimestamp order.opened = .error failure → FailsWith order failure
  | kind {opened : Instant} : readTimestamp order.opened = .ok opened →
    (∀ side, order.kind ≠ limitKind side) → FailsWith order (unknownKind order.kind)

theorem understand_eq_failure_iff {failure : Failure} :
    order.understand market id = .error (.failure failure) ↔ order.FailsWith failure := by
  constructor
  · intro failed
    cases opened : readTimestamp order.opened with
    | error cause =>
      rw [understand, opened] at failed
      cases failed
      exact .opened opened
    | ok createdAt =>
      cases kind : readKind order.kind with
      | error cause =>
        rw [understand, opened, kind] at failed
        cases failed
        obtain ⟨neither, rfl⟩ := readKind_eq_error_iff.mp kind
        exact .kind opened neither
      | ok side =>
        rw [understand, opened, kind] at failed
        cases product : orOverflow (order.limit.mul? order.quantity) with
        | error cause =>
          rw [product] at failed
          cases failed
          exact absurd product (orOverflow_ne_failure _ failure)
        | ok total =>
          rw [product] at failed
          cases failed
  · rintro (opened | ⟨opened, neither⟩)
    · rw [understand, opened]
      rfl
    · rw [understand, opened, readKind_eq_error_iff.mpr ⟨neither, rfl⟩]
      rfl

end OpenOrderRecord

/-! ## Lists -/

namespace OpenOrdersRecord

variable {market id : String} {order : OpenOrderRecord} {record : OpenOrdersRecord}

/-- An order that is open in a market, under its identifier. The case of letters of the market does
not matter. -/
def Holds (record : OpenOrdersRecord) (market id : String) (order : OpenOrderRecord) : Prop :=
  record.orders.get? id = some order ∧ Text.lower order.market = Text.lower market

theorem mem_ofMarket_iff : (id, order) ∈ record.ofMarket market ↔ record.Holds market id order := by
  rw [ofMarket, List.mem_filter, NameMap.mem_entries_iff, Text.sameIgnoringCase_iff, Holds]

theorem increasing_ofMarket (market : String) (record : OpenOrdersRecord) :
    (record.ofMarket market).Pairwise fun a b => Text.utf8 a.1 < Text.utf8 b.1 :=
  (record.orders.increasing.filter _).imp Text.utf8_lt_utf8_iff.mpr

theorem understand_eq (market : String) (record : OpenOrdersRecord) : record.understand market =
    (record.ofMarket market).mapM fun entry => entry.2.understand market entry.1 := rfl

theorem understand_eq_failure_iff {failure : Failure} :
    record.understand market = .error (.failure failure) ↔
      FirstFault (fun entry => entry.2.Fits) (fun entry => entry.2.FailsWith failure)
        (record.ofMarket market) :=
  mapM_eq_error_iff (fun entry => entry.2.understand_isOk_iff market entry.1)
    (fun _ => OpenOrderRecord.understand_eq_failure_iff) _

theorem understand_isOk_iff : (∃ found, record.understand market = .ok found) ↔
    ∀ id order, record.Holds market id order → order.Fits := by
  have entries := mapM_isOk_iff (fun entry : String × OpenOrderRecord =>
    entry.2.understand_isOk_iff market entry.1) (record.ofMarket market)
  simp only [Prod.forall, mem_ofMarket_iff] at entries
  exact entries

theorem mem_understand_iff {found : List OpenOrder} (understood : record.understand market = .ok found)
    {listed : OpenOrder} :
    listed ∈ found ↔ ∃ id order, record.Holds market id order ∧ order.ListedAs market id listed := by
  rw [understand_eq] at understood
  have members := mem_iff_of_mapM understood listed
  simp only [Prod.exists, mem_ofMarket_iff, OpenOrderRecord.understand_eq_ok_iff] at members
  exact members

theorem increasing_of_understand {found : List OpenOrder}
    (understood : record.understand market = .ok found) :
    found.Pairwise fun a b => Text.utf8 a.id < Text.utf8 b.id := by
  rw [understand_eq] at understood
  have pairs := mapM_eq_ok_iff.mp understood
  have ids : (record.ofMarket market).map Prod.fst = found.map OpenOrder.id := by
    rw [← List.forall₂_eq_eq_eq, List.forall₂_map_left_iff, List.forall₂_map_right_iff]
    exact pairs.imp fun _ _ listed => (OpenOrderRecord.understand_eq_ok_iff.mp listed).id.symm
  have increasing := record.increasing_ofMarket market
  rw [← List.pairwise_map (f := Prod.fst) (R := fun s t => Text.utf8 s < Text.utf8 t), ids,
    List.pairwise_map] at increasing
  exact increasing

/-- Where no product is too large, the open orders of a market are understood when each of them is
legible, and listed by increasing identifiers then; else the least identifier of one that is not decides.
-/
theorem understand_by_ids (market : String) (record : OpenOrdersRecord)
    (fits : ∀ id order, record.Holds market id order → ¬ order.limit.TooLarge order.quantity) :
    ((∃ found, record.understand market = .ok found) ↔
      ∀ id order, record.Holds market id order → order.Legible) ∧
    (∀ found, record.understand market = .ok found →
      (found.Pairwise fun a b => Text.utf8 a.id < Text.utf8 b.id) ∧
      (∀ listed, listed ∈ found ↔
        ∃ id order, record.Holds market id order ∧ order.ListedAs market id listed) ∧
      ∀ id order, record.Holds market id order → ∃ listed ∈ found, order.ListedAs market id listed) ∧
    (∀ abort, record.understand market = .error abort ↔
      ∃ id order failure, record.Holds market id order ∧ order.FailsWith failure ∧
        abort = .failure failure ∧ ∀ other earlier, record.Holds market other earlier →
          Text.utf8 other < Text.utf8 id → earlier.Legible) := by
  have fits_iff : ∀ entry ∈ record.ofMarket market, (entry.2.Fits ↔ entry.2.Legible) := by
    intro entry member
    rw [OpenOrderRecord.legible_iff_readable]
    exact and_iff_left (fits entry.1 entry.2 (mem_ofMarket_iff.mp member))
  refine ⟨?_, ?_, ?_⟩
  · rw [understand_isOk_iff]
    exact forall₃_congr fun id order held => fits_iff (id, order) (mem_ofMarket_iff.mpr held)
  · intro found understood
    refine ⟨increasing_of_understand understood, fun _ => mem_understand_iff understood, ?_⟩
    intro id order held
    have fit := understand_isOk_iff.mp ⟨found, understood⟩ id order held
    obtain ⟨listed, made⟩ := (order.understand_isOk_iff market id).mpr fit
    have listedAs := OpenOrderRecord.understand_eq_ok_iff.mp made
    exact ⟨listed, (mem_understand_iff understood).mpr ⟨id, order, held, listedAs⟩, listedAs⟩
  · rintro (failure | -)
    · rw [understand_eq_failure_iff, firstFault_congr fits_iff,
        firstFault_iff_of_pairwise List.lt_asymm (record.increasing_ofMarket market)]
      simp only [Prod.exists, Prod.forall, mem_ofMarket_iff]
      constructor
      · rintro ⟨id, order, held, fails, earliest⟩
        exact ⟨id, order, failure, held, fails, rfl, earliest⟩
      · rintro ⟨id, order, _, held, fails, ⟨⟩, earliest⟩
        exact ⟨id, order, held, fails, earliest⟩
    · constructor
      · intro overflow
        obtain ⟨⟨id, order⟩, member, -, large⟩ :=
          ((understand_eq_overflow_iff market record).mp overflow).exists_mem
        exact absurd large (fits id order (mem_ofMarket_iff.mp member))
      · rintro ⟨_, _, _, -, -, ⟨⟩, -⟩

def plainOrder : OpenOrderRecord where
  market := "btc-ltc"
  kind := "LIMIT_SELL"
  quantity := .ofPlaces 5 0
  remaining := .ofPlaces 45 1
  limit := .ofPlaces 25 2
  opened := "2014-07-09T03:55:48.77"

/-- An order of an unknown kind. -/
def oddOrder : OpenOrderRecord := { plainOrder with market := "BTC-LTC", kind := "CONDITIONAL" }

/-- An order without a timestamp. -/
def untimedOrder : OpenOrderRecord := { plainOrder with opened := "never" }

/-- Orders of which the second and the third cannot be read, and one of another market in front. -/
def mixedOrders : OpenOrdersRecord where
  orders := .ofList [("c", untimedOrder), ("b", oddOrder), ("a", plainOrder),
    ("A", { plainOrder with market := "BTC-DOGE", opened := "" })]

/-- The kind of the second order of the market is reported. -/
theorem understand_mixedOrders :
    (∀ id order, mixedOrders.Holds "BTC-LTC" id order → ¬ order.limit.TooLarge order.quantity) ∧
      mixedOrders.understand "BTC-LTC" = .error (.failure (unknownKind "CONDITIONAL")) := by
  have entries : mixedOrders.ofMarket "BTC-LTC" =
      [("a", plainOrder), ("b", oddOrder), ("c", untimedOrder)] := by
    decide +kernel
  have held_iff : ∀ id order, mixedOrders.Holds "BTC-LTC" id order ↔ (id, order) ∈
      [("a", plainOrder), ("b", oddOrder), ("c", untimedOrder)] := by
    intro id order
    rw [← entries, mem_ofMarket_iff]
  have fits : ∀ id order, mixedOrders.Holds "BTC-LTC" id order →
      ¬ order.limit.TooLarge order.quantity := by
    intro id order held
    simp only [held_iff, List.mem_cons, Prod.mk.injEq, List.not_mem_nil, or_false] at held
    rcases held with ⟨-, rfl⟩ | ⟨-, rfl⟩ | ⟨-, rfl⟩ <;> decide
  have opened : readTimestamp plainOrder.opened = .ok ⟨16260, 14148, 770000000⟩ := by decide +kernel
  have odd : oddOrder.FailsWith (unknownKind "CONDITIONAL") :=
    .kind opened fun side => by cases side <;> decide
  have legible : plainOrder.Legible := ⟨⟨_, opened⟩, .sell, rfl⟩
  refine ⟨fits, ((understand_by_ids "BTC-LTC" mixedOrders fits).2.2 _).mpr
    ⟨"b", oddOrder, _, (held_iff _ _).mpr (by simp), odd, rfl, ?_⟩⟩
  intro other earlier alsoHeld less
  simp only [held_iff, List.mem_cons, Prod.mk.injEq, List.not_mem_nil, or_false] at alsoHeld
  rcases alsoHeld with ⟨-, rfl⟩ | ⟨rfl, -⟩ | ⟨rfl, -⟩
  · exact legible
  · exact absurd (Text.utf8_lt_utf8_iff.mp less) (by decide)
  · exact absurd (Text.utf8_lt_utf8_iff.mp less) (by decide)

end OpenOrdersRecord

end VenueGateway.Bittrex
