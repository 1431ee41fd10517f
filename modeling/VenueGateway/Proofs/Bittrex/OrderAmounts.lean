import VenueGateway.Proofs.Bittrex.FirstSetUp
import VenueGateway.Proofs.Bittrex.Requests
import VenueGateway.Proofs.Decimal.Numeral

/-! # The amounts of an order that is sent

An order is refused unless its quantity and its price are positive, and what is sent of them is rounded
to 8 places after that. The request carries both as plain numerals, never below zero; but an amount of
half a unit of the last place, or less, is sent as zero.
-/

namespace VenueGateway.Bittrex

/-! ## Amounts -/

/-- The number that is sent for an amount: the nearest one with 8 places, and the even one of two. -/
def SentAs (x : Decimal) (q : ℚ) : Prop :=
  ∃ n : ℕ, q = n / 10 ^ 8 ∧ Decimal.NearestEven (x.value * 10 ^ 8) n

theorem numeral_amountText {x : Decimal} (positive : 0 < x.value) :
    ∃ q, Text.Numeral (amountText x) q ∧ SentAs x q := by
  have unsigned := Decimal.unsigned_of_value_pos positive
  obtain ⟨n, rounded, nearest⟩ := Decimal.nearestEven_roundTo unsigned 8
  have stillUnsigned : (x.roundTo .even 8).negative = false := by
    rw [Decimal.roundTo]
    split
    · exact unsigned
    · exact unsigned
  have numeral := Decimal.numeral_text (Decimal.normalize_unsigned stillUnsigned)
  rw [Decimal.value_normalize, rounded] at numeral
  exact ⟨_, numeral, n, rfl, nearest⟩

theorem SentAs.pos_iff {x : Decimal} {q : ℚ} (sent : SentAs x q) : 0 < q ↔ 5 / 10 ^ 9 < x.value := by
  obtain ⟨n, rfl, nearest⟩ := sent
  have numerator : (0 : ℚ) < n / 10 ^ 8 ↔ 0 < n := by
    rw [div_pos_iff_of_pos_right (by positivity)]
    exact Nat.cast_pos
  have place : (1 / 2 : ℚ) < x.value * 10 ^ 8 ↔ 5 / 10 ^ 9 < x.value := by
    constructor <;> intro more <;> linarith
  rw [numerator, ← place, ← nearest.pos_iff, Int.natCast_pos]

/-! ## Requests -/

/-- Pairs with one value under a name, which is the numeral of a number. -/
def HoldsNumeral (pairs : List (String × String)) (name : String) (q : ℚ) : Prop :=
  ∃ text, pairs.filter (fun pair => pair.1 = name) = [(name, text)] ∧ Text.Numeral text q

/-- An address whose query holds the rate and the quantity of an order as they are sent. -/
def CarriesAmounts (url : String) (quantity price : Decimal) : Prop :=
  ∃ pairs rate amount, decodedQuery? url = some pairs ∧
    HoldsNumeral pairs "rate" rate ∧ SentAs price rate ∧ (0 < rate ↔ 5 / 10 ^ 9 < price.value) ∧
    HoldsNumeral pairs "quantity" amount ∧ SentAs quantity amount ∧
    (0 < amount ↔ 5 / 10 ^ 9 < quantity.value)

theorem signed_limitOrder (side : Side) : (Operation.limitOrder side).endpoint.access = .signed := by
  cases side with
  | buy => rfl
  | sell => rfl

/-- A row of the table with an order carries its amounts. -/
theorem carriesAmounts_of_wire {key market url base path : String} {nonce : ℕ} {quantity price : Decimal}
    (positive : 0 < quantity.value) (alsoPositive : 0 < price.value)
    (carries : CarriesQuery url base path [("apikey", key), ("market", market),
      ("nonce", toString nonce), ("quantity", amountText quantity), ("rate", amountText price)]) :
    CarriesAmounts url quantity price := by
  obtain ⟨rate, rateNumeral, rateSent⟩ := numeral_amountText alsoPositive
  obtain ⟨amount, amountNumeral, amountSent⟩ := numeral_amountText positive
  refine ⟨_, rate, amount, carries.decoded, ⟨_, ?_, rateNumeral⟩, rateSent, rateSent.pos_iff,
    ⟨_, ?_, amountNumeral⟩, amountSent, amountSent.pos_iff⟩
  · simp
  · simp

namespace Client

variable {client : Client} {settings : VenueSettings} {nonces : NonceCounter}

/-- Whatever a client was asked since it was set up, an order that it sends carries plain numerals of
its price and quantity to 8 places. They are positive where the amounts are more than half a unit of the
last place. -/
theorem sent_amounts (fresh : client.readiness = .uninitialized)
    (done : (client.setUp settings nonces).1 = .ok ()) (actions : List Action) {transport : Transport}
    {market : String} {side : Side} {quantity price : Decimal} {request : Request}
    (sent : (((client.setUp settings nonces).2.run actions).answer transport
      (.createOrder market side quantity price)).sent = some request) :
    CarriesAmounts request.url quantity price := by
  obtain ⟨session, serves⟩ := serves_run fresh done actions
  have next : session.channel.nonces.HasNext := by
    obtain ⟨operation, query, read, wired, built⟩ := Session.sent_eq_some (serves.sent_eq_some sent)
    cases wired
    exact Channel.hasNext_of_request? (signed_limitOrder side) built
  by_cases positive : 0 < quantity.units ∧ 0 < price.units
  · have wired : wire? session.channel.key session.channel.nonces.next.val
        (.createOrder market side quantity price) = some _ := if_pos positive
    obtain ⟨found, alsoSent, -, carries⟩ := serves.sent next wired transport
    obtain rfl : request = found := Option.some.inj (sent.symm.trans alsoSent)
    exact carriesAmounts_of_wire (Decimal.value_pos_iff.mpr positive.1)
      (Decimal.value_pos_iff.mpr positive.2) carries
  · have unwired : wire? session.channel.key session.channel.nonces.next.val
        (.createOrder market side quantity price) = none := if_neg positive
    rw [(serves.silent unwired transport).1] at sent
    cases sent

/-- A client asked, after its setup, to buy some quantity for a price of one. -/
def buying (nonces : NonceCounter) (quantity : Decimal) : Step Client Answer :=
  ((new true).setUp plainSettings nonces).2.answer (fun _ => .error (.network "offline"))
    (.createOrder "BTC-LTC" .buy quantity (.ofPlaces 1 0))

/-- A little more than half a unit of the 8th place. -/
def overHalf : Decimal := .ofPlaces 51 10

/-- An order of it is sent, for one unit of the 8th place. -/
theorem sent_amounts_overHalf :
    (new true).readiness = .uninitialized ∧ ((new true).setUp plainSettings ⟨1000⟩).1 = .ok () ∧
      5 / 10 ^ 9 < overHalf.value ∧ ∃ request, (buying ⟨1000⟩ overHalf).sent = some request ∧
        CarriesAmounts request.url overHalf (.ofPlaces 1 0) := by
  have done : ((new true).setUp plainSettings ⟨1000⟩).1 = .ok () := by decide +kernel
  have sends : (buying ⟨1000⟩ overHalf).sent.isSome = true := by decide +kernel
  obtain ⟨request, sent⟩ := Option.isSome_iff_exists.mp sends
  have value : overHalf.value = 51 / 10 ^ 10 := by
    rw [overHalf, Decimal.value_ofPlaces (by decide)]
    norm_num
  refine ⟨rfl, done, ?_, request, sent, sent_amounts rfl done [] sent⟩
  rw [value]
  norm_num

def half : Decimal := .ofPlaces 5 9

/-- An order of it is sent as well, for nothing at all. -/
theorem sent_half :
    0 < half.value ∧ ((new true).setUp plainSettings ⟨1000⟩).1 = .ok () ∧
      ∃ request pairs, (buying ⟨1000⟩ half).sent = some request ∧ decodedQuery? request.url = some pairs ∧
        HoldsNumeral pairs "quantity" 0 ∧ ∀ q, HoldsNumeral pairs "quantity" q → q = 0 := by
  have done : ((new true).setUp plainSettings ⟨1000⟩).1 = .ok () := by decide +kernel
  have carried : ((buying ⟨1000⟩ half).sent.bind fun request => decodedQuery? request.url) =
      some [("apikey", "key"), ("market", "BTC-LTC"), ("nonce", "1000"), ("quantity", "0"),
        ("rate", "1")] := by decide +kernel
  obtain ⟨request, sent, decoded⟩ := Option.bind_eq_some_iff.mp carried
  have zero : Text.Numeral "0" 0 :=
    ⟨['0'], [], List.cons_ne_nil _ _, List.forall_mem_singleton.mpr rfl, rfl,
      by simp [Text.digitsValue, Text.digitValue]⟩
  have value : half.value = 5 / 10 ^ 9 := by
    rw [half, Decimal.value_ofPlaces (by decide)]
    norm_num
  have positive : 0 < half.value := by rw [value]; norm_num
  refine ⟨positive, done, request, _, sent, decoded, ⟨"0", rfl, zero⟩, ?_⟩
  rintro q ⟨text, held, numeral⟩
  obtain rfl : "0" = text := (Prod.mk.inj (List.cons.inj held).1).2
  exact numeral.unique zero

end Client

end VenueGateway.Bittrex
