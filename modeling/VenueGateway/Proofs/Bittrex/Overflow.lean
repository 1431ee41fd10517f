import VenueGateway.Proofs.Bittrex.History
import VenueGateway.Proofs.Channel.Outcome
import VenueGateway.Proofs.Decimal.Product
import VenueGateway.Proofs.Traversal

/-! # Calls that a product brings down

The totals of an order book and of open orders are products of amounts that the venue chooses. A
reply can therefore name a total that is no amount, and the call is then given up without an answer
and without a failure. It is given up exactly when the first row that cannot be understood is of this
kind; no other call multiplies.
-/

namespace VenueGateway

namespace Channel

variable {α β : Type} {channel : Channel} {network : NetworkSettings} {transport : Transport}
  {endpoint : Endpoint} {query : Query}

theorem exchange_eq_overflow_iff {read : Response → Except Abort α} :
    (channel.exchange transport endpoint query read).outcome = .error .overflow ↔
      ∃ request response, channel.request? endpoint query = some request ∧
        transport request = .ok response ∧ ¬ channel.tolerance.Refuses response ∧
        read response = .error .overflow := by
  cases built : channel.request? endpoint query with
  | none =>
    rw [exchange_outcome_of_none _ _ built]
    constructor
    · rintro ⟨⟩
    · rintro ⟨_, _, ⟨⟩, -⟩
  | some request =>
    rw [exchange_outcome_of_some _ _ built]
    cases reached : transport request with
    | error failure =>
      constructor
      · rintro ⟨⟩
      · rintro ⟨_, response, ⟨⟩, reached', -⟩
        rw [reached] at reached'
        cases reached'
    | ok response =>
      rw [receive]
      rcases channel.tolerance.checkResponse_cases response with
        ⟨refused, detail, checked⟩ | ⟨passed, checked⟩
      · rw [checked]
        constructor
        · rintro ⟨⟩
        · rintro ⟨_, response', ⟨⟩, reached', passed, -⟩
          rw [reached] at reached'
          cases reached'
          exact absurd refused passed
      · rw [checked]
        refine ⟨fun overflow => ⟨request, response, rfl, reached, passed, overflow⟩, ?_⟩
        rintro ⟨_, response', ⟨⟩, reached', -, overflow⟩
        rw [reached] at reached'
        cases reached'
        exact overflow

/-- A call overflows only by what the domain makes of the value that its reply delivers. -/
theorem call_eq_overflow_iff (configured : channel.tolerance = .ofSettings network)
    (distinct : channel.profile.envelope.message ≠ channel.profile.envelope.result)
    {context : String} {shape : Json.Shape α} {understand : α → Except Abort β} :
    (channel.call transport endpoint query context shape understand).outcome = .error .overflow ↔
      ∃ request response,
        (channel.call transport endpoint query context shape understand).sent = some request ∧
        transport request = .ok response ∧
        ∃ value, network.Delivers channel.profile.envelope shape response value ∧
          understand value = .error .overflow := by
  rw [call, exchange_sent, exchange_eq_overflow_iff]
  simp only [(channel.rules context).readResult_eq_overflow_iff distinct,
    delivers_iff configured, and_assoc, exists_and_left]
  rfl

end Channel

namespace Bittrex

/-! ## Rows and orders -/

theorem orOverflow_eq_ok_iff {α : Type} {found : Option α} {value : α} :
    orOverflow found = .ok value ↔ found = some value := by
  cases found with
  | none => exact ⟨nofun, nofun⟩
  | some other => simp [orOverflow]

theorem orOverflow_eq_overflow_iff {α : Type} {found : Option α} :
    orOverflow found = .error .overflow ↔ found = none := by
  cases found with
  | none => simp [orOverflow]
  | some value => exact ⟨nofun, nofun⟩

theorem orOverflow_ne_failure {α : Type} (found : Option α) (failure : Failure) :
    orOverflow found ≠ .error (.failure failure) := by
  cases found with
  | none => exact nofun
  | some value => exact nofun

/-- A row whose price and quantity have a product. -/
def RowFits (row : List Decimal) : Prop :=
  ∃ price quantity more, row = price :: quantity :: more ∧ ¬ price.TooLarge quantity

/-- A row whose price and quantity are too large to have a product. -/
def RowTooLarge (row : List Decimal) : Prop :=
  ∃ price quantity more, row = price :: quantity :: more ∧ price.TooLarge quantity

theorem orderOfRow_isOk_iff (side : Side) (row : List Decimal) :
    (∃ order, orderOfRow side row = .ok order) ↔ RowFits row := by
  match row with
  | [] | [_] => exact ⟨nofun, nofun⟩
  | price :: quantity :: more =>
    rw [orderOfRow, MarketOrder.ofPrice?]
    constructor
    · rintro ⟨order, made⟩
      refine ⟨price, quantity, more, rfl, fun large => ?_⟩
      rw [(Decimal.mul?_eq_none_iff price quantity).mpr large] at made
      cases made
    · rintro ⟨_, _, _, ⟨⟩, fits⟩
      rw [← Decimal.mul?_eq_none_iff] at fits
      obtain ⟨total, product⟩ := Option.ne_none_iff_exists'.mp fits
      rw [product]
      exact ⟨_, rfl⟩

theorem orderOfRow_eq_overflow_iff (side : Side) (row : List Decimal) :
    orderOfRow side row = .error .overflow ↔ RowTooLarge row := by
  match row with
  | [] | [_] => exact ⟨nofun, nofun⟩
  | price :: quantity :: more =>
    rw [orderOfRow, orOverflow_eq_overflow_iff, MarketOrder.ofPrice?, Option.map_eq_none_iff,
      Decimal.mul?_eq_none_iff]
    constructor
    · intro large
      exact ⟨price, quantity, more, rfl, large⟩
    · rintro ⟨_, _, _, ⟨⟩, large⟩
      exact large

/-- A book fails at the first row that has no order, for the cause of that row; the selling side is the
first one. -/
theorem BookRecord.understand_eq_error_iff {cause : Abort} {faulty : List Decimal → Prop}
    (faults : ∀ side row, orderOfRow side row = .error cause ↔ faulty row) (market : String)
    (book : BookRecord) :
    book.understand market = .error cause ↔ FirstFault RowFits faulty (book.sell ++ book.buy) := by
  have faults := fun side => mapM_eq_error_iff (orderOfRow_isOk_iff side) (faults side)
  rw [firstFault_append, ← faults .sell, ← faults .buy, ← mapM_isOk_iff (orderOfRow_isOk_iff .sell),
    BookRecord.understand, bind_eq_error_iff]
  refine or_congr Iff.rfl ⟨?_, ?_⟩
  · rintro ⟨sells, read, fault⟩
    obtain fault | ⟨_, _, ⟨⟩⟩ := bind_eq_error_iff.mp fault
    exact ⟨⟨sells, read⟩, fault⟩
  · rintro ⟨⟨sells, read⟩, fault⟩
    exact ⟨sells, read, bind_eq_error_iff.mpr (.inl fault)⟩

/-- A book overflows at the first row that has no order, if that is for its product. -/
theorem BookRecord.understand_eq_overflow_iff (market : String) (book : BookRecord) :
    book.understand market = .error .overflow ↔
      FirstFault RowFits RowTooLarge (book.sell ++ book.buy) :=
  book.understand_eq_error_iff orderOfRow_eq_overflow_iff market

/-- An open order whose time and kind can be read. -/
def OpenOrderRecord.Readable (order : OpenOrderRecord) : Prop :=
  (∃ opened, readTimestamp order.opened = .ok opened) ∧ ∃ side, readKind order.kind = .ok side

def OpenOrderRecord.Fits (order : OpenOrderRecord) : Prop :=
  order.Readable ∧ ¬ order.limit.TooLarge order.quantity

def OpenOrderRecord.TooLarge (order : OpenOrderRecord) : Prop :=
  order.Readable ∧ order.limit.TooLarge order.quantity

/-- The three ways of an open order. -/
theorem OpenOrderRecord.understand_cases (market id : String) (order : OpenOrderRecord) :
    (order.Fits ∧ ∃ found, order.understand market id = .ok found) ∨
      (order.TooLarge ∧ order.understand market id = .error .overflow) ∨
      (¬ order.Readable ∧ ∃ failure, order.understand market id = .error (.failure failure)) := by
  cases opened : readTimestamp order.opened with
  | error failure =>
    refine .inr (.inr ⟨fun readable => ?_, failure, ?_⟩)
    · obtain ⟨⟨_, read⟩, -⟩ := readable
      rw [opened] at read
      cases read
    · rw [understand, opened]
      rfl
  | ok createdAt =>
    cases kind : readKind order.kind with
    | error failure =>
      refine .inr (.inr ⟨fun readable => ?_, failure, ?_⟩)
      · obtain ⟨-, _, read⟩ := readable
        rw [kind] at read
        cases read
      · rw [understand, opened, kind]
        rfl
    | ok side =>
      have readable : order.Readable := ⟨⟨createdAt, opened⟩, side, kind⟩
      rw [Fits, TooLarge, understand, opened, kind, ← Decimal.mul?_eq_none_iff]
      cases order.limit.mul? order.quantity with
      | none => exact .inr (.inl ⟨⟨readable, rfl⟩, rfl⟩)
      | some total => exact .inl ⟨⟨readable, nofun⟩, _, rfl⟩

theorem OpenOrderRecord.understand_isOk_iff (market id : String) (order : OpenOrderRecord) :
    (∃ found, order.understand market id = .ok found) ↔ order.Fits := by
  rcases order.understand_cases market id with
    ⟨fits, found, understood⟩ | ⟨large, understood⟩ | ⟨unreadable, failure, understood⟩
  · exact ⟨fun _ => fits, fun _ => ⟨found, understood⟩⟩
  · rw [understood]
    exact ⟨nofun, fun fits => absurd large.2 fits.2⟩
  · rw [understood]
    exact ⟨nofun, fun fits => absurd fits.1 unreadable⟩

theorem OpenOrderRecord.understand_eq_overflow_iff (market id : String) (order : OpenOrderRecord) :
    order.understand market id = .error .overflow ↔ order.TooLarge := by
  rcases order.understand_cases market id with
    ⟨fits, found, understood⟩ | ⟨large, understood⟩ | ⟨unreadable, failure, understood⟩
  · rw [understood]
    exact ⟨nofun, fun large => absurd large.2 fits.2⟩
  · exact ⟨fun _ => large, fun _ => understood⟩
  · rw [understood]
    exact ⟨nofun, fun large => absurd large.1 unreadable⟩

/-- The open orders of one market, in the order of their identifiers. -/
def OpenOrdersRecord.ofMarket (market : String) (record : OpenOrdersRecord) :
    List (String × OpenOrderRecord) :=
  record.orders.entries.filter fun entry => Text.sameIgnoringCase entry.2.market market

/-- Open orders overflow at the first one of the market that cannot be understood, if that is for its
product. -/
theorem OpenOrdersRecord.understand_eq_overflow_iff (market : String) (record : OpenOrdersRecord) :
    record.understand market = .error .overflow ↔
      FirstFault (fun entry => entry.2.Fits) (fun entry => entry.2.TooLarge) (record.ofMarket market) :=
  mapM_eq_error_iff (fun entry => entry.2.understand_isOk_iff market entry.1)
    (fun entry => entry.2.understand_eq_overflow_iff market entry.1) _

/-! ## Calls -/

/-- A reply that a call does not survive. -/
def Overflows (network : NetworkSettings) (response : Response) : Call → Prop
  | .orderBook _ => ∃ book, network.Delivers .standard BookRecord.shape response book ∧
      FirstFault RowFits RowTooLarge (book.sell ++ book.buy)
  | .openOrders market => ∃ record, network.Delivers .standard OpenOrdersRecord.shape response record ∧
      FirstFault (fun entry => entry.2.Fits) (fun entry => entry.2.TooLarge) (record.ofMarket market)
  | _ => False

section Session

variable {session : Session} {base : String} {settings : VenueSettings} {α : Type}

/-- The overflow of a call that reads a result. -/
private theorem call_overflows_iff (setUpFor : session.SetUpFor base settings) (transport : Transport)
    (operation : Operation) (query : Query) (shape : Json.Shape α)
    (understand : α → Except Abort Answer) :
    (session.channel.call transport operation.endpoint query operation.context shape
        understand).outcome = .error .overflow ↔
      ∃ request response,
        (session.channel.call transport operation.endpoint query operation.context shape
          understand).sent = some request ∧ transport request = .ok response ∧
        ∃ value, settings.network.Delivers .standard shape response value ∧
          understand value = .error .overflow := by
  have envelope : session.channel.profile.envelope = .standard := by rw [setUpFor.profile, profile]
  rw [Channel.call_eq_overflow_iff setUpFor.tolerance (by rw [envelope]; decide), envelope]

theorem Session.answer_eq_overflow_iff (setUpFor : session.SetUpFor base settings)
    (transport : Transport) (call : Call) :
    (session.answer transport call).outcome = .error .overflow ↔
      ∃ request response, (session.answer transport call).sent = some request ∧
        transport request = .ok response ∧ Overflows settings.network response call := by
  cases call with
  | orderBook market =>
    refine (call_overflows_iff setUpFor transport .orderBook _ _ _).trans ?_
    simp only [map_eq_error_iff, BookRecord.understand_eq_overflow_iff]
    rfl
  | openOrders market =>
    refine (call_overflows_iff setUpFor transport .openOrders _ _ _).trans ?_
    simp only [map_eq_error_iff, OpenOrdersRecord.understand_eq_overflow_iff]
    rfl
  | createOrder market side quantity price =>
    refine (call_overflows_iff setUpFor transport (.limitOrder side) _ _ _).trans ?_
    exact ⟨nofun, nofun⟩
  | latestPrice market =>
    refine (call_overflows_iff setUpFor transport .ticker _ _ _).trans ?_
    exact ⟨nofun, nofun⟩
  | balances =>
    refine (call_overflows_iff setUpFor transport .balances _ _ _).trans ?_
    exact ⟨nofun, nofun⟩
  | cancelOrder id market =>
    refine Channel.exchange_eq_overflow_iff.trans ⟨?_, nofun⟩
    rintro ⟨_, response, -, -, -, overflow⟩
    exact absurd (map_eq_error_iff.mp overflow) (ReplyRules.readFlag_ne_overflow _ response)
  | buyFee market => exact ⟨nofun, nofun⟩
  | sellFee market => exact ⟨nofun, nofun⟩

end Session

namespace Client

/-- Whatever a client was asked since it was set up, a call on it overflows exactly when the one reply
that it reads is a book or a list of open orders whose first unusable row has a product that is too
large. -/
theorem answer_overflows_iff {client : Client} {settings : VenueSettings} {nonces : NonceCounter}
    (fresh : client.readiness = .uninitialized) (done : (client.setUp settings nonces).1 = .ok ())
    (actions : List Action) (transport : Transport) (call : Call) :
    (((client.setUp settings nonces).2.run actions).answer transport call).outcome =
        .error .overflow ↔
      ∃ request response,
        (((client.setUp settings nonces).2.run actions).answer transport call).sent = some request ∧
          transport request = .ok response ∧ Overflows settings.network response call := by
  obtain ⟨session, serves⟩ := serves_run fresh done actions
  cases allowed : checkCall call with
  | error failure =>
    rw [answer_of_refused allowed]
    exact ⟨nofun, nofun⟩
  | ok _ =>
    rw [answer_of_ready serves.ready allowed]
    exact session.answer_eq_overflow_iff serves.setUpFor transport call

/-- A book with one row, whose price is the largest amount. -/
def largestPrice : Response :=
  .served ("\x7b\"success\":true,\"message\":\"\",\"result\":\x7b" ++
    "\"buy\":[[\"79228162514264337593543950335\",\"2\"]]\x7d\x7d")

/-- The setup succeeds, and the book that is read next is neither an answer nor a failure. -/
theorem overflow_largestPrice :
    ((new true).setUp plainSettings ⟨1000⟩).1 = .ok () ∧
      (((new true).setUp plainSettings ⟨1000⟩).2.answer (fun _ => .ok largestPrice)
        (.orderBook "BTC-LTC")).outcome = .error .overflow := by
  decide +kernel

/-- A book whose first row is fine and whose second is not. -/
def secondTooLarge : Response :=
  .served ("\x7b\"success\":true,\"result\":\x7b\"sell\":[[\"0.25\",\"4\"]]," ++
    "\"buy\":[[\"1.01\",\"-79228162514264337593543950335\"]]\x7d\x7d")

theorem overflows_secondTooLarge (market : String) :
    Overflows plainSettings.network secondTooLarge (.orderBook market) := by
  have delivers : EnvelopeNames.standard.Delivers BookRecord.shape secondTooLarge
      ⟨[[⟨false, 101, 2, by decide, by decide⟩, ⟨true, Decimal.bound - 1, 0, by decide, by decide⟩]],
        [[⟨false, 25, 2, by decide, by decide⟩, ⟨false, 4, 0, by decide, by decide⟩]]⟩ :=
    (EnvelopeNames.delivers_iff_decode (by decide)).mpr ⟨rfl, none, by decide +kernel⟩
  exact ⟨_, ⟨List.not_mem_nil, delivers⟩,
    .later ⟨_, _, _, rfl, by decide⟩ (.here ⟨_, _, _, rfl, by decide⟩)⟩

/-- A client that failed once, and was set up twice, overflows. -/
theorem answer_overflows_iff_secondTooLarge :
    (new true).readiness = .uninitialized ∧ ((new true).setUp plainSettings ⟨1000⟩).1 = .ok () ∧
      ((((new true).setUp plainSettings ⟨1000⟩).2.run
        [.answer (fun _ => .error (.network "offline")) .balances, .setUp .standard ⟨0⟩]).answer
          (fun _ => .ok secondTooLarge) (.orderBook "BTC-LTC")).outcome = .error .overflow := by
  have done : ((new true).setUp plainSettings ⟨1000⟩).1 = .ok () := by decide +kernel
  refine ⟨rfl, done, (answer_overflows_iff rfl done _ _ _).mpr ?_⟩
  exact ⟨_, secondTooLarge, rfl, rfl, overflows_secondTooLarge "BTC-LTC"⟩

end Client

end Bittrex

end VenueGateway
