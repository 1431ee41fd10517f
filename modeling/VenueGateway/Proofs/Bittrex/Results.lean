import VenueGateway.Proofs.Bittrex.Failures
import VenueGateway.Proofs.Channel.Outcome
import VenueGateway.Proofs.Json.Record

/-! # Which results are understood

The venue documents its results as objects whose members have names. `Tells` says what a result tells
about a call: which members are looked at, what they have to be, and what the call comes to. It leaves
open in which layouts a record may be. A client understands both layouts, so a record that is an array
is read by position and its names are never seen. Where no array stands for a record, exactly the
documented results are answered, by the members that have the documented names, and every other
result is a failure of the venue.
-/

namespace VenueGateway

open Json (Amounts Items LaidOut Layout Members Parts Record)

namespace Bittrex

/-! ## Records -/

def TickerRecord.Stated (parts : Parts) (ticker : TickerRecord) : Prop :=
  parts.Holds 0 "Last" Amounts ticker.last

/-- The parts of a book; a side is an array of arrays of amounts. -/
structure BookRecord.Stated (parts : Parts) (book : BookRecord) : Prop where
  buy : parts.HoldsOr 0 "buy" (Items (Items Amounts)) [] book.buy
  sell : parts.HoldsOr 1 "sell" (Items (Items Amounts)) [] book.sell

/-- The parts of an open order. -/
structure OpenOrderRecord.Stated (parts : Parts) (order : OpenOrderRecord) : Prop where
  market : parts.Holds 0 "Exchange" (fun json text => json = .str text) order.market
  kind : parts.Holds 1 "OrderType" (fun json text => json = .str text) order.kind
  quantity : parts.Holds 2 "Quantity" Amounts order.quantity
  remaining : parts.Holds 3 "QuantityRemaining" Amounts order.remaining
  limit : parts.Holds 4 "Limit" Amounts order.limit
  opened : parts.Holds 5 "Opened" (fun json text => json = .str text) order.opened

/-- The parts of open orders: an object with an order under each identifier. -/
def OpenOrdersRecord.Stated (allowed : Layout → Prop) (parts : Parts) (record : OpenOrdersRecord) :
    Prop :=
  parts.HoldsOr 0 "open" (Members (Record allowed 6 OpenOrderRecord.Stated)) ∅ record.orders

def PlacedRecord.Stated (parts : Parts) (placed : PlacedRecord) : Prop :=
  parts.Holds 0 "uuid" (fun json text => json = .str text) placed.uuid

/-- The parts of a balance. -/
structure BalanceRecord.Stated (parts : Parts) (row : BalanceRecord) : Prop where
  currency : parts.Holds 0 "Currency" (fun json text => json = .str text) row.currency
  available : parts.Holds 1 "Available" Amounts row.available
  pending : parts.Holds 2 "Pending" Amounts row.pending

open Json (computes_done computes_required computes_optional computes_string computes_decimal)

theorem TickerRecord.computes_fields : TickerRecord.fields.Computes TickerRecord.Stated := by
  intro source ticker
  refine ((computes_done _).andThen (computes_required 0 "Last" computes_decimal)
    source ticker).trans ⟨?_, fun stated => ⟨_, _, rfl, stated, rfl⟩⟩
  rintro ⟨_, last, rfl, stated, rfl⟩
  exact stated

theorem BookRecord.computes_fields : BookRecord.fields.Computes BookRecord.Stated := by
  intro source book
  have side := computes_decimal.list.list
  refine (((computes_done _).andThen (computes_optional 0 "buy" side [])).andThen
    (computes_optional 1 "sell" side []) source book).trans ⟨?_, ?_⟩
  · rintro ⟨_, sell, ⟨_, buy, rfl, bought, rfl⟩, sold, rfl⟩
    exact ⟨bought, sold⟩
  · rintro ⟨bought, sold⟩
    exact ⟨_, _, ⟨_, _, rfl, bought, rfl⟩, sold, rfl⟩

theorem OpenOrderRecord.computes_fields :
    OpenOrderRecord.fields.Computes OpenOrderRecord.Stated := by
  intro source order
  refine (((((((computes_done _).andThen
    (computes_required 0 "Exchange" computes_string)).andThen
    (computes_required 1 "OrderType" computes_string)).andThen
    (computes_required 2 "Quantity" computes_decimal)).andThen
    (computes_required 3 "QuantityRemaining" computes_decimal)).andThen
    (computes_required 4 "Limit" computes_decimal)).andThen
    (computes_required 5 "Opened" computes_string) source order).trans ⟨?_, ?_⟩
  · rintro ⟨_, _, ⟨_, _, ⟨_, _, ⟨_, _, ⟨_, _, ⟨_, _, rfl, market, rfl⟩, kind, rfl⟩, quantity, rfl⟩,
      remaining, rfl⟩, limit, rfl⟩, opened, rfl⟩
    exact ⟨market, kind, quantity, remaining, limit, opened⟩
  · rintro ⟨market, kind, quantity, remaining, limit, opened⟩
    exact ⟨_, _, ⟨_, _, ⟨_, _, ⟨_, _, ⟨_, _, ⟨_, _, rfl, market, rfl⟩, kind, rfl⟩, quantity, rfl⟩,
      remaining, rfl⟩, limit, rfl⟩, opened, rfl⟩

theorem OpenOrdersRecord.computes_fields :
    OpenOrdersRecord.fields.Computes (OpenOrdersRecord.Stated fun _ => True) := by
  intro source record
  have orders := (OpenOrderRecord.computes_fields.record "BittrexOpenOrder" 6).map
  refine ((computes_done _).andThen (computes_optional 0 "open" orders ∅)
    source record).trans ⟨?_, fun stated => ⟨_, _, rfl, stated, rfl⟩⟩
  rintro ⟨_, found, rfl, stated, rfl⟩
  exact stated

theorem PlacedRecord.computes_fields : PlacedRecord.fields.Computes PlacedRecord.Stated := by
  intro source placed
  refine ((computes_done _).andThen (computes_required 0 "uuid" computes_string)
    source placed).trans ⟨?_, fun stated => ⟨_, _, rfl, stated, rfl⟩⟩
  rintro ⟨_, uuid, rfl, stated, rfl⟩
  exact stated

theorem BalanceRecord.computes_fields : BalanceRecord.fields.Computes BalanceRecord.Stated := by
  intro source row
  refine ((((computes_done _).andThen (computes_required 0 "Currency" computes_string)).andThen
    (computes_required 1 "Available" computes_decimal)).andThen
    (computes_required 2 "Pending" computes_decimal) source row).trans ⟨?_, ?_⟩
  · rintro ⟨_, _, ⟨_, _, ⟨_, _, rfl, currency, rfl⟩, available, rfl⟩, pending, rfl⟩
    exact ⟨currency, available, pending⟩
  · rintro ⟨currency, available, pending⟩
    exact ⟨_, _, ⟨_, _, ⟨_, _, rfl, currency, rfl⟩, available, rfl⟩, pending, rfl⟩

/-! ## Results -/

/-- What a result tells about a call, its records being in one of the layouts that are allowed. -/
def Tells (allowed : Layout → Prop) : Call → Json → Except Abort Answer → Prop
  | .latestPrice _, result, told => ∃ ticker, Record allowed 1 TickerRecord.Stated result ticker ∧
      told = .ok (.price ticker.last)
  | .orderBook market, result, told => ∃ book, Record allowed 2 BookRecord.Stated result book ∧
      told = (book.understand market).map .orderBook
  | .openOrders market, result, told => ∃ orders,
      Record allowed 1 (OpenOrdersRecord.Stated allowed) result orders ∧
      told = (orders.understand market).map .openOrders
  | .createOrder _ _ _ _, result, told => ∃ placed,
      Record allowed 1 PlacedRecord.Stated result placed ∧ told = .ok (.orderId placed.uuid)
  | .balances, result, told => ∃ rows, Items (Record allowed 3 BalanceRecord.Stated) result rows ∧
      told = .ok (.balances (balancesOf rows))
  | .cancelOrder _ _, _, _ | .buyFee _, _, _ | .sellFee _, _, _ => False

/-- The values in the result of a call that should be records. -/
def RecordIn : Call → Json → Json → Prop
  | .latestPrice _, result, json | .orderBook _, result, json
  | .createOrder _ _ _ _, result, json => json = result
  | .openOrders _, result, json => json = result ∨ ∃ layout parts orders id,
      LaidOut 1 layout result parts ∧ parts 0 "open" = some (.obj orders) ∧ (id, json) ∈ orders
  | .balances, result, json => ∃ rows, result = .arr rows ∧ json ∈ rows
  | .cancelOrder _ _, _, _ | .buyFee _, _, _ | .sellFee _, _, _ => False

/-- An array stands where the result of a call should have a record. -/
def HoldsArray (call : Call) (result : Json) : Prop :=
  ∃ json, RecordIn call result json ∧ json.IsArray

variable {call : Call} {result : Json} {told : Except Abort Answer}

/-- What is told stays the same where the layouts of all records are allowed too. -/
theorem Tells.move {allowed other : Layout → Prop}
    (moves : ∀ json, RecordIn call result json → ∀ count layout parts,
      LaidOut count layout json parts → allowed layout → other layout)
    (tells : Tells allowed call result told) : Tells other call result told := by
  cases call with
  | latestPrice market =>
    obtain ⟨ticker, record, rfl⟩ := tells
    exact ⟨ticker, record.move (moves _ rfl 1), rfl⟩
  | orderBook market =>
    obtain ⟨book, record, rfl⟩ := tells
    exact ⟨book, record.move (moves _ rfl 2), rfl⟩
  | createOrder market side quantity price =>
    obtain ⟨placed, record, rfl⟩ := tells
    exact ⟨placed, record.move (moves _ rfl 1), rfl⟩
  | openOrders market =>
    obtain ⟨orders, ⟨layout, parts, allows, laid, stated⟩, rfl⟩ := tells
    have allowsToo : other layout := moves _ (.inl rfl) 1 layout parts laid allows
    refine ⟨orders, ⟨layout, parts, allowsToo, laid, stated.imp_left ?_⟩, rfl⟩
    rintro ⟨json, found, each⟩
    refine ⟨json, found, each.imp ?_⟩
    rintro entries rfl entry member order record
    exact record.move (moves _ (.inr ⟨layout, parts, entries, entry.1, laid, found, member⟩) 6)
  | balances =>
    obtain ⟨rows, items, rfl⟩ := tells
    refine ⟨rows, items.imp ?_, rfl⟩
    rintro found rfl item member row record
    exact record.move (moves _ ⟨found, rfl, member⟩ 3)
  | cancelOrder | buyFee | sellFee => exact tells

/-- Where no array stands for a record, the names decide. -/
theorem tells_named_iff (objects : ¬ HoldsArray call result) :
    Tells (fun _ => True) call result told ↔ Tells (· = .named) call result told := by
  constructor
  · intro tells
    apply tells.move
    intro json place count layout parts laid _
    exact laid.named_of_not_isArray fun array => objects ⟨json, place, array⟩
  · intro tells
    exact tells.move fun _ _ _ _ _ _ _ => trivial

/-! ## Replies -/

/-- A reply that answers a call: it is let pass, and its result tells the answer. -/
def Answers (network : NetworkSettings) (allowed : Layout → Prop) (call : Call) (response : Response)
    (answer : Answer) : Prop :=
  response.status ∉ network.transientStatuses ∧ response.status.val = 200 ∧
    ∃ result, EnvelopeNames.standard.Accepts response.payload result ∧
      Tells allowed call result (.ok answer)

/-- No result of a reply tells anything about a call. -/
def TellsNothing (allowed : Layout → Prop) (call : Call) (response : Response) : Prop :=
  ∀ result, EnvelopeNames.standard.Accepts response.payload result →
    ∀ told, ¬ Tells allowed call result told

/-- No array stands for a record in the result of a reply. -/
def HoldsObjects (call : Call) (response : Response) : Prop :=
  ∀ result, EnvelopeNames.standard.Accepts response.payload result → ¬ HoldsArray call result

/-- What a reply to a call comes to: with records in both layouts, and with objects alone. -/
structure ReplyRead (network : NetworkSettings) (call : Call) (context : String)
    (response : Response) (outcome : Except Abort Answer) : Prop where
  ok_iff : ∀ answer, outcome = .ok answer ↔ Answers network (fun _ => True) call response answer
  refused : ¬ network.Passing .standard response → TellsNothing (fun _ => True) call response →
    ∃ detail, outcome = .error (.failure (.tradingApi (context ++ detail) (some response)))
  documented : HoldsObjects call response → ∀ answer,
    outcome = .ok answer ↔ Answers network (· = .named) call response answer
  undocumented : HoldsObjects call response → ¬ network.Passing .standard response →
    TellsNothing (· = .named) call response →
    ∃ detail, outcome = .error (.failure (.tradingApi (context ++ detail) (some response)))

variable {network : NetworkSettings} {response : Response}

theorem answers_named_iff (objects : HoldsObjects call response) (answer : Answer) :
    Answers network (fun _ => True) call response answer ↔
      Answers network (· = .named) call response answer := by
  refine and_congr_right fun _ => and_congr_right fun _ => exists_congr fun result => ?_
  refine and_congr_right fun accepts => ?_
  exact tells_named_iff (objects result accepts)

theorem tellsNothing_named_iff (objects : HoldsObjects call response) :
    TellsNothing (fun _ => True) call response ↔ TellsNothing (· = .named) call response := by
  refine forall_congr' fun result => forall_congr' fun accepts => forall_congr' fun told => ?_
  exact not_congr (tells_named_iff (objects result accepts))

/-- A call is read as its shape computes what its results tell. -/
theorem replyRead_of_call {α : Type} {channel : Channel} {transport : Transport} {endpoint : Endpoint}
    {query : Query} {request : Request} {shape : Json.Shape α} {means : Json → α → Prop}
    {understand : α → Except Abort Answer} (configured : channel.tolerance = .ofSettings network)
    (standard : channel.profile.envelope = .standard) (context : String)
    (computes : shape.Computes means)
    (tells_iff : ∀ result told, Tells (fun _ => True) call result told ↔
      ∃ value, means result value ∧ told = understand value)
    (sent : (channel.call transport endpoint query context shape understand).sent = some request)
    (reached : transport request = .ok response) :
    ReplyRead network call context response
      (channel.call transport endpoint query context shape understand).outcome := by
  have delivers_iff : ∀ value, network.Delivers .standard shape response value ↔
      response.status ∉ network.transientStatuses ∧ response.status.val = 200 ∧
        ∃ result, EnvelopeNames.standard.Accepts response.payload result ∧ means result value := by
    intro value
    simp only [NetworkSettings.Delivers, EnvelopeNames.Delivers, computes _ _]
  have answers_iff : ∀ answer, Answers network (fun _ => True) call response answer ↔
      ∃ value, network.Delivers .standard shape response value ∧ understand value = .ok answer := by
    intro answer
    simp only [Answers, tells_iff, delivers_iff]
    constructor
    · rintro ⟨unnamed, served, result, accepts, value, meant, told⟩
      exact ⟨value, ⟨unnamed, served, result, accepts, meant⟩, told.symm⟩
    · rintro ⟨value, ⟨unnamed, served, result, accepts, meant⟩, told⟩
      exact ⟨unnamed, served, result, accepts, value, meant, told.symm⟩
  rw [Channel.call, Channel.exchange_sent] at sent
  have cases := Channel.call_cases configured (by rw [standard]; decide) context shape understand sent
    reached
  rw [standard] at cases
  have ok_iff : ∀ answer, (channel.call transport endpoint query context shape understand).outcome =
      .ok answer ↔ Answers network (fun _ => True) call response answer := by
    intro answer
    rw [answers_iff]
    rcases cases with ⟨passing, detail, outcome⟩ | ⟨value, delivers, outcome⟩ |
      ⟨-, none, detail, outcome⟩
    · rw [outcome]
      constructor
      · intro answered
        cases answered
      · rintro ⟨value, delivers, -⟩
        exact absurd passing delivers.not_passing
    · rw [outcome, mapError_eq_ok_iff]
      constructor
      · intro told
        exact ⟨value, delivers, told⟩
      · rintro ⟨other, alsoDelivers, told⟩
        rwa [delivers.2.unique alsoDelivers.2]
    · rw [outcome]
      constructor
      · intro answered
        cases answered
      · rintro ⟨value, delivers, -⟩
        exact absurd delivers (none value)
  have refused : ¬ network.Passing .standard response → TellsNothing (fun _ => True) call response →
      ∃ detail, (channel.call transport endpoint query context shape understand).outcome =
        .error (.failure (.tradingApi (context ++ detail) (some response))) := by
    intro notPassing nothing
    rcases cases with ⟨passing, -⟩ | ⟨value, delivers, -⟩ | ⟨-, -, detail, outcome⟩
    · exact absurd passing notPassing
    · obtain ⟨-, -, result, accepts, meant⟩ := (delivers_iff value).mp delivers
      have tells := (tells_iff result _).mpr ⟨value, meant, rfl⟩
      exact absurd tells (nothing result accepts _)
    · exact ⟨detail, outcome⟩
  refine ⟨ok_iff, refused, ?documented, ?undocumented⟩
  case documented =>
    intro objects answer
    exact (ok_iff answer).trans (answers_named_iff objects answer)
  case undocumented =>
    intro objects notPassing nothing
    exact refused notPassing ((tellsNothing_named_iff objects).mpr nothing)

/-- A session reads the reply to every call but a cancellation, whose result does not matter. -/
theorem Session.replyRead {session : Session} {base : String} {settings : VenueSettings}
    (setUpFor : session.SetUpFor base settings) {transport : Transport} {operation : Operation}
    {request : Request} (asks : operation? call = some operation) (reads : operation ≠ .cancel)
    (sent : (session.answer transport call).sent = some request)
    (reached : transport request = .ok response) :
    ReplyRead settings.network call operation.context response
      (session.answer transport call).outcome := by
  have standard : session.channel.profile.envelope = .standard := by rw [setUpFor.profile]; rfl
  cases call with
  | orderBook market =>
    cases asks
    exact replyRead_of_call setUpFor.tolerance standard _
      (BookRecord.computes_fields.record "BittrexOrderBook" 2) (fun _ _ => Iff.rfl) sent reached
  | openOrders market =>
    cases asks
    exact replyRead_of_call setUpFor.tolerance standard _
      (OpenOrdersRecord.computes_fields.record "BittrexOpenOrders" 1) (fun _ _ => Iff.rfl) sent reached
  | createOrder market side quantity price =>
    cases asks
    exact replyRead_of_call setUpFor.tolerance standard _
      (PlacedRecord.computes_fields.record "BittrexOrderCreated" 1) (fun _ _ => Iff.rfl) sent reached
  | latestPrice market =>
    cases asks
    exact replyRead_of_call setUpFor.tolerance standard _
      (TickerRecord.computes_fields.record "BittrexTicker" 1) (fun _ _ => Iff.rfl) sent reached
  | balances =>
    cases asks
    exact replyRead_of_call setUpFor.tolerance standard _
      (BalanceRecord.computes_fields.record "BittrexBalance" 3).list (fun _ _ => Iff.rfl) sent reached
  | cancelOrder id market =>
    cases asks
    exact absurd rfl reads
  | buyFee market | sellFee market => cases asks

namespace Client

variable {client : Client} {settings : VenueSettings} {nonces : NonceCounter}

/-- Whatever a client was asked since it was set up, a reply is a value exactly if its result tells
one. Where no array stands for a record, the names of the documentation decide. -/
theorem answer_reads (fresh : client.readiness = .uninitialized)
    (done : (client.setUp settings nonces).1 = .ok ()) (actions : List Action) {transport : Transport}
    {operation : Operation} {request : Request} (asks : operation? call = some operation)
    (reads : operation ≠ .cancel)
    (sent : (((client.setUp settings nonces).2.run actions).answer transport call).sent = some request)
    (reached : transport request = .ok response) :
    ReplyRead settings.network call operation.context response
      (((client.setUp settings nonces).2.run actions).answer transport call).outcome := by
  obtain ⟨session, serves⟩ := serves_run fresh done actions
  obtain ⟨found, ready, alsoSent, same⟩ := sent_eq_some sent
  obtain rfl : session = found := by
    rw [serves.ready] at ready
    exact Readiness.ready.inj ready
  rw [same]
  exact Session.replyRead serves.setUpFor asks reads alsoSent reached

/-- A ticker as the venue documents it. -/
def tickerReply : Response :=
  .served "\x7b\"success\":true,\"message\":\"\",\"result\":\x7b\"Bid\":\"1\",\"Last\":\"0.5\"\x7d\x7d"

/-- The last price is the member of that name, wherever it stands. -/
theorem answer_reads_ticker :
    (new true).readiness = .uninitialized ∧ ((new true).setUp plainSettings ⟨7⟩).1 = .ok () ∧
      operation? (.latestPrice "BTC-LTC") = some .ticker ∧ Operation.ticker ≠ .cancel ∧
      ∃ request, (((new true).setUp plainSettings ⟨7⟩).2.answer (fun _ => .ok tickerReply)
          (.latestPrice "BTC-LTC")).sent = some request ∧
        Answers .standard (· = .named) (.latestPrice "BTC-LTC") tickerReply
          (.price ⟨false, 5, 1, by decide, by decide⟩) := by
  have done : ((new true).setUp plainSettings ⟨7⟩).1 = .ok () := by decide +kernel
  have decoded : Envelope.decode .standard (.map .string) tickerReply.payload =
      .ok ⟨true, none, some (.ofList [("Bid", "1"), ("Last", "0.5")])⟩ := by decide +kernel
  have objects : HoldsObjects (.latestPrice "BTC-LTC") tickerReply := by
    rintro result accepts ⟨_, rfl, items, rfl⟩
    obtain ⟨object, alsoAccepts, read⟩ := (Envelope.decode_eq_accepted_iff (by decide)).mp ⟨_, decoded⟩
    obtain rfl := accepts.unique alsoAccepts
    cases read
  have read : ReplyRead plainSettings.network (.latestPrice "BTC-LTC") Operation.ticker.context
      tickerReply (((new true).setUp plainSettings ⟨7⟩).2.answer (fun _ => .ok tickerReply)
        (.latestPrice "BTC-LTC")).outcome := answer_reads rfl done [] rfl nofun rfl rfl
  exact ⟨rfl, done, rfl, nofun, _, rfl, (read.documented objects _).mp (by decide +kernel)⟩

/-- A ticker that is an array, which the venue does not document. -/
def arrayReply : Response :=
  .served "\x7b\"success\":true,\"message\":\"\",\"result\":[0.5]\x7d"

/-- An array is read by position: its first item is answered as the last price. -/
theorem price_of_array :
    ∃ request result, (((new true).setUp plainSettings ⟨7⟩).2.answer (fun _ => .ok arrayReply)
        (.latestPrice "BTC-LTC")).sent = some request ∧
      EnvelopeNames.standard.Accepts arrayReply.payload result ∧
      (∀ told, ¬ Tells (· = .named) (.latestPrice "BTC-LTC") result told) ∧
      (((new true).setUp plainSettings ⟨7⟩).2.answer (fun _ => .ok arrayReply)
        (.latestPrice "BTC-LTC")).outcome = .ok (.price ⟨false, 5, 1, by decide, by decide⟩) := by
  have decoded : Envelope.decode .standard (.list .decimal) arrayReply.payload =
      .ok ⟨true, none, some [⟨false, 5, 1, by decide, by decide⟩]⟩ := by decide +kernel
  obtain ⟨result, accepts, read⟩ := (Envelope.decode_eq_accepted_iff (by decide)).mp ⟨_, decoded⟩
  obtain ⟨items, rfl, -⟩ := (computes_decimal.list _ _).mp read
  refine ⟨_, .arr items, rfl, accepts, ?_, by decide +kernel⟩
  rintro told ⟨ticker, ⟨_, _, rfl, ⟨⟩, -⟩, -⟩

end Client

end Bittrex

end VenueGateway
