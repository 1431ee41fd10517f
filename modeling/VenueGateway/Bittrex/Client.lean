import VenueGateway.Bittrex.Catalogue
import VenueGateway.Bittrex.Reply
import VenueGateway.Channel.Basic
import VenueGateway.Fees
import VenueGateway.Readiness
import VenueGateway.Trading.Call

/-! # The Bittrex client

A client is set up once from the settings of the venue and then answers calls. Fees come from the
settings; every other call sends at most one request. An order without a positive quantity and price
is refused before anything else is looked at.
-/

namespace VenueGateway.Bittrex

/-- What a client has once it is set up. -/
structure Session where
  channel : Channel
  fees : Fees
deriving DecidableEq

def Session.shown (listing : Text.Listing) (session : Session) : String :=
  Text.shownRecord "Session" [("kit", session.channel.shown listing), ("fees", session.fees.shown)]

/-- A client for one account. `customTransport` only notes, for diagnostics, who supplied the
transport. -/
structure Client where
  base : String
  customTransport : Bool
  readiness : Readiness Session
deriving DecidableEq

namespace Client

/-- A client that was not set up yet, for the standard base address. -/
def new (customTransport : Bool) : Client := ⟨standardBase, customTransport, .uninitialized⟩

def withBase (client : Client) (base : String) : Client := { client with base := base }

/-- The base address: that of the settings if they have one. -/
def baseFor (client : Client) (settings : VenueSettings) : String :=
  (settings.entries.get? baseEntry).getD client.base

/-- The session that settings ask for. -/
def sessionFor (client : Client) (settings : VenueSettings) (nonces : NonceCounter) :
    Except Failure Session := do
  let credentials ← settings.secrets.credentials
  let channel ←
    Channel.establish (profile (client.baseFor settings)) credentials settings.network nonces
  let fees ← (Fees.ofEntries settings.entries).mapError Fees.Defect.failure
  return ⟨channel, fees⟩

/-- Set the client up, with the first nonce to use. Only the first attempt looks at the settings. -/
def setUp (client : Client) (settings : VenueSettings) (nonces : NonceCounter) :
    Except Failure Unit × Client :=
  let (outcome, readiness) := client.readiness.setUp (client.sessionFor settings nonces)
  (outcome, { client with readiness := readiness })

/-- A client that is set up, if the settings allow it. -/
def ofSettings (settings : VenueSettings) (nonces : NonceCounter) : Except Failure Client :=
  match (new false).setUp settings nonces with
  | (.ok (), client) => .ok client
  | (.error failure, _) => .error failure

def isReady (client : Client) : Bool := client.readiness.isReady

def shown (client : Client) (listing : Text.Listing := .asGiven) : String :=
  Text.shownRecord "BittrexAdapter"
    [("base_url", Text.quoted client.base),
      ("custom_transport", if client.customTransport then "true" else "false"),
      ("state", client.readiness.shown (Session.shown listing))]

end Client

def notPositive (what : String) (x : Decimal) : Failure :=
  .invalidArgument ("Order " ++ what ++ " must be positive (got " ++ x.text ++ ")")

/-- An order needs a positive quantity and a positive price. -/
def checkOrder (quantity price : Decimal) : Except Failure Unit :=
  if !quantity.isPositive then .error (notPositive "quantity" quantity)
  else if !price.isPositive then .error (notPositive "price" price)
  else .ok ()

/-- What a call takes: a look at the fees, or a request and a way to read its reply. -/
inductive Work
  | lookUp (fee : Fees → Decimal)
  | request (operation : Operation) (query : Query)
      (read : ReplyRules → Response → Except Abort Answer)

def work : Call → Work
  | .orderBook market =>
    .request .orderBook (.ofList [("market", market), ("type", "both")]) fun rules =>
      rules.readResult BookRecord.shape fun book => (book.understand market).map .orderBook
  | .openOrders market =>
    .request .openOrders (.ofList [("market", market)]) fun rules =>
      rules.readResult OpenOrdersRecord.shape fun orders =>
        (orders.understand market).map .openOrders
  | .createOrder market side quantity price =>
    .request (.limitOrder side)
      (.ofList [("market", market), ("rate", amountText price), ("quantity", amountText quantity)])
      fun rules => rules.readResult PlacedRecord.shape fun placed => .ok (.orderId placed.uuid)
  | .cancelOrder id _ =>
    .request .cancel (.ofList [("uuid", id)]) fun rules response =>
      (rules.readFlag response).map fun _ => .cancelled
  | .latestPrice market =>
    .request .ticker (.ofList [("market", market)]) fun rules =>
      rules.readResult TickerRecord.shape fun ticker => .ok (.price ticker.last)
  | .balances =>
    .request .balances ∅ fun rules =>
      rules.readResult (.list BalanceRecord.shape) fun rows => .ok (.balances (balancesOf rows))
  | .buyFee _ => .lookUp Fees.buy
  | .sellFee _ => .lookUp Fees.sell

/-- What is checked of a call before anything else. -/
def checkCall : Call → Except Failure Unit
  | .createOrder _ _ quantity price => checkOrder quantity price
  | _ => .ok ()

def Session.answer (session : Session) (transport : Transport) (call : Call) :
    Step Session Answer :=
  match work call with
  | .lookUp fee => ⟨.ok (.fee (fee session.fees)), none, session⟩
  | .request operation query read =>
    let step := session.channel.exchange transport operation.endpoint query
      (read (session.channel.rules operation.context))
    ⟨step.outcome, step.sent, { session with channel := step.after }⟩

def Client.answer (client : Client) (transport : Transport) (call : Call) : Step Client Answer :=
  match checkCall call with
  | .error failure => ⟨.error (.failure failure), none, client⟩
  | .ok () =>
    match client.readiness.session with
    | .error failure => ⟨.error (.failure failure), none, client⟩
    | .ok session =>
      let step := session.answer transport call
      ⟨step.outcome, step.sent, { client with readiness := .ready step.after }⟩

/-- Answer calls one after the other, up to the first that gives no answer. -/
def Client.answerAll (client : Client) (transport : Transport) :
    List Call → Except Abort (List Answer) × Client
  | [] => (.ok [], client)
  | call :: calls =>
    let step := client.answer transport call
    match step.outcome with
    | .error abort => (.error abort, step.after)
    | .ok answer =>
      let (outcome, after) := step.after.answerAll transport calls
      (outcome.map (answer :: ·), after)

end VenueGateway.Bittrex
