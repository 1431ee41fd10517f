import VenueGateway.Proofs.Bittrex.FirstSetUp
import VenueGateway.Proofs.Channel.Reply

/-! # What a failed call tells

A call whose request was answered can still fail at many places: by what the settings excuse, by its
status, its envelope, the shape of its result, a row that is too short, a kind or a time that cannot
be read. Wherever it fails, it is a network failure, or a failure of the venue that begins with the
context of its operation and keeps the response. The domain leaves the response out of its failures,
so that the channel can complete them; it must not fail in any other way.
-/

namespace VenueGateway

variable {α β : Type}

/-- A failure that another attempt may mend, or that tells what was asked and what came back. -/
inductive Failure.Explained (context : String) (response : Response) : Failure → Prop
  | network (detail : String) : Explained context response (.network detail)
  | tradingApi (detail : String) :
    Explained context response (.tradingApi (context ++ detail) (some response))

/-! ## Failures of the domain -/

/-- What is not understood is a failure of the venue, and its response is still to be attached. -/
def LacksResponse (understood : Except Abort α) : Prop :=
  ∀ failure, understood = .error (.failure failure) → ∃ detail, failure = .tradingApi detail none

namespace LacksResponse

theorem ok (value : α) : LacksResponse (.ok value) := nofun

theorem failure (detail : String) :
    LacksResponse (.error (.failure (.tradingApi detail none)) : Except Abort α) := by
  rintro _ ⟨⟩
  exact ⟨detail, rfl⟩

theorem orOverflow (found : Option α) : LacksResponse (Bittrex.orOverflow found) := by
  cases found with
  | none => rintro _ ⟨⟩
  | some value => exact ok value

theorem bind {first : Except Abort α} {second : α → Except Abort β} (before : LacksResponse first)
    (after : ∀ value, LacksResponse (second value)) : LacksResponse (first >>= second) := by
  intro failure failed
  rcases bind_eq_error_iff.mp failed with failed | ⟨value, -, failed⟩
  · exact before failure failed
  · exact after value failure failed

theorem map {understood : Except Abort α} (lacks : LacksResponse understood) (g : α → β) :
    LacksResponse (understood.map g) :=
  fun failure failed => lacks failure (map_eq_error_iff.mp failed)

theorem mapM {f : α → Except Abort β} (each : ∀ item, LacksResponse (f item)) (items : List α) :
    LacksResponse (items.mapM f) := by
  induction items with
  | nil => exact ok []
  | cons first rest ih =>
    rw [List.mapM_cons]
    exact (each first).bind fun value => ih.bind fun values => ok (value :: values)

end LacksResponse

/-! ## Replies -/

namespace ReplyRules

variable {rules : ReplyRules} {response : Response} {failure : Failure}

theorem explained_failed (rules : ReplyRules) (detail : String) (response : Response) :
    (rules.failed detail response).Explained rules.context response := .tradingApi detail

theorem explained_of_openAccepted
    {decode : String → Except Envelope.DecodeError (Envelope α)}
    (failed : rules.openAccepted decode response = .error failure) :
    failure.Explained rules.context response := by
  cases served : response.isOk with
  | false =>
    rw [openAccepted_of_not_served served] at failed
    cases failed
    exact rules.explained_failed _ response
  | true =>
    cases decoded : decode response.payload with
    | error cause =>
      rw [openAccepted_of_undecodable served decoded] at failed
      cases failed
      exact rules.explained_failed _ response
    | ok envelope =>
      rw [openAccepted_of_decoded served decoded, map_eq_error_iff] at failed
      cases accepted : envelope.success with
      | true =>
        rw [requireAccepted_of_accepted accepted] at failed
        cases failed
      | false =>
        rcases rules.requireAccepted_of_rejected response accepted with
          ⟨message, -, -, refused⟩ | ⟨-, refused⟩
        · rw [refused] at failed
          cases failed
          exact .network _
        · rw [refused] at failed
          cases failed
          exact rules.explained_failed _ response

theorem explained_of_readFlag (failed : rules.readFlag response = .error (.failure failure)) :
    failure.Explained rules.context response := by
  rw [readFlag] at failed
  split at failed
  · rename_i refused
    cases failed
    exact explained_of_openAccepted refused
  · cases failed

/-- What the domain leaves out is completed. -/
theorem explained_of_attach {understood : Except Abort α} (lacks : LacksResponse understood)
    (failed : understood.mapError (rules.attach response) = .error (.failure failure)) :
    failure.Explained rules.context response := by
  cases understood with
  | ok value => cases failed
  | error abort =>
    cases abort with
    | overflow => cases failed
    | failure cause =>
      obtain ⟨detail, rfl⟩ := lacks cause rfl
      cases failed
      exact rules.explained_failed detail response

theorem explained_of_readResult {shape : Json.Shape α} {understand : α → Except Abort β}
    (lacks : ∀ value, LacksResponse (understand value))
    (failed : rules.readResult shape understand response = .error (.failure failure)) :
    failure.Explained rules.context response := by
  rw [readResult] at failed
  split at failed
  · rename_i refused
    cases failed
    exact explained_of_openAccepted refused
  · split at failed
    · rename_i result _
      exact explained_of_attach (lacks result) failed
    · cases failed
      exact rules.explained_failed _ response

end ReplyRules

namespace Channel

variable {channel : Channel} {transport : Transport} {endpoint : Endpoint} {query : Query}
  {context : String} {request : Request} {response : Response} {failure : Failure}

theorem explained_of_exchange {read : Response → Except Abort α}
    (reads : ∀ failure, read response = .error (.failure failure) →
      failure.Explained context response)
    (sent : (channel.exchange transport endpoint query read).sent = some request)
    (reached : transport request = .ok response)
    (failed : (channel.exchange transport endpoint query read).outcome =
      .error (.failure failure)) : failure.Explained context response := by
  rw [exchange_sent] at sent
  rw [exchange_outcome_of_some _ _ sent, reached, receive] at failed
  rcases channel.tolerance.checkResponse_cases response with ⟨-, detail, checked⟩ | ⟨-, checked⟩
  · rw [checked] at failed
    cases failed
    exact .network detail
  · rw [checked] at failed
    exact reads failure failed

theorem explained_of_call {shape : Json.Shape α} {understand : α → Except Abort β}
    (lacks : ∀ value, LacksResponse (understand value))
    (sent : (channel.call transport endpoint query context shape understand).sent = some request)
    (reached : transport request = .ok response)
    (failed : (channel.call transport endpoint query context shape understand).outcome =
      .error (.failure failure)) : failure.Explained context response := by
  refine explained_of_exchange (fun failure failed => ?_) sent reached failed
  exact ReplyRules.explained_of_readResult lacks failed

end Channel

namespace Bittrex

/-! ## Rows and orders -/

theorem lacksResponse_orderOfRow (side : Side) (row : List Decimal) :
    LacksResponse (orderOfRow side row) := by
  match row with
  | [] | [_] => exact .failure _
  | price :: quantity :: _ => exact .orOverflow _

theorem BookRecord.lacksResponse (market : String) (book : BookRecord) :
    LacksResponse (book.understand market) :=
  (LacksResponse.mapM (lacksResponse_orderOfRow .sell) book.sell).bind fun _ =>
    (LacksResponse.mapM (lacksResponse_orderOfRow .buy) book.buy).bind fun _ => .ok _

theorem lacksResponse_readTimestamp (written : String) :
    LacksResponse ((readTimestamp written).mapError .failure) := by
  rw [readTimestamp]
  cases Instant.readTimestamp (Text.trim written) with
  | error cause => exact .failure _
  | ok instant => exact .ok instant

theorem lacksResponse_readKind (kind : String) :
    LacksResponse ((readKind kind).mapError .failure) := by
  rw [readKind]
  split
  · exact .ok _
  · split
    · exact .ok _
    · exact .failure _

theorem OpenOrderRecord.lacksResponse (market id : String) (order : OpenOrderRecord) :
    LacksResponse (order.understand market id) :=
  (lacksResponse_readTimestamp order.opened).bind fun _ =>
    (lacksResponse_readKind order.kind).bind fun _ =>
      (LacksResponse.orOverflow _).bind fun _ => .ok _

theorem OpenOrdersRecord.lacksResponse (market : String) (record : OpenOrdersRecord) :
    LacksResponse (record.understand market) :=
  .mapM (fun entry => entry.2.lacksResponse market entry.1) _

/-! ## Calls -/

/-- The operation that a call asks the venue for. Fees are not asked for. -/
def operation? : Call → Option Operation
  | .orderBook _ => some .orderBook
  | .latestPrice _ => some .ticker
  | .openOrders _ => some .openOrders
  | .createOrder _ side _ _ => some (.limitOrder side)
  | .cancelOrder _ _ => some .cancel
  | .balances => some .balances
  | .buyFee _ | .sellFee _ => none

theorem Session.explained {session : Session} {transport : Transport} {call : Call}
    {operation : Operation} {request : Request} {response : Response} {failure : Failure}
    (asks : operation? call = some operation)
    (sent : (session.answer transport call).sent = some request)
    (reached : transport request = .ok response)
    (failed : (session.answer transport call).outcome = .error (.failure failure)) :
    failure.Explained operation.context response := by
  cases call with
  | orderBook market =>
    cases asks
    exact Channel.explained_of_call (fun book => (book.lacksResponse market).map _) sent reached
      failed
  | openOrders market =>
    cases asks
    exact Channel.explained_of_call (fun orders => (orders.lacksResponse market).map _) sent reached
      failed
  | createOrder market side quantity price =>
    cases asks
    exact Channel.explained_of_call (fun placed => .ok _) sent reached failed
  | cancelOrder id market =>
    cases asks
    refine Channel.explained_of_exchange (fun failure failed => ?_) sent reached failed
    exact ReplyRules.explained_of_readFlag (map_eq_error_iff.mp failed)
  | latestPrice market =>
    cases asks
    exact Channel.explained_of_call (fun ticker => .ok _) sent reached failed
  | balances =>
    cases asks
    exact Channel.explained_of_call (fun rows => .ok _) sent reached failed
  | buyFee market | sellFee market => cases asks

namespace Client

/-- A call that was answered by the venue fails only in one of the two ways. A client that sends
anything is ready. -/
theorem failure_explained {client : Client} {transport : Transport} {call : Call}
    {operation : Operation} {request : Request} {response : Response} {failure : Failure}
    (asks : operation? call = some operation)
    (sent : (client.answer transport call).sent = some request)
    (reached : transport request = .ok response)
    (failed : (client.answer transport call).outcome = .error (.failure failure)) :
    failure.Explained operation.context response := by
  obtain ⟨session, -, alsoSent, same⟩ := sent_eq_some sent
  rw [same] at failed
  exact Session.explained asks alsoSent reached failed

/-- A book whose second row has no quantity. -/
def shortRow : Response :=
  .served "\x7b\"success\":true,\"result\":\x7b\"sell\":[[1,2],[3]]\x7d\x7d"

/-- A row that is too short is reported with the response that it came in. -/
theorem failure_explained_shortRow :
    ∃ request, (((new true).setUp plainSettings ⟨1000⟩).2.answer (fun _ => .ok shortRow)
        (.orderBook "BTC-LTC")).sent = some request ∧
      (((new true).setUp plainSettings ⟨1000⟩).2.answer (fun _ => .ok shortRow)
        (.orderBook "BTC-LTC")).outcome = .error (.failure (.tradingApi
          ("Failed to get Market Order Book from exchange. Details: " ++
            "Order book row needs price and quantity. Value: [3]") (some shortRow))) ∧
      (Failure.tradingApi ("Failed to get Market Order Book from exchange. Details: " ++
        "Order book row needs price and quantity. Value: [3]") (some shortRow)).Explained
          Operation.orderBook.context shortRow := by
  have failed : (((new true).setUp plainSettings ⟨1000⟩).2.answer (fun _ => .ok shortRow)
      (.orderBook "BTC-LTC")).outcome = .error (.failure (.tradingApi
        ("Failed to get Market Order Book from exchange. Details: " ++
          "Order book row needs price and quantity. Value: [3]") (some shortRow))) := by
    decide +kernel
  exact ⟨_, rfl, failed, failure_explained rfl rfl rfl failed⟩

end Client

end Bittrex

end VenueGateway
