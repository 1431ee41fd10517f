import VenueGateway.Proofs.Bittrex.History
import VenueGateway.Proofs.Channel.Sent

/-! # What a client sends

`wire?` is the venue's table of requests: for each call the method, the path and the parameters, in
the order of their names. A client that is set up sends exactly what the table says, once, under the
base address of its settings or else its own, and the parameters read back as they were given, whatever
characters are in them. Calls that have no row in the table do not touch the client.
-/

namespace VenueGateway.Bittrex

/-- A request as the venue reads it. -/
structure Wire where
  method : Method
  path : String
  pairs : List (String × String)

/-- Where an order of a side is placed. -/
def limitPath : Side → String
  | .buy => "market/buylimit"
  | .sell => "market/selllimit"

/-- The request for a call, by the caller's key and nonce. -/
def wire? (key : String) (nonce : Nat) : Call → Option Wire
  | .orderBook market =>
    some ⟨.get, "public/getorderbook", [("market", market), ("type", "both")]⟩
  | .latestPrice market => some ⟨.get, "public/getticker", [("market", market)]⟩
  | .openOrders market =>
    some ⟨.post, "market/getopenorders",
      [("apikey", key), ("market", market), ("nonce", toString nonce)]⟩
  | .createOrder market side quantity price =>
    if 0 < quantity.units ∧ 0 < price.units then
      some ⟨.post, limitPath side, [("apikey", key), ("market", market), ("nonce", toString nonce),
        ("quantity", amountText quantity), ("rate", amountText price)]⟩
    else none
  | .cancelOrder id _ =>
    some ⟨.post, "market/cancel", [("apikey", key), ("nonce", toString nonce), ("uuid", id)]⟩
  | .balances => some ⟨.post, "account/getbalances", [("apikey", key), ("nonce", toString nonce)]⟩
  | .buyFee _ | .sellFee _ => none

/-- What all addresses under a base begin with: the base, and a slash if it does not end in one. -/
structure RootOf (base root : String) : Prop where
  kept : base.toList.getLast? = some '/' → root = base
  extended : base.toList.getLast? ≠ some '/' → root = base ++ "/"

/-- A client sends one request under a base address, or none and stays as it is. -/
structure Client.Sends (client : Client) (base : String) (wire : Option Wire) (transport : Transport)
    (call : Call) : Prop where
  sent : ∀ row, wire = some row → ∃ request root, (client.answer transport call).sent = some request ∧
    request.method = row.method ∧ RootOf base root ∧ CarriesQuery request.url root row.path row.pairs
  silent : wire = none →
    (client.answer transport call).sent = none ∧ (client.answer transport call).after = client
  once : ∀ other : Transport,
    (∀ request, (client.answer transport call).sent = some request →
      other request = transport request) → client.answer other call = client.answer transport call

theorem rootOf_withSlash (base : String) : RootOf base (withSlash base) :=
  ⟨fun slashed => if_pos slashed, fun open_ended => if_neg open_ended⟩

/-! ## Sessions -/

section Session

variable {session : Session} {base : String} {settings : VenueSettings}

/-- A request for everybody carries the parameters that it is given. -/
private theorem sent_of_anonymous (setUpFor : session.SetUpFor base settings) (operation : Operation)
    (anonymous : operation.endpoint.access = .anonymous) (query : Query)
    {pairs : List (String × String)} (entries : query.entries = pairs) (nonempty : pairs ≠ []) :
    ∃ request, session.channel.request? operation.endpoint query = some request ∧
      request.method = operation.endpoint.method ∧
      CarriesQuery request.url (withSlash base) operation.endpoint.path pairs := by
  have same : session.channel.sentQuery operation.endpoint query = query := by
    rw [Channel.sentQuery, anonymous]
  have carries := session.channel.request?_carries operation.endpoint query
    (fun signed => by rw [anonymous] at signed; cases signed)
    (by rw [same, NameMap.isEmpty, entries]; exact List.isEmpty_eq_false_iff.mpr nonempty)
  rwa [same, entries, setUpFor.profile] at carries

/-- A signed request carries the key and the nonce among the parameters that it is given. -/
private theorem sent_of_signed (setUpFor : session.SetUpFor base settings)
    (next : session.channel.nonces.HasNext) (operation : Operation)
    (signed : operation.endpoint.access = .signed) (query : Query) {pairs : List (String × String)}
    (entries : Entries.insert "apikey" session.channel.key
      (Entries.insert "nonce" (toString session.channel.nonces.next.val) query.entries) = pairs) :
    ∃ request, session.channel.request? operation.endpoint query = some request ∧
      request.method = operation.endpoint.method ∧
      CarriesQuery request.url (withSlash base) operation.endpoint.path pairs := by
  have same : session.channel.sentQuery operation.endpoint query =
      (query.insert "nonce" (toString session.channel.nonces.next.val)).insert "apikey"
        session.channel.key := by
    rw [Channel.sentQuery, signed, Channel.signedQuery, setUpFor.profile]
    rfl
  have carries := session.channel.request?_carries operation.endpoint query
    (fun _ => next) (by rw [same]; exact NameMap.isEmpty_insert ..)
  rwa [same, NameMap.entries_insert, NameMap.entries_insert, entries, setUpFor.profile] at carries

/-- The parameters of an order, brought into the order of their names. -/
private theorem orderEntries (key nonce market rate quantity : String) :
    Entries.insert "apikey" key (Entries.insert "nonce" nonce
      (NameMap.ofList [("market", market), ("rate", rate), ("quantity", quantity)]).entries) =
        [("apikey", key), ("market", market), ("nonce", nonce), ("quantity", quantity),
          ("rate", rate)] := by
  simp +decide only [NameMap.entries_ofList, List.foldl_cons, List.foldl_nil, Entries.insert,
    ↓reduceIte]

/-- A session sends the row of a call that the table has. -/
theorem Session.sent_of_wire? (setUpFor : session.SetUpFor base settings)
    (next : session.channel.nonces.HasNext) {call : Call} {row : Wire}
    (wired : wire? session.channel.key session.channel.nonces.next.val call = some row)
    (transport : Transport) :
    ∃ request, (session.answer transport call).sent = some request ∧ request.method = row.method ∧
      CarriesQuery request.url (withSlash base) row.path row.pairs := by
  cases call with
  | orderBook market =>
    cases wired
    rw [Session.answer, work, Channel.exchange_sent]
    refine sent_of_anonymous setUpFor .orderBook rfl _ ?_ (List.cons_ne_nil _ _)
    simp +decide only [NameMap.entries_ofList, List.foldl_cons, List.foldl_nil, Entries.insert,
      ↓reduceIte]
  | latestPrice market =>
    cases wired
    rw [Session.answer, work, Channel.exchange_sent]
    exact sent_of_anonymous setUpFor .ticker rfl _ rfl (List.cons_ne_nil _ _)
  | openOrders market =>
    cases wired
    rw [Session.answer, work, Channel.exchange_sent]
    refine sent_of_signed setUpFor next .openOrders rfl _ ?_
    simp +decide only [NameMap.entries_ofList, List.foldl_cons, List.foldl_nil, Entries.insert,
      ↓reduceIte]
  | createOrder market side quantity price =>
    rw [wire?, Option.ite_none_right_eq_some] at wired
    obtain ⟨-, ⟨⟩⟩ := wired
    rw [Session.answer, work, Channel.exchange_sent]
    cases side with
    | buy => exact sent_of_signed setUpFor next (.limitOrder .buy) rfl _ (orderEntries ..)
    | sell => exact sent_of_signed setUpFor next (.limitOrder .sell) rfl _ (orderEntries ..)
  | cancelOrder id market =>
    cases wired
    rw [Session.answer, work, Channel.exchange_sent]
    refine sent_of_signed setUpFor next .cancel rfl _ ?_
    simp +decide only [NameMap.entries_ofList, List.foldl_cons, List.foldl_nil, Entries.insert,
      ↓reduceIte]
  | balances =>
    cases wired
    rw [Session.answer, work, Channel.exchange_sent]
    refine sent_of_signed setUpFor next .balances rfl _ ?_
    simp +decide only [NameMap.entries_empty, Entries.insert, ↓reduceIte]
  | buyFee market => cases wired
  | sellFee market => cases wired

/-- A session sees of the transport only what it makes of the request that is sent. -/
theorem Session.answer_congr {transport other : Transport} {call : Call}
    (same : ∀ request, (session.answer transport call).sent = some request →
      other request = transport request) :
    session.answer other call = session.answer transport call := by
  rw [Session.answer, Session.answer]
  split
  · rfl
  · rename_i operation query read wired
    rw [Session.answer, wired] at same
    simp only [Channel.exchange_sent] at same
    rw [Channel.exchange_congr transport _ same]

end Session

/-! ## Clients -/

theorem checkOrder_isOk_iff (quantity price : Decimal) :
    checkOrder quantity price = .ok () ↔ 0 < quantity.units ∧ 0 < price.units := by
  simp only [checkOrder, Decimal.isPositive]
  by_cases positive : 0 < quantity.units
  · by_cases alsoPositive : 0 < price.units
    · simp [positive, alsoPositive]
    · simp [positive, alsoPositive]
  · simp [positive]

/-- What the table has a row for is not refused. -/
theorem checkCall_of_wire? {key : String} {nonce : Nat} {call : Call} {row : Wire}
    (wired : wire? key nonce call = some row) : checkCall call = .ok () := by
  cases call with
  | createOrder market side quantity price =>
    rw [wire?, Option.ite_none_right_eq_some] at wired
    exact (checkOrder_isOk_iff quantity price).mpr wired.1
  | _ => rfl

namespace Client

variable {client : Client} {base : String} {settings : VenueSettings} {nonces : NonceCounter}
  {session : Session}

theorem Serves.sent (serves : client.Serves base settings session)
    (next : session.channel.nonces.HasNext) {call : Call} {row : Wire}
    (wired : wire? session.channel.key session.channel.nonces.next.val call = some row)
    (transport : Transport) :
    ∃ request, (client.answer transport call).sent = some request ∧ request.method = row.method ∧
      CarriesQuery request.url (withSlash base) row.path row.pairs := by
  rw [answer_of_ready serves.ready (checkCall_of_wire? wired)]
  exact Session.sent_of_wire? serves.setUpFor next wired transport

theorem Serves.silent (serves : client.Serves base settings session) {key : String} {nonce : Nat}
    {call : Call} (unwired : wire? key nonce call = none) (transport : Transport) :
    (client.answer transport call).sent = none ∧ (client.answer transport call).after = client := by
  have unchanged : { client with readiness := .ready session } = client := by rw [← serves.ready]
  cases call with
  | createOrder market side quantity price =>
    rw [wire?, ite_eq_right_iff] at unwired
    cases checked : checkCall (.createOrder market side quantity price) with
    | error failure =>
      rw [answer_of_refused checked]
      exact ⟨rfl, rfl⟩
    | ok _ => exact nomatch unwired ((checkOrder_isOk_iff quantity price).mp checked)
  | buyFee market | sellFee market =>
    rw [answer_of_ready serves.ready rfl]
    exact ⟨rfl, unchanged⟩
  | orderBook | openOrders | cancelOrder | latestPrice | balances => cases unwired

/-- A client sees of the transport only what it makes of the request that is sent. -/
theorem answer_congr {transport other : Transport} {call : Call}
    (same : ∀ request, (client.answer transport call).sent = some request →
      other request = transport request) :
    client.answer other call = client.answer transport call := by
  rw [answer] at same
  rw [answer, answer]
  cases allowed : checkCall call with
  | error failure => rfl
  | ok _ =>
    cases ready : client.readiness.session with
    | error failure => rfl
    | ok session =>
      rw [allowed, ready] at same
      dsimp only
      rw [session.answer_congr same]

/-- A client that serves some settings sends what the venue's table of requests says. -/
theorem Serves.sends (serves : client.Serves base settings session)
    (next : session.channel.nonces.HasNext) (transport : Transport) (call : Call) :
    client.Sends base (wire? session.channel.key session.channel.nonces.next.val call) transport call := by
  refine ⟨?sent, ?silent, ?once⟩
  case sent =>
    intro row wired
    obtain ⟨request, sent, method, carries⟩ := serves.sent next wired transport
    exact ⟨request, _, sent, method, rootOf_withSlash base, carries⟩
  case silent =>
    intro unwired
    exact serves.silent unwired transport
  case once =>
    intro other same
    exact answer_congr same

/-- Whatever a client was asked since it was set up, it sends exactly what the table says, with the key of
its settings, and under their base address or else its own. -/
theorem answer_sends (fresh : client.readiness = .uninitialized)
    (done : (client.setUp settings nonces).1 = .ok ()) (actions : List Action) :
    ∃ credentials session, settings.secrets.credentials = .ok credentials ∧
      ((client.setUp settings nonces).2.run actions).readiness = .ready session ∧
      (session.channel.nonces.HasNext → ∀ transport call,
        ((client.setUp settings nonces).2.run actions).Sends
          ((settings.entries.get? "base-url").getD client.base)
          (wire? credentials.key session.channel.nonces.next.val call) transport call) := by
  obtain ⟨session, serves⟩ := serves_run fresh done actions
  exact ⟨_, session, serves.setUpFor.credentials, serves.ready, serves.sends⟩

def hosted : Client := (new true).withBase "https://host"

/-- Settings that name another base, without a slash. -/
def mirroredSettings : VenueSettings :=
  { plainSettings with entries := plainSettings.entries.insert "base-url" "https://mirror" }

/-- The base of the settings comes before that of the client, and a market that reads like two parameters
is one. -/
theorem answer_sends_mirrored :
    hosted.readiness = .uninitialized ∧ (hosted.setUp mirroredSettings ⟨1000⟩).1 = .ok () ∧
      ∃ request, (((hosted.setUp mirroredSettings ⟨1000⟩).2.run
          [.answer (fun _ => .error (.network "offline")) .balances]).answer
            (fun _ => .error (.network "offline")) (.openOrders "BTC-LTC&type=x")).sent = some request ∧
        CarriesQuery request.url "https://mirror/" "market/getopenorders"
          [("apikey", "key"), ("market", "BTC-LTC&type=x"), ("nonce", "1001")] := by
  have done : (hosted.setUp mirroredSettings ⟨1000⟩).1 = .ok () := by decide +kernel
  obtain ⟨credentials, session, found, ready, sends⟩ := answer_sends rfl done
    [.answer (fun _ => .error (.network "offline")) .balances]
  have credentials_eq : credentials = ⟨"key", "secret"⟩ := by
    have known : mirroredSettings.secrets.credentials = .ok ⟨"key", "secret"⟩ := by decide +kernel
    cases found.symm.trans known
    rfl
  have nonces_eq : session.channel.nonces = ⟨1001⟩ := by
    have known : ((hosted.setUp mirroredSettings ⟨1000⟩).2.run
        [.answer (fun _ => .error (.network "offline")) .balances]).readiness.session.map
          (·.channel.nonces) = .ok ⟨1001⟩ := by decide +kernel
    rw [ready] at known
    exact Except.ok.inj known
  have next : session.channel.nonces.HasNext := by
    rw [nonces_eq]
    decide
  have base_eq : (mirroredSettings.entries.get? "base-url").getD hosted.base = "https://mirror" := by
    decide +kernel
  obtain ⟨request, root, sent, -, rooted, carries⟩ :=
    (sends next (fun _ => .error (.network "offline")) (.openOrders "BTC-LTC&type=x")).sent _ rfl
  rw [base_eq] at rooted
  rw [credentials_eq, nonces_eq, rooted.extended (by decide)] at carries
  exact ⟨rfl, done, request, sent, carries⟩

end Client

end VenueGateway.Bittrex
