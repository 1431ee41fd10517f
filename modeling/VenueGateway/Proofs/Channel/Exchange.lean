import VenueGateway.Channel.Basic
import VenueGateway.Proofs.Tolerance

/-! # One exchange

What an exchange sends and what it leaves of the channel are decided before the transport is asked:
`request?` is the request that it sends, and `advance` the channel afterwards. Only the outcome
depends on the transport, and only on what it makes of that one request.
-/

namespace VenueGateway

namespace NonceCounter

/-- The counter after one more nonce was asked for. An exhausted counter stays where it is. -/
def advance (counter : NonceCounter) : NonceCounter :=
  if h : counter.next.val + 1 < UInt64.size then ⟨⟨counter.next.val + 1, h⟩⟩ else counter

/-- Whether there is another nonce. -/
def HasNext (counter : NonceCounter) : Prop := counter.next.val < limit

instance (counter : NonceCounter) : Decidable counter.HasNext :=
  inferInstanceAs (Decidable (counter.next.val < limit))

theorem next_le_limit (counter : NonceCounter) : counter.next.val ≤ limit :=
  Nat.le_pred_of_lt counter.next.isLt

theorem hasNext_iff (counter : NonceCounter) :
    counter.HasNext ↔ counter.next.val + 1 < UInt64.size := by
  rw [HasNext, limit]
  omega

theorem take_of_hasNext {counter : NonceCounter} (next : counter.HasNext) :
    counter.take = .ok (counter.next.val, counter.advance) := by
  have room := counter.hasNext_iff.mp next
  rw [take, dif_pos room, advance, dif_pos room]

theorem take_of_not_hasNext {counter : NonceCounter} (last : ¬ counter.HasNext) :
    counter.take = .error exhausted := by
  rw [take, dif_neg (fun room => last (counter.hasNext_iff.mpr room))]

theorem advance_of_not_hasNext {counter : NonceCounter} (last : ¬ counter.HasNext) :
    counter.advance = counter := by
  rw [advance, dif_neg (fun room => last (counter.hasNext_iff.mpr room))]

/-- Asking for a nonce moves the counter by one, up to its limit. -/
theorem advance_next (counter : NonceCounter) :
    counter.advance.next.val = min (counter.next.val + 1) limit := by
  have below := counter.next_le_limit
  rw [limit] at below ⊢
  rw [advance]
  split
  · dsimp only
    omega
  · omega

theorem advance_next_of_hasNext {counter : NonceCounter} (next : counter.HasNext) :
    counter.advance.next.val = counter.next.val + 1 := by
  rw [HasNext] at next
  rw [advance_next]
  omega

theorem next_eq_limit {counter : NonceCounter} (last : ¬ counter.HasNext) : counter.next.val = limit := by
  have below := counter.next_le_limit
  rw [HasNext] at last
  omega

end NonceCounter

namespace Channel

variable {α : Type}

/-- The request for an endpoint, if the nonce that it may need can be had. -/
def request? (channel : Channel) (endpoint : Endpoint) (query : Query) : Option Request :=
  match endpoint.access with
  | .anonymous => some (channel.anonymousRequest endpoint query)
  | .signed =>
    if channel.nonces.HasNext then
      some (channel.signedRequest endpoint channel.nonces.next.val query)
    else none

def advance (channel : Channel) (endpoint : Endpoint) : Channel :=
  match endpoint.access with
  | .anonymous => channel
  | .signed => { channel with nonces := channel.nonces.advance }

theorem request?_of_anonymous {channel : Channel} {endpoint : Endpoint}
    (anonymous : endpoint.access = .anonymous) (query : Query) :
    channel.request? endpoint query = some (channel.anonymousRequest endpoint query) := by
  rw [request?, anonymous]

theorem request?_of_signed {channel : Channel} {endpoint : Endpoint}
    (signed : endpoint.access = .signed) (next : channel.nonces.HasNext) (query : Query) :
    channel.request? endpoint query =
      some (channel.signedRequest endpoint channel.nonces.next.val query) := by
  rw [request?, signed]
  exact if_pos next

theorem request?_eq_none_iff {channel : Channel} {endpoint : Endpoint} {query : Query} :
    channel.request? endpoint query = none ↔
      endpoint.access = .signed ∧ ¬ channel.nonces.HasNext := by
  rw [request?]
  cases endpoint.access with
  | anonymous => simp
  | signed => simp

/-- A signed request cannot be made without a nonce. -/
theorem hasNext_of_request? {channel : Channel} {endpoint : Endpoint} {query : Query}
    {request : Request} (signed : endpoint.access = .signed)
    (built : channel.request? endpoint query = some request) : channel.nonces.HasNext := by
  apply Classical.byContradiction
  intro last
  rw [request?_eq_none_iff.mpr ⟨signed, last⟩] at built
  cases built

theorem advance_of_anonymous {channel : Channel} {endpoint : Endpoint}
    (anonymous : endpoint.access = .anonymous) : channel.advance endpoint = channel := by
  rw [advance, anonymous]

theorem advance_of_signed {channel : Channel} {endpoint : Endpoint}
    (signed : endpoint.access = .signed) :
    channel.advance endpoint = { channel with nonces := channel.nonces.advance } := by
  rw [advance, signed]

/-- A step leaves everything but the nonces alone. -/
theorem advance_eq (channel : Channel) (endpoint : Endpoint) :
    channel.advance endpoint = { channel with nonces := (channel.advance endpoint).nonces } := by
  cases access : endpoint.access with
  | anonymous => rw [advance_of_anonymous access]
  | signed => rw [advance_of_signed access]

@[simp] theorem advance_profile (channel : Channel) (endpoint : Endpoint) :
    (channel.advance endpoint).profile = channel.profile := by
  rw [advance_eq]

@[simp] theorem advance_key (channel : Channel) (endpoint : Endpoint) :
    (channel.advance endpoint).key = channel.key := by
  rw [advance_eq]

/-! ## Preparing and exchanging -/

/-- What a channel reads is a response that the transport brought and that is not refused. -/
theorem receive_eq_ok_iff {tolerance : Tolerance} {reached : Except Failure Response}
    {response : Response} :
    receive tolerance reached = .ok response ↔
      reached = .ok response ∧ ¬ tolerance.Refuses response := by
  cases reached with
  | error failure => exact ⟨nofun, nofun⟩
  | ok found =>
    rw [receive]
    rcases tolerance.checkResponse_cases found with ⟨refused, detail, checked⟩ | ⟨passed, checked⟩
    · rw [checked]
      refine ⟨nofun, ?_⟩
      rintro ⟨⟨⟩, passed⟩
      exact absurd refused passed
    · rw [checked]
      constructor
      · rintro ⟨⟩
        exact ⟨rfl, passed⟩
      · rintro ⟨⟨⟩, -⟩
        rfl

theorem prepare_of_some {channel : Channel} {endpoint : Endpoint} {query : Query}
    {request : Request} (built : channel.request? endpoint query = some request) :
    channel.prepare endpoint query = .ok (request, channel.advance endpoint) := by
  cases access : endpoint.access with
  | anonymous =>
    rw [request?_of_anonymous access] at built
    cases built
    rw [advance_of_anonymous access, prepare, access]
  | signed =>
    by_cases next : channel.nonces.HasNext
    · rw [request?_of_signed access next] at built
      cases built
      rw [advance_of_signed access, prepare, access, NonceCounter.take_of_hasNext next]
      rfl
    · rw [request?_eq_none_iff.mpr ⟨access, next⟩] at built
      cases built

theorem prepare_of_none {channel : Channel} {endpoint : Endpoint} {query : Query}
    (refused : channel.request? endpoint query = none) :
    channel.prepare endpoint query = .error NonceCounter.exhausted ∧
      channel.advance endpoint = channel := by
  obtain ⟨signed, last⟩ := request?_eq_none_iff.mp refused
  constructor
  · rw [prepare, signed, NonceCounter.take_of_not_hasNext last]
    rfl
  · rw [advance_of_signed signed, NonceCounter.advance_of_not_hasNext last]

section Exchange

variable (channel : Channel) (transport : Transport) (endpoint : Endpoint) (query : Query)
  (read : Response → Except Abort α)

theorem exchange_sent :
    (channel.exchange transport endpoint query read).sent = channel.request? endpoint query := by
  cases built : channel.request? endpoint query with
  | none => rw [exchange, (prepare_of_none built).1]
  | some request =>
    rw [exchange, prepare_of_some built]
    dsimp only
    cases receive channel.tolerance (transport request) <;> rfl

theorem exchange_after :
    (channel.exchange transport endpoint query read).after = channel.advance endpoint := by
  cases built : channel.request? endpoint query with
  | none => rw [exchange, (prepare_of_none built).1, (prepare_of_none built).2]
  | some request =>
    rw [exchange, prepare_of_some built]
    dsimp only
    cases receive channel.tolerance (transport request) <;> rfl

variable {channel endpoint query}

theorem exchange_outcome_of_none (refused : channel.request? endpoint query = none) :
    (channel.exchange transport endpoint query read).outcome =
      .error (.failure NonceCounter.exhausted) := by
  rw [exchange, (prepare_of_none refused).1]

theorem exchange_outcome_of_some {request : Request}
    (built : channel.request? endpoint query = some request) :
    (channel.exchange transport endpoint query read).outcome =
      match receive channel.tolerance (transport request) with
      | .error failure => .error (.failure failure)
      | .ok response => read response := by
  rw [exchange, prepare_of_some built]
  dsimp only
  cases receive channel.tolerance (transport request) <;> rfl

/-- An exchange fails before a response is read, however it would have been read, or it reads the
response that the transport brings for its request. -/
theorem exchange_outcome_cases (channel : Channel) (transport : Transport) (endpoint : Endpoint)
    (query : Query) :
    (∃ failure, ∀ {β : Type} (read : Response → Except Abort β),
      (channel.exchange transport endpoint query read).outcome = .error (.failure failure)) ∨
    ∃ request response, channel.request? endpoint query = some request ∧
      transport request = .ok response ∧ ¬ channel.tolerance.Refuses response ∧
      ∀ {β : Type} (read : Response → Except Abort β),
        (channel.exchange transport endpoint query read).outcome = read response := by
  cases built : channel.request? endpoint query with
  | none => exact .inl ⟨_, fun read => exchange_outcome_of_none transport read built⟩
  | some request =>
    cases received : receive channel.tolerance (transport request) with
    | error failure =>
      refine .inl ⟨failure, fun read => ?_⟩
      rw [exchange_outcome_of_some _ _ built, received]
    | ok response =>
      obtain ⟨reached, passed⟩ := receive_eq_ok_iff.mp received
      refine .inr ⟨request, response, rfl, reached, passed, fun read => ?_⟩
      rw [exchange_outcome_of_some _ _ built, received]

/-- An exchange sees of the transport only what it makes of the request that is sent. -/
theorem exchange_congr {other : Transport}
    (same : ∀ request, channel.request? endpoint query = some request →
      other request = transport request) :
    channel.exchange other endpoint query read = channel.exchange transport endpoint query read := by
  cases built : channel.request? endpoint query with
  | none => rw [exchange, exchange, (prepare_of_none built).1]
  | some request =>
    rw [exchange, exchange, prepare_of_some built]
    dsimp only
    rw [same request built]

end Exchange

/-- A channel to a venue whose base address ends with a slash. -/
def sample (nonces : NonceCounter) (network : NetworkSettings) : Channel where
  profile := ⟨"test", "https://host/api/v1.1/", .standard, "apisign", "nonce", "apikey"⟩
  key := "key"
  signer := ⟨"secret", by decide⟩
  nonces := nonces
  tolerance := .ofSettings network

end Channel

end VenueGateway
