import VenueGateway.Proofs.Channel.Sent

/-! # The nonces of a run

A channel is used over and over: requests are prepared or sent, for anonymous and signed endpoints,
and each transport brings whatever it brings. Over any such run the signed steps are numbered
without a gap from the first nonce on, until there is none left. What a request carries is read back
out of its address, so that it is known to be the venue's view of it.
-/

namespace VenueGateway

/-- One use of a channel. Every use brings its own transport, as a transport may change. -/
inductive Use : Type 1
  | prepare (endpoint : Endpoint) (query : Query)
  | execute (transport : Transport) (endpoint : Endpoint) (query : Query)
  | call {α β : Type} (transport : Transport) (endpoint : Endpoint) (query : Query)
    (context : String) (shape : Json.Shape α) (understand : α → Except Abort β)
  | acknowledge (transport : Transport) (endpoint : Endpoint) (query : Query) (context : String)

/-- What a use of a channel comes to: how it ends, the request that it builds, the request that is
handed to the transport, and the channel that it leaves. -/
structure Effect where
  outcome : Except Abort Unit
  built : Option Request
  sent : Option Request
  after : Channel

def Step.effect {α : Type} (step : Step Channel α) : Effect :=
  ⟨step.outcome.map fun _ => (), step.sent, step.sent, step.after⟩

namespace Use

def endpoint : Use → Endpoint
  | prepare endpoint _ => endpoint
  | execute _ endpoint _ => endpoint
  | call _ endpoint _ _ _ _ => endpoint
  | acknowledge _ endpoint _ _ => endpoint

def query : Use → Query
  | prepare _ query => query
  | execute _ _ query => query
  | call _ _ query _ _ _ => query
  | acknowledge _ _ query _ => query

def isSigned (use : Use) : Bool := use.endpoint.isSigned

def effect (channel : Channel) : Use → Effect
  | prepare endpoint query =>
    match channel.prepare endpoint query with
    | .error failure => ⟨.error (.failure failure), none, none, channel⟩
    | .ok (request, after) => ⟨.ok (), some request, none, after⟩
  | execute transport endpoint query => (channel.execute transport endpoint query).effect
  | call transport endpoint query context shape understand =>
    (channel.call transport endpoint query context shape understand).effect
  | acknowledge transport endpoint query context =>
    (channel.acknowledge transport endpoint query context).effect

/-! ## One use -/

variable (channel : Channel) (use : Use)

theorem effect_built : (use.effect channel).built = channel.request? use.endpoint use.query := by
  cases use with
  | prepare endpoint query =>
    change _ = channel.request? endpoint query
    cases built : channel.request? endpoint query with
    | none => rw [effect, (Channel.prepare_of_none built).1]
    | some request => rw [effect, Channel.prepare_of_some built]
  | execute transport endpoint query => exact Channel.exchange_sent ..
  | call transport endpoint query context shape understand => exact Channel.exchange_sent ..
  | acknowledge transport endpoint query context => exact Channel.exchange_sent ..

theorem effect_after : (use.effect channel).after = channel.advance use.endpoint := by
  cases use with
  | prepare endpoint query =>
    change _ = channel.advance endpoint
    cases built : channel.request? endpoint query with
    | none => rw [effect, (Channel.prepare_of_none built).1, (Channel.prepare_of_none built).2]
    | some request => rw [effect, Channel.prepare_of_some built]
  | execute transport endpoint query => exact Channel.exchange_after ..
  | call transport endpoint query context shape understand => exact Channel.exchange_after ..
  | acknowledge transport endpoint query context => exact Channel.exchange_after ..

/-- Nothing is sent but what was built. -/
theorem effect_sent :
    (use.effect channel).sent = none ∨ (use.effect channel).sent = (use.effect channel).built := by
  cases use with
  | prepare endpoint query =>
    rw [effect]
    split <;> exact .inl rfl
  | execute | call | acknowledge => exact .inr rfl

variable {channel use}

theorem effect_outcome_of_refused (refused : channel.request? use.endpoint use.query = none) :
    (use.effect channel).outcome = .error (.failure NonceCounter.exhausted) := by
  cases use with
  | prepare endpoint query =>
    change channel.request? endpoint query = none at refused
    rw [effect, (Channel.prepare_of_none refused).1]
  | execute transport endpoint query =>
    exact congrArg (Except.map _) (Channel.exchange_outcome_of_none transport _ refused)
  | call transport endpoint query context shape understand =>
    exact congrArg (Except.map _) (Channel.exchange_outcome_of_none transport _ refused)
  | acknowledge transport endpoint query context =>
    exact congrArg (Except.map _) (Channel.exchange_outcome_of_none transport _ refused)

end Use

namespace Channel

variable {channel : Channel}

/-! ## Runs -/

def run (channel : Channel) (uses : List Use) : Channel :=
  uses.foldl (fun found use => (use.effect found).after) channel

def signedCount (uses : List Use) : Nat := uses.countP Use.isSigned

/-- The address that a use builds, if it is for a signed endpoint. -/
def signedUrl? (channel : Channel) (use : Use) : Option String :=
  if use.isSigned then (use.effect channel).built.map Request.url else none

/-- The addresses that a run builds for signed endpoints, in order. -/
def signedUrls (channel : Channel) : List Use → List String
  | [] => []
  | use :: rest => (channel.signedUrl? use).toList ++ (use.effect channel).after.signedUrls rest

/-- What holds of every run. A signed use is known by the uses before it. -/
structure RunNumbered (channel : Channel) (uses : List Use) : Prop where
  numbered : ∀ prior use rest, uses = prior ++ use :: rest → use.isSigned = true →
    channel.nonces.next.val + signedCount prior < NonceCounter.limit →
    ∃ request, (use.effect (channel.run prior)).built = some request ∧
      channel.profile.CarriesNonce channel.key use.endpoint
        (channel.nonces.next.val + signedCount prior) use.query request.url
  exhausted : ∀ prior use rest, uses = prior ++ use :: rest → use.isSigned = true →
    NonceCounter.limit ≤ channel.nonces.next.val + signedCount prior →
    (use.effect (channel.run prior)).sent = none ∧
      ∃ detail, (use.effect (channel.run prior)).outcome = .error (.failure (.configuration detail))
  anonymous : ∀ prior use rest, uses = prior ++ use :: rest → use.isSigned = false →
    (use.effect (channel.run prior)).after = channel.run prior
  final : (channel.run uses).nonces.next.val =
    min (channel.nonces.next.val + signedCount uses) NonceCounter.limit
  distinct : (channel.signedUrls uses).Nodup

theorem run_cons (use : Use) (rest : List Use) :
    channel.run (use :: rest) = (channel.advance use.endpoint).run rest := by
  rw [← use.effect_after channel]
  rfl

theorem signed_of_isSigned {use : Use} (signed : use.isSigned = true) :
    use.endpoint.access = .signed :=
  of_decide_eq_true signed

theorem anonymous_of_not_isSigned {use : Use} (anonymous : use.isSigned = false) :
    use.endpoint.access = .anonymous := by
  have notSigned : use.endpoint.access ≠ .signed := of_decide_eq_false anonymous
  cases access : use.endpoint.access with
  | anonymous => rfl
  | signed => exact absurd access notSigned

/-- A run leaves everything but the nonces alone. -/
theorem run_eq (channel : Channel) (uses : List Use) :
    channel.run uses = { channel with nonces := (channel.run uses).nonces } := by
  induction uses generalizing channel with
  | nil => rfl
  | cons use rest ih => rw [run_cons, ih, advance_eq]

@[simp] theorem run_profile (channel : Channel) (uses : List Use) :
    (channel.run uses).profile = channel.profile := by
  rw [run_eq]

@[simp] theorem run_key (channel : Channel) (uses : List Use) :
    (channel.run uses).key = channel.key := by
  rw [run_eq]

/-- A step takes one nonce if it is signed and none otherwise. -/
theorem advance_next (use : Use) :
    (channel.advance use.endpoint).nonces.next.val =
      min (channel.nonces.next.val + signedCount [use]) NonceCounter.limit := by
  cases isSigned : use.isSigned with
  | true =>
    rw [advance_of_signed (signed_of_isSigned isSigned), NonceCounter.advance_next, signedCount,
      List.countP_singleton, isSigned]
    rfl
  | false =>
    rw [advance_of_anonymous (anonymous_of_not_isSigned isSigned), signedCount,
      List.countP_singleton, isSigned]
    exact (Nat.min_eq_left channel.nonces.next_le_limit).symm

theorem next_le_advance (use : Use) :
    channel.nonces.next.val ≤ (channel.advance use.endpoint).nonces.next.val := by
  have := channel.nonces.next_le_limit
  rw [advance_next]
  omega

theorem run_next (uses : List Use) :
    (channel.run uses).nonces.next.val =
      min (channel.nonces.next.val + signedCount uses) NonceCounter.limit := by
  induction uses generalizing channel with
  | nil => exact (Nat.min_eq_left channel.nonces.next_le_limit).symm
  | cons use rest ih =>
    have count : signedCount (use :: rest) = signedCount [use] + signedCount rest := by
      rw [signedCount, ← List.singleton_append, List.countP_append]
      rfl
    rw [run_cons, ih, advance_next, count]
    omega

/-! ## The signed steps of a run -/

/-- A signed step takes the next nonce. -/
theorem built_of_signed
    (distinct : channel.profile.nonceParameter ≠ channel.profile.keyParameter) {use : Use}
    (signed : use.isSigned = true) (next : channel.nonces.HasNext) :
    ∃ request, (use.effect channel).built = some request ∧
      channel.profile.CarriesNonce channel.key use.endpoint channel.nonces.next.val use.query
        request.url := by
  refine ⟨_, ?_, carriesNonce_signedRequest distinct use.endpoint _ use.query⟩
  rw [Use.effect_built, request?_of_signed (signed_of_isSigned signed) next]

theorem signed_of_signedUrl? {use : Use} {url : String} (built : channel.signedUrl? use = some url) :
    use.isSigned = true ∧ channel.nonces.HasNext := by
  rw [signedUrl?] at built
  split at built
  · rename_i signed
    refine ⟨signed, Decidable.byContradiction fun last => ?_⟩
    rw [Use.effect_built, request?_eq_none_iff.mpr ⟨signed_of_isSigned signed, last⟩] at built
    cases built
  · cases built

theorem carriesNonce_of_signedUrl?
    (distinct : channel.profile.nonceParameter ≠ channel.profile.keyParameter) {use : Use}
    {url : String} (built : channel.signedUrl? use = some url) :
    channel.profile.CarriesNonce channel.key use.endpoint channel.nonces.next.val use.query url := by
  obtain ⟨signed, next⟩ := signed_of_signedUrl? built
  obtain ⟨request, effect, carries⟩ := built_of_signed distinct signed next
  rw [signedUrl?, if_pos signed, effect] at built
  cases built
  exact carries

/-- No signed address of a run carries a nonce that was taken before the run. -/
theorem nonce_of_mem_signedUrls
    (distinct : channel.profile.nonceParameter ≠ channel.profile.keyParameter) {uses : List Use}
    {url : String} (member : url ∈ channel.signedUrls uses) :
    ∃ endpoint nonce query, channel.nonces.next.val ≤ nonce ∧
      channel.profile.CarriesNonce channel.key endpoint nonce query url := by
  induction uses generalizing channel with
  | nil => cases member
  | cons use rest ih =>
    rcases List.mem_append.mp member with here | later
    · have built := Option.mem_toList.mp here
      exact ⟨_, _, _, le_rfl, carriesNonce_of_signedUrl? distinct built⟩
    · rw [Use.effect_after] at later
      obtain ⟨endpoint, nonce, query, above, carries⟩ := ih (by simpa using distinct) later
      rw [advance_profile, advance_key] at carries
      exact ⟨endpoint, nonce, query, (next_le_advance use).trans above, carries⟩

theorem nodup_signedUrls
    (distinct : channel.profile.nonceParameter ≠ channel.profile.keyParameter) (uses : List Use) :
    (channel.signedUrls uses).Nodup := by
  induction uses generalizing channel with
  | nil => exact List.nodup_nil
  | cons use rest ih =>
    rw [signedUrls, Use.effect_after]
    have tail : ((channel.advance use.endpoint).signedUrls rest).Nodup := ih (by simpa using distinct)
    cases built : channel.signedUrl? use with
    | none => exact tail
    | some url =>
      refine List.nodup_cons.mpr ⟨fun again => ?_, tail⟩
      obtain ⟨endpoint, nonce, query, above, later⟩ :=
        nonce_of_mem_signedUrls (by simpa using distinct) again
      rw [advance_profile, advance_key] at later
      have same := (carriesNonce_of_signedUrl? distinct built).unique later
      obtain ⟨signed, next⟩ := signed_of_signedUrl? built
      have moved : (channel.advance use.endpoint).nonces.next.val =
          min (channel.nonces.next.val + 1) NonceCounter.limit := by
        rw [advance_of_signed (signed_of_isSigned signed), NonceCounter.advance_next]
      rw [NonceCounter.HasNext] at next
      omega

/-- Over any run the signed steps carry the nonces from the next one on, each of them once, until
they are used up; from then on they fail and send nothing. -/
theorem run_numbered
    (distinct : channel.profile.nonceParameter ≠ channel.profile.keyParameter) (uses : List Use) :
    RunNumbered channel uses := by
  refine ⟨?numbered, ?exhausted, ?anonymous, run_next uses, nodup_signedUrls distinct uses⟩
  case numbered =>
    rintro prior use rest - signed room
    have reached : (channel.run prior).nonces.next.val =
        channel.nonces.next.val + signedCount prior := by
      rw [run_next]
      omega
    have next : (channel.run prior).nonces.HasNext := by rwa [NonceCounter.HasNext, reached]
    rw [← reached, ← channel.run_profile prior, ← channel.run_key prior]
    exact built_of_signed (by simpa using distinct) signed next
  case exhausted =>
    rintro prior use rest - signed spent
    have last : ¬ (channel.run prior).nonces.HasNext := by
      rw [NonceCounter.HasNext, run_next]
      omega
    have refused : (channel.run prior).request? use.endpoint use.query = none :=
      request?_eq_none_iff.mpr ⟨signed_of_isSigned signed, last⟩
    refine ⟨?_, _, Use.effect_outcome_of_refused refused⟩
    rcases use.effect_sent (channel.run prior) with nothing | same
    · exact nothing
    · rw [same, Use.effect_built, refused]
  case anonymous =>
    rintro prior use rest - anonymous
    rw [Use.effect_after, advance_of_anonymous (anonymous_of_not_isSigned anonymous)]

/-- A channel with one nonce left. -/
def nearlySpent : Channel := sample ⟨⟨NonceCounter.limit - 1, by decide⟩⟩ .standard

/-- The last nonce is issued although the caller names another one, and no request follows it. -/
theorem run_numbered_nearlySpent :
    nearlySpent.profile.nonceParameter ≠ nearlySpent.profile.keyParameter ∧
      RunNumbered nearlySpent
        [.prepare (.signed "account/getbalances") (.ofList [("nonce", "7"), ("a&b", "c=d")]),
          .execute (fun _ => .error (.network "offline")) (.anonymous "public/getmarkets") ∅,
          .acknowledge (fun _ => .ok ⟨200, "\x7b\x7d"⟩) (.signed "market/cancel") ∅ "cancel: "] := by
  have distinct : nearlySpent.profile.nonceParameter ≠ nearlySpent.profile.keyParameter := by decide
  exact ⟨distinct, run_numbered distinct _⟩

end Channel

end VenueGateway
