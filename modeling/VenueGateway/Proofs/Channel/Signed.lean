import VenueGateway.Proofs.Channel.Run
import VenueGateway.Proofs.Hash.Hmac

/-! # How a request shows its sender

A request for a signed endpoint has a single header, which signs exactly the address that is sent;
a request for an anonymous endpoint has a single header that is the same for everybody. The
signature is described by the standards of the keyed hash and not by the signer. Over a run of a
channel every request is of this kind, by the secret that the channel has from the beginning.
-/

namespace VenueGateway

/-- A signature of a text: its code under a secret, in 128 lowercase hexadecimal digits. -/
structure IsSignature (secret text signature : String) : Prop where
  code : ∃ code, Hmac.IsCode (Text.utf8 secret) (Text.utf8 text) code ∧
    Hmac.readHex? signature.toList = some code
  length : signature.toList.length = 128
  digits : ∀ c ∈ signature.toList, c ∈ Hmac.lowerDigits

/-- What a request for an endpoint has beside its address. -/
structure Request.ShowsSender (request : Request) (header secret : String) (endpoint : Endpoint) :
    Prop where
  method : request.method = endpoint.method
  signed : endpoint.access = .signed →
    ∃ signature, request.headers = [(header, signature)] ∧ IsSignature secret request.url signature
  post : endpoint.access = .signed → request.method = .post → request.body = some ""
  get : endpoint.access = .signed → request.method = .get → request.body = none
  anonymous : endpoint.access = .anonymous →
    request.headers = [("Content-Type", "application/x-www-form-urlencoded")] ∧ request.body = none

theorem Signer.isSignature_sign (signer : Signer) (text : String) :
    IsSignature signer.secret text (signer.sign text) := by
  refine ⟨⟨_, Hmac.isCode_code _ _, Hmac.readHex?_hex _⟩, ?length, ?digits⟩
  case length => rw [Signer.sign, Hmac.length_hex, Hmac.length_code]
  case digits =>
    intro c member
    exact Hmac.mem_lowerDigits_of_mem_hex member

namespace Channel

variable {channel : Channel} {endpoint : Endpoint} {query : Query} {request : Request}

theorem showsSender_signedRequest (channel : Channel) (endpoint : Endpoint)
    (signed : endpoint.access = .signed) (nonce : Nat) (query : Query) :
    (channel.signedRequest endpoint nonce query).ShowsSender channel.profile.signatureHeader
      channel.signer.secret endpoint := by
  refine ⟨rfl, ?signed, ?post, ?get, ?anonymous⟩
  case signed =>
    intro _
    exact ⟨_, rfl, channel.signer.isSignature_sign _⟩
  case post =>
    intro _ post
    change endpoint.method = .post at post
    rw [signedRequest, post]
  case get =>
    intro _ get
    change endpoint.method = .get at get
    rw [signedRequest, get]
  case anonymous =>
    intro anonymous
    rw [signed] at anonymous
    cases anonymous

theorem showsSender_anonymousRequest (channel : Channel) (endpoint : Endpoint)
    (anonymous : endpoint.access = .anonymous) (query : Query) (header secret : String) :
    (channel.anonymousRequest endpoint query).ShowsSender header secret endpoint := by
  have notSigned : endpoint.access ≠ .signed := by
    rw [anonymous]
    decide
  exact ⟨rfl, fun signed => absurd signed notSigned, fun signed => absurd signed notSigned,
    fun signed => absurd signed notSigned, fun _ => ⟨rfl, rfl⟩⟩

/-- Whatever request a channel builds shows its sender. -/
theorem showsSender_of_request? (built : channel.request? endpoint query = some request) :
    request.ShowsSender channel.profile.signatureHeader channel.signer.secret endpoint := by
  cases access : endpoint.access with
  | anonymous =>
    rw [request?_of_anonymous access] at built
    cases built
    exact channel.showsSender_anonymousRequest endpoint access query _ _
  | signed =>
    by_cases next : channel.nonces.HasNext
    · rw [request?_of_signed access next] at built
      cases built
      exact channel.showsSender_signedRequest endpoint access _ query
    · rw [request?_eq_none_iff.mpr ⟨access, next⟩] at built
      cases built

@[simp] theorem run_signer (channel : Channel) (uses : List Use) :
    (channel.run uses).signer = channel.signer := by
  rw [run_eq]

/-- Over a run all requests are signed with the secret of the beginning. -/
theorem showsSender_of_effect {uses : List Use} {use : Use}
    (handed : (use.effect (channel.run uses)).sent = some request) :
    request.ShowsSender channel.profile.signatureHeader channel.signer.secret use.endpoint := by
  have built : (channel.run uses).request? use.endpoint use.query = some request := by
    rw [← Use.effect_built]
    rcases use.effect_sent (channel.run uses) with nothing | same
    · rw [nothing] at handed
      cases handed
    · rw [← same, handed]
  have shows := showsSender_of_request? built
  rwa [run_profile, run_signer] at shows

end Channel

end VenueGateway
