import VenueGateway.Proofs.Channel.Exchange
import VenueGateway.Proofs.Http.QueryText
import VenueGateway.Proofs.NameMap
import Std.Data.String.ToNat

/-! # What a request carries

The query of a request is read back out of its address. An anonymous request carries the caller's
parameters, and a signed one also the nonce and the key. These stand in it once each, whatever the
caller gave under their names, and all else is as the caller gave it.
-/

namespace VenueGateway

namespace Profile

/-- Whether a pair is the caller's own: neither the nonce nor the key. -/
def isCallers (profile : Profile) (pair : String × String) : Bool :=
  pair.1 ≠ profile.nonceParameter ∧ pair.1 ≠ profile.keyParameter

/-- The pairs of a signed request. -/
structure SignedPairs (profile : Profile) (key : String) (nonce : Nat) (query : Query)
    (pairs : List (String × String)) : Prop where
  nonce_once : pairs.filter (fun pair => pair.1 = profile.nonceParameter) =
    [(profile.nonceParameter, toString nonce)]
  key_once : pairs.filter (fun pair => pair.1 = profile.keyParameter) = [(profile.keyParameter, key)]
  others : pairs.filter profile.isCallers = query.entries.filter profile.isCallers

/-- An address of a signed request for an endpoint. -/
def CarriesNonce (profile : Profile) (key : String) (endpoint : Endpoint) (nonce : Nat)
    (query : Query) (url : String) : Prop :=
  ∃ pairs, CarriesQuery url profile.base endpoint.path pairs ∧
    profile.SignedPairs key nonce query pairs

/-- An address carries one nonce. -/
theorem CarriesNonce.unique {profile : Profile} {key : String} {endpoint other : Endpoint}
    {nonce later : Nat} {query more : Query} {url : String}
    (first : profile.CarriesNonce key endpoint nonce query url)
    (second : profile.CarriesNonce key other later more url) : nonce = later := by
  obtain ⟨pairs, carries, signed⟩ := first
  obtain ⟨pairs', carries', signed'⟩ := second
  obtain rfl : pairs = pairs' := Option.some.inj (carries.decoded.symm.trans carries'.decoded)
  have texts := signed.nonce_once.symm.trans signed'.nonce_once
  have same : toString nonce = toString later := (Prod.mk.inj (List.cons.inj texts).1).2
  exact Nat.repr_injective same

end Profile

namespace Channel

variable {channel : Channel}

theorem signedPairs_signedQuery
    (distinct : channel.profile.nonceParameter ≠ channel.profile.keyParameter) (nonce : Nat)
    (query : Query) :
    channel.profile.SignedPairs channel.key nonce query (channel.signedQuery nonce query).entries := by
  refine ⟨?nonce_once, ?key_once, ?others⟩
  case nonce_once =>
    rw [NameMap.filter_entries_name, signedQuery, NameMap.get?_insert_of_ne _ distinct,
      NameMap.get?_insert_self]
    rfl
  case key_once =>
    rw [NameMap.filter_entries_name, signedQuery, NameMap.get?_insert_self]
    rfl
  case others =>
    rw [signedQuery, NameMap.filter_entries_insert (by simp [Profile.isCallers]),
      NameMap.filter_entries_insert (by simp [Profile.isCallers])]

theorem carriesNonce_signedRequest
    (distinct : channel.profile.nonceParameter ≠ channel.profile.keyParameter) (endpoint : Endpoint)
    (nonce : Nat) (query : Query) :
    channel.profile.CarriesNonce channel.key endpoint nonce query
      (channel.signedRequest endpoint nonce query).url :=
  ⟨_, Query.carriesQuery_address (NameMap.isEmpty_insert ..) _ _,
    signedPairs_signedQuery distinct nonce query⟩

/-- The parameters of the request for an endpoint, if the nonce that it may need can be had. -/
def sentQuery (channel : Channel) (endpoint : Endpoint) (query : Query) : Query :=
  match endpoint.access with
  | .anonymous => query
  | .signed => channel.signedQuery channel.nonces.next.val query

theorem request?_carries (channel : Channel) (endpoint : Endpoint) (query : Query)
    (available : endpoint.access = .signed → channel.nonces.HasNext)
    (nonempty : (channel.sentQuery endpoint query).isEmpty = false) :
    ∃ request, channel.request? endpoint query = some request ∧ request.method = endpoint.method ∧
      CarriesQuery request.url channel.profile.base endpoint.path
        (channel.sentQuery endpoint query).entries := by
  cases access : endpoint.access with
  | anonymous =>
    rw [sentQuery, access] at nonempty ⊢
    exact ⟨_, request?_of_anonymous access query, rfl, Query.carriesQuery_address nonempty _ _⟩
  | signed =>
    rw [sentQuery, access] at nonempty ⊢
    exact ⟨_, request?_of_signed access (available access) query, rfl,
      Query.carriesQuery_address nonempty _ _⟩

end Channel

end VenueGateway
