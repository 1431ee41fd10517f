import VenueGateway.Channel.Profile
import VenueGateway.Trading.Market

/-! # The operations of Bittrex

The REST interface, version 1.1: where its operations are found, how their failures begin, and what
all its requests and replies have in common.
-/

namespace VenueGateway.Bittrex

def title : String := "Bittrex API v1.1"

def shortName : String := "bittrex"

def standardBase : String := "https://bittrex.com/api/v1.1/"

def baseEntry : String := "base-url"

/-- One operation of the interface. -/
inductive Operation
  | orderBook
  | ticker
  | openOrders
  | limitOrder (side : Side)
  | cancel
  | balances
deriving DecidableEq

namespace Operation

/-- Where an operation is found. What concerns the caller's own account is signed. -/
def endpoint : Operation → Endpoint
  | orderBook => .anonymous "public/getorderbook"
  | ticker => .anonymous "public/getticker"
  | openOrders => .signed "market/getopenorders"
  | limitOrder .buy => .signed "market/buylimit"
  | limitOrder .sell => .signed "market/selllimit"
  | cancel => .signed "market/cancel"
  | balances => .signed "account/getbalances"

/-- What the failures of an operation begin with. -/
def context : Operation → String
  | orderBook => "Failed to get Market Order Book from exchange. Details: "
  | ticker => "Failed to get Ticker from exchange. Details: "
  | openOrders => "Failed to get Open Orders from exchange. Details: "
  | limitOrder _ => "Failed to Add Order on exchange. Details: "
  | cancel => "Failed to Cancel Order on exchange. Details: "
  | balances => "Failed to get Balance from exchange. Details: "

end Operation

/-- A base address that ends in a slash; one is appended if it is missing. -/
def withSlash (base : String) : String :=
  if base.toList.getLast? = some '/' then base else base ++ "/"

/-- What all requests to a base address have in common. -/
def profile (base : String) : Profile :=
  { name := shortName
    base := withSlash base
    envelope := .standard
    signatureHeader := "apisign"
    nonceParameter := "nonce"
    keyParameter := "apikey" }

end VenueGateway.Bittrex
