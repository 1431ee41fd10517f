import VenueGateway.LogStyle
import VenueGateway.Main
import VenueGateway.Settings.Json
import VenueGateway.Text.Capital
import VenueGateway.Text.Punycode
import VenueGateway.Address.DomainName
import VenueGateway.Address.Fault
import VenueGateway.Address.Ipv4
import VenueGateway.Address.Ipv6
import VenueGateway.Address.Scheme
import VenueGateway.Proofs.Http.FormRoundTrip
import VenueGateway.Proofs.NameMap
import VenueGateway.Proofs.Http.QueryText
import VenueGateway.Proofs.Envelope
import VenueGateway.Proofs.Envelope.Agreement
import VenueGateway.Proofs.Tolerance
import VenueGateway.Proofs.Channel.Outcome
import VenueGateway.Proofs.Channel.Run
import VenueGateway.Proofs.Channel.Acknowledge
import VenueGateway.Proofs.Channel.Lenience
import VenueGateway.Proofs.Bittrex.Overflow
import VenueGateway.Proofs.Bittrex.Failures
import VenueGateway.Proofs.Bittrex.Requests
import VenueGateway.Proofs.Bittrex.NotReady
import VenueGateway.Proofs.Hash.Hmac
import VenueGateway.Proofs.Bittrex.Signatures
import VenueGateway.Proofs.Bittrex.Secrecy
import VenueGateway.Proofs.Bittrex.Results
import VenueGateway.Proofs.Bittrex.Account
import VenueGateway.Proofs.Directory.Creation
import VenueGateway.Proofs.Settings.Override
import VenueGateway.Proofs.Directory.Preparation
import VenueGateway.Proofs.Bittrex.OrderAmounts
import VenueGateway.Proofs.Fees.Rounding
import VenueGateway.Proofs.Bittrex.Books
import VenueGateway.Proofs.Bittrex.OpenOrders
import VenueGateway.Proofs.Bittrex.AmountText
import VenueGateway.Proofs.Http.QueryInserts
import VenueGateway.Proofs.Bittrex.Timestamps
import VenueGateway.Proofs.Bittrex.LiteralAmounts
import VenueGateway.Proofs.Fees.Bounds
import VenueGateway.Proofs.Settings.BlankOverrides
import VenueGateway.Proofs.Bittrex.Balances
import VenueGateway.Proofs.Instant.ReadBack
import VenueGateway.Proofs.Json.Spelling
import VenueGateway.Proofs.Json.ReadBack
import VenueGateway.Proofs.Trading.ReadBack
import VenueGateway.Proofs.Json.Retelling
import VenueGateway.Proofs.Nonce.Sharing
import VenueGateway.Proofs.Settings.ReadBack
