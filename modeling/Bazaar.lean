import Bazaar.Json.Coerce
import Bazaar.Json.Document
import Bazaar.Json.Reader
import Bazaar.Json.Value
import Bazaar.Json.Writer
import Bazaar.Number.Decimal
import Bazaar.Number.Fixed
import Bazaar.Number.FloatText
import Bazaar.Number.Literal
import Bazaar.Number.Nearest
import Bazaar.Number.Shortest
import Bazaar.Text.Blank
import Bazaar.Text.Cased
import Bazaar.Text.Case
import Bazaar.Text.Digit
import Bazaar.Text.Printable
import Bazaar.Text.Unicode
import Bazaar.Crypto.Sha256
import Bazaar.Time.Instant
import Bazaar.Time.Stamp
import Bazaar.Time.Rfc3339
import Bazaar.Time.Iso8601
import Bazaar.Fault
import Bazaar.Identifier
import Bazaar.Money
import Bazaar.Record.Field
import Bazaar.Record.Validation
import Bazaar.Settings
import Bazaar.Gateway.Config
import Bazaar.Gateway.Hosted
import Bazaar.Webhook.Event
import Bazaar.Webhook.Signature
import Bazaar.Coupon
import Bazaar.Catalogue.Product
import Bazaar.Cart.Basic
import Bazaar.Order.Action
import Bazaar.Order.Address
import Bazaar.Order.Basic
import Bazaar.Order.Event
import Bazaar.Order.Item
import Bazaar.Order.Status
import Bazaar.Payment.Record
import Bazaar.Notification
import Bazaar.Market.Cart
import Bazaar.Market.Catalogue
import Bazaar.Market.Command
import Bazaar.Market.Fulfilment
import Bazaar.Market.Ledger
import Bazaar.Market.Payment
import Bazaar.Market.Placement
import Bazaar.Market.State
import Bazaar.Market.Request
import Bazaar.Http.Form
import Bazaar.Http.Request
import Bazaar.Http.Routes
import Bazaar.Service.Aliases
import Bazaar.Service.Body
import Bazaar.Service.Coupon
import Bazaar.Service.Dispatch
import Bazaar.Service.Money
import Bazaar.Service.OrderMachine
import Bazaar.Service.OrderView
import Bazaar.Service.Scenario
import Bazaar.Service.System
import Bazaar.Service.Web
import Bazaar.Service.Webhook
import Bazaar.Cli.Arguments
import Bazaar.Cli.Schema
import Bazaar.Main
import Bazaar.Proofs.Market.Access
import Bazaar.Proofs.Market.Records
import Bazaar.Proofs.Order.Actions
import Bazaar.Proofs.Stock.Ledger
import Bazaar.Proofs.Order.Placing
import Bazaar.Proofs.Stock.Reservation
import Bazaar.Proofs.Market.Placement
import Bazaar.Proofs.Market.Fulfilment
import Bazaar.Proofs.Market.Carts
import Bazaar.Proofs.Market.Payments
import Bazaar.Proofs.Market.Requests
import Bazaar.Proofs.Stock.Conservation
import Bazaar.Proofs.Payment.Checked
import Bazaar.Proofs.Market.Steps
import Bazaar.Proofs.Payment.Log
import Bazaar.Proofs.Payment.Replay
import Bazaar.Proofs.Order.Consistency
import Bazaar.Proofs.Order.Machines
import Bazaar.Proofs.Coupon.Usage
import Bazaar.Proofs.Stock.Release
import Bazaar.Proofs.Market.Refusals
import Bazaar.Proofs.Market.Authority
import Bazaar.Proofs.Payment.Receipts
import Bazaar.Proofs.Market.PlacedLines
import Bazaar.Proofs.Webhook.Decoding
import Bazaar.Proofs.Number.DecimalValue
import Bazaar.Proofs.Coupon.Evaluation
import Bazaar.Proofs.Stock.Interleaving
import Bazaar.Proofs.Payment.Session
import Bazaar.Proofs.Order.Terms
import Bazaar.Proofs.Order.Snapshot
import Bazaar.Proofs.Market.Listings
import Bazaar.Proofs.Cart.Lines
import Bazaar.Proofs.Market.CartInvariant
import Bazaar.Proofs.Number.MinorUnits
import Bazaar.Proofs.Text.Utf8
import Bazaar.Proofs.Webhook.Signing
