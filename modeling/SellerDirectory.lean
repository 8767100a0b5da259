import SellerDirectory.Base64
import SellerDirectory.Catalog.Listing
import SellerDirectory.Catalog.State
import SellerDirectory.Catalog.Status
import SellerDirectory.CommandLine.Arguments
import SellerDirectory.CommandLine.SettingsFile
import SellerDirectory.CommandLine.Start
import SellerDirectory.Config
import SellerDirectory.Digest.Blake2b
import SellerDirectory.Digest.Sha512
import SellerDirectory.Event
import SellerDirectory.Failure
import SellerDirectory.Http.MediaType
import SellerDirectory.Http.Percent
import SellerDirectory.Json.Codec
import SellerDirectory.Json.Error
import SellerDirectory.Json.Pretty
import SellerDirectory.Json.Reader
import SellerDirectory.Json.Real
import SellerDirectory.Json.Record
import SellerDirectory.Main
import SellerDirectory.Proofs.Base64
import SellerDirectory.Proofs.Base64.Canonical
import SellerDirectory.Proofs.Config.Environment
import SellerDirectory.Proofs.Config.Variable
import SellerDirectory.Proofs.Except
import SellerDirectory.Proofs.Json.Codec
import SellerDirectory.Proofs.Json.Decode
import SellerDirectory.Proofs.Json.Grammar
import SellerDirectory.Proofs.Json.Lexical
import SellerDirectory.Proofs.Json.Messages
import SellerDirectory.Proofs.Json.Number
import SellerDirectory.Proofs.Json.Record
import SellerDirectory.Proofs.Json.Skip
import SellerDirectory.Proofs.Json.Sparse
import SellerDirectory.Proofs.Json.Text
import SellerDirectory.Proofs.Registry.Retries
import SellerDirectory.Proofs.Registry.Snapshot
import SellerDirectory.Proofs.Service.Lists
import SellerDirectory.Proofs.Service.Pending
import SellerDirectory.Proofs.Service.Status
import SellerDirectory.Proofs.Signing.Authentication
import SellerDirectory.Proofs.Signing.Header
import SellerDirectory.Proofs.Signing.HeaderDomain
import SellerDirectory.Proofs.Signing.Key
import SellerDirectory.Proofs.Signing.Message
import SellerDirectory.Proofs.Signing.Parameters
import SellerDirectory.Proofs.Signing.PrivateKey
import SellerDirectory.Proofs.Store.Active
import SellerDirectory.Proofs.Store.Batches
import SellerDirectory.Proofs.Store.Deactivation
import SellerDirectory.Proofs.Store.Faults
import SellerDirectory.Proofs.Store.Interference
import SellerDirectory.Proofs.Store.Interleaving
import SellerDirectory.Proofs.Store.Listing
import SellerDirectory.Proofs.Store.Pages
import SellerDirectory.Proofs.Store.Parts
import SellerDirectory.Proofs.Store.Permanence
import SellerDirectory.Proofs.Store.Program
import SellerDirectory.Proofs.Store.Progress
import SellerDirectory.Proofs.Store.Reading
import SellerDirectory.Proofs.Store.RoundTrip
import SellerDirectory.Proofs.Store.Table
import SellerDirectory.Proofs.Store.Valid
import SellerDirectory.Proofs.Store.Write
import SellerDirectory.Proofs.Store.WriteOnce
import SellerDirectory.Proofs.Sync.Audit
import SellerDirectory.Proofs.Sync.CatalogStates
import SellerDirectory.Proofs.Sync.Counts
import SellerDirectory.Proofs.Sync.Domain
import SellerDirectory.Proofs.Sync.FailedFetches
import SellerDirectory.Proofs.Sync.FailureLog
import SellerDirectory.Proofs.Sync.History
import SellerDirectory.Proofs.Sync.Idempotence
import SellerDirectory.Proofs.Sync.Isolation
import SellerDirectory.Proofs.Sync.MissedStates
import SellerDirectory.Proofs.Sync.Partition
import SellerDirectory.Proofs.Sync.Plan
import SellerDirectory.Proofs.Sync.Portion
import SellerDirectory.Proofs.Sync.Readability
import SellerDirectory.Proofs.Sync.Recovery
import SellerDirectory.Proofs.Sync.Timestamps
import SellerDirectory.Proofs.Sync.Turn
import SellerDirectory.Proofs.Sync.Undisturbed
import SellerDirectory.Proofs.Sync.Waiting
import SellerDirectory.Proofs.Sync.Walk
import SellerDirectory.Proofs.Text.Blank
import SellerDirectory.Proofs.Text.Numeral
import SellerDirectory.Proofs.Text.Parts
import SellerDirectory.Proofs.Text.Utf8
import SellerDirectory.Proofs.Time.ColumnText
import SellerDirectory.Proofs.Time.MessageText
import SellerDirectory.Proofs.Time.Order
import SellerDirectory.Registry.Client
import SellerDirectory.Registry.LookupRequest
import SellerDirectory.Registry.Subscriber
import SellerDirectory.Seller
import SellerDirectory.Service.Handler
import SellerDirectory.Service.Message
import SellerDirectory.Service.Route
import SellerDirectory.Signing.Curve
import SellerDirectory.Signing.Header
import SellerDirectory.Signing.Key
import SellerDirectory.Signing.Message
import SellerDirectory.Signing.Scheme
import SellerDirectory.Signing.Signer
import SellerDirectory.Store.Amend
import SellerDirectory.Store.Basic
import SellerDirectory.Store.Call
import SellerDirectory.Store.Listing
import SellerDirectory.Store.Quantity
import SellerDirectory.Store.Queries
import SellerDirectory.Store.Row
import SellerDirectory.Store.Shared
import SellerDirectory.Store.Table
import SellerDirectory.Sync.Domain
import SellerDirectory.Sync.Plan
import SellerDirectory.Sync.Report
import SellerDirectory.Sync.Run
import SellerDirectory.Text.Alphanumeric
import SellerDirectory.Text.Blank
import SellerDirectory.Text.Cut
import SellerDirectory.Text.Decimal
import SellerDirectory.Text.Numeral
import SellerDirectory.Text.Printable
import SellerDirectory.Text.Utf8
import SellerDirectory.Time.Calendar
import SellerDirectory.Time.Instant
import SellerDirectory.Time.Printer
import SellerDirectory.Time.Reader
