import Fulfilment.Number.Binary64
import Fulfilment.Number.Shortest
import Fulfilment.Number.FloatText
import Fulfilment.Json.Value
import Fulfilment.Json.Write
import Fulfilment.Json.Syntax
import Fulfilment.Text.Blank
import Fulfilment.Text.Printable
import Fulfilment.Text.Quoted
import Fulfilment.Json.Decode
import Fulfilment.Domain.Error
import Fulfilment.Ident.Uuid
import Fulfilment.Ident.Code
import Fulfilment.Time.Instant
import Fulfilment.Text.Integer
import Fulfilment.Order.Quantity
import Fulfilment.Order.Status
import Fulfilment.Ident.Id
import Fulfilment.Order.Basic
import Fulfilment.Order.Wire
import Fulfilment.Console.Request
import Fulfilment.Console.Redact
import Fulfilment.Console.Orders
import Fulfilment.Console.Respond
import Fulfilment.Digest.Sha256
import Fulfilment.Ingest.Task
import Fulfilment.Ingest.Schema
import Fulfilment.Ingest.RowKey
import Fulfilment.Ingest.Quarantine
import Fulfilment.Webhook.Signature
import Fulfilment.Webhook.Subscription
import Fulfilment.Messaging.Retry
import Fulfilment.Pipeline.Error
import Fulfilment.Pipeline.Deadline
import Fulfilment.Config.Pool
import Fulfilment.Webhook.Request
import Fulfilment.Messaging.Message
import Fulfilment.Console.Messages
import Fulfilment.Stock.Basic
import Fulfilment.Stock.Ledger
import Fulfilment.Stock.Concurrent
import Fulfilment.Stock.Catalog
import Fulfilment.Console.Stock
import Fulfilment.Messaging.WorkQueue
import Fulfilment.Messaging.EventBus
import Fulfilment.Console.Messaging
import Fulfilment.Store.Error
import Fulfilment.Webhook.Transport
import Fulfilment.Config.Error
import Fulfilment.Console.Failures
import Fulfilment.Net.SocketAddr
import Fulfilment.Text.CodeTable
import Fulfilment.Text.CanonicalData
import Fulfilment.Text.Normalization
import Fulfilment.Text.BidiData
import Fulfilment.Text.Direction
import Fulfilment.Net.IdnaData
import Fulfilment.Net.Punycode
import Fulfilment.Net.Idna
import Fulfilment.Net.Url
import Fulfilment.Config.Settings
import Fulfilment.Stock.Remote
import Fulfilment.Pipeline.Backends
import Fulfilment.Console.Setup
import Fulfilment.Store.Objects
import Fulfilment.Store.Files
import Fulfilment.Console.Storage
import Fulfilment.Store.Orders
import Fulfilment.Webhook.Registry
import Fulfilment.Webhook.Dispatch
import Fulfilment.Webhook.Pool
import Fulfilment.Console.Dispatch
import Fulfilment.Text.Utf8
import Fulfilment.Csv.Reader
import Fulfilment.Csv.Writer
import Fulfilment.Store.Storage
import Fulfilment.Pipeline.State
import Fulfilment.Pipeline.Intake
import Fulfilment.Pipeline.Batch
import Fulfilment.Pipeline.Finalize
import Fulfilment.Pipeline.Workers
import Fulfilment.Pipeline.Interleaving
import Fulfilment.Pipeline.Build
import Fulfilment.Console.PipelineView
import Fulfilment.Console.Pipeline
import Fulfilment.Proofs.Digest
import Fulfilment.Proofs.Signature
import Fulfilment.Proofs.Identity
import Fulfilment.Proofs.Effects
import Fulfilment.Proofs.Ledger
import Fulfilment.Proofs.Orders
import Fulfilment.Proofs.Executions
import Fulfilment.Proofs.Stages
import Fulfilment.Proofs.StockConservation
import Fulfilment.Proofs.Finalization
import Fulfilment.Proofs.RowPlacement
import Fulfilment.Proofs.Ingestion
import Fulfilment.Proofs.JsonText
import Fulfilment.Proofs.Submission
import Fulfilment.Proofs.Redelivery
import Fulfilment.Proofs.QueueDelivery
import Fulfilment.Proofs.RetryRedelivery
import Fulfilment.Proofs.ReferenceReplay
import Fulfilment.Proofs.FinalizationOutcome
import Fulfilment.Proofs.CsvRoundTrip
import Fulfilment.Proofs.ObjectStore
import Fulfilment.Proofs.Quarantine
import Fulfilment.Proofs.DeliveryPool
import Fulfilment.Proofs.QuantityText
import Fulfilment.Proofs.RowSchema
import Fulfilment.Proofs.WebhookFanOut
import Fulfilment.Proofs.RetryContract
import Fulfilment.Proofs.RowKeyFraming
import Fulfilment.Proofs.ObjectPaths
import Fulfilment.Proofs.SettingsRead
import Fulfilment.Proofs.PublishedHistory
import Fulfilment.Proofs.SharedLedger
