import SchemaCall.Call.Arguments
import SchemaCall.Call.Dispatch
import SchemaCall.Call.Error
import SchemaCall.Client.Basic
import SchemaCall.Client.Settings
import SchemaCall.CommandLine
import SchemaCall.Decimal
import SchemaCall.Digest.Sha256
import SchemaCall.Entries
import SchemaCall.Files
import SchemaCall.Http
import SchemaCall.Json.Basic
import SchemaCall.Json.Printer
import SchemaCall.Json.Reader
import SchemaCall.Json.Record
import SchemaCall.Main
import SchemaCall.Memo.Basic
import SchemaCall.Memo.Store
import SchemaCall.Model.Basic
import SchemaCall.Model.Codec
import SchemaCall.Model.DocumentRules
import SchemaCall.Model.Load
import SchemaCall.Proofs.Call.Dispatch
import SchemaCall.Proofs.Call.Fault
import SchemaCall.Proofs.Call.Requests
import SchemaCall.Proofs.Call.Response
import SchemaCall.Proofs.Client.Doc
import SchemaCall.Proofs.Client.Settings
import SchemaCall.Proofs.Client.Ways
import SchemaCall.Proofs.CommandLine.Written
import SchemaCall.Proofs.Decimal.ReadBack
import SchemaCall.Proofs.Decimal.Written
import SchemaCall.Proofs.Entries
import SchemaCall.Proofs.Json.Alike
import SchemaCall.Proofs.Json.Quotation
import SchemaCall.Proofs.Json.ReadBack
import SchemaCall.Proofs.Json.Record
import SchemaCall.Proofs.Json.Written
import SchemaCall.Proofs.Memo.Accounting
import SchemaCall.Proofs.Memo.Basic
import SchemaCall.Proofs.Memo.CallKey
import SchemaCall.Proofs.Memo.History
import SchemaCall.Proofs.Memo.Inclusion
import SchemaCall.Proofs.Memo.Provenance
import SchemaCall.Proofs.Memo.Recency
import SchemaCall.Proofs.Memo.Recollection
import SchemaCall.Proofs.Memo.Runs
import SchemaCall.Proofs.Memo.Transparency
import SchemaCall.Proofs.Model.BadSchema
import SchemaCall.Proofs.Model.Callable
import SchemaCall.Proofs.Model.Codec
import SchemaCall.Proofs.Model.DocumentRules
import SchemaCall.Proofs.Model.Load
import SchemaCall.Proofs.Model.Replacement
import SchemaCall.Proofs.Model.Warnings
import SchemaCall.Proofs.Schema.Codec
import SchemaCall.Proofs.Schema.Conformance
import SchemaCall.Proofs.Schema.Extension
import SchemaCall.Proofs.Schema.FirstBad
import SchemaCall.Proofs.Schema.Location
import SchemaCall.Proofs.Schema.Position
import SchemaCall.Proofs.Schema.Projection
import SchemaCall.Proofs.Schema.Replacement
import SchemaCall.Proofs.Schema.RoundTrip
import SchemaCall.Proofs.Schema.Shape
import SchemaCall.Proofs.Schema.Violations
import SchemaCall.Schema.Basic
import SchemaCall.Schema.Codec
import SchemaCall.Schema.Conformance
import SchemaCall.Text.Basic
import SchemaCall.Text.CodePoints
import SchemaCall.Text.Composition
import SchemaCall.Text.Quoted
import SchemaCall.Uri.Basic
import SchemaCall.Uri.Domain
import SchemaCall.Uri.Host
import SchemaCall.Uri.Mapping
import SchemaCall.Uri.Reader
import SchemaCall.Yaml.Event
import SchemaCall.Yaml.Scalar
import SchemaCall.Yaml.Source
import SchemaCall.Yaml.Tag
import SchemaCall.Yaml.Token
import SchemaCall.Yaml.Value
