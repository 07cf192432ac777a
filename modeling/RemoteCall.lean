import RemoteCall.Text.Quoted
import RemoteCall.Text.Lowercase
import RemoteCall.Text.Utf8
import RemoteCall.Decimal.Double
import RemoteCall.Decimal.Shortest
import RemoteCall.Json.Value
import RemoteCall.Json.Fault
import RemoteCall.Json.Number
import RemoteCall.Json.Printer
import RemoteCall.Json.Reader
import RemoteCall.Json.Shape
import RemoteCall.Service.Codec
import RemoteCall.Service.Parameters
import RemoteCall.Http.FieldValue
import RemoteCall.Http.Fields
import RemoteCall.Net.Address
import RemoteCall.Protocol.Tag
import RemoteCall.Route.Cache
import RemoteCall.Route.Key
import RemoteCall.Uri.Basic
import RemoteCall.Uri.Grammar
import RemoteCall.Uri.Aim
import RemoteCall.Call.Entry
import RemoteCall.Call.Settings
import RemoteCall.Net.Resolver
import RemoteCall.Service.Interface
import RemoteCall.Failure.Basic
import RemoteCall.Failure.Reported
import RemoteCall.Http.Body
import RemoteCall.Http.Message
import RemoteCall.Response.Draft
import RemoteCall.Response.Factory
import RemoteCall.Time.Duration
import RemoteCall.Sample.Objects
import RemoteCall.Endpoint.Chain
import RemoteCall.Endpoint.Pipeline
import RemoteCall.Rehearsal.Interceptor
import RemoteCall.Call.Client
import RemoteCall.Call.Flight
import RemoteCall.Call.Proxy
import RemoteCall.Rehearsal.World
import RemoteCall.Endpoint.Binding
import RemoteCall.Proofs.Http.WrittenFields
import RemoteCall.Proofs.Http.SafeWriting
import RemoteCall.Proofs.Http.Gathering
import RemoteCall.Proofs.Response.Answers
import RemoteCall.Proofs.Json.RoundTrip
import RemoteCall.Proofs.Endpoint.Dispatch
import RemoteCall.Proofs.Flight.AtMostOnce
import RemoteCall.Proofs.Flight.Budget
import RemoteCall.Proofs.Flight.Eviction
import RemoteCall.Proofs.Flight.DirectDispatch
import RemoteCall.Proofs.Endpoint.ChainHistory
import RemoteCall.Proofs.Endpoint.Interception
import RemoteCall.Proofs.Endpoint.Classification
import RemoteCall.Proofs.Flight.Rehearsed
import RemoteCall.Proofs.Flight.Reaiming
import RemoteCall.Proofs.Uri.Target
import RemoteCall.Proofs.Flight.Landing
import RemoteCall.Proofs.Flight.Verdict
import RemoteCall.Proofs.Route.Keys
import RemoteCall.Proofs.Route.Room
import RemoteCall.Proofs.Flight.Traffic
import RemoteCall.Proofs.Flight.Isolation
import RemoteCall.Proofs.Flight.Provenance
import RemoteCall.Proofs.Service.Registrations
import RemoteCall.Proofs.Flight.Unbuilt
import RemoteCall.Proofs.Net.Address
import RemoteCall.Proofs.Uri.Reaimed
import RemoteCall.Proofs.Text.SmallForms
import RemoteCall.Proofs.Uri.Configured
import RemoteCall.Proofs.Response.Redirections
import RemoteCall.Proofs.Flight.Redirection
import RemoteCall.Proofs.Service.Application
import RemoteCall.Proofs.Service.Contention
import RemoteCall.Proofs.Flight.Reachability
import RemoteCall.Proofs.Uri.Replaced
import RemoteCall.Proofs.Uri.Rewritten
import RemoteCall.Proofs.Flight.RedirectScope
import RemoteCall.Proofs.Json.Reencoding
import RemoteCall.Proofs.Route.Recency
import RemoteCall.Proofs.Response.Composition
import RemoteCall.Proofs.Endpoint.Acceptance
import RemoteCall.Proofs.Endpoint.Lifecycle
import RemoteCall.Proofs.Endpoint.Binding
import RemoteCall.Proofs.Flight.Verbatim
import RemoteCall.Proofs.Flight.Recall
import RemoteCall.Proofs.Flight.Refill
import RemoteCall.Proofs.Flight.Sharing
import RemoteCall.Proofs.Flight.Signals
import RemoteCall.Proofs.Flight.Counting
import RemoteCall.Proofs.Flight.Pauses
import RemoteCall.Proofs.Flight.Errands
import RemoteCall.Proofs.Call.Stubs
import RemoteCall.Proofs.Response.Suggestions
