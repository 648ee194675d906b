import EchoBench.Config.LoadSettings
import EchoBench.Config.Lookup
import EchoBench.Config.ServerSettings
import EchoBench.Decimal.Shortest
import EchoBench.Error
import EchoBench.Json.Fault
import EchoBench.Json.Number
import EchoBench.Json.Quoted
import EchoBench.Json.Value
import EchoBench.Load.Client
import EchoBench.Load.Run
import EchoBench.Log
import EchoBench.Log.Filter
import EchoBench.Log.Pattern
import EchoBench.Main
import EchoBench.Net.Address
import EchoBench.Net.Stream
import EchoBench.Program
import EchoBench.Proofs.Config.Acceptance
import EchoBench.Proofs.Config.Buffer
import EchoBench.Proofs.Config.Bytes
import EchoBench.Proofs.Config.Leniency
import EchoBench.Proofs.Decimal.Packing
import EchoBench.Proofs.Decimal.Rounding
import EchoBench.Proofs.Decimal.Scaled
import EchoBench.Proofs.Decimal.Shortest
import EchoBench.Proofs.Exchange
import EchoBench.Proofs.Json.Document
import EchoBench.Proofs.Json.Number
import EchoBench.Proofs.Json.NumberText
import EchoBench.Proofs.Json.Skip
import EchoBench.Proofs.Json.Typed
import EchoBench.Proofs.Load.Balance
import EchoBench.Proofs.Load.Containment
import EchoBench.Proofs.Load.Crash
import EchoBench.Proofs.Load.Emission
import EchoBench.Proofs.Load.Ending
import EchoBench.Proofs.Load.Printed
import EchoBench.Proofs.Load.Schedule
import EchoBench.Proofs.Load.Sender
import EchoBench.Proofs.Load.Tally
import EchoBench.Proofs.Load.Transcript
import EchoBench.Proofs.Record.Codec
import EchoBench.Proofs.Record.Document
import EchoBench.Proofs.Record.Line
import EchoBench.Proofs.Record.NormalForm
import EchoBench.Proofs.Rehearsal
import EchoBench.Proofs.Serve.Echo
import EchoBench.Proofs.Serve.Gauge
import EchoBench.Proofs.Serve.Isolation
import EchoBench.Proofs.SignedZero
import EchoBench.Proofs.Sink.Accounting
import EchoBench.Proofs.Sink.Agreement
import EchoBench.Proofs.Sink.Framing
import EchoBench.Proofs.Sink.Reliable
import EchoBench.Proofs.Summary
import EchoBench.Proofs.Text.Numeral
import EchoBench.Record
import EchoBench.Record.Fault
import EchoBench.Record.Line
import EchoBench.Record.Reader
import EchoBench.Rehearsal
import EchoBench.Rehearsal.Connection
import EchoBench.Rehearsal.Peer
import EchoBench.Rehearsal.Program
import EchoBench.Rehearsal.Run
import EchoBench.Rehearsal.Service
import EchoBench.Serve.Handler
import EchoBench.Serve.Server
import EchoBench.Sink
import EchoBench.Sink.JsonLines
import EchoBench.Span
import EchoBench.Summary
import EchoBench.Text.Character
import EchoBench.Text.Numeral
