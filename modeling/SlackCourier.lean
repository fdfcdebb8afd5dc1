import SlackCourier.Text.Units
import SlackCourier.Text.Blank
import SlackCourier.Text.Occurrence
import SlackCourier.Text.Hex
import SlackCourier.Text.Utf8
import SlackCourier.Text.Base64
import SlackCourier.Text.Query
import SlackCourier.Text.Quoted
import SlackCourier.Number.Double
import SlackCourier.Number.Shortest
import SlackCourier.Number.Written
import SlackCourier.Number.Numeral
import SlackCourier.Json.Value
import SlackCourier.Json.Printer
import SlackCourier.Json.Reader
import SlackCourier.Json.Reserved
import SlackCourier.Json.Same
import SlackCourier.Json.Plain
import SlackCourier.Hash.Sha256
import SlackCourier.File.Path
import SlackCourier.File.Tree
import SlackCourier.File.Containment
import SlackCourier.Exchange.Request
import SlackCourier.Exchange.Session
import SlackCourier.Exchange.Rehearsal
import SlackCourier.Message.Quotes
import SlackCourier.Message.Payload
import SlackCourier.Failure
import SlackCourier.Exchange.Reply
import SlackCourier.Credential
import SlackCourier.Message.Delivery
import SlackCourier.Message.Lookup
import SlackCourier.Channel
import SlackCourier.Upload
import SlackCourier.Validation
import SlackCourier.Redaction
import SlackCourier.Log.ErrorRecord
import SlackCourier.Log.Line
import SlackCourier.Task.Record
import SlackCourier.Task.Defaults
import SlackCourier.Task.Edit
import SlackCourier.Task.Report
import SlackCourier.Task.Run
import SlackCourier.Server.Settings
import SlackCourier.Host.Span
import SlackCourier.Host.FoldingTable
import SlackCourier.Host.Folding
import SlackCourier.Host.Recent
import SlackCourier.Host.CompositionTable
import SlackCourier.Host.Composition
import SlackCourier.Host.Direction
import SlackCourier.Host.Joining
import SlackCourier.Host.Punycode
import SlackCourier.Host.Number
import SlackCourier.Host.Name
import SlackCourier.Server.Authority
import SlackCourier.Server.Address
import SlackCourier.Server.Method
import SlackCourier.Server.Flaw
import SlackCourier.Server.Inbound
import SlackCourier.Server.Reply
import SlackCourier.Server.Serve
import SlackCourier.Server.Start
import SlackCourier.Console
import SlackCourier.CommandLine
import SlackCourier.Main
import SlackCourier.Proofs.File.Names
import SlackCourier.Proofs.File.Walk
import SlackCourier.Proofs.File.Way
import SlackCourier.Proofs.File.Containment
import SlackCourier.Proofs.File.Admission
import SlackCourier.Proofs.File.Absence
import SlackCourier.Proofs.Json.Members
import SlackCourier.Proofs.Json.Same
import SlackCourier.Proofs.Json.Reading
import SlackCourier.Proofs.Text.Utf8
import SlackCourier.Proofs.Text.Occurrence
import SlackCourier.Proofs.Message.Payload
import SlackCourier.Proofs.Message.Shape
import SlackCourier.Proofs.Exchange.Once
import SlackCourier.Proofs.Exchange.Course
import SlackCourier.Proofs.Exchange.Turns
import SlackCourier.Proofs.Message.Lookup
import SlackCourier.Proofs.Exchange.Refusal
import SlackCourier.Proofs.Message.Secrecy
import SlackCourier.Proofs.Exchange.Alike
import SlackCourier.Proofs.Exchange.Queries
import SlackCourier.Proofs.Exchange.Unreadable
import SlackCourier.Proofs.Log.Censoring
import SlackCourier.Proofs.Channel.Search
import SlackCourier.Proofs.Task.Requests
import SlackCourier.Proofs.Task.Acceptance
import SlackCourier.Proofs.Task.Message
import SlackCourier.Proofs.Task.Confirmation
import SlackCourier.Proofs.Task.DryRun
import SlackCourier.Proofs.Task.Conversation
import SlackCourier.Proofs.Task.Mishap
import SlackCourier.Proofs.Task.Refusal
import SlackCourier.Proofs.Task.Configuration
import SlackCourier.Proofs.Task.Addressing
import SlackCourier.Proofs.Task.Convergence
import SlackCourier.Proofs.Task.Blind
import SlackCourier.Proofs.Task.Alike
import SlackCourier.Proofs.Task.Noninterference
import SlackCourier.Proofs.Upload.Protocol
import SlackCourier.Proofs.Server.Gate
import SlackCourier.Proofs.Server.Serving
import SlackCourier.Proofs.Server.Destinations
import SlackCourier.Proofs.Server.Uploads
import SlackCourier.Proofs.CommandLine.Course
import SlackCourier.Proofs.Server.Settings
import SlackCourier.Proofs.Server.Agreement
import SlackCourier.Proofs.Channel.FirstMatch
import SlackCourier.Proofs.Server.Inertness
import SlackCourier.Proofs.Task.Certificates
import SlackCourier.Proofs.Channel.Circling
import SlackCourier.Proofs.Json.Place
import SlackCourier.Proofs.Message.Texts
import SlackCourier.Proofs.Message.EscapedTree
import SlackCourier.Proofs.Message.Escaping
import SlackCourier.Proofs.Message.TextPlaces
import SlackCourier.Proofs.Message.ReadBack
import SlackCourier.Proofs.Message.BareQuotes
import SlackCourier.Proofs.Json.Alike
import SlackCourier.Proofs.Task.Difference
import SlackCourier.Proofs.Validation.Rules
import SlackCourier.Proofs.Validation.Rewriting
import SlackCourier.Proofs.Task.Validation
