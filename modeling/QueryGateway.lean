import QueryGateway.Main
import QueryGateway.Proofs.Database.Protocol
import QueryGateway.Proofs.Template.Lexing
import QueryGateway.Proofs.Template.Commands
import QueryGateway.Proofs.Template.Scanning
import QueryGateway.Proofs.Template.Assembly
import QueryGateway.Proofs.Template.RoundTrip
import QueryGateway.Proofs.Json.Document
import QueryGateway.Proofs.Json.Reading
import QueryGateway.Proofs.Text.Utf8
import QueryGateway.Proofs.Json.Escapes
import QueryGateway.Proofs.Answer.Cells
import QueryGateway.Proofs.Answer.Rows
import QueryGateway.Proofs.Answer.Records
import QueryGateway.Proofs.Answer.Envelope
import QueryGateway.Proofs.Database.Feeding
import QueryGateway.Proofs.Endpoint.Contract
import QueryGateway.Proofs.Text.Splitting
import QueryGateway.Proofs.Path.Composition
import QueryGateway.Proofs.Path.Indexing
import QueryGateway.Proofs.Config.Iteration
import QueryGateway.Proofs.Config.Masking
import QueryGateway.Proofs.Endpoint.Built
import QueryGateway.Proofs.Routing.Shapes
import QueryGateway.Proofs.Routing.Registration
import QueryGateway.Proofs.Json.Members
import QueryGateway.Proofs.Endpoint.Precedence
import QueryGateway.Proofs.Toml.Tables
import QueryGateway.Proofs.Config.Loading
import QueryGateway.Proofs.Statement.Literals
import QueryGateway.Proofs.Endpoint.Interpolation
import QueryGateway.Proofs.Template.Closing
import QueryGateway.Proofs.Template.Joining
import QueryGateway.Proofs.Template.Rendering
import QueryGateway.Proofs.Template.Comments
import QueryGateway.Proofs.Template.Concatenation
import QueryGateway.Proofs.Template.Lexemes
import QueryGateway.Proofs.Template.Markers
import QueryGateway.Proofs.Template.Phrases
import QueryGateway.Proofs.Template.Pipelines
import QueryGateway.Proofs.Template.Nesting
import QueryGateway.Proofs.Template.Typing
import QueryGateway.Proofs.Config.Entries
import QueryGateway.Proofs.Endpoint.Validation
import QueryGateway.Proofs.Routing.Priority
import QueryGateway.Proofs.Routing.Selection
import QueryGateway.Proofs.Text.FormEncoding
import QueryGateway.Proofs.Json.Strings
import QueryGateway.Proofs.Json.Objects
import QueryGateway.Proofs.Config.Locality
import QueryGateway.Proofs.Endpoint.Supplying
import QueryGateway.Proofs.Database.Buffers
import QueryGateway.Proofs.Json.Pairs
import QueryGateway.Proofs.Answer.Carried
import QueryGateway.Proofs.Answer.Members
import QueryGateway.Proofs.Answer.Heads
import QueryGateway.Proofs.Database.Losses
import QueryGateway.Proofs.Path.Steps
import QueryGateway.Proofs.Path.Outcomes
import QueryGateway.Proofs.Path.Addresses
import QueryGateway.Proofs.Statement.Breaks
import QueryGateway.Proofs.Statement.NormalForms
import QueryGateway.Proofs.Number.Rounding
import QueryGateway.Proofs.Number.Shortest
import QueryGateway.Proofs.Number.ReadingBack
import QueryGateway.Proofs.Number.Products
import QueryGateway.Proofs.Json.Integers
import QueryGateway.Proofs.Path.Integers
import QueryGateway.Proofs.Config.Durations
import QueryGateway.Proofs.Naming.Conversion
import QueryGateway.Proofs.Routing.Grammar
import QueryGateway.Proofs.Endpoint.Traversal
import QueryGateway.Proofs.Path.Emptiness
import QueryGateway.Proofs.Naming.Listed
import QueryGateway.Proofs.Endpoint.OutputNames
import QueryGateway.Proofs.Template.Modes
import QueryGateway.Proofs.Template.Quotation
import QueryGateway.Proofs.Template.Agreement
import QueryGateway.Proofs.Naming.Pass
