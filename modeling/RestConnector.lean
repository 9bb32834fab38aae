import RestConnector.Main
import RestConnector.Proofs.Name.Identifier
import RestConnector.Proofs.Path.Parameter
import RestConnector.Proofs.Operation.Plan
import RestConnector.Proofs.Operation.Signature
import RestConnector.Proofs.Literal.Reader
import RestConnector.Proofs.Path.Pieces
import RestConnector.Proofs.Emit.UrlExpression
import RestConnector.Proofs.Emit.Closure
import RestConnector.Proofs.Generation.Files
import RestConnector.Proofs.Emit.Bindings
import RestConnector.Proofs.Generation.Bindings
import RestConnector.Proofs.Disk.Saving
import RestConnector.Proofs.Run.Delivery
import RestConnector.Proofs.Name.Pascal
import RestConnector.Proofs.Schema.Inference
import RestConnector.Proofs.Generation.Imports
import RestConnector.Proofs.Name.Inflection
import RestConnector.Proofs.Operation.Resource
import RestConnector.Proofs.Operation.Shape
import RestConnector.Proofs.Run.Requests
import RestConnector.Proofs.Endpoint.Expansion
import RestConnector.Proofs.Survey.Composition
import RestConnector.Proofs.Survey.Discovery
import RestConnector.Proofs.Disk.Resaving
import RestConnector.Proofs.Run.Redelivery
import RestConnector.Proofs.Emit.Calls
import RestConnector.Proofs.Emit.References
import RestConnector.Proofs.Generation.Methods
import RestConnector.Proofs.Generation.References
import RestConnector.Proofs.Run.Repetition
import RestConnector.Proofs.Generation.FileNames
import RestConnector.Proofs.Run.Course
import RestConnector.Proofs.Run.Containment
import RestConnector.Proofs.Disk.NullCharacter
import RestConnector.Proofs.Run.Failure
import RestConnector.Proofs.Run.Trace
import RestConnector.Proofs.Run.Credentials
import RestConnector.Proofs.Name.Plural
import RestConnector.Proofs.Path.Segments
import RestConnector.Proofs.Operation.Siblings
import RestConnector.Proofs.Name.Legal
import RestConnector.Proofs.Schema.Legal
import RestConnector.Proofs.Generation.Names
import RestConnector.Proofs.Json.Numbers
import RestConnector.Proofs.Run.Schemas
import RestConnector.Proofs.Json.RoundTrip
import RestConnector.Proofs.Report.Reading
import RestConnector.Proofs.Name.Fresh
import RestConnector.Proofs.Operation.Numbering
import RestConnector.Proofs.Schema.Members
import RestConnector.Proofs.Scalar.Calendar
import RestConnector.Proofs.Scalar.Timestamp
import RestConnector.Proofs.Scalar.Classify
import RestConnector.Proofs.Schema.Acceptance
import RestConnector.Proofs.Emit.StringLiteral
import RestConnector.Proofs.Emit.Gathering
import RestConnector.Proofs.Schema.Types
import RestConnector.Proofs.Emit.Identifiers
import RestConnector.Proofs.Emit.Annotations
import RestConnector.Proofs.Name.Endings
import RestConnector.Proofs.Name.SingularRules
import RestConnector.Proofs.Name.PluralRules
import RestConnector.Proofs.Name.LastWord
import RestConnector.Proofs.Name.RoundTrip
import RestConnector.Proofs.Name.RepeatedForms
import RestConnector.Proofs.Name.Idempotence
import RestConnector.Proofs.Name.Styles
import RestConnector.Proofs.Text.Collapse
import RestConnector.Proofs.Emit.Docstring
import RestConnector.Proofs.Json.Brackets
import RestConnector.Proofs.Schema.Guard
import RestConnector.Proofs.Path.Placeholders
import RestConnector.Proofs.Operation.Listing
import RestConnector.Proofs.Text.Replacement
import RestConnector.Proofs.Text.Numeral
import RestConnector.Proofs.Scalar.Uuid
import RestConnector.Proofs.Url.ApiName
import RestConnector.Proofs.Run.Preparation
import RestConnector.Proofs.Survey.SampleLimit
import RestConnector.Proofs.Survey.Probes
import RestConnector.Proofs.CommandLine.Calls
import RestConnector.Proofs.CommandLine.Probing
import RestConnector.Proofs.Name.Scan
import RestConnector.Proofs.Text.Infix
import RestConnector.Proofs.Emit.LibraryImport
