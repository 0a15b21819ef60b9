import CompletionWire.Text.Utf8
import CompletionWire.Text.Newline
import CompletionWire.Text.Blank
import CompletionWire.Text.Digit
import CompletionWire.Text.Lowercase
import CompletionWire.Text.Quoted
import CompletionWire.Decimal.Layout
import CompletionWire.Decimal.Numeral
import CompletionWire.Json.Reader
import CompletionWire.Json.Writer
import CompletionWire.Backend
import CompletionWire.Editor
import CompletionWire.Settings
import CompletionWire.Params
import CompletionWire.Response.Generations
import CompletionWire.Request.Body
import CompletionWire.Request.Headers
import CompletionWire.Request.Url
import CompletionWire.Delivery
import CompletionWire.Session
import CompletionWire.Cli.Command
import CompletionWire.Cli.Run
import CompletionWire.Main
import CompletionWire.Proofs.Text.Utf8
import CompletionWire.Proofs.Decimal.Whole
import CompletionWire.Proofs.Decimal.Shortest
import CompletionWire.Proofs.Delivery.Attempts
import CompletionWire.Proofs.Delivery.Preparation
import CompletionWire.Proofs.Delivery.Trace
import CompletionWire.Proofs.Response.Classification
import CompletionWire.Proofs.Json.Grammar
import CompletionWire.Proofs.Json.Numerals
import CompletionWire.Proofs.Json.Strings
import CompletionWire.Proofs.Json.Numbers
import CompletionWire.Proofs.Json.Scalars
import CompletionWire.Proofs.Json.Soundness
import CompletionWire.Proofs.Json.Completeness
import CompletionWire.Proofs.Json.Nesting
import CompletionWire.Proofs.Json.Escapes
import CompletionWire.Proofs.Json.Parts
import CompletionWire.Proofs.Json.Alphabet
import CompletionWire.Proofs.Response.Loading
import CompletionWire.Proofs.Response.Failures
import CompletionWire.Proofs.Response.RoundTrip
import CompletionWire.Proofs.Delivery.EndToEnd
import CompletionWire.Proofs.Request.OnTheWire
import CompletionWire.Proofs.Session.Sharing
import CompletionWire.Proofs.Json.Readings
import CompletionWire.Proofs.Validation.Dumps
import CompletionWire.Proofs.Delivery.Endings
import CompletionWire.Proofs.Cli.Arguments
import CompletionWire.Proofs.Cli.Commands
import CompletionWire.Proofs.Json.NonFinite
import CompletionWire.Proofs.Cli.Printing
import CompletionWire.Proofs.Response.Disclosure
import CompletionWire.Proofs.Delivery.Confinement
import CompletionWire.Proofs.Json.Rewriting
import CompletionWire.Proofs.Decimal.Numerals
import CompletionWire.Proofs.Cli.FixedPoint
import CompletionWire.Proofs.Cli.Assignments
import CompletionWire.Proofs.Cli.Choices
import CompletionWire.Proofs.Cli.Configuration
import CompletionWire.Proofs.Request.Verbatim
import CompletionWire.Proofs.Delivery.Refusals
import CompletionWire.Proofs.Cli.Influence
import CompletionWire.Proofs.Validation.Spellings
import CompletionWire.Proofs.Decimal.Range
import CompletionWire.Proofs.Delivery.WaitRange
import CompletionWire.Proofs.Json.Sorting
import CompletionWire.Proofs.Response.Sizes
import CompletionWire.Proofs.Response.Essence
import CompletionWire.Proofs.Text.LineEnds
import CompletionWire.Proofs.Json.ScalarLineEnds
import CompletionWire.Proofs.Json.LineEnds
import CompletionWire.Proofs.Response.LineEnds
import CompletionWire.Proofs.Cli.Routes
import CompletionWire.Proofs.Decimal.Equality
import CompletionWire.Proofs.Except
import CompletionWire.Proofs.Json.Agreement
import CompletionWire.Proofs.Request.Agreement
import CompletionWire.Proofs.Session.Equality
import CompletionWire.Proofs.Text.WellFormed
import CompletionWire.Proofs.Delivery.PayloadSize
import CompletionWire.Proofs.Request.Representable
import CompletionWire.Proofs.Request.Credentials
import CompletionWire.Proofs.Delivery.Authorization
import CompletionWire.Proofs.Cli.Insertion
import CompletionWire.Proofs.Text.Folding
import CompletionWire.Proofs.Cli.HeadersLine
import CompletionWire.Proofs.Cli.Sources
import CompletionWire.Proofs.Cli.Selection
import CompletionWire.Proofs.Settings
import CompletionWire.Proofs.Json.Limits
import CompletionWire.Proofs.Response.ContentTypes
