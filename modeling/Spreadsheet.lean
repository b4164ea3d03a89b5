import Spreadsheet.Text.Digit
import Spreadsheet.Text.Blank
import Spreadsheet.Text.Case
import Spreadsheet.Text.Quoted
import Spreadsheet.Text.Search
import Spreadsheet.Text.Utf8
import Spreadsheet.Number.Layout
import Spreadsheet.Number.Numeral
import Spreadsheet.Number.Root
import Spreadsheet.Coercion
import Spreadsheet.Display
import Spreadsheet.Formula.Reading
import Spreadsheet.Formula.References
import Spreadsheet.Criteria
import Spreadsheet.Calendar.IsoText
import Spreadsheet.Function.Arithmetic
import Spreadsheet.Function.Statistics
import Spreadsheet.Function.Logic
import Spreadsheet.Function.Words
import Spreadsheet.Function.Dates
import Spreadsheet.Function.Conditional
import Spreadsheet.Evaluation.Formula
import Spreadsheet.Json.Written
import Spreadsheet.Json.Reading
import Spreadsheet.Settings
import Spreadsheet.Event
import Spreadsheet.Sheet
import Spreadsheet.Session
import Spreadsheet.Journal
import Spreadsheet.Yaml.Cursor
import Spreadsheet.Yaml.Token
import Spreadsheet.Yaml.Scalar
import Spreadsheet.Yaml.Tokens
import Spreadsheet.Yaml.Node
import Spreadsheet.Yaml.Form
import Spreadsheet.Configuration
import Spreadsheet.CommandLine.Response
import Spreadsheet.Main
import Spreadsheet.Proofs.Evaluation.Inquiry
import Spreadsheet.Proofs.Evaluation.Formula
import Spreadsheet.Proofs.Sheet.Evaluation
import Spreadsheet.Proofs.Sheet.Guard
import Spreadsheet.Proofs.Sheet.Reach
import Spreadsheet.Proofs.Session.Request
import Spreadsheet.Proofs.Session.History
import Spreadsheet.Proofs.Sheet.Unguarded
import Spreadsheet.Proofs.Session.Memory
import Spreadsheet.Proofs.Formula.Grammar
import Spreadsheet.Proofs.Formula.Reading
import Spreadsheet.Proofs.Evaluation.Propagation
import Spreadsheet.Proofs.Address.Label
import Spreadsheet.Proofs.Sheet.Circle
import Spreadsheet.Proofs.Sheet.Found
import Spreadsheet.Proofs.Sheet.Acyclic
import Spreadsheet.Proofs.Sheet.Nested
import Spreadsheet.Proofs.Session.Kept
import Spreadsheet.Proofs.Session.Room
import Spreadsheet.Proofs.Sheet.Limit
import Spreadsheet.Proofs.Text.Fold
import Spreadsheet.Proofs.Formula.Rules
import Spreadsheet.Proofs.Text.Stretch
import Spreadsheet.Proofs.Formula.Scanning
import Spreadsheet.Proofs.Formula.Tokens
import Spreadsheet.Proofs.Function.Fault
import Spreadsheet.Proofs.Evaluation.Application
import Spreadsheet.Proofs.Sheet.Fault
import Spreadsheet.Proofs.Session.Recalculation
import Spreadsheet.Proofs.Session.Agreement
import Spreadsheet.Proofs.Text.Digits
import Spreadsheet.Proofs.Text.Visible
import Spreadsheet.Proofs.Json.Strings
import Spreadsheet.Proofs.Json.Numbers
import Spreadsheet.Proofs.Json.Restored
import Spreadsheet.Proofs.Json.Floats
import Spreadsheet.Proofs.Json.Lines
import Spreadsheet.Proofs.Journal.Window
import Spreadsheet.Proofs.Journal.Records
import Spreadsheet.Proofs.Number.Nearest
import Spreadsheet.Proofs.Journal.Reading
import Spreadsheet.Proofs.Journal.Content
import Spreadsheet.Proofs.Text.Feed
import Spreadsheet.Proofs.Journal.Latest
import Spreadsheet.Proofs.Formula.Spelling
import Spreadsheet.Proofs.Evaluation.Spelling
import Spreadsheet.Proofs.Sheet.Spelling
import Spreadsheet.Proofs.Sheet.Gained
import Spreadsheet.Proofs.Session.Snapshot
import Spreadsheet.Proofs.Number.Whole
import Spreadsheet.Proofs.Number.Written
import Spreadsheet.Proofs.Number.Equality
import Spreadsheet.Proofs.Number.Rounded
import Spreadsheet.Proofs.Number.Literal
import Spreadsheet.Proofs.Number.Coercion
import Spreadsheet.Proofs.Number.Text
import Spreadsheet.Proofs.Criteria.Comparison
import Spreadsheet.Proofs.Criteria.Wildcard
import Spreadsheet.Proofs.Evaluation.Equality
import Spreadsheet.Proofs.Address.Area
import Spreadsheet.Proofs.Evaluation.Area
import Spreadsheet.Proofs.Sheet.Area
import Spreadsheet.Proofs.Function.Conditional
import Spreadsheet.Proofs.Sheet.Again
import Spreadsheet.Proofs.Sheet.Held
import Spreadsheet.Proofs.Evaluation.Conditional
import Spreadsheet.Proofs.Sheet.Mean
import Spreadsheet.Proofs.Number.Order
import Spreadsheet.Proofs.Number.Sorted
import Spreadsheet.Proofs.Function.Aggregate
import Spreadsheet.Proofs.Evaluation.Total
import Spreadsheet.Proofs.Sheet.Total
import Spreadsheet.Proofs.Number.Remainder
import Spreadsheet.Proofs.Evaluation.Remainder
import Spreadsheet.Proofs.Sheet.Remainder
import Spreadsheet.Proofs.Address.Inverse
import Spreadsheet.Proofs.Address.Rectangle
import Spreadsheet.Proofs.Formula.Separation
import Spreadsheet.Proofs.Number.Worth
import Spreadsheet.Proofs.Function.Slices
import Spreadsheet.Proofs.Text.Occurrence
import Spreadsheet.Proofs.Function.Occurrence
import Spreadsheet.Proofs.Text.Replacement
import Spreadsheet.Proofs.Function.Replacement
import Spreadsheet.Proofs.Calendar.Days
import Spreadsheet.Proofs.Calendar.Written
import Spreadsheet.Proofs.Function.Dates
import Spreadsheet.Proofs.Sheet.Clock
import Spreadsheet.Proofs.Text.Lower
import Spreadsheet.Proofs.Function.Search
import Spreadsheet.Proofs.Document.Merge
import Spreadsheet.Proofs.Event.Truncation
import Spreadsheet.Proofs.CommandLine.Evaluate
import Spreadsheet.Proofs.CommandLine.Ending
import Spreadsheet.Proofs.Function.Junction
