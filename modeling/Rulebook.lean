import Rulebook.Calendar.Date
import Rulebook.Calendar.DateText
import Rulebook.Calendar.DateTime
import Rulebook.Calendar.IsoText
import Rulebook.Condition.Apply
import Rulebook.Condition.Coercion
import Rulebook.Condition.Operator
import Rulebook.Condition.Outcome
import Rulebook.Document.Equality
import Rulebook.Document.Field
import Rulebook.Document.Literal
import Rulebook.Document.Value
import Rulebook.Evaluation.Evaluate
import Rulebook.Evaluation.Highlight
import Rulebook.Evaluation.Trace
import Rulebook.Fault
import Rulebook.Json.Reader
import Rulebook.Json.Writer
import Rulebook.Number.Binary64
import Rulebook.Number.Number
import Rulebook.Number.Numeral
import Rulebook.Number.Shortest
import Rulebook.Path.Basic
import Rulebook.Path.Resolve
import Rulebook.Pattern.Alphabet
import Rulebook.Pattern.Compile
import Rulebook.Pattern.Cursor
import Rulebook.Pattern.Escape
import Rulebook.Pattern.Reader
import Rulebook.Pattern.Search
import Rulebook.Pattern.Syntax
import Rulebook.Pattern.Width
import Rulebook.Proofs.Calendar.Date
import Rulebook.Proofs.Calendar.DateText
import Rulebook.Proofs.Calendar.IsoText
import Rulebook.Proofs.Condition.Distinguishing
import Rulebook.Proofs.Condition.Faithful
import Rulebook.Proofs.Condition.IntegerText
import Rulebook.Proofs.Condition.LostOffsets
import Rulebook.Proofs.Condition.Membership
import Rulebook.Proofs.Condition.Ordering
import Rulebook.Proofs.Condition.Rereading
import Rulebook.Proofs.Condition.Seeds
import Rulebook.Proofs.Condition.Stopping
import Rulebook.Proofs.Condition.Unfaithful
import Rulebook.Proofs.Condition.WrittenDates
import Rulebook.Proofs.Condition.WrittenNumbers
import Rulebook.Proofs.Document.Induction
import Rulebook.Proofs.Document.Showable
import Rulebook.Proofs.Editing.Cards
import Rulebook.Proofs.Editing.Children
import Rulebook.Proofs.Editing.Identities
import Rulebook.Proofs.Editing.Insertions
import Rulebook.Proofs.Editing.Inverses
import Rulebook.Proofs.Editing.Moves
import Rulebook.Proofs.Editing.Recorded
import Rulebook.Proofs.Editing.Replacements
import Rulebook.Proofs.Editing.Sessions
import Rulebook.Proofs.Evaluation.Anonymous
import Rulebook.Proofs.Evaluation.Canonical
import Rulebook.Proofs.Evaluation.ElementTraces
import Rulebook.Proofs.Evaluation.Explanations
import Rulebook.Proofs.Evaluation.Faults
import Rulebook.Proofs.Evaluation.Findings
import Rulebook.Proofs.Evaluation.Highlighting
import Rulebook.Proofs.Evaluation.Locality
import Rulebook.Proofs.Evaluation.Mirror
import Rulebook.Proofs.Evaluation.Quantifiers
import Rulebook.Proofs.Evaluation.Reordering
import Rulebook.Proofs.Evaluation.RoundTrip
import Rulebook.Proofs.Evaluation.SampledPaths
import Rulebook.Proofs.Evaluation.Samples
import Rulebook.Proofs.Evaluation.Satisfaction
import Rulebook.Proofs.Evaluation.Steps
import Rulebook.Proofs.Evaluation.StrayFields
import Rulebook.Proofs.Evaluation.TraceNodes
import Rulebook.Proofs.Evaluation.Views
import Rulebook.Proofs.Json.Reading
import Rulebook.Proofs.Json.Strings
import Rulebook.Proofs.Json.Writing
import Rulebook.Proofs.Number.Numeral
import Rulebook.Proofs.Number.Rounding
import Rulebook.Proofs.Path.CanonicalMarks
import Rulebook.Proofs.Path.Formatting
import Rulebook.Proofs.Path.Joining
import Rulebook.Proofs.Path.Marking
import Rulebook.Proofs.Path.Resolution
import Rulebook.Proofs.Path.Stripping
import Rulebook.Proofs.Path.Written
import Rulebook.Proofs.Results
import Rulebook.Proofs.Rule.Acceptance
import Rulebook.Proofs.Rule.Canonical
import Rulebook.Proofs.Rule.CanonicalText
import Rulebook.Proofs.Rule.Changes
import Rulebook.Proofs.Rule.Conditions
import Rulebook.Proofs.Rule.Fields
import Rulebook.Proofs.Rule.Induction
import Rulebook.Proofs.Rule.Issuing
import Rulebook.Proofs.Rule.Loaded
import Rulebook.Proofs.Rule.Locations
import Rulebook.Proofs.Rule.Places
import Rulebook.Proofs.Rule.Refusals
import Rulebook.Proofs.Rule.Reloading
import Rulebook.Proofs.Rule.Scaffolded
import Rulebook.Proofs.Rule.Spelling
import Rulebook.Proofs.Service.Agreement
import Rulebook.Proofs.Service.Canonical
import Rulebook.Proofs.Service.Recording
import Rulebook.Proofs.Service.Requests
import Rulebook.Proofs.Service.Validation
import Rulebook.Proofs.Text.Case
import Rulebook.Proofs.Text.Split
import Rulebook.Rule.Build
import Rulebook.Rule.Document
import Rulebook.Rule.Edit
import Rulebook.Rule.Load
import Rulebook.Rule.Node
import Rulebook.Rule.Portable
import Rulebook.Rule.Scaffold
import Rulebook.Rule.Session
import Rulebook.Rule.Walk
import Rulebook.Service.Editing
import Rulebook.Service.Engine
import Rulebook.Service.Journal
import Rulebook.Service.Service
import Rulebook.Service.Settings
import Rulebook.Text.Blank
import Rulebook.Text.Case
import Rulebook.Text.CharacterName
import Rulebook.Text.CharacterName.Alphabets
import Rulebook.Text.CharacterName.Controls
import Rulebook.Text.CharacterName.FurtherScripts
import Rulebook.Text.CharacterName.HistoricScripts
import Rulebook.Text.CharacterName.Pictographs
import Rulebook.Text.CharacterName.Symbols
import Rulebook.Text.CodePoints
import Rulebook.Text.Digit
import Rulebook.Text.Letter
import Rulebook.Text.Printable
import Rulebook.Text.Quoted
import Rulebook.Text.Split
import Rulebook.Text.Utf8
