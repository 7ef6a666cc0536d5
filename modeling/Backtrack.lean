import Backtrack.Console.Evaluate
import Backtrack.Console.Loop
import Backtrack.Console.Settings
import Backtrack.Console.Sink
import Backtrack.Console.StoredSettings
import Backtrack.Conversion
import Backtrack.Decimal.Binary
import Backtrack.Decimal.Notation
import Backtrack.Decimal.Reader
import Backtrack.Decimal.Shortest
import Backtrack.Diagnostic.Excerpt
import Backtrack.Diagnostic.Report
import Backtrack.Diagnostic.Snippet
import Backtrack.Diagnostic.Wrap
import Backtrack.Expression.Basic
import Backtrack.Expression.Language
import Backtrack.Expression.Terminal
import Backtrack.Grammar
import Backtrack.Inspect
import Backtrack.Log
import Backtrack.Main
import Backtrack.Numeral.Digits
import Backtrack.Numeral.Whole
import Backtrack.Outcome
import Backtrack.Parser.Basic
import Backtrack.Parser.Evaluate
import Backtrack.Parser.Render
import Backtrack.Pattern
import Backtrack.Program.Arguments
import Backtrack.Program.Command
import Backtrack.Program.Error
import Backtrack.Program.FileTree
import Backtrack.Program.Run
import Backtrack.Program.World
import Backtrack.Proofs.Console.ExitCommand
import Backtrack.Proofs.Console.Labels
import Backtrack.Proofs.Console.Limit
import Backtrack.Proofs.Console.Transcript
import Backtrack.Proofs.Expression.Applications
import Backtrack.Proofs.Expression.Display
import Backtrack.Proofs.Expression.Entries
import Backtrack.Proofs.Expression.Literals
import Backtrack.Proofs.Expression.Numbers
import Backtrack.Proofs.Expression.Patterns
import Backtrack.Proofs.Expression.Rejection
import Backtrack.Proofs.Expression.RoundTrip
import Backtrack.Proofs.Expression.Rules
import Backtrack.Proofs.Expression.Soundness
import Backtrack.Proofs.Expression.StandAlone
import Backtrack.Proofs.Expression.Termination
import Backtrack.Proofs.Expression.Translation
import Backtrack.Proofs.Expression.Writing
import Backtrack.Proofs.Parser.Alternatives
import Backtrack.Proofs.Parser.Anchors
import Backtrack.Proofs.Parser.Bracketing
import Backtrack.Proofs.Parser.Depth
import Backtrack.Proofs.Parser.Descent
import Backtrack.Proofs.Parser.Evaluation
import Backtrack.Proofs.Parser.Extent
import Backtrack.Proofs.Parser.Faults
import Backtrack.Proofs.Parser.GreedyChain
import Backtrack.Proofs.Parser.Names
import Backtrack.Proofs.Parser.Nodes
import Backtrack.Proofs.Parser.Parallel
import Backtrack.Proofs.Parser.ParsingExpression
import Backtrack.Proofs.Parser.Places
import Backtrack.Proofs.Parser.Reading
import Backtrack.Proofs.Parser.Rounds
import Backtrack.Proofs.Parser.Steps
import Backtrack.Proofs.Parser.Subtask
import Backtrack.Proofs.Parser.Translation
import Backtrack.Proofs.Parser.Unfolding
import Backtrack.Proofs.Parser.Unrolled
import Backtrack.Proofs.Program.Limit
import Backtrack.Proofs.Program.Modes
import Backtrack.Proofs.Regex.Acceptance
import Backtrack.Proofs.Regex.Anchoring
import Backtrack.Proofs.Regex.Greedy
import Backtrack.Proofs.Regex.Locality
import Backtrack.Proofs.Regex.Machine
import Backtrack.Proofs.Regex.Recompiled
import Backtrack.Proofs.Regex.Spans
import Backtrack.Proofs.Regex.Tails
import Backtrack.Proofs.Session.Adequacy
import Backtrack.Proofs.Session.Balanced
import Backtrack.Proofs.Session.Bracketing
import Backtrack.Proofs.Session.Choices
import Backtrack.Proofs.Session.Construction
import Backtrack.Proofs.Session.History
import Backtrack.Proofs.Session.Life
import Backtrack.Proofs.Session.Listing
import Backtrack.Proofs.Session.Loops
import Backtrack.Proofs.Session.Outcomes
import Backtrack.Proofs.Session.Places
import Backtrack.Proofs.Session.Recognition
import Backtrack.Proofs.Session.Repetition
import Backtrack.Proofs.Session.Roots
import Backtrack.Proofs.Session.Stops
import Backtrack.Proofs.Session.Templates
import Backtrack.Proofs.Session.Unfolding
import Backtrack.Proofs.Session.Unmapped
import Backtrack.Proofs.Text.Case
import Backtrack.Proofs.Text.Cut
import Backtrack.Proofs.Text.Octets
import Backtrack.Regex.Assertion
import Backtrack.Regex.CharClass
import Backtrack.Regex.CharSet
import Backtrack.Regex.Escape
import Backtrack.Regex.Gap
import Backtrack.Regex.Matcher
import Backtrack.Regex.Node
import Backtrack.Regex.Octets
import Backtrack.Regex.Options
import Backtrack.Regex.Program
import Backtrack.Regex.Property
import Backtrack.Regex.Reader
import Backtrack.Regex.Segment
import Backtrack.Regex.Size
import Backtrack.Scalar
import Backtrack.Session
import Backtrack.Text.Age
import Backtrack.Text.Alphanumeric
import Backtrack.Text.Blank
import Backtrack.Text.CaseFold
import Backtrack.Text.Category
import Backtrack.Text.CodeRange
import Backtrack.Text.DecimalDigit
import Backtrack.Text.DisplayWidth
import Backtrack.Text.Escaped
import Backtrack.Text.LineBreak
import Backtrack.Text.LineBreak.Class
import Backtrack.Text.Lowercase
import Backtrack.Text.NamedRanges
import Backtrack.Text.Offset
import Backtrack.Text.Printable
import Backtrack.Text.Quoted
import Backtrack.Text.Script
import Backtrack.Text.ScriptExtension
import Backtrack.Text.Split
import Backtrack.Text.Trait
import Backtrack.Text.Utf8
import Backtrack.Text.Word
import Backtrack.Toml.Document
import Backtrack.Toml.Quoted
import Backtrack.Toml.Reader
import Backtrack.Toml.Scalar
import Backtrack.Value
