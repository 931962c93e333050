import Highlight.Annotator
import Highlight.Config
import Highlight.Datum
import Highlight.Decimal
import Highlight.Desk
import Highlight.Document
import Highlight.Entity.LowerFirst
import Highlight.Entity.LowerLast
import Highlight.Entity.LowerMiddle
import Highlight.Entity.Reference
import Highlight.Entity.Upper
import Highlight.Fault
import Highlight.Fragment
import Highlight.Grammar
import Highlight.Grammar.Julia
import Highlight.Grammar.Markdown
import Highlight.Grammar.Registry
import Highlight.Grammar.Toml
import Highlight.Grapheme.Boundary
import Highlight.Grapheme.BreakProperty
import Highlight.Grapheme.Index
import Highlight.Html
import Highlight.Log
import Highlight.Mark
import Highlight.Mark.Store
import Highlight.Matcher
import Highlight.Matcher.Request
import Highlight.Order
import Highlight.Position
import Highlight.Presentation
import Highlight.Profile
import Highlight.Proofs.Order
import Highlight.Proofs.Disjointness
import Highlight.Proofs.Gaps
import Highlight.Proofs.Growth
import Highlight.Proofs.Locality
import Highlight.Proofs.Program
import Highlight.Region
import Highlight.Rule
import Highlight.Rule.Apply
import Highlight.Session.Answer
import Highlight.Session.Call
import Highlight.Session.Op
import Highlight.Session.Setting
import Highlight.Session.Step
import Highlight.Shelf
import Highlight.Style
import Highlight.Table
import Highlight.Text.Basic
import Highlight.Text.Lowercase
import Highlight.Text.Quoted
import Highlight.Text.Search
import Highlight.Unicode.Casing
import Highlight.Unicode.Combining
import Highlight.Unicode.Control
import Highlight.Unicode.Digit
import Highlight.Unicode.Letter
import Highlight.Unicode.Printable
import Highlight.Unicode.Ranges
import Highlight.Unicode.Symbol
import Highlight.Proofs.Soundness
import Highlight.Proofs.Rescan
import Highlight.Proofs.Invariant
import Highlight.Proofs.Coverage
import Highlight.Proofs.Independence
import Highlight.Proofs.Clusters
import Highlight.Proofs.History
import Highlight.Proofs.Rendering
import Highlight.Proofs.Refinement
import Highlight.Proofs.Frame
import Highlight.Proofs.Faults
import Highlight.Proofs.Recursion
import Highlight.Proofs.Searches
import Highlight.Proofs.Completion
import Highlight.Proofs.Interpolation
import Highlight.Proofs.Interruption
import Highlight.Proofs.Intervals
import Highlight.Proofs.Counting
import Highlight.Proofs.Markup
import Highlight.Proofs.Lookup
import Highlight.Proofs.Boundaries
import Highlight.Proofs.Joiners
import Highlight.Proofs.Coordinates
import Highlight.Proofs.Pairing
import Highlight.Proofs.Shielding
import Highlight.Proofs.Pattern
import Highlight.Proofs.Selection
import Highlight.Proofs.Alternation
import Highlight.Proofs.Vocabulary
import Highlight.Proofs.Delimiters
import Highlight.Proofs.Configured
import Highlight.Proofs.Escapes
import Highlight.Proofs.Numerals
import Highlight.Proofs.Lines
import Highlight.Proofs.LineEnds
import Highlight.Proofs.Repetition
import Highlight.Proofs.RoundTrip
import Highlight.Proofs.Normalization
import Highlight.Proofs.Replacement
import Highlight.Proofs.Styling
import Highlight.Proofs.Observation
