import RuleTemplate.Address
import RuleTemplate.Clock.Duration
import RuleTemplate.Clock.Moment
import RuleTemplate.Clock.Namespace
import RuleTemplate.CommandLine.Configuration
import RuleTemplate.CommandLine.Help
import RuleTemplate.CommandLine.Run
import RuleTemplate.Criterion
import RuleTemplate.Double.Basic
import RuleTemplate.Double.Numeral
import RuleTemplate.Double.Rounding
import RuleTemplate.Double.Scaling
import RuleTemplate.Double.Shortest
import RuleTemplate.Entries
import RuleTemplate.Json.Basic
import RuleTemplate.Json.Reader
import RuleTemplate.Json.Writer
import RuleTemplate.Log.Directive
import RuleTemplate.Log.Filter
import RuleTemplate.Log.Level
import RuleTemplate.Log.Line
import RuleTemplate.Main
import RuleTemplate.Matcher
import RuleTemplate.Memo
import RuleTemplate.Node
import RuleTemplate.Number
import RuleTemplate.Proofs.Address
import RuleTemplate.Proofs.Address.Spelling
import RuleTemplate.Proofs.Clock.TimeFields
import RuleTemplate.Proofs.CommandLine.Assignment
import RuleTemplate.Proofs.CommandLine.Diagnostics
import RuleTemplate.Proofs.CommandLine.Separator
import RuleTemplate.Proofs.CommandLine.Words
import RuleTemplate.Proofs.Criterion.Canonical
import RuleTemplate.Proofs.Double.Interval
import RuleTemplate.Proofs.Entries
import RuleTemplate.Proofs.Json.Compact
import RuleTemplate.Proofs.Matcher.EqualValues
import RuleTemplate.Proofs.Matcher.IntegerOrder
import RuleTemplate.Proofs.Matcher.LeadingInteger
import RuleTemplate.Proofs.Memo
import RuleTemplate.Proofs.Memo.EqualRecords
import RuleTemplate.Proofs.Number
import RuleTemplate.Proofs.Resolution.AddressChain
import RuleTemplate.Proofs.Resolution.Adequacy
import RuleTemplate.Proofs.Resolution.Alignment
import RuleTemplate.Proofs.Resolution.Alternatives
import RuleTemplate.Proofs.Resolution.BranchChoice
import RuleTemplate.Proofs.Resolution.ClauseGroup
import RuleTemplate.Proofs.Resolution.Collapse
import RuleTemplate.Proofs.Resolution.Completeness
import RuleTemplate.Proofs.Resolution.Compositional
import RuleTemplate.Proofs.Resolution.Confinement
import RuleTemplate.Proofs.Resolution.Counters
import RuleTemplate.Proofs.Resolution.DepthLimit
import RuleTemplate.Proofs.Resolution.Discipline
import RuleTemplate.Proofs.Resolution.Evaluation
import RuleTemplate.Proofs.Resolution.FailingProperty
import RuleTemplate.Proofs.Resolution.Independence
import RuleTemplate.Proofs.Resolution.InertKey
import RuleTemplate.Proofs.Resolution.Inlining
import RuleTemplate.Proofs.Resolution.Invariant
import RuleTemplate.Proofs.Resolution.Memoized
import RuleTemplate.Proofs.Resolution.NowhereFalsy
import RuleTemplate.Proofs.Resolution.PlainMatch
import RuleTemplate.Proofs.Resolution.Recursion
import RuleTemplate.Proofs.Resolution.Relation
import RuleTemplate.Proofs.Resolution.Resolved
import RuleTemplate.Proofs.Resolution.Respelling
import RuleTemplate.Proofs.Resolution.Simulation
import RuleTemplate.Proofs.Resolution.Soundness
import RuleTemplate.Proofs.Resolution.StrayKey
import RuleTemplate.Proofs.Resolution.Tally
import RuleTemplate.Proofs.Store.History
import RuleTemplate.Proofs.Text.LeadingBytes
import RuleTemplate.Proofs.Text.Opening
import RuleTemplate.Proofs.Value.Document
import RuleTemplate.Proofs.Value.Equality
import RuleTemplate.Proofs.Value.Probes
import RuleTemplate.Report.Style
import RuleTemplate.Report.Summary
import RuleTemplate.Resolution.Basic
import RuleTemplate.Resolution.Journal
import RuleTemplate.Resolution.Rules
import RuleTemplate.Resolution.Run
import RuleTemplate.Resolution.Selection
import RuleTemplate.Store
import RuleTemplate.Text.Alphanumeric
import RuleTemplate.Text.Blank
import RuleTemplate.Text.CaseFold
import RuleTemplate.Text.Category
import RuleTemplate.Text.Category.Ranges
import RuleTemplate.Text.CharSet
import RuleTemplate.Text.CharSet.Edges
import RuleTemplate.Text.Copies
import RuleTemplate.Text.Cut
import RuleTemplate.Text.DecimalDigit
import RuleTemplate.Text.Hidden
import RuleTemplate.Text.Integer
import RuleTemplate.Text.Pattern
import RuleTemplate.Text.Pattern.Assembly
import RuleTemplate.Text.Pattern.Bracket
import RuleTemplate.Text.Pattern.Escape
import RuleTemplate.Text.Pattern.Mode
import RuleTemplate.Text.Pattern.Reader
import RuleTemplate.Text.Quoted
import RuleTemplate.Text.Range
import RuleTemplate.Text.Utf8
import RuleTemplate.Text.WordCharacter
import RuleTemplate.Value.Basic
import RuleTemplate.Value.Display
import RuleTemplate.Value.Document
