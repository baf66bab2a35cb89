import Stencil.Arithmetic
import Stencil.Call
import Stencil.Condition
import Stencil.Fault
import Stencil.Host.Builtins
import Stencil.Host.Session
import Stencil.Json.Basic
import Stencil.Json.Document
import Stencil.Library.Binding
import Stencil.Library.Chance
import Stencil.Library.Standard
import Stencil.Library.Wording
import Stencil.Limits
import Stencil.Loop
import Stencil.Member
import Stencil.NameMap
import Stencil.Node
import Stencil.Number.Binary
import Stencil.Number.Decimal
import Stencil.Number.Integer
import Stencil.Pattern.Basic
import Stencil.Pattern.Parser
import Stencil.Proofs.Builtins
import Stencil.Proofs.Composition
import Stencil.Proofs.Loops
import Stencil.Proofs.Renders
import Stencil.Proofs.Scopes
import Stencil.Proofs.Stages
import Stencil.Render
import Stencil.Span
import Stencil.Store
import Stencil.Text.Offsets
import Stencil.Text.Percent
import Stencil.Text.Quoted
import Stencil.Text.Search
import Stencil.Text.Slice
import Stencil.Text.Trim
import Stencil.Time.Calendar
import Stencil.Time.Moment
import Stencil.Time.Template
import Stencil.Unicode.Age
import Stencil.Unicode.Break
import Stencil.Unicode.Case
import Stencil.Unicode.Category
import Stencil.Unicode.Listed
import Stencil.Unicode.Named
import Stencil.Unicode.Property
import Stencil.Unicode.Ranges
import Stencil.Unicode.Repertoire
import Stencil.Unicode.Script
import Stencil.World
import Stencil.Proofs.Gas
import Stencil.Proofs.LoopVariable
import Stencil.Proofs.SideBySide
import Stencil.Proofs.Correspondence
import Stencil.Proofs.GasThreshold
import Stencil.Proofs.Spans
import Stencil.Proofs.Unrolling
import Stencil.Proofs.Isolation
import Stencil.Proofs.Sequence
import Stencil.Proofs.Observation
import Stencil.Proofs.OutputLimit
import Stencil.Proofs.NestedLoops
import Stencil.Proofs.UnreachedLimit
import Stencil.Proofs.LastWrites
import Stencil.Proofs.CallChanges
import Stencil.Proofs.Redirection
import Stencil.Proofs.JsonRoundTrip
import Stencil.Proofs.Failures
import Stencil.Proofs.Attribution
import Stencil.Proofs.Reports
import Stencil.Proofs.Pulls
import Stencil.Proofs.AnyGas
import Stencil.Proofs.Weight
import Stencil.Proofs.Integers
import Stencil.Proofs.Stepping
import Stencil.Proofs.NumberDraws
import Stencil.Proofs.FloorDivision
import Stencil.Proofs.Tokens
import Stencil.Proofs.Slices
import Stencil.Proofs.DualComparisons
import Stencil.Proofs.MemberLookup
import Stencil.Proofs.Pieces
import Stencil.Proofs.Matching
import Stencil.Proofs.Readers
import Stencil.Proofs.ClassReaders
import Stencil.Proofs.PatternReaders
import Stencil.Proofs.AnchoredPatterns
import Stencil.Proofs.SpanTexts
import Stencil.Proofs.TextTypes
import Stencil.Proofs.OperandChecks
import Stencil.Proofs.Replacing
import Stencil.Proofs.MomentRange
import Stencil.Proofs.TimeTemplates
import Stencil.Proofs.IntegerTexts
