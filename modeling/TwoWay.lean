import TwoWay.Backward.Draft
import TwoWay.Backward.Run
import TwoWay.Bindings
import TwoWay.CharSet
import TwoWay.Decimal.Shortest
import TwoWay.Defect
import TwoWay.Forward.Diagnostic
import TwoWay.Forward.Failure
import TwoWay.Forward.Run
import TwoWay.Grammar.Body
import TwoWay.Grammar.Node
import TwoWay.Grammar.Replay
import TwoWay.Grammar.Standard
import TwoWay.Needle
import TwoWay.Pattern
import TwoWay.Regex.Basic
import TwoWay.Regex.ClassReader
import TwoWay.Regex.Expr
import TwoWay.Regex.Look
import TwoWay.Regex.Lower
import TwoWay.Regex.Property
import TwoWay.Regex.Reader
import TwoWay.Regex.Search
import TwoWay.Regex.Tree
import TwoWay.Regex.TreeReader
import TwoWay.Script.Expr
import TwoWay.Script.Library
import TwoWay.Script.Statement
import TwoWay.Text.Bytes
import TwoWay.Text.Quoted
import TwoWay.Unicode.Alphabetic
import TwoWay.Unicode.CaseFold
import TwoWay.Unicode.Class
import TwoWay.Unicode.GraphemeExtend
import TwoWay.Unicode.Letter
import TwoWay.Unicode.Mark
import TwoWay.Unicode.Unprintable
import TwoWay.Unicode.Uppercase
import TwoWay.Value.Basic
import TwoWay.Value.Json
import TwoWay.Value.Text
import TwoWay.Proofs.Backward.Attempt
import TwoWay.Proofs.Backward.EditedChoice
import TwoWay.Proofs.Backward.Finality
import TwoWay.Proofs.Backward.Handles
import TwoWay.Proofs.Backward.Provenance
import TwoWay.Proofs.Backward.Resolution
import TwoWay.Proofs.Backward.Rollback
import TwoWay.Proofs.Backward.Settle
import TwoWay.Proofs.Backward.SlotTable
import TwoWay.Proofs.Backward.Unification
import TwoWay.Proofs.Course
import TwoWay.Proofs.Forward.Attempt
import TwoWay.Proofs.Forward.Consumption
import TwoWay.Proofs.Forward.FailureTree
import TwoWay.Proofs.Forward.OrderedChoice
import TwoWay.Proofs.Forward.Shift
import TwoWay.Proofs.Inlining
import TwoWay.Proofs.Lockstep
import TwoWay.Proofs.Mismatch
import TwoWay.Proofs.Regex.Acceptance
import TwoWay.Proofs.Regex.Anchoring
import TwoWay.Proofs.Regex.FrontMatch
import TwoWay.Proofs.Regex.Lowering
import TwoWay.Proofs.Regex.Opening
import TwoWay.Proofs.RoundTrip
import TwoWay.Proofs.Router
import TwoWay.Proofs.StraightLine
import TwoWay.Proofs.Forward.SlotFree
import TwoWay.Proofs.Script.SlotFree
import TwoWay.Proofs.AnswerKind
import TwoWay.Proofs.Forward.StrayHalt
import TwoWay.Proofs.Script.Halts
import TwoWay.Proofs.Forward.Probe
import TwoWay.Proofs.Backward.Probe
import TwoWay.Proofs.Forward.Sequence
import TwoWay.Proofs.Forward.Interspersed
import TwoWay.Proofs.Forward.EndProbe
import TwoWay.Proofs.EqualNodes
import TwoWay.Proofs.Forward.Trace
import TwoWay.Proofs.Value.Primitive
import TwoWay.Proofs.Backward.FieldOrder
import TwoWay.Proofs.Backward.EqualNeedles
