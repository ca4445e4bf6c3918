import Cascade.Batch
import Cascade.Check
import Cascade.CommandLine
import Cascade.CommandLine.Arguments
import Cascade.DefineError
import Cascade.Engine
import Cascade.Engine.Evaluation
import Cascade.Engine.Operations
import Cascade.Engine.Registry
import Cascade.EvalError
import Cascade.Expr
import Cascade.Expr.Descent
import Cascade.Expr.Parser
import Cascade.Expr.Progress
import Cascade.Expr.Reading
import Cascade.Failure
import Cascade.Glob
import Cascade.Json
import Cascade.Line
import Cascade.Main
import Cascade.Memory
import Cascade.Native
import Cascade.Native.Builtin
import Cascade.Native.Host
import Cascade.Numeral.Binary64
import Cascade.Numeral.Layout
import Cascade.Numeral.Reading
import Cascade.Numeral.Scaled
import Cascade.Numeral.Shortest
import Cascade.Operator
import Cascade.Pattern
import Cascade.Pattern.Class
import Cascade.Pattern.Machine
import Cascade.Pattern.Node
import Cascade.Pattern.Reader
import Cascade.Pattern.Room
import Cascade.Pattern.Room.Basic
import Cascade.Pattern.Room.Sets
import Cascade.Pattern.Room.Texts
import Cascade.Rule
import Cascade.Snapshot
import Cascade.Symbol
import Cascade.Table
import Cascade.Text.Lines
import Cascade.Text.Trim
import Cascade.Token
import Cascade.Token.Dialogue
import Cascade.Token.Lexer
import Cascade.Token.Scan
import Cascade.Token.Stream
import Cascade.Trigger
import Cascade.Unicode.Age
import Cascade.Unicode.Alphabetic
import Cascade.Unicode.Break
import Cascade.Unicode.Category
import Cascade.Unicode.CodeSet
import Cascade.Unicode.Folding
import Cascade.Unicode.Property
import Cascade.Unicode.Script
import Cascade.Unicode.Utf8
import Cascade.Value
import Cascade.Value.Conversion
import Cascade.Value.Reading
import Cascade.Proofs.Frame
import Cascade.Proofs.Glob
import Cascade.Proofs.Step
import Cascade.Proofs.Writing
import Cascade.Proofs.Forms
import Cascade.Proofs.Comparison
import Cascade.Proofs.Subscription
import Cascade.Proofs.Agreement
import Cascade.Proofs.Course
import Cascade.Proofs.History
import Cascade.Proofs.Notification
import Cascade.Proofs.Nesting
import Cascade.Proofs.Freshness
import Cascade.Proofs.Ownership
import Cascade.Proofs.Removal
import Cascade.Proofs.Together
import Cascade.Proofs.Accord
import Cascade.Proofs.Confinement
import Cascade.Proofs.Onlooker
import Cascade.Proofs.Sparing
import Cascade.Proofs.LastChange
import Cascade.Proofs.Transparency
import Cascade.Proofs.Causation
import Cascade.Proofs.Containment
import Cascade.Proofs.Acyclicity
import Cascade.Proofs.Rejection
import Cascade.Proofs.Lexing
import Cascade.Proofs.Readers
import Cascade.Proofs.Grammar
import Cascade.Proofs.Soundness
import Cascade.Proofs.Completeness
import Cascade.Proofs.Roundtrip
import Cascade.Proofs.Tokenization
import Cascade.Proofs.Sameness
import Cascade.Proofs.Remembering
import Cascade.Proofs.Watching
import Cascade.Proofs.Numbering
import Cascade.Proofs.Bracing
import Cascade.Proofs.Exactness
import Cascade.Proofs.Pieces
import Cascade.Proofs.Doubles
import Cascade.Proofs.Equality
import Cascade.Proofs.Ordering
import Cascade.Proofs.Rewinding
import Cascade.Proofs.LookAhead
import Cascade.Proofs.Onward
import Cascade.Proofs.Pointing
import Cascade.Proofs.Dispatch
import Cascade.Proofs.Summation
import Cascade.Proofs.Integers
import Cascade.Proofs.Lines
import Cascade.Proofs.Batches
import Cascade.Proofs.Shape
import Cascade.Proofs.Newborn
import Cascade.Proofs.Slashes
