import RubyLower.Compile
import RubyLower.Decimal.Binary64
import RubyLower.Decimal.Notation
import RubyLower.Decimal.Read
import RubyLower.Decimal.Shortest
import RubyLower.Diagnostic.Basic
import RubyLower.Diagnostic.Fault
import RubyLower.Diagnostic.Message
import RubyLower.Heredoc.Body
import RubyLower.Heredoc.Dedent
import RubyLower.Heredoc.Error
import RubyLower.Heredoc.Escape
import RubyLower.Heredoc.Opener
import RubyLower.Heredoc.Part
import RubyLower.Heredoc.Start
import RubyLower.Json.Read
import RubyLower.Json.Value
import RubyLower.Lower.Assign
import RubyLower.Lower.Block
import RubyLower.Lower.Call
import RubyLower.Lower.Control
import RubyLower.Lower.Definition
import RubyLower.Lower.Dispatch
import RubyLower.Lower.Literal
import RubyLower.Lower.Monad
import RubyLower.Lower.Params
import RubyLower.Lower.Program
import RubyLower.Lower.Rescue
import RubyLower.NameTable
import RubyLower.Op.Basic
import RubyLower.Op.Printer
import RubyLower.Op.Sequence
import RubyLower.Op.Walk
import RubyLower.Options
import RubyLower.Proofs.ForBody
import RubyLower.Proofs.SuperArgs
import RubyLower.Proofs.SequenceNesting
import RubyLower.Proofs.CaseChain
import RubyLower.Proofs.ExceptionList
import RubyLower.Proofs.ConcatChain
import RubyLower.Proofs.ArrayReads
import RubyLower.Proofs.ProcBinding
import RubyLower.Proofs.OperandCopies
import RubyLower.Proofs.MultipleAssign
import RubyLower.Proofs.Heredoc.Scan
import RubyLower.Proofs.Heredoc.Termination
import RubyLower.Proofs.Heredoc.Dedent
import RubyLower.Proofs.Heredoc.NumericEscape
import RubyLower.Proofs.LineLookup
import RubyLower.Proofs.TemplateFill
import RubyLower.Proofs.Backtrace
import RubyLower.Proofs.Jumps.Parts
import RubyLower.Proofs.Jumps.Program
import RubyLower.Proofs.Jumps.Scopes
import RubyLower.Proofs.Jumps.Visits
import RubyLower.Proofs.Jumps.Assign
import RubyLower.Proofs.Jumps.Calls
import RubyLower.Proofs.KeepsScope.Rules
import RubyLower.Proofs.Program
import RubyLower.Scope.Env
import RubyLower.Scope.Frame
import RubyLower.Syntax.Build
import RubyLower.Syntax.Classify
import RubyLower.Syntax.Height
import RubyLower.Syntax.NamedGroups
import RubyLower.Syntax.Node
import RubyLower.Syntax.RegexpFlags
import RubyLower.Text.Blank
import RubyLower.Text.Bytes
import RubyLower.Text.GraphemeExtend
import RubyLower.Text.Identifier
import RubyLower.Text.Integer
import RubyLower.Text.Lines
import RubyLower.Text.Printable
import RubyLower.Text.Quoted
import RubyLower.Text.Ranges
import RubyLower.Text.Replace
import RubyLower.Text.Span
import RubyLower.Proofs.Annotate.Plain
import RubyLower.Proofs.Annotate.Steps
import RubyLower.Proofs.Annotate.Rules
import RubyLower.Proofs.Annotate.Lowering
import RubyLower.Proofs.Annotate.Compile
import RubyLower.Proofs.Lookup.Nameless
import RubyLower.Proofs.Lookup.Rename
import RubyLower.Proofs.Lookup.RenameSteps
import RubyLower.Proofs.Lookup.RenameRules
import RubyLower.Proofs.Lookup.RenameLowering
import RubyLower.Proofs.BodyLocals.Steps
import RubyLower.Proofs.BodyLocals.Units
import RubyLower.Proofs.BodyLocals.Rules
import RubyLower.Proofs.BodyLocals.ForLoop
