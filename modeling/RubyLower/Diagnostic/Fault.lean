import RubyLower.Diagnostic.Basic

/-!
# Translation faults

Translation stops at the first fault. A fault has a kind, a message with its arguments and the
span of the node at fault; `Fault.toDiagnostic` places it in a file.
-/

namespace RubyLower

/-- The four kinds of fault. -/
inductive FaultKind where
  /-- A control-flow keyword where none is allowed. -/
  | controlFlow
  /-- A tree shape that has no rule. -/
  | unsupportedShape
  /-- An argument list of an unexpected shape. -/
  | argumentShape
  /-- A form reserved for core library sources, misused. -/
  | internalForm
  deriving DecidableEq

/-- The category of a fault kind, as reported. -/
def FaultKind.category : FaultKind → String
  | .controlFlow => "syntax-use-of-control-flow-keyword"
  | .unsupportedShape => "unsupported-ast-shape"
  | .argumentShape => "argument-shape-mismatch"
  | .internalForm => "misuse-of-internal-form"

/-- A fault that stops a translation. -/
structure Fault where
  kind : FaultKind
  message : Message
  args : List String
  span : Span

namespace Fault

/-- The stable code of the fault's message. -/
def code (f : Fault) : Nat :=
  f.message.code

/-- The fault's message text. -/
def text (f : Fault) : String :=
  f.message.render f.args

/-- The fault as an error diagnostic in `file`, at its span. -/
def toDiagnostic (f : Fault) (file : String) : Diagnostic :=
  { code := f.code, severity := .error, text := f.text, file := some file, span := some f.span }

end Fault

end RubyLower
