import RubyLower.Text.Replace
/-!
# Messages

Every message the library reports has a stable code, a severity and a template. A template holds
numbered placeholders `{0}`, `{1}`, …; `fillTemplate` replaces them one argument at a time, in
order, each time every occurrence of the placeholder, so text put in by an earlier argument can
be rewritten by a later one.
-/

namespace RubyLower

/-- How serious a message is. -/
inductive Severity where
  | note
  | error
  deriving DecidableEq

/-- The word for a severity. -/
def Severity.word : Severity → String
  | .note => "note"
  | .error => "error"

/-- The placeholder for argument `i` of a template, `{i}`. -/
def placeholder (i : Nat) : String :=
  "\x7b" ++ toString i ++ "\x7d"

/-- Replace the placeholders `{0}`, `{1}`, … by the arguments, one argument at a time. -/
def fillTemplate (template : String) (args : List String) : String :=
  (args.zipIdx.foldl fun text (arg, i) => Text.replaceAll text (placeholder i) arg) template

/-- The messages of the library. -/
inductive Message where
  | invalidBreak
  | invalidNext
  | invalidRedo
  | invalidRetry
  | onlyInCoreSources
  | expectsBlock
  | unsupportedNode
  | unsupportedMultipleAssignment
  | cannotAssign
  | unsupportedMethodName
  | unsupportedRescueList
  | unknownArgument
  | unknownIndexArgument
  | unterminatedHeredoc
  | invalidEscape
  | unterminatedInterpolation
  | invalidHeredocOpener
  | dynamicConstantLookup
  deriving DecidableEq

namespace Message

/-- The stable code of a message: 1000s for misplaced control flow and internal forms, 2000s
for tree shapes with no rule, 3000s for argument shapes, 4000s for the scanner, 9000s for notes. -/
def code : Message → Nat
  | .invalidBreak => 1001
  | .invalidNext => 1002
  | .invalidRedo => 1003
  | .invalidRetry => 1004
  | .onlyInCoreSources => 1010
  | .expectsBlock => 1011
  | .unsupportedNode => 2001
  | .unsupportedMultipleAssignment => 2002
  | .cannotAssign => 2003
  | .unsupportedMethodName => 2004
  | .unsupportedRescueList => 2005
  | .unknownArgument => 3001
  | .unknownIndexArgument => 3002
  | .unterminatedHeredoc => 4001
  | .invalidEscape => 4002
  | .unterminatedInterpolation => 4003
  | .invalidHeredocOpener => 4004
  | .dynamicConstantLookup => 9001

/-- Every message is an error except the note on dynamic constant lookup. -/
def severity : Message → Severity
  | .dynamicConstantLookup => .note
  | _ => .error

/-- The template of a message. -/
def template : Message → String
  | .invalidBreak => "Invalid break"
  | .invalidNext => "Invalid next"
  | .invalidRedo => "Invalid redo"
  | .invalidRetry => "Invalid retry"
  | .onlyInCoreSources => "'" ++ placeholder 0 ++ "' is only available in core library sources"
  | .expectsBlock => "'" ++ placeholder 0 ++ "' expects a literal block"
  | .unsupportedNode => "Unsupported node in expression position: " ++ placeholder 0
  | .unsupportedMultipleAssignment => "Unsupported multiple assignment shape"
  | .cannotAssign => "Cannot assign to " ++ placeholder 0
  | .unsupportedMethodName => "Unsupported method name node: " ++ placeholder 0
  | .unsupportedRescueList => "Unsupported rescue exception list: " ++ placeholder 0
  | .unknownArgument => "Unknown argument node type: " ++ placeholder 0
  | .unknownIndexArgument => "Unknown index argument node type: " ++ placeholder 0
  | .unterminatedHeredoc => "can't find string \"" ++ placeholder 0 ++ "\" anywhere before EOF"
  | .invalidEscape => "invalid escape sequence: " ++ placeholder 0
  | .unterminatedInterpolation => "unterminated string interpolation"
  | .invalidHeredocOpener => "invalid heredoc opener: " ++ placeholder 0
  | .dynamicConstantLookup => "dynamic constant lookup at " ++ placeholder 0

/-- Every message, in code order. -/
def all : List Message :=
  [.invalidBreak, .invalidNext, .invalidRedo, .invalidRetry, .onlyInCoreSources, .expectsBlock,
   .unsupportedNode, .unsupportedMultipleAssignment, .cannotAssign, .unsupportedMethodName,
   .unsupportedRescueList, .unknownArgument, .unknownIndexArgument, .unterminatedHeredoc,
   .invalidEscape, .unterminatedInterpolation, .invalidHeredocOpener, .dynamicConstantLookup]

/-- The constant name of a message: its template in capitals, a placeholder written as its
index between underscores. -/
def constName : Message → String
  | .invalidBreak => "INVALID_BREAK"
  | .invalidNext => "INVALID_NEXT"
  | .invalidRedo => "INVALID_REDO"
  | .invalidRetry => "INVALID_RETRY"
  | .onlyInCoreSources => "_0_IS_ONLY_AVAILABLE_IN_CORE_SOURCES"
  | .expectsBlock => "_0_EXPECTS_A_BLOCK"
  | .unsupportedNode => "UNSUPPORTED_NODE_0"
  | .unsupportedMultipleAssignment => "UNSUPPORTED_MULTIPLE_ASSIGNMENT"
  | .cannotAssign => "CANNOT_ASSIGN_TO_0"
  | .unsupportedMethodName => "UNSUPPORTED_METHOD_NAME_NODE_0"
  | .unsupportedRescueList => "UNSUPPORTED_RESCUE_LIST_0"
  | .unknownArgument => "UNKNOWN_ARGUMENT_NODE_0"
  | .unknownIndexArgument => "UNKNOWN_INDEX_ARGUMENT_NODE_0"
  | .unterminatedHeredoc => "CANT_FIND_STRING_0_ANYWHERE_BEFORE_EOF"
  | .invalidEscape => "INVALID_ESCAPE_0"
  | .unterminatedInterpolation => "UNTERMINATED_INTERPOLATION"
  | .invalidHeredocOpener => "INVALID_HEREDOC_OPENER_0"
  | .dynamicConstantLookup => "DYNAMIC_CONSTANT_LOOKUP_AT_0"

/-- The message of a constant name. -/
def ofConstName? (name : String) : Option Message :=
  all.find? (·.constName == name)

/-- The text of a message with its arguments filled in. -/
def render (m : Message) (args : List String) : String :=
  fillTemplate m.template args

end Message

end RubyLower
