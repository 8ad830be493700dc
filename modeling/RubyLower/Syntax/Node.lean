import RubyLower.Text.Span
import RubyLower.Decimal.Binary64
import RubyLower.Syntax.RegexpFlags

/-!
# Ruby parse trees

The input of the lowering: a Ruby program as its parser gives it. Every node has a span, a flag
saying that it starts a source line, and a kind. The kinds are one layer of the tree, `Kind α`,
with the children of type `α`; `Node` ties the layers together. Parameter lists, literal blocks,
`when` and `rescue` clauses, constant paths and multiple-assignment patterns are records over the
same child type.
-/

namespace RubyLower

/-- A rest parameter: `*name`, a bare `*`, or the trailing comma of `|a,|`. -/
inductive RestParam where
  | named (name : String)
  | anonymous
  | excessComma
  deriving DecidableEq, Inhabited

/-- A parameter list of a method, block or lambda. Leading and trailing parameters are
`argument` nodes or destructuring patterns; optional ones are assignments holding the default. -/
structure Params (α : Type) where
  span : Span := default
  pre : List α := []
  optional : List α := []
  rest : Option RestParam := none
  post : List α := []
  /-- Keyword parameters with their defaults; one without a default is required. -/
  keywords : List (String × Option α) := []
  keywordRest : Option RestParam := none
  block : Option String := none

/-- A literal block `{ |params| body }` or lambda, with its block-local names. -/
structure BlockLit (α : Type) where
  span : Span
  params : Params α
  body : Option α
  locals : List String

/-- One `when` arm of a `case`; `splat` marks `when *list`. -/
structure WhenArm (α : Type) where
  span : Span
  pattern : α
  body : Option α
  splat : Bool

/-- One `rescue` clause, with its exception list when it has one. -/
structure RescueArm (α : Type) where
  span : Span
  exceptions : Option α
  body : Option α

/-- The path of a constant being defined: `Name`, `left::Name` or `::Name`. -/
inductive ConstPath (α : Type) where
  | implicit (name : String)
  | scoped (left : α) (name : String)
  | topLevel (name : String)

/-- The name a constant path ends in. -/
def ConstPath.name {α : Type} : ConstPath α → String
  | .implicit n => n
  | .scoped _ n => n
  | .topLevel n => n

/-- `pre, *rest, post = value`; without a value it is a destructuring target. -/
structure MultiAsgn (α : Type) where
  span : Span
  pre : List α
  rest : Option α
  post : List α
  value : Option α

/-- One layer of a parse tree, with children of type `α`. -/
inductive Kind (α : Type) where
  | fixnum (value : Int)
  | bignum (digits : String)
  | float (value : Decimal.Binary64)
  | rational (numerator denominator : α)
  | complex (number : α)
  | str (value : String) (frozen : Bool)
  | xstr (value : String)
  | dstr (parts : List α)
  | dsymbol (parts : List α)
  | dxstr (parts : List α)
  | dregexp (parts : List α) (flags : RegexpFlags)
  | evstr (body : Option α)
  | symbol (name : String)
  | regexp (source : String) (flags : RegexpFlags)
  | trueLit
  | falseLit
  | nilLit
  | selfRef
  | zeroArray
  | encoding (name : String)
  | array (elements : List α)
  | hash (pairs : List (Option α × α))
  | dot (low high : Option α) (exclusive : Bool)
  | flip (low high : α) (exclusive : Bool)
  | localVar (name : String) (depth : Nat)
  | dvar (name : String) (depth : Nat)
  | localAsgn (name : String) (depth : Nat) (value : Option α)
  | dasgn (name : String) (depth : Nat) (value : Option α)
  | instVar (name : String)
  | instAsgn (name : String) (value : Option α)
  | classVar (name : String)
  | classVarAsgn (name : String) (value : Option α)
  | globalVar (name : String)
  | globalAsgn (name : String) (value : Option α)
  | const (name : String)
  | colon2 (left : α) (name : String)
  | colon3 (name : String)
  | constDecl (path : ConstPath α) (value : Option α)
  | nthRef (n : Nat)
  | backRef (kind : String)
  | call (receiver : α) (name : String) (args iter : Option α) (lazy : Bool)
  | fcall (name : String) (args iter : Option α)
  | vcall (name : String)
  | attrAssign (receiver : α) (name : String) (args : Option α) (lazy : Bool)
  | superCall (args iter : Option α)
  | zsuper (iter : Option α)
  | yieldCall (args : Option α)
  | blockPass (body : α)
  | iter (block : BlockLit α)
  | lambda (block : BlockLit α)
  | splat (value : α)
  | argsCat (first second : α)
  | argsPush (first second : α)
  | svalue (value : α)
  | star
  | matchLastLine (regexp : α)
  | match2 (receiver value : α)
  | match3 (receiver value : α)
  | defined (expression : α)
  | begin (body : Option α)
  | block (children : List α)
  | preExe (body : Option α)
  | postExe (body : Option α)
  | conditional (condition : α) (thenBody elseBody : Option α)
  | and (first second : α)
  | or (first second : α)
  | whileLoop (condition : α) (body : Option α) (testFirst : Bool)
  | untilLoop (condition : α) (body : Option α) (testFirst : Bool)
  | forLoop (var iter : α) (body : Option α)
  | caseWhen (subject : Option α) (whens : List (WhenArm α)) (elseBody : Option α)
  | breakJump (value : Option α)
  | nextJump (value : Option α)
  | redo
  | retry
  | returnJump (value : Option α)
  | rescue (body : Option α) (clauses : List (RescueArm α)) (elseBody : Option α)
  | ensure (body ensure : Option α)
  | opAsgn (receiver : α) (attr operator : String) (value : α) (lazy : Bool)
  | opAsgnAnd (first second : α)
  | opAsgnOr (first second : α)
  | opElementAsgn (receiver : α) (args : Option α) (operator : String) (value : α)
  | opAsgnConstDecl (first : α) (operator : String) (second : α)
  | multipleAsgn (pattern : MultiAsgn α)
  | defn (name : String) (params : Params α) (body : Option α)
  | defs (receiver : α) (name : String) (params : Params α) (body : Option α)
  | classDef (path : ConstPath α) (superclass body : Option α)
  | moduleDef (path : ConstPath α) (body : Option α)
  | sclass (receiver : α) (body : Option α)
  | alias (newName oldName : α)
  | valias (newName oldName : String)
  | undef (name : α)
  | literal (name : String)
  | argument (name : String)

/-- A parse tree node: its span, whether it starts a source line, and its kind. -/
inductive Node where
  | mk (span : Span) (newline : Bool) (kind : Kind Node)

/-- The default node is a `nil` literal at the empty span. -/
instance : Inhabited Node := ⟨.mk default false .nilLit⟩

namespace Node

/-- The span of a node. -/
def span : Node → Span
  | .mk s _ _ => s

/-- Whether a node starts a source line. -/
def newline : Node → Bool
  | .mk _ nl _ => nl

/-- The kind of a node. -/
def kind : Node → Kind Node
  | .mk _ _ k => k

end Node

/-- The name of a kind, as the parser calls it. -/
def Kind.name {α : Type} : Kind α → String
  | .fixnum _ => "Fixnum" | .bignum _ => "Bignum" | .float _ => "Float"
  | .rational _ _ => "Rational" | .complex _ => "Complex" | .str _ _ => "Str"
  | .xstr _ => "XStr" | .dstr _ => "DStr" | .dsymbol _ => "DSymbol" | .dxstr _ => "DXStr"
  | .dregexp _ _ => "DRegexp" | .evstr _ => "EvStr" | .symbol _ => "Symbol"
  | .regexp _ _ => "Regexp" | .trueLit => "True" | .falseLit => "False" | .nilLit => "Nil"
  | .selfRef => "Self" | .zeroArray => "ZArray" | .encoding _ => "Encoding"
  | .array _ => "Array" | .hash _ => "Hash" | .dot _ _ _ => "Dot" | .flip _ _ _ => "Flip"
  | .localVar _ _ => "LocalVar" | .dvar _ _ => "DVar" | .localAsgn _ _ _ => "LocalAsgn"
  | .dasgn _ _ _ => "DAsgn" | .instVar _ => "InstVar" | .instAsgn _ _ => "InstAsgn"
  | .classVar _ => "ClassVar" | .classVarAsgn _ _ => "ClassVarAsgn"
  | .globalVar _ => "GlobalVar" | .globalAsgn _ _ => "GlobalAsgn" | .const _ => "Const"
  | .colon2 _ _ => "Colon2" | .colon3 _ => "Colon3" | .constDecl _ _ => "ConstDecl"
  | .nthRef _ => "NthRef" | .backRef _ => "BackRef" | .call _ _ _ _ _ => "Call"
  | .fcall _ _ _ => "FCall" | .vcall _ => "VCall" | .attrAssign _ _ _ _ => "AttrAssign"
  | .superCall _ _ => "Super" | .zsuper _ => "ZSuper" | .yieldCall _ => "Yield"
  | .blockPass _ => "BlockPass" | .iter _ => "Iter" | .lambda _ => "Lambda"
  | .splat _ => "Splat" | .argsCat _ _ => "ArgsCat" | .argsPush _ _ => "ArgsPush"
  | .svalue _ => "SValue" | .star => "Star" | .matchLastLine _ => "Match"
  | .match2 _ _ => "Match2" | .match3 _ _ => "Match3" | .defined _ => "Defined"
  | .begin _ => "Begin" | .block _ => "Block" | .preExe _ => "PreExe" | .postExe _ => "PostExe"
  | .conditional _ _ _ => "If" | .and _ _ => "And" | .or _ _ => "Or"
  | .whileLoop _ _ _ => "While" | .untilLoop _ _ _ => "Until" | .forLoop _ _ _ => "For"
  | .caseWhen _ _ _ => "Case" | .breakJump _ => "Break" | .nextJump _ => "Next"
  | .redo => "Redo" | .retry => "Retry" | .returnJump _ => "Return"
  | .rescue _ _ _ => "Rescue" | .ensure _ _ => "Ensure" | .opAsgn _ _ _ _ _ => "OpAsgn"
  | .opAsgnAnd _ _ => "OpAsgnAnd" | .opAsgnOr _ _ => "OpAsgnOr"
  | .opElementAsgn _ _ _ _ => "OpElementAsgn" | .opAsgnConstDecl _ _ _ => "OpAsgnConstDecl"
  | .multipleAsgn _ => "MultipleAsgn" | .defn _ _ _ => "Defn" | .defs _ _ _ _ => "Defs"
  | .classDef _ _ _ => "Class" | .moduleDef _ _ => "Module" | .sclass _ _ => "SClass"
  | .alias _ _ => "Alias" | .valias _ _ => "VAlias" | .undef _ => "Undef"
  | .literal _ => "Literal" | .argument _ => "Argument"

end RubyLower
