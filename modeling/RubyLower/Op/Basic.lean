import RubyLower.Text.Span
import RubyLower.Decimal.Binary64
import RubyLower.Syntax.RegexpFlags

/-!
# Operation trees

The output of the lowering: a tree of operations for an interpreter to run, and the executable
units (the program, methods, blocks, lambdas and module bodies) that hold them. A node is a form,
an optional source span and two flags: the node starts a source line, and that line was
registered for coverage. The forms are one layer, `Form α`, with children of type `α`;
`Form.children` lists the children in their order of evaluation, which is also the order in
which they are printed and walked.

Locals are addressed by slots: the name, the index in the declaring frame's table, and how many
frames out that frame is.
-/

namespace RubyLower

/-- A local variable as an operation sees it: its name, its index in the table of the frame that
declares it, and how many frames out from the running frame that frame is. -/
structure Slot where
  name : String
  index : Nat
  depth : Nat
  deriving DecidableEq, Inhabited

/-- How a call is made. -/
structure CallFlags where
  /-- The last argument is an array spread into the call. -/
  splatted : Bool := false
  /-- Private and protected methods may be called. -/
  ignoreVisibility : Bool := false
  /-- A bare identifier with no receiver and no arguments. -/
  vcall : Bool := false
  /-- A nil receiver gives nil without a call. -/
  safeNavigation : Bool := false
  /-- An attribute or index assignment, whose value is the assigned value. -/
  attrAssign : Bool := false
  deriving DecidableEq, Inhabited

/-- What a splat makes of `nil`. -/
inductive SplatNil where
  | nil
  | emptyArray
  | arrayWithNil
  | convert
  deriving DecidableEq

/-- Whether a loop tests its condition before or after the body. -/
inductive LoopTest where
  | first
  | after
  deriving DecidableEq

/-- What `defined?` reports for a wrapped form. -/
inductive DefinedAs where
  | assignment
  | expression
  | method
  deriving DecidableEq

/-- What reading a missing positional argument does. -/
inductive MissingArg where
  /-- The arity check has already raised. -/
  | runtime
  /-- The parameter is nil. -/
  | nil
  deriving DecidableEq

/-- Runtime modules named directly. -/
inductive CoreModule where
  | internal
  | kernelOperations
  deriving DecidableEq

/-- A block or a lambda. -/
inductive ProcKind where
  | proc
  | lambda
  deriving DecidableEq

/-- The kinds of executable unit. -/
inductive UnitKind where
  | topLevel
  | method
  | proc
  | lambda
  | moduleBody
  deriving DecidableEq, Inhabited

/-- The parameter shape of a method, block or lambda. -/
structure Arity where
  required : Nat := 0
  optional : Nat := 0
  rest : Bool := false
  post : Nat := 0
  /-- Keyword names, required ones first. -/
  keywords : List String := []
  requiredKeywords : Nat := 0
  keywordRest : Bool := false
  block : Bool := false
  deriving DecidableEq, Inhabited

namespace Arity

/-- Positional arguments that must be passed. -/
def requiredPositional (a : Arity) : Nat :=
  a.required + a.post

/-- The arity number a method reports: the count of required arguments, required keywords
counting as one, or its one's complement when more may be passed. -/
def number (a : Arity) : Int :=
  let required : Int := a.requiredPositional + (if 0 < a.requiredKeywords then 1 else 0)
  if 0 < a.optional || a.rest ||
      ((a.requiredKeywords < a.keywords.length || a.keywordRest) && a.requiredKeywords == 0) then
    -(required + 1)
  else required

end Arity

/-- The description of an executable unit: everything but its body. -/
structure UnitHead where
  /-- The name a backtrace shows: `<main>`, `foo`, `block in foo`, `<class:Foo>`. -/
  name : String
  kind : UnitKind
  arity : Arity
  /-- The names of the unit's frame, in slot order. -/
  locals : List String
  /-- False for a `for` body, whose locals live in the enclosing frame. -/
  ownScope : Bool
  returnId : Option Nat
  breakId : Option Nat
  blockDepth : Nat
  lexicalScope : Nat
  /-- Some read or write reaches into an enclosing frame. -/
  needsDeclarationFrame : Bool
  deriving DecidableEq, Inhabited

/-- Constant values. -/
inductive Literal where
  | symbol (name : String)
  | frozenString (value : String)
  | bignum (value : Int)
  | regexp (source : String) (flags : RegexpFlags)
  | encoding (name : String)
  | objectClass
  | core (m : CoreModule)
  | lexicalScope (id : Nat)
  | notProvided
  deriving DecidableEq

/-- Which exceptions a rescue clause takes. -/
inductive RescueGuard (α : Type) where
  | any
  | classes (classes : List α)
  | splat (list : α)

/-- A rescue clause: its guard and its body. -/
structure RescueClause (α : Type) where
  guard : RescueGuard α
  body : α

/-- One layer of an operation tree, with children of type `α`. -/
inductive Form (α : Type) where
  | nil
  | boolean (value : Bool)
  | integer (value : Int)
  | long (value : Int)
  | float (value : Decimal.Binary64)
  | object (value : Literal)
  | string (value : String)
  | arrayLit (items : List α)
  | hashLit (pairs : List (α × α))
  | concatHash (parts : List α)
  | hashCast (child : α)
  | range (low high : α) (exclusive : Bool)
  | interpolated (parts : List α)
  | toS (child : α)
  | interpolatedRegexp (parts : List α) (flags : RegexpFlags)
  | toSymbol (child : α)
  | once (child : α)
  | splatCast (nilAs : SplatNil) (useToAry copy : Bool) (child : α)
  | arrayConcat (parts : List α)
  | arrayAppend (array value : α)
  | arrayDup (child : α)
  | arrayIndex (array : α) (index : Int)
  | arraySlice (array : α) (first last : Int)
  | arraySizeAtLeast (array : α) (size : Nat)
  | selfValue
  | readLocal (slot : Slot)
  | writeLocal (slot : Slot) (value : α)
  | readIvar (name : String)
  | writeIvar (name : String) (value : α)
  | readCvar (scope : α) (name : String)
  | writeCvar (scope : α) (name : String) (value : α)
  | readGlobal (name : String)
  | writeGlobal (name : String) (value : α)
  | aliasGlobal (newName oldName : String)
  | nthMatch (n : Nat)
  | readConst (module : α) (name : String)
  | readConstLexical (scope : Nat) (name : String)
  | readConstDynamic (name : String)
  | writeConst (module : α) (name : String) (value : α)
  | dynamicLexicalScope
  | lexicalScopeModule (scope : Nat)
  | dynamicLexicalScopeModule
  | flipFlop (low high : α) (exclusive : Bool) (state : Slot)
  | initFlipFlop (slot : Slot)
  | call (receiver : α) (name : String) (args : List α) (block : Option α) (flags : CallFlags)
  | superCall (args : List α) (block : Option α) (splatted implicit : Bool)
  | yieldCall (args : List α) (splatted : Bool) (block : α)
  | toProc (child : α)
  | primitive (name : String) (args : List α)
  | isNotProvided (child : α)
  | frameOnStack (marker : Slot) (child : α)
  | catchBreak (id : Nat) (isWhile : Bool) (body : α)
  | blockDef (kind : ProcKind) (head : UnitHead) (body : α) (breakId : Nat) (marker : Option Slot)
  | methodDef (definee : α) (head : UnitHead) (body : α)
  | runModuleBody (module : α) (head : UnitHead) (body : α)
  | defineClass (parent : α) (name : String) (superclass : Option α)
  | defineModule (parent : α) (name : String)
  | singletonClass (child : α)
  | defaultDefinee
  | raiseIfFrozen (child : α)
  | insideModule (child : α)
  | aliasMethod (module newName oldName : α)
  | undefMethod (module name : α)
  | seq (items : List α)
  | elidable (required value : α)
  | ifThen (condition thenBody : α)
  | ifElse (condition thenBody elseBody : α)
  | unlessThen (condition thenBody : α)
  | and (left right : α)
  | or (left right : α)
  | not (child : α)
  | isNil (child : α)
  | whileLoop (test : LoopTest) (condition body : α)
  | breakJump (id : Nat) (noMarker : Bool) (value : α)
  | nextJump (value : α)
  | redo
  | retry
  | returnJump (id : Nat) (isLocal : Bool) (value : α)
  | tryRescue (body : α) (rescues : List (RescueClause α)) (elseBody : Option α)
      (omitBacktrace : Bool)
  | exceptionTranslating (child : α)
  | ensure (body ensure : α)
  | catchReturn (id : Nat) (body : α)
  | catchNext (child : α)
  | defined (child : α)
  | definedAs (kind : DefinedAs) (child : α)
  | namedCaptures (matchCall readMatchData : α) (setters nilSetters : List α)
  | dead (what : String)
  | checkArity (arity : Arity)
  | preArg (index : Nat) (missing : MissingArg)
  | optionalArg (index minimum : Nat) (default : α)
  | restArgs (start post : Nat)
  | postArg (fromEnd pre optional : Nat)
  | keywordArg (name : String) (default : Option α)
  | keywordRest (excluded : List String)
  | blockArg (asProc : Bool)
  | singleBlockArg
  | shouldDestructure (required : Nat)

/-- The flags of an operation node. -/
structure OpFlags where
  /-- The node starts a source line. -/
  newline : Bool := false
  /-- The node's line was registered for coverage. -/
  coverage : Bool := false
  deriving DecidableEq, Inhabited

/-- An operation node: a form, an optional source span and flags. -/
inductive Op where
  | mk (form : Form Op) (span : Option Span) (flags : OpFlags)

/-- An executable unit: its description and its body. -/
structure ExecUnit where
  head : UnitHead
  body : Op

/-- The children of a rescue clause in order: its classes or list, then its body. -/
def RescueClause.children {α : Type} (c : RescueClause α) : List α :=
  (match c.guard with
    | .any => []
    | .classes cs => cs
    | .splat l => [l]) ++ [c.body]

/-- The children of a form in evaluation order. -/
def Form.children {α : Type} : Form α → List α
  | .arrayLit xs | .concatHash xs | .interpolated xs | .arrayConcat xs | .seq xs => xs
  | .interpolatedRegexp xs _ => xs
  | .hashLit ps => ps.flatMap fun p => [p.1, p.2]
  | .hashCast c | .toS c | .toSymbol c | .once c | .arrayDup c | .toProc c | .isNotProvided c
  | .singletonClass c | .raiseIfFrozen c | .insideModule c | .not c | .isNil c | .nextJump c
  | .exceptionTranslating c | .catchNext c | .defined c => [c]
  | .splatCast _ _ _ c | .frameOnStack _ c | .definedAs _ c => [c]
  | .range a b _ | .flipFlop a b _ _ => [a, b]
  | .arrayAppend a v => [a, v]
  | .arrayIndex a _ | .arraySlice a _ _ | .arraySizeAtLeast a _ => [a]
  | .writeLocal _ v | .writeIvar _ v | .writeGlobal _ v | .breakJump _ _ v
  | .returnJump _ _ v => [v]
  | .readCvar s _ => [s]
  | .writeCvar s _ v => [s, v]
  | .readConst m _ => [m]
  | .writeConst m _ v => [m, v]
  | .call r _ args b _ => r :: args ++ b.toList
  | .superCall args b _ _ => args ++ b.toList
  | .yieldCall args _ b => args ++ [b]
  | .primitive _ args => args
  | .catchBreak _ _ b | .catchReturn _ b => [b]
  | .blockDef _ _ b _ _ => [b]
  | .methodDef d _ b | .runModuleBody d _ b => [d, b]
  | .defineClass p _ s => p :: s.toList
  | .defineModule p _ => [p]
  | .aliasMethod m n o => [m, n, o]
  | .undefMethod m n => [m, n]
  | .elidable r v => [r, v]
  | .ifThen c t | .unlessThen c t => [c, t]
  | .ifElse c t e => [c, t, e]
  | .and a b | .or a b => [a, b]
  | .whileLoop _ c b => [c, b]
  | .tryRescue b rs e _ => b :: rs.flatMap RescueClause.children ++ e.toList
  | .ensure b e => [b, e]
  | .namedCaptures m r s n => m :: r :: s ++ n
  | .optionalArg _ _ d => [d]
  | .keywordArg _ d => d.toList
  | _ => []

theorem sizeOf_lt_of_mem_toList {α : Type} [SizeOf α] {c : α} {o : Option α}
    (h : c ∈ o.toList) : sizeOf c < sizeOf o := by
  cases o with
  | none => simp at h
  | some x => simp at h; subst h; simp

theorem sizeOf_lt_of_mem_pairs {α : Type} [SizeOf α] {c : α} {ps : List (α × α)}
    (h : c ∈ ps.flatMap fun p => [p.1, p.2]) : sizeOf c < sizeOf ps := by
  simp only [List.mem_flatMap, List.mem_cons, List.not_mem_nil, or_false] at h
  obtain ⟨⟨a, b⟩, hm, hc⟩ := h
  have := List.sizeOf_lt_of_mem hm
  simp only [Prod.mk.sizeOf_spec] at this
  rcases hc with rfl | rfl <;> omega

theorem sizeOf_lt_of_mem_rescues {α : Type} [SizeOf α] {c : α} {rs : List (RescueClause α)}
    (h : c ∈ rs.flatMap RescueClause.children) : sizeOf c < sizeOf rs := by
  simp only [List.mem_flatMap] at h
  obtain ⟨⟨g, b⟩, hm, hc⟩ := h
  have := List.sizeOf_lt_of_mem hm
  simp only [RescueClause.mk.sizeOf_spec] at this
  simp only [RescueClause.children, List.mem_append, List.mem_cons, List.not_mem_nil,
    or_false] at hc
  rcases hc with hc | rfl
  · cases g with
    | any => simp at hc
    | classes cs =>
      have := List.sizeOf_lt_of_mem hc
      simp only [RescueGuard.classes.sizeOf_spec] at *
      omega
    | splat l =>
      simp only [List.mem_cons, List.not_mem_nil, or_false] at hc
      subst hc
      simp only [RescueGuard.splat.sizeOf_spec] at *
      omega
  · omega

/-- Every child of a form is smaller than the form. -/
theorem Form.sizeOf_children_lt {α : Type} [SizeOf α] (f : Form α) :
    ∀ c ∈ f.children, sizeOf c < sizeOf f := by
  cases f <;> simp only [children, List.forall_mem_cons, List.forall_mem_append,
    List.not_mem_nil, false_imp_iff, implies_true, and_true] <;> simp only [Form.arrayLit.sizeOf_spec,
    Form.hashLit.sizeOf_spec, Form.concatHash.sizeOf_spec, Form.hashCast.sizeOf_spec,
    Form.range.sizeOf_spec, Form.interpolated.sizeOf_spec, Form.toS.sizeOf_spec,
    Form.interpolatedRegexp.sizeOf_spec, Form.toSymbol.sizeOf_spec, Form.once.sizeOf_spec,
    Form.splatCast.sizeOf_spec, Form.arrayConcat.sizeOf_spec, Form.arrayAppend.sizeOf_spec,
    Form.arrayDup.sizeOf_spec, Form.arrayIndex.sizeOf_spec, Form.arraySlice.sizeOf_spec,
    Form.arraySizeAtLeast.sizeOf_spec, Form.writeLocal.sizeOf_spec, Form.writeIvar.sizeOf_spec,
    Form.readCvar.sizeOf_spec, Form.writeCvar.sizeOf_spec, Form.writeGlobal.sizeOf_spec,
    Form.readConst.sizeOf_spec, Form.writeConst.sizeOf_spec, Form.flipFlop.sizeOf_spec,
    Form.call.sizeOf_spec, Form.superCall.sizeOf_spec, Form.yieldCall.sizeOf_spec,
    Form.toProc.sizeOf_spec, Form.primitive.sizeOf_spec, Form.isNotProvided.sizeOf_spec,
    Form.frameOnStack.sizeOf_spec, Form.catchBreak.sizeOf_spec, Form.blockDef.sizeOf_spec,
    Form.methodDef.sizeOf_spec, Form.runModuleBody.sizeOf_spec, Form.defineClass.sizeOf_spec,
    Form.defineModule.sizeOf_spec, Form.singletonClass.sizeOf_spec,
    Form.raiseIfFrozen.sizeOf_spec, Form.insideModule.sizeOf_spec,
    Form.aliasMethod.sizeOf_spec, Form.undefMethod.sizeOf_spec, Form.seq.sizeOf_spec,
    Form.elidable.sizeOf_spec, Form.ifThen.sizeOf_spec, Form.ifElse.sizeOf_spec,
    Form.unlessThen.sizeOf_spec, Form.and.sizeOf_spec, Form.or.sizeOf_spec,
    Form.not.sizeOf_spec, Form.isNil.sizeOf_spec, Form.whileLoop.sizeOf_spec,
    Form.breakJump.sizeOf_spec, Form.nextJump.sizeOf_spec, Form.returnJump.sizeOf_spec,
    Form.tryRescue.sizeOf_spec, Form.exceptionTranslating.sizeOf_spec, Form.ensure.sizeOf_spec,
    Form.catchReturn.sizeOf_spec, Form.catchNext.sizeOf_spec, Form.defined.sizeOf_spec,
    Form.definedAs.sizeOf_spec, Form.namedCaptures.sizeOf_spec, Form.optionalArg.sizeOf_spec,
    Form.keywordArg.sizeOf_spec]
  all_goals and_intros
  all_goals first
    | omega
    | (intro c hc; have := List.sizeOf_lt_of_mem hc; omega)
    | (intro c hc; have := sizeOf_lt_of_mem_toList hc; omega)
    | (intro c hc; have := sizeOf_lt_of_mem_pairs hc; omega)
    | (intro c hc; have := sizeOf_lt_of_mem_rescues hc; omega)

/-- A child of a form is smaller than the form. -/
theorem Form.sizeOf_lt_of_mem_children {α : Type} [SizeOf α] {f : Form α} {c : α}
    (h : c ∈ f.children) : sizeOf c < sizeOf f :=
  f.sizeOf_children_lt c h

namespace Op

/-- The form of a node. -/
def form : Op → Form Op
  | .mk f _ _ => f

/-- The span of a node, if it has one. -/
def span : Op → Option Span
  | .mk _ s _ => s

/-- The flags of a node. -/
def flags : Op → OpFlags
  | .mk _ _ fl => fl

/-- A node of the given form, with no span and no flags. -/
def ofForm (f : Form Op) : Op :=
  .mk f none {}

/-- The node with its span set to `s`. -/
def withSpan (o : Op) (s : Span) : Op :=
  .mk o.form (some s) o.flags

/-- The node with span `s` if it has none yet. -/
def ensureSpan (o : Op) (s : Span) : Op :=
  match o.span with
  | some _ => o
  | none => o.withSpan s

/-- The node flagged as a line start. -/
def markNewline (o : Op) : Op :=
  .mk o.form o.span { o.flags with newline := true }

/-- The node flagged as a registered coverage line. -/
def markCoverage (o : Op) : Op :=
  .mk o.form o.span { o.flags with coverage := true }

/-- `nil`. -/
def nil : Op := ofForm .nil

/-- `self`. -/
def selfValue : Op := ofForm .selfValue

/-- A constant value. -/
def object (l : Literal) : Op := ofForm (.object l)

/-- A symbol. -/
def symbol (name : String) : Op := object (.symbol name)

/-- A read of a local. -/
def readLocal (s : Slot) : Op := ofForm (.readLocal s)

/-- A write of a local. -/
def writeLocal (s : Slot) (v : Op) : Op := ofForm (.writeLocal s v)

/-- A call with the given flags and no block. -/
def call (receiver : Op) (name : String) (args : List Op) (flags : CallFlags := {}) : Op :=
  ofForm (.call receiver name args none flags)

/-- Negation. -/
def not (o : Op) : Op := ofForm (.not o)

/-- A two-way conditional. -/
def ifElse (c t e : Op) : Op := ofForm (.ifElse c t e)

end Op

end RubyLower
