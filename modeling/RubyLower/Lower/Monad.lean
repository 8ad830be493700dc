import RubyLower.Scope.Env
import RubyLower.Syntax.Height
import RubyLower.Options
import RubyLower.Text.Lines
import RubyLower.Diagnostic.Fault
import RubyLower.Op.Walk
import RubyLower.Op.Sequence
import RubyLower.Syntax.Classify

/-!
# The lowering monad

Lowering a unit reads a fixed description of the source (its options, file name, line index and
whether it is a core library source) and the place in the tree: the frame whose locals the
current body uses, the modes of the body, and the frame markers of the literal blocks around it.
It threads the scope environment and the coverage lines registered so far, and stops at the first
fault.

The modes and markers belong to one body: a nested body starts with none (`Lower.inFrame`), and
a change made for part of a body (`Lower.withModes`, `Lower.withMarker`) ends with that part, so
no change can leak past its scope. Scope state that lives in the environment and is changed for
part of a body (a loop's break id, a module's lexical scope, dynamic constant lookup) is put back
by `Lower.restoring`, on the path where the part stops as on the one where it succeeds.

The translation of one node calls itself on smaller nodes through a `Recur` record, which lets
the rules for each kind of node live in their own module; `Lower.Dispatch` ties the knot with the
tree's height as fuel, so running out of fuel is an error of its own that a whole tree never hits.
-/

namespace RubyLower

/-- What a unit's lowering reads about its source. -/
structure SourceInfo where
  options : Options
  file : String
  lines : LineIndex
  isCore : Bool

/-- The description of a unit's source. -/
def SourceInfo.ofUnit (options : Options) (file source : String) : SourceInfo :=
  { options, file, lines := LineIndex.ofText source, isCore := options.isCoreSource file }

/-- The modes of the body being lowered. -/
structure Modes where
  /-- Inside the synthetic block of a `for` loop. -/
  forStatement : Bool := false
  /-- Lowering the value of `next`: splatting nil gives the empty array. -/
  nextExpression : Bool := false
  /-- Inside a `while` or `until` body: `break`, `next` and `redo` leave the loop. -/
  whileLoop : Bool := false
  /-- Every call ignores visibility. -/
  privately : Bool := false
  /-- Inside a rescue clause: `retry` is allowed. -/
  inRescue : Bool := false
  deriving DecidableEq, Inhabited

/-- Where in the tree the lowering is. -/
structure Place where
  source : SourceInfo
  frame : Nat
  modes : Modes := {}
  /-- Frame markers of the literal blocks around, innermost first; none where no marker applies
  (lambdas and loop bodies). -/
  markers : List (Option Slot) := []

/-- The coverage lines with `line` registered: added at the end unless it is already there. -/
def addCoverageLine (lines : Array Nat) (line : Nat) : Array Nat :=
  if lines.contains line then lines else lines.push line

/-- What the lowering threads: the scope environment and the coverage lines registered, in
first-registration order. -/
structure Progress where
  env : Env
  coverage : Array Nat := #[]
  deriving Inhabited

/-- Why a lowering stops. -/
inductive LowerError where
  /-- A fault of the program being lowered. -/
  | fault (f : Fault)
  /-- The stop of a span past the largest offset was computed. -/
  | overflow (e : OffsetOverflow)
  /-- The recursion ran out of fuel; the fuel given for a whole tree always suffices. -/
  | exhausted
  /-- A node that carries span `old` was given span `new`: a span is given to a node once. -/
  | spanTwice (old new : Span)

/-- Lowering: reads the place, threads the progress, stops at the first error. -/
abbrev Lower := ReaderT Place (ExceptT LowerError (StateM Progress))

/-- The recursive calls a lowering rule may make: lower an expression, and assign a value to an
assignment target. Both are only called on nodes smaller than the rule's own. -/
structure Recur where
  expr : Node → Lower Op
  target : Node → Op → Lower Op

namespace Lower

/-- Calls to methods the lowering introduces ignore visibility. -/
def privateCall : CallFlags := { ignoreVisibility := true }

/-- Stop with a fault. -/
def fail {α : Type} (kind : FaultKind) (message : Message) (args : List String) (span : Span) :
    Lower α :=
  throw (.fault { kind, message, args, span })

/-- Give a node the span of its source. A node gets its span once: giving a node that has one a
different span stops the lowering, as the translator's debug check does. -/
def atSpan (o : Op) (span : Span) : Lower Op :=
  match o.span with
  | none => pure (o.withSpan span)
  | some old => if old = span then pure (o.withSpan span) else throw (.spanTwice old span)

/-- The fault for a node that has no rule in expression position. -/
def unsupportedNode {α : Type} (n : Node) : Lower α :=
  fail .unsupportedShape .unsupportedNode [n.kind.name] n.span

/-- The source description. -/
def source : Lower SourceInfo := return (← read).source

/-- The options of the unit. -/
def options : Lower Options := return (← read).source.options

/-- The frame of the body being lowered. -/
def frame : Lower Nat := return (← read).frame

/-- The modes of the body being lowered. -/
def modes : Lower Modes := return (← read).modes

/-- Run a part with the modes changed. -/
def withModes {α : Type} (f : Modes → Modes) (x : Lower α) : Lower α :=
  withReader (fun p => { p with modes := f p.modes }) x

/-- Run a part with a marker pushed. -/
def withMarker {α : Type} (m : Option Slot) (x : Lower α) : Lower α :=
  withReader (fun p => { p with markers := m :: p.markers }) x

/-- The marker of the innermost literal block, if one applies. -/
def currentMarker : Lower (Option Slot) :=
  return ((← read).markers.head?).bind id

/-- Lower a nested body over `frame`, with no modes and no markers. -/
def inFrame {α : Type} (frame : Nat) (x : Lower α) : Lower α :=
  withReader (fun p => { p with frame, modes := {}, markers := [] }) x

/-- Run `x`, then `restore`, whether `x` gave a result or stopped; a stop goes on after the
restore. -/
def restoring {α : Type} (restore : Lower Unit) (x : Lower α) : Lower α := do
  let result ← observing x
  restore
  liftExcept result

/-! ## The scope environment -/

/-- Run an operation of the environment. -/
def onEnv {α : Type} (f : Env → Env × α) : Lower α :=
  modifyGet fun s => let (e, a) := f s.env; (a, { s with env := e })

/-- Read the environment. -/
def env : Lower Env := return (← get).env

/-- Change the environment. -/
def modifyEnv (f : Env → Env) : Lower Unit :=
  modify fun s => { s with env := f s.env }

/-- A frame of the environment. -/
def frameData (id : Nat) : Lower Frame := return (← env).frame id

/-- Change a frame of the environment. -/
def modifyFrame (id : Nat) (f : Frame → Frame) : Lower Unit :=
  modifyEnv fun e => e.modifyFrame id f

/-- Declare a local in a frame. -/
def declare (id : Nat) (name : String) : Lower Slot := onEnv (·.declareLocal id name)

/-- Resolve a local from a frame outwards. -/
def resolve (id : Nat) (name : String) : Lower (Option Slot) := onEnv (·.resolveLocal id name)

/-- A new temporary declared in the current frame. -/
def temp (pfx : String) : Lower Slot := do
  let f ← frame
  onEnv (·.allocTemp f pfx)

/-- A new return id. -/
def allocReturn : Lower Nat := onEnv Env.allocReturn

/-- A new break id. -/
def allocBreak : Lower Nat := onEnv Env.allocBreak

/-- Whether constant lookup is dynamic. -/
def isDynamic : Lower Bool := return (← env).dynamicConstants

/-- The current lexical scope. -/
def lexicalScope : Lower Nat := return (← env).currentLexical

/-! ## Locals -/

/-- The slot of `name` seen from the current frame, declared here if no visible frame has it. -/
def resolveOrDeclare (name : String) : Lower Slot := do
  let f ← frame
  match ← resolve f name with
  | some slot => return slot
  | none => declare f name

/-- The slot an assignment to `name` writes. A frame that never assigns in a parent declares it
itself; otherwise a visible local wins, and a new one goes to the nearest frame with a scope of
its own. -/
def assignmentSlot (name : String) : Lower Slot := do
  let f ← frame
  if (← frameData f).neverAssignInParentScope then declare f name
  else
    match ← resolve f name with
    | some slot => return slot
    | none =>
      let e ← env
      let _ ← declare (e.nearestOwnScope f) name
      match ← resolve f name with
      | some slot => return slot
      | none => declare f name

/-! ## Line starts and coverage -/

/-- Register a line for coverage; a line registered before keeps its place. -/
def registerLine (line : Nat) : Lower Unit :=
  modify fun s => { s with coverage := addCoverageLine s.coverage line }

/-- Flag a node as a line start; with coverage on, also register the line of `lineSpan`. -/
def markLineStart (o : Op) (lineSpan : Span) : Lower Op := do
  let o := o.markNewline
  if (← options).coverage then
    registerLine ((← source).lines.lineOf lineSpan.start)
    return o.markCoverage
  else return o

/-- Flag the lowering of a node as a line start when the node is one, at the span the lowering
covers; a lowering that covers no span is left as it is. -/
def addNewline (n : Node) (o : Op) : Lower Op :=
  if n.newline then
    match o.encapsulatingSpan with
    | .ok (some s) => markLineStart o s
    | .ok none => return o
    | .error e => throw (.overflow e)
  else return o

/-! ## Constants and class variables -/

/-- A read of an unqualified constant: through the lexical scope, or dynamic. -/
def readConst (name : String) (span : Span) : Lower Op := do
  if ← isDynamic then atSpan (Op.ofForm (.readConstDynamic name)) span
  else atSpan (Op.ofForm (.readConstLexical (← lexicalScope) name)) span

/-- The module a constant path defines in: the current lexical scope's (or the dynamic one's),
the value of the left side, or `Object` for a top-level path. -/
def constPathModule (r : Recur) : ConstPath Node → Lower Op
  | .implicit _ => do
    if ← isDynamic then return Op.ofForm .dynamicLexicalScopeModule
    else return Op.ofForm (.lexicalScopeModule (← lexicalScope))
  | .scoped left _ => r.expr left
  | .topLevel _ => return Op.object .objectClass

/-- The lexical scope a class variable resolves against. -/
def classVarScope : Lower Op := do
  if ← isDynamic then return Op.ofForm .dynamicLexicalScope
  else return Op.object (.lexicalScope (← lexicalScope))

/-! ## Expressions -/

/-- Lower a node, or give nil at `span` when there is none. -/
def exprOrNil (r : Recur) (n : Option Node) (span : Span) : Lower Op :=
  match n with
  | some n => r.expr n
  | none => atSpan Op.nil span

/-- Lower the nodes of a list in order. -/
def exprs (r : Recur) (ns : List Node) : Lower (List Op) :=
  ns.mapM r.expr

/-- The value of an assignment; only targets of a multiple assignment have none, and those never
evaluate it. -/
def valueOrDead (r : Recur) (value : Option Node) (what : String) : Lower Op :=
  match value with
  | some v => r.expr v
  | none => return Op.ofForm (.dead what)

end Lower

end RubyLower
