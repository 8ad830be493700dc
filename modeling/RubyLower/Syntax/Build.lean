import RubyLower.Syntax.Node
import RubyLower.Heredoc.Start
import RubyLower.Text.Blank

/-!
# Building parse trees

A `Builder` makes parse nodes for programs that have no parser at hand. Every node it makes gets
a fresh one-byte span from a counter, so spans still tell nodes apart; the counter starts at an
offset past any real source the tree refers to, and a node whose span would start at the largest
offset cannot be made, since the counter cannot move past it.

Each constructor takes one span for its node, after those of the nodes it makes itself: a
nonempty argument list becomes an `Array` node first, a literal block and a multiple-assignment
pattern take their own span before the node's, rescue clauses are numbered from the last to the
first. `Builder.heredoc` scans a heredoc and builds the string node a parser would: a plain
`Str` at the body's span, or a `DStr` whose interpolations become method calls named by the
code and whose variables become reads of them. A heredoc whose body cannot start where it is
asked to stops the building, as the counter does (`BuildFault`).
-/

namespace RubyLower

/-- Why building a tree stops. -/
inductive BuildFault where
  /-- The counter would move past the largest offset. -/
  | overflow
  /-- A heredoc body cannot start where it is asked to. -/
  | heredocStart (f : Heredoc.StartFault)
  deriving DecidableEq, Inhabited

/-- Node construction numbering spans from a counter. The counter is an offset, so moving it
past the largest offset fails. -/
abbrev Builder := StateT Nat (Except BuildFault)

namespace Builder

/-- The next one-byte span; the counter moves to the offset after it. -/
def nextSpan : Builder Span := do
  let c ← get
  if c < Span.maxOffset then
    set (c + 1)
    return ⟨c, 1⟩
  else throw .overflow

theorem nextSpan_run {c : Nat} (h : c < Span.maxOffset) :
    nextSpan.run c = .ok (⟨c, 1⟩, c + 1) := by
  simp [nextSpan, h]
  rfl

/-- A node at a given span. -/
def nodeAt (s : Span) (k : Kind Node) : Node :=
  .mk s false k

/-- A node at the next span. -/
def node (k : Kind Node) : Builder Node := do
  return nodeAt (← nextSpan) k

/-- The node marked as starting a source line. -/
def newline (n : Node) : Node :=
  .mk n.span true n.kind

/-- The node marked as starting a source line and moved to `offset`, at least one byte long. -/
def newlineAt (offset : Nat) (n : Node) : Node :=
  .mk ⟨offset, max n.span.length 1⟩ true n.kind

/-! ## Literals -/

def fixnum (v : Int) : Builder Node := node (.fixnum v)
def bignum (digits : String) : Builder Node := node (.bignum digits)
def float (v : Decimal.Binary64) : Builder Node := node (.float v)
def str (v : String) : Builder Node := node (.str v false)
def dstr (parts : List Node) : Builder Node := node (.dstr parts)
def evstr (body : Node) : Builder Node := node (.evstr (some body))
def sym (name : String) : Builder Node := node (.symbol name)
def dsym (parts : List Node) : Builder Node := node (.dsymbol parts)
def regexp (source : String) (flags : RegexpFlags) : Builder Node := node (.regexp source flags)
def dregexp (parts : List Node) (flags : RegexpFlags) : Builder Node := node (.dregexp parts flags)
def trueLit : Builder Node := node .trueLit
def falseLit : Builder Node := node .falseLit
def nilLit : Builder Node := node .nilLit
def selfRef : Builder Node := node .selfRef

/-- An array literal; without elements, the empty-array node. -/
def array (elements : List Node) : Builder Node :=
  if elements.isEmpty then node .zeroArray else node (.array elements)

/-- A hash literal; a pair without key is a double splat. -/
def hash (pairs : List (Option Node × Node)) : Builder Node := node (.hash pairs)
def range (low high : Option Node) (exclusive : Bool) : Builder Node := node (.dot low high exclusive)
def flip (low high : Node) (exclusive : Bool) : Builder Node := node (.flip low high exclusive)

/-! ## Variables and constants -/

def lvar (name : String) : Builder Node := node (.localVar name 0)
def lasgn (name : String) (value : Node) : Builder Node := node (.localAsgn name 0 (some value))
/-- A local assignment without value: a target of a multiple assignment. -/
def lasgnTarget (name : String) : Builder Node := node (.localAsgn name 0 none)
def dvar (name : String) (depth : Nat) : Builder Node := node (.dvar name depth)
def dasgn (name : String) (depth : Nat) (value : Node) : Builder Node :=
  node (.dasgn name depth (some value))
def ivar (name : String) : Builder Node := node (.instVar name)
def iasgn (name : String) (value : Node) : Builder Node := node (.instAsgn name (some value))
def cvar (name : String) : Builder Node := node (.classVar name)
def cvasgn (name : String) (value : Node) : Builder Node := node (.classVarAsgn name (some value))
def gvar (name : String) : Builder Node := node (.globalVar name)
def gasgn (name : String) (value : Node) : Builder Node := node (.globalAsgn name (some value))
def const (name : String) : Builder Node := node (.const name)
def colon2 (left : Node) (name : String) : Builder Node := node (.colon2 left name)
def colon3 (name : String) : Builder Node := node (.colon3 name)
/-- A constant assignment in the current lexical scope. -/
def cdecl (name : String) (value : Node) : Builder Node :=
  node (.constDecl (.implicit name) (some value))
def nthRef (n : Nat) : Builder Node := node (.nthRef n)

/-! ## Calls -/

/-- The argument node of an argument list: none when empty, else an array of them. -/
def argsList (args : List Node) : Builder (Option Node) :=
  if args.isEmpty then pure none else some <$> array args

def call (receiver : Node) (name : String) (args : List Node) : Builder Node := do
  node (.call receiver name (← argsList args) none false)
/-- A call through safe navigation, `receiver&.name(args)`. -/
def safeCall (receiver : Node) (name : String) (args : List Node) : Builder Node := do
  node (.call receiver name (← argsList args) none true)
def callWithBlock (receiver : Node) (name : String) (args : List Node) (block : Node) :
    Builder Node := do
  node (.call receiver name (← argsList args) (some block) false)
def fcall (name : String) (args : List Node) : Builder Node := do
  node (.fcall name (← argsList args) none)
def fcallWithBlock (name : String) (args : List Node) (block : Node) : Builder Node := do
  node (.fcall name (← argsList args) (some block))
def vcall (name : String) : Builder Node := node (.vcall name)
/-- An attribute or element assignment; the name ends in `=`. -/
def attrAssign (receiver : Node) (name : String) (args : List Node) : Builder Node := do
  node (.attrAssign receiver name (← argsList args) false)
def superCall (args : List Node) : Builder Node := do
  node (.superCall (← argsList args) none)
def zsuper : Builder Node := node (.zsuper none)
def yieldCall (args : List Node) : Builder Node := do
  node (.yieldCall (← argsList args))
def blockPass (body : Node) : Builder Node := node (.blockPass body)

/-- A literal block, taking its own span. -/
def blockLit (params : Params Node) (body : Option Node) : Builder (BlockLit Node) := do
  return ⟨← nextSpan, params, body, []⟩

def iter (params : Params Node) (body : Option Node) : Builder Node := do
  node (.iter (← blockLit params body))
def lambda (params : Params Node) (body : Option Node) : Builder Node := do
  node (.lambda (← blockLit params body))
def splat (value : Node) : Builder Node := node (.splat value)
def argsCat (first second : Node) : Builder Node := node (.argsCat first second)
def argsPush (first second : Node) : Builder Node := node (.argsPush first second)
def star : Builder Node := node .star
def match2 (regexp value : Node) : Builder Node := node (.match2 regexp value)
def defined (expression : Node) : Builder Node := node (.defined expression)

/-! ## Structure and control flow -/

def block (statements : List Node) : Builder Node := node (.block statements)
def begin (body : Option Node) : Builder Node := node (.begin body)
def postExe (body : Option Node) : Builder Node := node (.postExe body)
def conditional (condition : Node) (thenBody elseBody : Option Node) : Builder Node :=
  node (.conditional condition thenBody elseBody)
def and (first second : Node) : Builder Node := node (.and first second)
def or (first second : Node) : Builder Node := node (.or first second)
def whileLoop (condition : Node) (body : Option Node) : Builder Node :=
  node (.whileLoop condition body true)
/-- `begin body end while condition`: the body runs before the first test. -/
def doWhile (condition : Node) (body : Option Node) : Builder Node :=
  node (.whileLoop condition body false)
def untilLoop (condition : Node) (body : Option Node) : Builder Node :=
  node (.untilLoop condition body true)
def forLoop (var iter : Node) (body : Option Node) : Builder Node := node (.forLoop var iter body)

/-- A `when` arm, taking its own span; `splat` for `when *list`. -/
def whenArm (pattern : Node) (body : Option Node) (splat : Bool) : Builder (WhenArm Node) := do
  return ⟨← nextSpan, pattern, body, splat⟩

def caseWhen (subject : Option Node) (whens : List (WhenArm Node)) (elseBody : Option Node) :
    Builder Node :=
  node (.caseWhen subject whens elseBody)
def breakJump (value : Option Node) : Builder Node := node (.breakJump value)
def nextJump (value : Option Node) : Builder Node := node (.nextJump value)
def redo : Builder Node := node .redo
def retry : Builder Node := node .retry
def returnJump (value : Option Node) : Builder Node := node (.returnJump value)

/-- Rescue clauses in source order, each an exception list and a body; spans are taken from
the last clause to the first. -/
def rescueArms (clauses : List (Option Node × Option Node)) : Builder (List (RescueArm Node)) :=
  clauses.reverse.foldlM (fun acc (exceptions, body) => do
    return ⟨← nextSpan, exceptions, body⟩ :: acc) []

def rescue (body : Option Node) (clauses : List (Option Node × Option Node))
    (elseBody : Option Node) : Builder Node := do
  node (.rescue body (← rescueArms clauses) elseBody)
def ensure (body ensure : Option Node) : Builder Node := node (.ensure body ensure)

/-! ## Assignment forms -/

/-- `pre, *rest, post = value`, the pattern taking its own span. -/
def masgn (pre : List Node) (rest : Option Node) (post : List Node) (value : Option Node) :
    Builder Node := do
  node (.multipleAsgn ⟨← nextSpan, pre, rest, post, value⟩)

/-- `name ||= value` for a local: a read, an assignment, then the node. -/
def localOrAsgn (name : String) (value : Node) : Builder Node := do
  let read ← lvar name
  let write ← lasgn name value
  node (.opAsgnOr read write)
def opAsgnOr (first second : Node) : Builder Node := node (.opAsgnOr first second)
def opAsgnAnd (first second : Node) : Builder Node := node (.opAsgnAnd first second)
/-- `receiver.attr operator= value`. -/
def opAsgn (receiver : Node) (attr operator : String) (value : Node) : Builder Node :=
  node (.opAsgn receiver attr operator value false)
/-- `receiver[args] operator= value`. -/
def opElementAsgn (receiver : Node) (args : List Node) (operator : String) (value : Node) :
    Builder Node := do
  node (.opElementAsgn receiver (← argsList args) operator value)

/-! ## Definitions -/

def argument (name : String) : Builder Node := node (.argument name)

/-- A parameter list of required positional names: their nodes, then the list's span. -/
def params (names : List String) : Builder (Params Node) := do
  let pre ← names.mapM argument
  return { span := ← nextSpan, pre }

/-- An optional parameter `name = default`. -/
def optional (name : String) (default : Node) : Builder Node := lasgn name default
def defn (name : String) (params : Params Node) (body : Option Node) : Builder Node :=
  node (.defn name params body)
def defs (receiver : Node) (name : String) (params : Params Node) (body : Option Node) :
    Builder Node :=
  node (.defs receiver name params body)
def classDef (name : String) (superclass body : Option Node) : Builder Node :=
  node (.classDef (.implicit name) superclass body)
def moduleDef (name : String) (body : Option Node) : Builder Node :=
  node (.moduleDef (.implicit name) body)
def sclass (receiver : Node) (body : Option Node) : Builder Node := node (.sclass receiver body)
def literal (name : String) : Builder Node := node (.literal name)

/-- `alias new old`: the two names, then the node. -/
def aliasMethod (newName oldName : String) : Builder Node := do
  let n ← literal newName
  let o ← literal oldName
  node (.alias n o)

/-- `undef name`: the name, then the node. -/
def undef (name : String) : Builder Node := do
  node (.undef (← literal name))

/-! ## Heredocs -/

/-- The node of one part of an interpolated heredoc body. -/
def heredocPart (source : String) : Heredoc.Part → Builder Node
  | .literal text => str text
  | .interpolation s => do
    let code ← vcall (Text.trimBlank (Text.sliceBytes source s.start s.stop))
    return nodeAt s (.evstr (some code))
  | .varRef s => do
    let name := Text.sliceBytes source s.start s.stop
    let read ←
      if name.startsWith "@@" then cvar name
      else if name.startsWith "@" then ivar name
      else gvar name
    return nodeAt s (.evstr (some read))

/-- The string node of a heredoc with the given opener, whose body starts at byte offset
`bodyStart` of the source. -/
def heredoc (opener source : String) (bodyStart : Nat) :
    ExceptT Heredoc.HeredocError Builder Node := do
  let t ← liftExcept (Heredoc.Terminator.ofOpener opener)
  let scanned ← match t.scanFrom source bodyStart with
    | .ok r => pure r
    | .error f => liftM (throw (.heredocStart f) : Builder _)
  let body ← liftExcept scanned
  match body.plain? with
  | some text =>
    return nodeAt body.span (if t.flags.command then .xstr text else .str text false)
  | none =>
    let parts ← liftM (body.parts.mapM (heredocPart source) : Builder (List Node))
    return nodeAt body.span (if t.flags.command then .dxstr parts else .dstr parts)
where
  liftExcept {α : Type} (x : Except Heredoc.HeredocError α) :
      ExceptT Heredoc.HeredocError Builder α :=
    ExceptT.mk (pure x)

end Builder

end RubyLower
