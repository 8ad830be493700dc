import RubyLower.Op.Basic

/-!
# Frames

A frame tracks the locals of one lexical body: the program, a method, a block, a lambda or a
module body. Its locals form a table in declaration order, a name's slot index being its position.
A block or lambda frame may assign locals of the frames around it; the others never do. A method
frame also records its parameters, which a zero-argument `super` forwards.
-/

namespace RubyLower

/-- The kinds of body a frame tracks. -/
inductive FrameKind where
  | topLevel
  | method
  | block
  | lambda
  | moduleBody
  deriving DecidableEq, Inhabited

namespace FrameKind

/-- The word of a frame kind, in snake case. -/
def word : FrameKind → String
  | .topLevel => "top_level"
  | .method => "method"
  | .block => "block"
  | .lambda => "lambda"
  | .moduleBody => "module_body"

/-- The frame kind of a word. -/
def ofWord? (w : String) : Option FrameKind :=
  [FrameKind.topLevel, .method, .block, .lambda, .moduleBody].find? (·.word == w)

end FrameKind

/-- The parameter names of a method, by position kind. -/
structure MethodParams where
  pre : List String := []
  optional : List String := []
  rest : Option String := none
  post : List String := []
  keywords : List String := []
  keywordRest : Option String := none
  block : Option String := none
  deriving DecidableEq, Inhabited

/-- The scope state of one lexical body. -/
structure Frame where
  id : Nat
  parent : Option Nat
  kind : FrameKind
  /-- Local names in slot order. -/
  locals : List String := []
  /-- False for a `for` body, whose locals belong to the enclosing frame. -/
  ownScope : Bool := true
  /-- Assignments declare here and never reach a parent's locals. -/
  neverAssignInParentScope : Bool
  breakId : Option Nat := none
  returnId : Option Nat := none
  flipFlopStates : List Slot := []
  blockDepth : Nat := 0
  methodName : Option String := none
  needsDeclarationFrame : Bool := false
  parameters : Option MethodParams := none
  deriving Inhabited

namespace Frame

/-- A fresh frame: its own scope, no locals; only block and lambda frames assign in parents. -/
def fresh (id : Nat) (parent : Option Nat) (kind : FrameKind) : Frame :=
  { id, parent, kind, neverAssignInParentScope := !(kind == .block || kind == .lambda) }

/-- A block or lambda frame. -/
def isBlock (f : Frame) : Bool :=
  f.kind == .block || f.kind == .lambda

/-- A module body frame. -/
def isModuleBody (f : Frame) : Bool :=
  f.kind == .moduleBody

/-- The slot index of a local of this frame. -/
def find (f : Frame) (name : String) : Option Nat :=
  f.locals.idxOf? name

/-- Declare a local: its existing index, or the next one. -/
def declare (f : Frame) (name : String) : Frame × Nat :=
  match f.find name with
  | some i => (f, i)
  | none => ({ f with locals := f.locals ++ [name] }, f.locals.length)

/-- How many locals the frame has. -/
def localCount (f : Frame) : Nat :=
  f.locals.length

end Frame

end RubyLower
