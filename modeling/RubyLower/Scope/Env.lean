import RubyLower.Scope.Frame

/-!
# The scope environment

Everything a translation tracks about scopes: the frames (each pointing to its parent by id,
frame 0 being the program's), the chain of lexical scopes for unqualified constants, whether
constant lookup is dynamic, and the counters for temporaries and exit ids, which are shared by
the whole unit so that no two are alike.

Walks up the frame tree take at most as many steps as there are frames.
-/

namespace RubyLower

/-- The scope state of a translation. -/
structure Env where
  frames : Array Frame := #[]
  /-- The parent of each lexical scope; scope 0, the top level, has none. -/
  lexicalParents : Array (Option Nat) := #[none]
  currentLexical : Nat := 0
  dynamicConstants : Bool := false
  nextTemp : Nat := 0
  nextReturn : Nat := 0
  nextBreak : Nat := 0
  deriving Inhabited

namespace Env

/-- The frame with the given id. -/
def frame (e : Env) (id : Nat) : Frame :=
  e.frames[id]?.getD default

/-- Change the frame with the given id. -/
def modifyFrame (e : Env) (id : Nat) (f : Frame → Frame) : Env :=
  { e with frames := e.frames.modify id f }

/-- Add a frame under `parent`; a block or lambda frame is one block level deeper than its
parent and inherits its method name. -/
def pushFrame (e : Env) (parent : Option Nat) (kind : FrameKind) : Env × Nat :=
  let id := e.frames.size
  let frame := Frame.fresh id parent kind
  let frame :=
    match parent with
    | some p =>
      if frame.isBlock then
        { frame with blockDepth := (e.frame p).blockDepth + 1, methodName := (e.frame p).methodName }
      else frame
    | none => frame
  ({ e with frames := e.frames.push frame }, id)

/-- A new return id. -/
def allocReturn (e : Env) : Env × Nat :=
  ({ e with nextReturn := e.nextReturn + 1 }, e.nextReturn)

/-- A new break id. -/
def allocBreak (e : Env) : Env × Nat :=
  ({ e with nextBreak := e.nextBreak + 1 }, e.nextBreak)

/-- A fresh environment: the program's frame 0, with return id 0. -/
def initial : Env :=
  let (e, root) := ({} : Env).pushFrame none .topLevel
  let (e, r) := e.allocReturn
  e.modifyFrame root fun f => { f with returnId := some r }

/-- Walk up `depth` parents from `id`, stopping at a frame without parent. -/
def ancestor (e : Env) : Nat → Nat → Nat
  | id, 0 => id
  | id, depth + 1 =>
    match (e.frame id).parent with
    | some p => e.ancestor p depth
    | none => id

/-- Walk up from `id` while `keepGoing` holds of the frame, at most `fuel` steps. -/
def climbWhile (e : Env) (keepGoing : Frame → Bool) : Nat → Nat → Nat
  | 0, id => id
  | fuel + 1, id =>
    if keepGoing (e.frame id) then
      match (e.frame id).parent with
      | some p => e.climbWhile keepGoing fuel p
      | none => id
    else id

/-- The nearest frame, from `id` outwards, that has its own scope. -/
def nearestOwnScope (e : Env) (id : Nat) : Nat :=
  e.climbWhile (fun f => !f.ownScope) e.frames.size id

/-- The nearest frame, from `id` outwards, that is not a block or lambda. -/
def methodFrame (e : Env) (id : Nat) : Nat :=
  e.climbWhile Frame.isBlock e.frames.size id

/-- Declare a local in a frame; its slot as seen from that frame. -/
def declareLocal (e : Env) (id : Nat) (name : String) : Env × Slot :=
  let (f, i) := (e.frame id).declare name
  (e.modifyFrame id (fun _ => f), ⟨name, i, 0⟩)

/-- The slot of a local of one frame, if it declares it. -/
def findLocalInFrame (e : Env) (id : Nat) (name : String) : Option Slot :=
  ((e.frame id).find name).map fun i => ⟨name, i, 0⟩

/-- Mark the frames from `id` up to, not including, `stop` as reaching into an enclosing
frame, at most `fuel` of them. -/
def markCrossed (e : Env) (stop : Nat) : Nat → Nat → Env
  | 0, _ => e
  | fuel + 1, id =>
    if id = stop then e
    else
      let e' := e.modifyFrame id fun f => { f with needsDeclarationFrame := true }
      match (e.frame id).parent with
      | some p => e'.markCrossed stop fuel p
      | none => e'

/-- Look for `name` from frame `cur` outwards through blocks and lambdas, stopping after the
first other frame; `depth` frames have been passed. -/
def resolveFrom (e : Env) (start : Nat) (name : String) : Nat → Nat → Nat → Env × Option Slot
  | 0, _, _ => (e, none)
  | fuel + 1, cur, depth =>
    match (e.frame cur).find name with
    | some i =>
      let e := if 0 < depth then e.markCrossed cur e.frames.size start else e
      (e, some ⟨name, i, depth⟩)
    | none =>
      if (e.frame cur).isBlock then
        match (e.frame cur).parent with
        | some p => e.resolveFrom start name fuel p (depth + 1)
        | none => (e, none)
      else (e, none)

/-- Resolve a local as seen from frame `id`: the nearest declaring frame through blocks and
lambdas. Every frame passed on the way is marked as reaching into an enclosing frame. -/
def resolveLocal (e : Env) (id : Nat) (name : String) : Env × Option Slot :=
  e.resolveFrom id name (e.frames.size + 1) id 0

/-- A new temporary name, `%prefix_n`, from the unit-wide counter. -/
def allocTempName (e : Env) (pfx : String) : Env × String :=
  ({ e with nextTemp := e.nextTemp + 1 }, s!"%{pfx}_{e.nextTemp}")

/-- A new temporary declared in a frame. -/
def allocTemp (e : Env) (id : Nat) (pfx : String) : Env × Slot :=
  let (e, name) := e.allocTempName pfx
  e.declareLocal id name

/-- A new flip-flop state temporary, recorded with its frame for initialisation. -/
def allocFlipFlop (e : Env) (id : Nat) : Env × Slot :=
  let (e, slot) := e.allocTemp id "flipflop"
  (e.modifyFrame id fun f => { f with flipFlopStates := f.flipFlopStates ++ [slot] }, slot)

/-- Enter a new lexical scope inside the current one; gives the scope to return to. -/
def pushLexical (e : Env) : Env × Nat :=
  let scope := e.lexicalParents.size
  ({ e with lexicalParents := e.lexicalParents.push (some e.currentLexical),
            currentLexical := scope }, e.currentLexical)

/-- Return to a lexical scope. -/
def popLexical (e : Env) (previous : Nat) : Env :=
  { e with currentLexical := previous }

/-- The enclosing lexical scope of a scope. -/
def lexicalParent (e : Env) (scope : Nat) : Option Nat :=
  (e.lexicalParents[scope]?).getD none

/-- Switch dynamic constant lookup; gives the previous setting. -/
def setDynamic (e : Env) (on : Bool) : Env × Bool :=
  ({ e with dynamicConstants := on }, e.dynamicConstants)

end Env

end RubyLower
