import RubyLower.Syntax.Node

/-!
# Classifying parse nodes

Questions the lowering asks of a node before translating it: whether evaluating it can have no
effect (a conservative answer: only literals and plain variable reads), whether reading it may
raise because its target is undefined, whether it reads a given global, and whether a parameter
list is empty.
-/

namespace RubyLower

namespace Node

/-- Evaluation can neither raise nor change state: number, string, symbol and regexp literals,
`true`, `false`, `nil`, `self`, `[]`, encodings and reads of locals, instance variables and
globals. Many other effect-free forms are not listed. -/
def isSideEffectFree (n : Node) : Bool :=
  match n.kind with
  | .fixnum _ | .bignum _ | .float _ | .str _ _ | .symbol _ | .regexp _ _ | .trueLit
  | .falseLit | .nilLit | .selfRef | .zeroArray | .localVar _ _ | .dvar _ _ | .instVar _
  | .globalVar _ | .encoding _ => true
  | _ => false

/-- Reading the node may raise because its target is undefined, so `||=` guards the read with
`defined?`: everything but local and instance variable reads, `self`, `nil`, `true`, `false`,
fixnums, floats, strings and symbols. -/
def needsDefinitionCheck (n : Node) : Bool :=
  match n.kind with
  | .localVar _ _ | .dvar _ _ | .instVar _ | .selfRef | .nilLit | .trueLit | .falseLit
  | .fixnum _ | .float _ | .str _ _ | .symbol _ => false
  | _ => true

/-- The node reads the global variable `name`. -/
def isGlobalRead (n : Node) (name : String) : Bool :=
  match n.kind with
  | .globalVar g => g == name
  | _ => false

end Node

/-- A parameter list with no parameter of any sort. -/
def Params.isEmpty {α : Type} (p : Params α) : Bool :=
  p.pre.isEmpty && p.optional.isEmpty && p.rest.isNone && p.post.isEmpty &&
    p.keywords.isEmpty && p.keywordRest.isNone && p.block.isNone

end RubyLower
