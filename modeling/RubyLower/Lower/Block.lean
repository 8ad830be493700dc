import RubyLower.Lower.Params

/-!
# Lowering blocks and lambdas

A block or lambda becomes a block definition holding an executable unit over a new frame one
block level deeper. A block shares the return id of its frame, so `return` in it leaves the
method; a lambda gets its own and catches its own `return` and `break`. Each gets a fresh break
id, which for a block the call site catches. A `for` body is a block without a scope of its own,
whose one parameter is assigned to the loop variable.

A unit's name in backtraces is `block in m`, or `block (N levels) in m` below the first level,
`m` being the method the block is in or `<main>`.
-/

namespace RubyLower

/-- The name a backtrace gives a block `depth` levels deep in method `m` (`<main>` outside any
method). -/
def blockName (depth : Nat) (m : Option String) : String :=
  let m := m.getD "<main>"
  if 1 < depth then s!"block ({depth} levels) in {m}" else s!"block in {m}"

/-- A block to lower: a literal one, or one made for `for` and `END`. -/
structure BlockSpec where
  span : Span
  params : Params Node := {}
  body : Option Node
  /-- Block-local names, declared first. -/
  locals : List String := []
  /-- The variable of a `for` loop, assigned from the block's one argument. -/
  forVar : Option Node := none

/-- The spec of a literal block. -/
def BlockSpec.ofLiteral (b : BlockLit Node) : BlockSpec :=
  { span := b.span, params := b.params, body := b.body, locals := b.locals }

namespace Lower

/-- The description of the unit over frame `id`. -/
def unitHead (id : Nat) (name : String) (kind : UnitKind) (arity : Arity) : Lower UnitHead := do
  let fr ← frameData id
  return { name, kind, arity, locals := fr.locals, ownScope := fr.ownScope,
           returnId := fr.returnId, breakId := fr.breakId, blockDepth := fr.blockDepth,
           lexicalScope := ← lexicalScope, needsDeclarationFrame := fr.needsDeclarationFrame }

/-- A unit body preceded by the set-up of the current frame's flip-flop states and by a
prelude. -/
def withPrelude (prelude : List Op) (body : Op) : Lower Op := do
  let states := (← frameData (← frame)).flipFlopStates
  if states.isEmpty && prelude.isEmpty then return body
  else return Op.sequence (states.map (fun s => Op.ofForm (.initFlipFlop s)) ++ prelude ++ [body])

/-- The one parameter of a `for` body: a temporary from the first argument, assigned to the
loop variable. -/
def forParameter (r : Recur) (var : Node) : Lower (Arity × List Op) := do
  let name ← onEnv (·.allocTempName "for")
  let t ← declare (← frame) name
  let assign ← r.target var (Op.readLocal t)
  return ({ required := 1 }, [Op.writeLocal t (Op.ofForm (.preArg 0 .nil)), assign])

/-- Lower a block or lambda into its definition, with the break id it uses. -/
def block (r : Recur) (spec : BlockSpec) (kind : ProcKind) : Lower (Op × Nat) := do
  let isLambda := kind == .lambda
  let ownScope := isLambda || !(← modes).forStatement
  let f ← frame
  let returnId ← if isLambda then some <$> allocReturn else pure (← frameData f).returnId
  let breakId ← allocBreak
  let bf ← onEnv (·.pushFrame (some f) (if isLambda then .lambda else .block))
  modifyFrame bf fun fr => { fr with ownScope, returnId, breakId := some breakId }
  for l in spec.locals do
    let _ ← declare bf l
  let marker ← if isLambda then pure none else currentMarker
  let unitKind : UnitKind := if isLambda then .lambda else .proc
  inFrame bf do
    let (arity, prelude) ← match spec.forVar with
      | some v => forParameter r v
      | none => parameters r spec.params unitKind
    let body ← exprOrNil r spec.body spec.span
    let body := Op.ofForm (.catchNext body)
    let body :=
      if isLambda then
        Op.ofForm (.catchBreak breakId false (Op.ofForm (.catchReturn (returnId.getD 0) body)))
      else body
    let body ← withPrelude prelude body
    let fr ← frameData bf
    let head ← unitHead bf (blockName fr.blockDepth fr.methodName) unitKind arity
    return (← atSpan (Op.ofForm (.blockDef kind head body breakId marker)) spec.span, breakId)

/-- A lambda: its own block definition, with no frame marker. -/
def lambda (r : Recur) (b : BlockLit Node) : Lower Op := do
  let (definition, _) ← withMarker none (block r (BlockSpec.ofLiteral b) .lambda)
  return definition

end Lower

end RubyLower
