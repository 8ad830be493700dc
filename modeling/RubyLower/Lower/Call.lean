import RubyLower.Lower.Block

/-!
# Lowering calls

Calls with and without receiver, attribute assignments, `super`, `yield` and `END`. An argument
list is a list of values, or one array spread into the call when it holds a splat. A call with a
literal block runs with the block's frame marker set and catches the breaks of the block.

Two receivers are expanded in place: calls on the primitive module invoke a primitive (only in
core library sources), and some calls on the internal module have a form of their own. In core
library sources `undefined` stands for a parameter that was not passed.
-/

namespace RubyLower

/-- The module whose calls invoke primitives. -/
def primitiveModuleName : String := "GarnetPrimitive"

/-- The module some of whose calls the lowering expands in place. -/
def internalModuleName : String := "Garnet"

/-- Where the block of a call comes from. -/
inductive BlockArg where
  | absent
  /-- A literal block, a `&value` pass, or another expression. -/
  | node (n : Node)
  /-- A block the lowering makes itself. -/
  | synthetic (spec : BlockSpec)

/-- The block argument of an optional block node. -/
def BlockArg.ofIter : Option Node → BlockArg
  | some n => .node n
  | none => .absent

namespace Lower

/-- A call made with a literal block runs with the block's frame marker set, and catches the
breaks of the block. -/
def wrapLiteralBlock (call : Op) : Option (Nat × Slot) → Op
  | some (breakId, marker) =>
    Op.ofForm (.catchBreak breakId false (Op.ofForm (.frameOnStack marker call)))
  | none => call

/-- Lower a literal block with a fresh frame marker. -/
def literalBlock (r : Recur) (spec : BlockSpec) : Lower (Option Op × Option (Nat × Slot)) := do
  let marker ← temp "frame_on_stack_marker"
  let (definition, breakId) ← withMarker (some marker) (block r spec .proc)
  return (some definition, some (breakId, marker))

/-- The block value of a call, and for a literal block its break id and marker. -/
def blockArg (r : Recur) : BlockArg → Lower (Option Op × Option (Nat × Slot))
  | .absent => return (none, none)
  | .node n =>
    match n.kind with
    | .iter b => literalBlock r (BlockSpec.ofLiteral b)
    | .blockPass body => do
      return (some (← atSpan (Op.ofForm (.toProc (← r.expr body))) n.span), none)
    | _ => do return (some (← r.expr n), none)
  | .synthetic spec => literalBlock r spec

/-- A spread argument is passed without a copy. -/
def uncopied (o : Op) : Op :=
  match o with
  | .mk (.splatCast nilAs toAry _ c) s fl => .mk (.splatCast nilAs toAry false c) s fl
  | o => o

/-- The arguments of a call, and whether they are one array spread into it. -/
def arguments (r : Recur) (args : Option Node) (span : Span) : Lower (List Op × Bool) :=
  match args with
  | none => return ([], false)
  | some a =>
    match a.kind with
    | .array els => do return (← exprs r els, false)
    | .splat _ | .argsCat _ _ | .argsPush _ _ => do return ([uncopied (← r.expr a)], true)
    | other =>
      match span.join a.span with
      | .ok s => fail .argumentShape .unknownArgument [other.name] s
      | .error e => throw (.overflow e)

/-- Build a call; every call ignores visibility in private mode. -/
def finishCall (r : Recur) (receiver : Op) (name : String) (args : List Op) (splatted : Bool)
    (block : BlockArg) (flags : CallFlags) (span : Span) : Lower Op := do
  let flags := if splatted then { flags with splatted := true } else flags
  let flags := if (← modes).privately then { flags with ignoreVisibility := true } else flags
  let (value, literal) ← blockArg r block
  return wrapLiteralBlock (← atSpan (Op.ofForm (.call receiver name args value flags)) span) literal

/-- A call with its arguments still to lower. -/
def callNode (r : Recur) (receiver : Op) (name : String) (args : Option Node) (block : BlockArg)
    (flags : CallFlags) (span : Span) : Lower Op := do
  let (arguments, splatted) ← arguments r args span
  finishCall r receiver name arguments splatted block flags span

/-- The head of a chain of `ArgsCat` nodes, and the spread parts from the innermost out. -/
def catParts : Node → Node × List Node
  | .mk _ _ (.argsCat first second) =>
    let (head, seconds) := catParts first
    (head, seconds ++ [second])
  | n => (n, [])

/-- Walk a chain of `ArgsCat` nodes from the outside in, pushing each spread part onto the stack
`pending` (its top is its end): the head of the chain, and the stack with the innermost part on
top. -/
def catStack : Node → List Node → Node × List Node
  | .mk _ _ (.argsCat first second), pending => catStack first (pending ++ [second])
  | head, pending => (head, pending)

/-- `[*a, *b]`: the list part and the spread parts, concatenated. Nested concatenations are
flattened: their spread parts are stacked from the outside in and taken off the top. -/
def argsCat (r : Recur) (first second : Node) (span : Span) : Lower Op := do
  let (head, pending) := catStack first [second]
  let h ← r.expr head
  let spreads ← pending.reverse.mapM fun s => do
    return Op.ofForm (.splatCast .convert false true (← r.expr s))
  atSpan (Op.ofForm (.arrayConcat (h :: spreads))) span

/-- `[*a, b]`: a copy of the list with one element added. -/
def argsPush (r : Recur) (first second : Node) (span : Span) : Lower Op := do
  let a ← r.expr first
  let v ← r.expr second
  atSpan (Op.ofForm (.arrayAppend (Op.ofForm (.arrayDup a)) v)) span

/-- A primitive invocation; only core library sources may make one, without a splat. -/
def primitive (r : Recur) (name : String) (args : Option Node) (span : Span) : Lower Op := do
  if !(← source).isCore then fail .internalForm .onlyInCoreSources [primitiveModuleName] span
  else
    let (arguments, splatted) ← arguments r args span
    if splatted then fail .argumentShape .unknownArgument ["Splat"] span
    else atSpan (Op.ofForm (.primitive name arguments)) span

/-- A call on the internal module that has a form of its own, if it is one. -/
def internalCall (r : Recur) (name : String) (iter : Option Node) (span : Span) :
    Lower (Option Op) :=
  if name == "privately" then
    match iter.map Node.kind with
    | some (.iter b) => do
      return some (← withModes (fun m => { m with privately := true }) (exprOrNil r b.body span))
    | _ => fail .internalForm .expectsBlock [internalModuleName ++ ".privately"] span
  else if name == "single_block_arg" then
    return some (← atSpan (Op.ofForm .singleBlockArg) span)
  else if name == "check_frozen" then
    return some (← atSpan (Op.ofForm (.raiseIfFrozen Op.selfValue)) span)
  else return none

/-- `undefined.equal?(value)` in a core library source: whether a parameter was not passed. -/
def notProvidedTest (r : Recur) (args : Option Node) (span : Span) : Lower Op := do
  match args.map Node.kind with
  | some (.array [v]) => atSpan (Op.ofForm (.isNotProvided (← r.expr v))) span
  | k => fail .argumentShape .unknownArgument [(k.map Kind.name).getD "none"] span

/-- A call with an explicit receiver. -/
def call (r : Recur) (receiver : Node) (name : String) (args iter : Option Node) (lazy : Bool)
    (span : Span) : Lower Op := do
  let frozenLiteral :=
    if name == "freeze" && args.isNone && iter.isNone then
      match receiver.kind with
      | .str value _ => some value
      | _ => none
    else none
  match frozenLiteral with
  | some value =>
    atSpan (Op.ofForm (.definedAs .method (Op.object (.frozenString value)))) span
  | none =>
    let expanded ← match receiver.kind with
      | .const c =>
        if c == primitiveModuleName then some <$> primitive r name args span
        else if c == internalModuleName then internalCall r name iter span
        else pure none
      | .vcall "undefined" =>
        if name == "equal?" && (← source).isCore then some <$> notProvidedTest r args span
        else pure none
      | _ => pure none
    match expanded with
    | some op => return op
    | none =>
      let recv ← r.expr receiver
      callNode r recv name args (.ofIter iter) (if lazy then { safeNavigation := true } else {}) span

/-- A call on self without receiver; private methods may be called. -/
def fcall (r : Recur) (name : String) (args iter : Option Node) (span : Span) : Lower Op :=
  callNode r Op.selfValue name args (.ofIter iter) { ignoreVisibility := true } span

/-- A bare identifier that is no local: a call on self without arguments. In a core library
source `undefined` is the value of a parameter that was not passed. -/
def vcall (name : String) (span : Span) : Lower Op := do
  if name == "undefined" && (← source).isCore then
    atSpan (Op.object .notProvided) span
  else
    atSpan (Op.call Op.selfValue name [] { ignoreVisibility := true, vcall := true }) span

/-- The flags of an attribute assignment: private setters may be called on an explicit self. -/
def attrFlags (receiver : Node) (lazy : Bool) : CallFlags :=
  { attrAssign := true,
    ignoreVisibility := (match receiver.kind with
      | .selfRef => true
      | _ => false),
    safeNavigation := lazy }

/-- `receiver.name = value` and `receiver[index] = value`. -/
def attrAssign (r : Recur) (receiver : Node) (name : String) (args : Option Node) (lazy : Bool)
    (span : Span) : Lower Op := do
  let recv ← r.expr receiver
  callNode r recv name args .absent (attrFlags receiver lazy) span

/-- `super(args)`. -/
def superCall (r : Recur) (args iter : Option Node) (span : Span) : Lower Op := do
  let (arguments, splatted) ← arguments r args span
  let (value, literal) ← blockArg r (.ofIter iter)
  return wrapLiteralBlock (← atSpan (Op.ofForm (.superCall arguments value splatted false)) span)
    literal

/-- A read of the enclosing method's block, if there is a method. -/
def methodBlockRead : Lower (Option Op) := do
  return (← resolve (← frame) methodBlockName).map Op.readLocal

/-- A read of a parameter of the enclosing method. -/
def readParam (name : String) : Lower Op := do
  return Op.readLocal (← resolveOrDeclare name)

/-- The keyword arguments `super` without arguments passes on, if the method has keywords. -/
def forwardedKeywords (ps : MethodParams) : Lower (Option Op) := do
  if ps.keywords.isEmpty && ps.keywordRest.isNone then return none
  else
    let pairs ← ps.keywords.mapM fun n => do return (Op.symbol n, ← readParam n)
    let h := Op.ofForm (.hashLit pairs)
    match ps.keywordRest with
    | some kr => do
      let rest ← readParam kr
      return some (Op.ofForm (.concatHash [h, Op.ofForm (.hashCast rest)]))
    | none => return some h

/-- `super` without arguments passes on the enclosing method's parameters, and its block unless
given one; outside a method it passes nothing. -/
def zsuper (r : Recur) (iter : Option Node) (span : Span) : Lower Op := do
  let m := (← env).methodFrame (← frame)
  let ps := ((← frameData m).parameters).getD {}
  let leading ← (ps.pre ++ ps.optional).mapM readParam
  let post ← ps.post.mapM readParam
  let keywords ← forwardedKeywords ps
  let (arguments, splatted) ← match ps.rest with
    | some rest => do
      let restOp ← readParam rest
      let parts := [Op.ofForm (.arrayLit leading), Op.ofForm (.splatCast .convert false false restOp)]
        ++ (if post.isEmpty then [] else [Op.ofForm (.arrayLit post)])
        ++ (keywords.map fun k => Op.ofForm (.arrayLit [k])).toList
      pure ([Op.ofForm (.arrayConcat parts)], true)
    | none => pure (leading ++ post ++ keywords.toList, false)
  let (value, literal) ← match iter with
    | some _ => blockArg r (.ofIter iter)
    | none => do pure (← methodBlockRead, none)
  return wrapLiteralBlock (← atSpan (Op.ofForm (.superCall arguments value splatted true)) span)
    literal

/-- `yield`: a single argument that is no list is passed as it is. -/
def yieldCall (r : Recur) (args : Option Node) (span : Span) : Lower Op := do
  let (arguments, splatted) ← match args with
    | some single =>
      match single.kind with
      | .array _ | .splat _ | .argsCat _ _ | .argsPush _ _ => arguments r args span
      | _ => do pure ([← r.expr single], false)
    | none => arguments r args span
  let blk := (← methodBlockRead).getD Op.nil
  atSpan (Op.ofForm (.yieldCall arguments splatted blk)) span

/-- `END { body }` registers the body with `at_exit` of the kernel operations module. -/
def postExe (r : Recur) (body : Option Node) (span : Span) : Lower Op :=
  finishCall r (Op.object (.core .kernelOperations)) "at_exit" [Op.ofForm (.boolean true)] false
    (.synthetic { span, body }) { ignoreVisibility := true } span

end Lower

end RubyLower
