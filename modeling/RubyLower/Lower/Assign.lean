import RubyLower.Lower.Call

/-!
# Lowering assignments

Locals, assignment targets, multiple assignment and operator assignment.

A multiple assignment with as many leading targets as the right side has literal values assigns
through temporaries, so `a, b = b, a` swaps. Otherwise the right side is made an array once, and
leading targets take elements from the front, a rest target the middle slice, and trailing targets
elements from the back when the array is long enough and from the front otherwise.

`recv.attr op= value` and `recv[args] op= value` evaluate the receiver and each index once into
temporaries; `a ||= b` guards the read of a target that may be undefined with `defined?`.
-/

namespace RubyLower

namespace Lower

/-- A read of a local; a name never declared is declared on first use. -/
def localRead (name : String) (span : Span) : Lower Op := do
  atSpan (Op.readLocal (← resolveOrDeclare name)) span

/-- A read from inside a block; an undeclared name is declared `depth` frames out. -/
def dvarRead (name : String) (depth : Nat) (span : Span) : Lower Op := do
  let f ← frame
  let slot ← match ← resolve f name with
    | some slot => pure slot
    | none => do
      let _ ← declare ((← env).ancestor f depth) name
      resolveOrDeclare name
  atSpan (Op.readLocal slot) span

/-- `name = value`. -/
def localAssignment (r : Recur) (name : String) (value : Option Node) (span : Span) : Lower Op := do
  let slot ← assignmentSlot name
  let v ← valueOrDead r value "local variable assignment"
  atSpan (Op.writeLocal slot v) span

/-- `defined?(target) && target`. -/
def guardDefined (target : Op) : Op :=
  Op.ofForm (.and (Op.ofForm (.defined target)) target)

/-- A node that `defined?` reports as an assignment. -/
def asAssignment (o : Op) : Op :=
  Op.ofForm (.definedAs .assignment o)

/-- `left && right` for the operator `&&`, `left || right` for `||`. -/
def logical (operator : String) (left right : Op) : Op :=
  if operator == "||" then Op.ofForm (.or left right) else Op.ofForm (.and left right)

/-- `recv.name(args..., value)` as an assignment target. -/
def assignAttribute (r : Recur) (receiver : Node) (name : String) (args : Option Node) (lazy : Bool)
    (value : Op) (span : Span) : Lower Op := do
  let recv ← r.expr receiver
  let (arguments, splatted) ← match args with
    | none => pure ([value], false)
    | some a =>
      match a.kind with
      | .array els => do pure ((← exprs r els) ++ [value], false)
      | .splat _ | .argsCat _ _ | .argsPush _ _ => do
        let list ← r.expr a
        pure ([Op.ofForm (.arrayAppend (Op.ofForm (.arrayDup list)) value)], true)
      | other => fail .argumentShape .unknownIndexArgument [other.name] span
  finishCall r recv name arguments splatted .absent (attrFlags receiver lazy) span

/-- The right side in temporaries, then each leading target from its temporary; the value is
the array of the temporaries. -/
def masgnParallel (r : Recur) (pre : List Node) (rhs : Op) : Lower Op := do
  match rhs.form with
  | .arrayLit values =>
    let temps ← values.mapM fun v => do return (← temp "multi", v)
    let assigns ← (pre.zip temps).mapM fun (t, (s, _)) => r.target t (Op.readLocal s)
    let writes := temps.map fun (s, v) => Op.writeLocal s v
    return Op.ofForm (.elidable (Op.sequence (writes ++ assigns))
      (Op.ofForm (.arrayLit (temps.map fun (s, _) => Op.readLocal s))))
  | _ => return rhs

/-- What splatting nil gives where a multiple assignment makes its right side an array. -/
def masgnNil : Lower SplatNil := do
  return if (← modes).nextExpression then .emptyArray else .arrayWithNil

/-- Assignment by position from the right side made an array. -/
def masgnIndexed (r : Recur) (pre : List Node) (rest : Option Node) (post : List Node) (rhs : Op)
    (useToAry : Bool) : Lower Op := do
  let rhsTemp ← temp "rhs"
  let arrayTemp ← temp "array"
  let nilAs ← masgnNil
  let load := Op.writeLocal arrayTemp
    (Op.ofForm (.splatCast nilAs useToAry false (Op.readLocal rhsTemp)))
  let preCount := pre.length
  let postCount := post.length
  let leading ← ((List.range preCount).zip pre).mapM fun (n, t) =>
    r.target t (arrayIndex arrayTemp n)
  let middle ← match rest with
    | some rn => do
      pure [← r.target rn (Op.ofForm (.arraySlice (Op.readLocal arrayTemp) preCount
        (-(postCount : Int))))]
    | none => pure []
  let trailing ← ((List.range postCount).zip post).mapM fun (n, t) =>
    r.target t (Op.ifElse
      (Op.ofForm (.arraySizeAtLeast (Op.readLocal arrayTemp) (preCount + postCount)))
      (arrayIndex arrayTemp (-((postCount - n : Nat) : Int)))
      (arrayIndex arrayTemp (preCount + n)))
  return Op.ofForm (.elidable
    (Op.sequence ([Op.writeLocal rhsTemp rhs, load] ++ leading ++ middle ++ trailing))
    (Op.readLocal rhsTemp))

/-- `*a = value` with a value that is no list literal. -/
def masgnRestOnly (r : Recur) (rest : Node) (rhs : Op) : Lower Op := do
  let dflt ← masgnNil
  let (rhs, nilAs) := match rhs.form with
    | .splatCast _ _ _ child =>
      match child.form with
      | .nil => (child, SplatNil.convert)
      | _ => (rhs, dflt)
    | _ => (rhs, dflt)
  let rhsTemp ← temp "rhs"
  let splatTemp ← temp "splat"
  let assign ← r.target rest (Op.readLocal splatTemp)
  let load := Op.writeLocal splatTemp (Op.ofForm (.splatCast nilAs true false (Op.readLocal rhsTemp)))
  let value := if nilAs == .convert then Op.readLocal splatTemp else Op.readLocal rhsTemp
  return Op.ofForm (.elidable (Op.sequence [Op.writeLocal rhsTemp rhs, load, assign]) value)

/-- Assign the lowered right side `rhs` to the targets of a pattern; `rhsIsList` says the right
side was a list literal. -/
def masgn (r : Recur) (m : MultiAsgn Node) (rhs : Op) (rhsIsList : Bool) : Lower Op := do
  let sameArity :=
    !m.pre.isEmpty && m.rest.isNone && m.post.isEmpty &&
      match rhs.form with
      | .arrayLit vs => vs.length == m.pre.length
      | _ => false
  let result ←
    if sameArity then masgnParallel r m.pre rhs
    else if !m.pre.isEmpty then masgnIndexed r m.pre m.rest m.post rhs true
    else if m.post.isEmpty then
      match m.rest with
      | some rn =>
        match rn.kind with
        | .star => pure rhs
        | _ => if rhsIsList then r.target rn rhs else masgnRestOnly r rn rhs
      | none => fail .unsupportedShape .unsupportedMultipleAssignment [] m.span
    else if m.rest.isSome then masgnIndexed r m.pre m.rest m.post rhs false
    else fail .unsupportedShape .unsupportedMultipleAssignment [] m.span
  atSpan (asAssignment result) m.span

/-- `pre, *rest, post = value`. -/
def multipleAssignment (r : Recur) (m : MultiAsgn Node) : Lower Op := do
  match m.value with
  | none => fail .unsupportedShape .unsupportedMultipleAssignment [] m.span
  | some v =>
    let isList := match v.kind with
      | .array _ => true
      | _ => false
    let rhs ← r.expr v
    masgn r m rhs isList

/-- Assign a lowered value to an assignment target: of a multiple assignment, of a `for` loop or
a destructured parameter. -/
def target (r : Recur) (t : Node) (value : Op) : Lower Op := do
  let span := t.span
  match t.kind with
  | .localAsgn name _ _ | .dasgn name _ _ =>
    atSpan (Op.writeLocal (← assignmentSlot name) value) span
  | .argument name => atSpan (Op.writeLocal (← declare (← frame) name) value) span
  | .instAsgn name _ => atSpan (Op.ofForm (.writeIvar name value)) span
  | .classVarAsgn name _ =>
    atSpan (Op.ofForm (.writeCvar (← classVarScope) name value)) span
  | .globalAsgn name _ => atSpan (Op.ofForm (.writeGlobal name value)) span
  | .constDecl path _ =>
    atSpan (Op.ofForm (.writeConst (← constPathModule r path) path.name value)) span
  | .attrAssign receiver name args lazy => assignAttribute r receiver name args lazy value span
  | .multipleAsgn m => masgn r m value false
  | .splat inner => r.target inner value
  | .star => return value
  | other => fail .unsupportedShape .cannotAssign [other.name] span

/-- `a &&= b`. -/
def opAsgnAnd (r : Recur) (first second : Node) (span : Span) : Lower Op := do
  let left ← r.expr first
  let right ← r.expr second
  atSpan (asAssignment (Op.ofForm (.and left right))) span

/-- `a ||= b`; a target that may be undefined, but for an instance variable, is read only if
`defined?` says it is. -/
def opAsgnOr (r : Recur) (first second : Node) (span : Span) : Lower Op := do
  let left ← r.expr first
  let right ← r.expr second
  let guarded :=
    first.needsDefinitionCheck && (match first.kind with
      | .instVar _ => false
      | _ => true)
  let left := if guarded then guardDefined left else left
  atSpan (asAssignment (Op.ofForm (.or left right))) span

/-- A constant read turned into a write of `value` to the same constant. -/
def constantWrite (read value : Op) (span : Span) : Lower Op :=
  match read.form with
  | .readConst m name => return Op.ofForm (.writeConst m name value)
  | .readConstLexical scope name =>
    return Op.ofForm (.writeConst (Op.ofForm (.lexicalScopeModule scope)) name value)
  | .readConstDynamic name =>
    return Op.ofForm (.writeConst (Op.ofForm .dynamicLexicalScopeModule) name value)
  | _ => fail .unsupportedShape .cannotAssign ["operator assignment target"] span

/-- `A::B op= value`. -/
def opAsgnConstDecl (r : Recur) (first : Node) (operator : String) (second : Node) (span : Span) :
    Lower Op := do
  let valueNode := match second.kind with
    | .constDecl _ (some v) => v
    | _ => second
  let left ← r.expr first
  let value ← r.expr valueNode
  if operator == "&&" then
    let write ← constantWrite left value span
    atSpan (asAssignment (Op.ofForm (.and left write))) span
  else if operator == "||" then
    let write ← constantWrite left value span
    atSpan (asAssignment (Op.ofForm (.or (guardDefined left) write))) span
  else
    let combined := Op.call left operator [value] privateCall
    atSpan (← constantWrite left combined span) span

/-- `recv.attr op= value`: the receiver goes to a temporary, read back for the getter and the
setter; with safe navigation nothing happens when it is nil. -/
def opAsgn (r : Recur) (receiver : Node) (attr operator : String) (value : Node) (lazy : Bool)
    (span : Span) : Lower Op := do
  let flags : CallFlags := match receiver.kind with
    | .selfRef => privateCall
    | _ => {}
  let recv ← r.expr receiver
  let v ← r.expr value
  let t ← temp "opassign"
  let setter := attr ++ "="
  let getter := Op.call (Op.readLocal t) attr [] flags
  let body :=
    if operator == "||" || operator == "&&" then
      asAssignment (logical operator getter
        (Op.call (Op.readLocal t) setter [v] { flags with attrAssign := true }))
    else
      Op.call (Op.readLocal t) setter [Op.call getter operator [v]] { flags with attrAssign := true }
  let body :=
    if lazy then Op.ofForm (.ifThen (Op.not (Op.ofForm (.isNil (Op.readLocal t)))) body) else body
  return (Op.sequence [Op.writeLocal t recv, body]).ensureSpan span

/-- `recv[args] op= value`: the receiver and each index are evaluated once, in order, before the
element is read. -/
def opElementAsgn (r : Recur) (receiver : Node) (args : Option Node) (operator : String)
    (value : Node) (span : Span) : Lower Op := do
  let recv ← r.expr receiver
  let recvTemp ← temp "opelementassign"
  let (indexValues, splatted) ← arguments r args span
  let indexTemps ← indexValues.mapM fun iv => do return (← temp "index", iv)
  let v ← r.expr value
  let indices := indexTemps.map fun (s, _) => Op.readLocal s
  let flags : CallFlags := { splatted }
  let getter := Op.call (Op.readLocal recvTemp) "[]" indices flags
  let setterArgs := fun (x : Op) =>
    if splatted then [Op.ofForm (.arrayAppend (Op.ofForm (.arrayDup (Op.sequence indices))) x)]
    else indices ++ [x]
  let body :=
    if operator == "||" || operator == "&&" then
      asAssignment (logical operator getter
        (Op.call (Op.readLocal recvTemp) "[]=" (setterArgs v) { flags with attrAssign := true }))
    else
      Op.call (Op.readLocal recvTemp) "[]=" (setterArgs (Op.call getter operator [v]))
        { flags with attrAssign := true }
  return (Op.sequence ([Op.writeLocal recvTemp recv] ++
    indexTemps.map (fun (s, iv) => Op.writeLocal s iv) ++ [body])).ensureSpan span

end Lower

end RubyLower
