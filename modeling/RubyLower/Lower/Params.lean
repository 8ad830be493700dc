import RubyLower.Lower.Monad

/-!
# Lowering parameter lists

A method, block or lambda starts with a prelude that moves the incoming arguments into the
slots of its parameters: leading, optional, rest and trailing positional parameters, then
keywords, the keyword rest and the block parameter. Methods and lambdas check their arity first;
a method also keeps its block in a hidden local, read by `yield` and by `super` without
arguments, and records its parameter names for that `super`.

A block with more than one positional parameter, a rest next to another positional one, or a
trailing comma spreads a single array argument over its parameters; its prelude chooses at run
time between reading the arguments and reading the array's elements.
-/

namespace RubyLower

/-- The local in which a method keeps its block. -/
def methodBlockName : String := "%method_block_arg"

namespace Lower

/-- The parameter shape of a list; the trailing comma of `|a,|` is no rest parameter. -/
def arityOf (p : Params Node) (keywords : List String) (requiredKeywords : Nat) : Arity :=
  { required := p.pre.length, optional := p.optional.length,
    rest := (match p.rest with
      | some .excessComma | none => false
      | some _ => true),
    post := p.post.length, keywords, requiredKeywords,
    keywordRest := p.keywordRest.isSome, block := p.block.isSome }

/-- Whether a block spreads a single array argument over its parameters: with a trailing comma,
with a rest and another positional parameter, or with two positional parameters or more. -/
def spreadsArray (p : Params Node) : Bool :=
  let positional := p.pre.length + p.post.length + p.optional.length
  match p.rest with
  | some .excessComma => true
  | some _ => decide (0 < positional)
  | none => decide (1 < positional)

/-- Where positional parameters take their values: the arguments of the call, or the elements
of an array in a local. -/
inductive ArgSource where
  | arguments
  | array (slot : Slot)

/-- The element of an array local at an index; a negative one counts from the end. -/
def arrayIndex (a : Slot) (i : Int) : Op :=
  Op.ofForm (.arrayIndex (Op.readLocal a) i)

/-- The slot of a rest parameter; an anonymous one gets a temporary so that `super` can still
pass it on. -/
def restSlot (rest : RestParam) (pfx : String) : Lower Slot := do
  match rest with
  | .named name => declare (← frame) name
  | .anonymous | .excessComma => temp pfx

/-- Bind a required parameter: a name, or a pattern destructured through a temporary. Gives the
name that `super` without arguments passes on, if any. -/
def bindParameter (r : Recur) (param : Node) (value : Op) : Lower (Op × Option String) := do
  match param.kind with
  | .argument name =>
    let slot ← declare (← frame) name
    return (← atSpan (Op.writeLocal slot value) param.span, some name)
  | .multipleAsgn _ =>
    let t ← temp "destructure"
    let destructure ← r.target param (Op.readLocal t)
    return (Op.sequence [Op.writeLocal t value, destructure], some t.name)
  | _ => return (← r.target param value, none)

/-- The binding of one leading parameter, at index `index`. -/
def preBinding (r : Recur) (missing : MissingArg) (src : ArgSource) (index : Nat) (param : Node) :
    Lower (Op × Option String) :=
  let value := match src with
    | .arguments => Op.ofForm (.preArg index missing)
    | .array a => arrayIndex a index
  bindParameter r param value

/-- The binding of one optional parameter, the `offset`-th of them. -/
def optionalBinding (r : Recur) (p : Params Node) (src : ArgSource) (offset : Nat) (param : Node) :
    Lower (Op × String) := do
  let (name, default?) ← match param.kind with
    | .localAsgn name _ v | .dasgn name _ v => pure (name, v)
    | other => fail .argumentShape .unknownArgument [other.name] param.span
  let default ← match default? with
    | some d => r.expr d
    | none => pure Op.nil
  let index := p.pre.length + offset
  let value := match src with
    | .arguments =>
      Op.ofForm (.optionalArg index (p.pre.length + p.post.length + offset + 1) default)
    | .array a =>
      Op.ifElse (Op.ofForm (.arraySizeAtLeast (Op.readLocal a) (index + 1))) (arrayIndex a index)
        default
  let slot ← declare (← frame) name
  return (← atSpan (Op.writeLocal slot value) param.span, name)

/-- The binding of one trailing parameter, the `n`-th of them. -/
def postBinding (r : Recur) (p : Params Node) (src : ArgSource) (n : Nat) (param : Node) :
    Lower (Op × Option String) :=
  let pre := p.pre.length
  let post := p.post.length
  let value := match src with
    | .arguments => Op.ofForm (.postArg (post - n) pre p.optional.length)
    | .array a =>
      Op.ifElse (Op.ofForm (.arraySizeAtLeast (Op.readLocal a) (pre + post)))
        (arrayIndex a (-((post - n : Nat) : Int))) (arrayIndex a (pre + n))
  bindParameter r param value

/-- The bindings of the positional parameters, and the parameter record with their names. -/
def positional (r : Recur) (p : Params Node) (kind : UnitKind) (src : ArgSource)
    (names : MethodParams) : Lower (List Op × MethodParams) := do
  let missing : MissingArg := if kind == .proc then .nil else .runtime
  let pres ← (List.range p.pre.length).zip p.pre |>.mapM fun (i, param) =>
    preBinding r missing src i param
  let optionals ← (List.range p.optional.length).zip p.optional |>.mapM fun (i, param) =>
    optionalBinding r p src i param
  let rest ← match p.rest with
    | none | some .excessComma => pure none
    | some rest => do
      let value := match src with
        | .arguments => Op.ofForm (.restArgs (p.pre.length + p.optional.length) p.post.length)
        | .array a =>
          Op.ofForm (.arraySlice (Op.readLocal a) (p.pre.length + p.optional.length)
            (-(p.post.length : Int)))
      let slot ← restSlot rest "rest"
      pure (some (Op.writeLocal slot value, slot.name))
  let posts ← (List.range p.post.length).zip p.post |>.mapM fun (i, param) =>
    postBinding r p src i param
  let names := { names with
    pre := names.pre ++ pres.filterMap Prod.snd
    optional := names.optional ++ optionals.map Prod.snd
    rest := (rest.map Prod.snd).or names.rest
    post := names.post ++ posts.filterMap Prod.snd }
  return (pres.map Prod.fst ++ optionals.map Prod.fst ++ (rest.map Prod.fst).toList ++
    posts.map Prod.fst, names)

/-- The binding of one keyword parameter; its default is lowered first. -/
def keywordBinding (r : Recur) (kw : String × Option Node) : Lower Op := do
  let default ← kw.2.mapM r.expr
  let slot ← declare (← frame) kw.1
  return Op.writeLocal slot (Op.ofForm (.keywordArg kw.1 default))

/-- The arity and the prelude of a parameter list for a unit of the given kind. -/
def parameters (r : Recur) (p : Params Node) (kind : UnitKind) : Lower (Arity × List Op) := do
  let required := (p.keywords.filter fun kw => kw.2.isNone).map Prod.fst
  let optional := (p.keywords.filter fun kw => kw.2.isSome).map Prod.fst
  let arity := arityOf p (required ++ optional) required.length
  let check := if kind == .proc then [] else [Op.ofForm (.checkArity arity)]
  let blockKeep ←
    if kind == .method then do
      let slot ← declare (← frame) methodBlockName
      pure [Op.writeLocal slot (Op.ofForm (.blockArg false))]
    else pure []
  let (positionals, names) ←
    if kind == .proc && spreadsArray p then do
      let (direct, names) ← positional r p kind .arguments {}
      let array ← temp "destructure"
      let load := Op.writeLocal array (Op.ofForm (.splatCast .arrayWithNil true false
        (Op.ofForm (.preArg 0 .nil))))
      let (spread, _) ← positional r p kind (.array array) {}
      pure ([Op.ifElse (Op.ofForm (.shouldDestructure arity.requiredPositional))
        (Op.sequence (load :: spread)) (Op.sequence direct)], names)
    else positional r p kind .arguments {}
  let keywords ← p.keywords.mapM (keywordBinding r)
  let names := { names with keywords := p.keywords.map Prod.fst }
  let (keywordRest, names) ← match p.keywordRest with
    | some rest => do
      let slot ← restSlot rest "kwrest"
      pure ([Op.writeLocal slot (Op.ofForm (.keywordRest (p.keywords.map Prod.fst)))],
        { names with keywordRest := some slot.name })
    | none => pure ([], names)
  let (blockParam, names) ← match p.block with
    | some b => do
      let slot ← declare (← frame) b
      pure ([Op.writeLocal slot (Op.ofForm (.blockArg true))], { names with block := some b })
    | none => pure ([], names)
  if kind == .method then
    modifyFrame (← frame) fun fr => { fr with parameters := some names }
  return (arity, check ++ blockKeep ++ positionals ++ keywords ++ keywordRest ++ blockParam)

end Lower

end RubyLower
