import RubyLower.Lower.Block

/-!
# Lowering definitions

Methods, singleton methods, classes, modules and singleton classes, `alias` and `undef`.

A method is an executable unit over a new frame with a return id of its own, defined on the
default definee (for `def self.m`, on the singleton class of the receiver). A class or module
body is a unit run with the module as self, in a new lexical scope. Opening the singleton class
of anything but `self` in a module body, or of an expression outside the top level, makes
constant lookup dynamic for the body.
-/

namespace RubyLower

namespace Lower

/-- The module a `def` defines in, refused when frozen. -/
def defaultDefinee : Op :=
  Op.ofForm (.raiseIfFrozen (Op.ofForm .defaultDefinee))

/-- A method definition on `definee`. -/
def method (r : Recur) (definee : Op) (name : String) (params : Params Node) (body : Option Node)
    (span : Span) : Lower Op := do
  let returnId ← allocReturn
  let mf ← onEnv (·.pushFrame (some (← frame)) .method)
  modifyFrame mf fun fr => { fr with returnId := some returnId, methodName := some name }
  inFrame mf do
    let (arity, prelude) ← parameters r params .method
    let b ← exprOrNil r body span
    let b ← withPrelude prelude (Op.ofForm (.catchReturn returnId b))
    let head ← unitHead mf name .method arity
    atSpan (Op.ofForm (.methodDef definee head b)) span

/-- `def name`. -/
def defn (r : Recur) (name : String) (params : Params Node) (body : Option Node) (span : Span) :
    Lower Op :=
  method r defaultDefinee name params body span

/-- `def receiver.name`. -/
def defs (r : Recur) (receiver : Node) (name : String) (params : Params Node) (body : Option Node)
    (span : Span) : Lower Op := do
  let obj ← r.expr receiver
  method r (← atSpan (Op.ofForm (.singletonClass obj)) span) name params body span

/-- The unit of a module body run with `definee` as self. A singleton class body shares the
return id of its frame. -/
def moduleBody (r : Recur) (definee : Op) (name : String) (body : Option Node) (span : Span)
    (singleton : Bool) : Lower Op := do
  let f ← frame
  let returnId ← if singleton then pure (← frameData f).returnId else some <$> allocReturn
  let mf ← onEnv (·.pushFrame (some f) .moduleBody)
  modifyFrame mf fun fr => { fr with returnId, methodName := some name }
  inFrame mf do
    let b ← exprOrNil r body span
    let b ← withPrelude [] (← atSpan (Op.ofForm (.insideModule b)) span)
    let head ← unitHead mf name .moduleBody {}
    atSpan (Op.ofForm (.runModuleBody definee head b)) span

/-- A module body in a new lexical scope, left again afterwards, also when the body stops. -/
def openModule (r : Recur) (definee : Op) (name : String) (body : Option Node) (span : Span)
    (singleton : Bool) : Lower Op := do
  let previous ← onEnv Env.pushLexical
  restoring (modifyEnv (·.popLexical previous)) (moduleBody r definee name body span singleton)

/-- `class path < superclass; body; end`. -/
def classDef (r : Recur) (path : ConstPath Node) (superclass body : Option Node) (span : Span) :
    Lower Op := do
  let parent ← constPathModule r path
  let sup ← superclass.mapM r.expr
  openModule r (Op.ofForm (.defineClass parent path.name sup)) ("<class:" ++ path.name ++ ">")
    body span false

/-- `module path; body; end`. -/
def moduleDef (r : Recur) (path : ConstPath Node) (body : Option Node) (span : Span) : Lower Op := do
  let parent ← constPathModule r path
  openModule r (Op.ofForm (.defineModule parent path.name)) ("<module:" ++ path.name ++ ">")
    body span false

/-- `class << receiver; body; end`; the lookup mode is put back afterwards, also when the body
stops. -/
def sclass (r : Recur) (receiver : Node) (body : Option Node) (span : Span) : Lower Op := do
  let obj ← r.expr receiver
  let definee ← atSpan (Op.ofForm (.singletonClass obj)) span
  let wasDynamic ← isDynamic
  if !wasDynamic then
    let fr ← frameData (← frame)
    let ofSelf := match receiver.kind with
      | .selfRef => true
      | _ => false
    let staysStatic := (fr.isModuleBody && ofSelf) || fr.kind == .topLevel
    if !staysStatic then
      let _ ← onEnv (·.setDynamic true)
  restoring (do let _ ← onEnv (·.setDynamic wasDynamic))
    (openModule r definee "singleton class" body span true)

/-- A method name of `alias` or `undef` as a symbol. -/
def methodNameSymbol (r : Recur) (n : Node) : Lower Op :=
  match n.kind with
  | .literal name => atSpan (Op.symbol name) n.span
  | .symbol _ | .dsymbol _ => r.expr n
  | other => fail .unsupportedShape .unsupportedMethodName [other.name] n.span

/-- `alias new old`; the old name is lowered first. -/
def aliasMethod (r : Recur) (newName oldName : Node) (span : Span) : Lower Op := do
  let o ← methodNameSymbol r oldName
  let n ← methodNameSymbol r newName
  atSpan (Op.ofForm (.aliasMethod defaultDefinee n o)) span

/-- `undef name`. -/
def undef (r : Recur) (name : Node) (span : Span) : Lower Op := do
  let n ← methodNameSymbol r name
  atSpan (Op.ofForm (.undefMethod defaultDefinee n)) span

end Lower

end RubyLower
