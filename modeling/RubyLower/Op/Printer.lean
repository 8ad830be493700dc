import RubyLower.Op.Walk
import RubyLower.Text.Quoted
import RubyLower.Decimal.Notation

/-!
# Printing operation trees

A tree is printed as an S-expression: a node is `(label` followed by each child on a line of its
own, one indentation deeper, and `)`. The label names the form and its scalar fields; with the
style's switches on it also shows the flags, ` [nl]` and ` [cov]`, and the span, ` @start..stop`.
A unit prints as `(unit "name" kind arity=…` with its locals and exits, and its body as child.
Definitions print their definee and then their unit; a `try` prints its body, one `(rescue …)`
child per clause and an `(else …)` child. Every node below a unit is printed, so with spans shown
`ExecUnit.render` fails when one of their stops is past the largest offset.
-/

namespace RubyLower

/-- How a tree is printed: the indentation of one level, and whether spans and flags show. -/
structure PrintStyle where
  indent : String := "  "
  showSpans : Bool := false
  showFlags : Bool := false

/-- The notation of floats in a dump: positional for leading-digit exponents from -4 to 15,
integral values with `.0`, otherwise `e` and the exponent. -/
def dumpFloat : Decimal.Notation :=
  { plainFrom := -4, plainBelow := 16, pointZero := true, expMark := "e",
    notANumber := "NaN", infinity := "inf" }

namespace Slot

/-- `name@index`, with `^depth` when the slot is in an enclosing frame. -/
def text (s : Slot) : String :=
  if 0 < s.depth then s!"{s.name}@{s.index}^{s.depth}" else s!"{s.name}@{s.index}"

end Slot

/-- The word for a unit kind. -/
def UnitKind.word : UnitKind → String
  | .topLevel => "top-level"
  | .method => "method"
  | .proc => "proc"
  | .lambda => "lambda"
  | .moduleBody => "module-body"

/-- The arity number, then `,opt=`, `,post=`, `,kw=names/required`, `,kwrest` and `,block`
where they apply. -/
def Arity.text (a : Arity) : String :=
  toString a.number ++
    (if 0 < a.optional then s!",opt={a.optional}" else "") ++
    (if 0 < a.post then s!",post={a.post}" else "") ++
    (if a.keywords.isEmpty then "" else ",kw=" ++ "|".intercalate a.keywords ++ s!"/{a.requiredKeywords}") ++
    (if a.keywordRest then ",kwrest" else "") ++
    (if a.block then ",block" else "")

/-- The header of a unit. -/
def UnitHead.text (h : UnitHead) : String :=
  s!"unit {Text.quote h.name} {h.kind.word} arity={h.arity.text}" ++
    " locals=[" ++ " ".intercalate h.locals ++ "]" ++
    (if h.ownScope then "" else " shared-scope") ++
    (match h.returnId with | some r => s!" return#{r}" | none => "") ++
    (match h.breakId with | some b => s!" break#{b}" | none => "") ++
    (if 0 < h.blockDepth then s!" depth={h.blockDepth}" else "") ++
    (if h.needsDeclarationFrame then " declaration-frame" else "")

/-- The name of a core module. -/
def CoreModule.name : CoreModule → String
  | .internal => "Garnet::Internal"
  | .kernelOperations => "Garnet::KernelOperations"

/-- The label of a constant. -/
def Literal.label : Literal → String
  | .symbol n => s!"sym {n}"
  | .frozenString v => s!"frozen-str {Text.quote v}"
  | .bignum v => s!"bignum {v}"
  | .regexp src fl => s!"regexp /{src}/{fl.letters}"
  | .encoding n => s!"encoding {n}"
  | .objectClass => "Object"
  | .core m => m.name
  | .lexicalScope id => s!"lexical-scope {id}"
  | .notProvided => "not-provided"

/-- The word for what a splat makes of nil. -/
def SplatNil.word : SplatNil → String
  | .nil => "nil"
  | .emptyArray => "emptyarray"
  | .arrayWithNil => "arraywithnil"
  | .convert => "convert"

/-- The word for a `defined?` kind. -/
def DefinedAs.word : DefinedAs → String
  | .assignment => "assignment"
  | .expression => "expression"
  | .method => "method"

/-- The word of a block kind. -/
def ProcKind.word : ProcKind → String
  | .proc => "proc"
  | .lambda => "lambda"

/-- The call flags as words, in a fixed order. -/
def CallFlags.words (f : CallFlags) : String :=
  (if f.splatted then " splatted" else "") ++ (if f.ignoreVisibility then " private" else "") ++
    (if f.vcall then " vcall" else "") ++ (if f.safeNavigation then " safe" else "") ++
    (if f.attrAssign then " attr-assign" else "")

/-- The label of a form: its name and scalar fields. -/
def Form.label {α : Type} : Form α → String
  | .nil => "nil"
  | .boolean b => if b then "true" else "false"
  | .integer v => s!"int {v}"
  | .long v => s!"long {v}"
  | .float v => s!"float {v.render dumpFloat}"
  | .object l => l.label
  | .string v => s!"str {Text.quote v}"
  | .arrayLit _ => "array"
  | .hashLit _ => "hash"
  | .concatHash _ => "concat-hash"
  | .hashCast _ => "hash-cast"
  | .range _ _ x => if x then "range ..." else "range .."
  | .interpolated _ => "dstr"
  | .toS _ => "to-s"
  | .interpolatedRegexp _ fl => s!"dregexp /{fl.letters}"
  | .toSymbol _ => "to-sym"
  | .once _ => "once"
  | .splatCast n toAry copy _ =>
    s!"splat {n.word}" ++ (if toAry then " to-ary" else "") ++ (if copy then " copy" else "")
  | .arrayConcat _ => "array-concat"
  | .arrayAppend _ _ => "array-append"
  | .arrayDup _ => "array-dup"
  | .arrayIndex _ i => s!"array-index {i}"
  | .arraySlice _ a b => s!"array-slice {a} {b}"
  | .arraySizeAtLeast _ n => s!"array-size>= {n}"
  | .selfValue => "self"
  | .readLocal s => s!"read-local {s.text}"
  | .writeLocal s _ => s!"write-local {s.text}"
  | .readIvar n => s!"read-ivar {n}"
  | .writeIvar n _ => s!"write-ivar {n}"
  | .readCvar _ n => s!"read-cvar {n}"
  | .writeCvar _ n _ => s!"write-cvar {n}"
  | .readGlobal n => s!"read-global {n}"
  | .writeGlobal n _ => s!"write-global {n}"
  | .aliasGlobal a b => s!"alias-global {a} {b}"
  | .nthMatch n => s!"nth-match {n}"
  | .readConst _ n => s!"read-const {n}"
  | .readConstLexical scope n => s!"read-const-lexical {n} scope={scope}"
  | .readConstDynamic n => s!"read-const-dynamic {n}"
  | .writeConst _ n _ => s!"write-const {n}"
  | .dynamicLexicalScope => "dynamic-lexical-scope"
  | .lexicalScopeModule id => s!"lexical-scope-module {id}"
  | .dynamicLexicalScopeModule => "dynamic-lexical-scope-module"
  | .flipFlop _ _ x s => "flip-flop " ++ (if x then "..." else "..") ++ " " ++ s.text
  | .initFlipFlop s => s!"init-flip-flop {s.text}"
  | .call _ n _ _ fl => s!"call {n}{fl.words}"
  | .superCall _ _ splatted implicit =>
    "super" ++ (if implicit then " implicit" else "") ++ (if splatted then " splatted" else "")
  | .yieldCall _ splatted _ => if splatted then "yield splatted" else "yield"
  | .toProc _ => "to-proc"
  | .primitive n _ => s!"primitive {n}"
  | .isNotProvided _ => "is-not-provided"
  | .frameOnStack s _ => s!"frame-on-stack {s.text}"
  | .catchBreak id w _ => s!"catch-break break#{id}" ++ (if w then " while" else "")
  | .blockDef k _ _ b marker =>
    "block " ++ k.word ++ s!" break#{b}" ++
      (match marker with | some m => s!" marker={m.text}" | none => "")
  | .methodDef _ _ _ => "def"
  | .runModuleBody _ _ _ => "run-module-body"
  | .defineClass _ n _ => s!"define-class {n}"
  | .defineModule _ n => s!"define-module {n}"
  | .singletonClass _ => "singleton-class"
  | .defaultDefinee => "default-definee"
  | .raiseIfFrozen _ => "raise-if-frozen"
  | .insideModule _ => "inside-module"
  | .aliasMethod _ _ _ => "alias-method"
  | .undefMethod _ _ => "undef-method"
  | .seq _ => "seq"
  | .elidable _ _ => "elidable"
  | .ifThen _ _ => "if"
  | .ifElse _ _ _ => "if-else"
  | .unlessThen _ _ => "unless"
  | .and _ _ => "and"
  | .or _ _ => "or"
  | .not _ => "not"
  | .isNil _ => "is-nil"
  | .whileLoop t _ _ => if t == .first then "while" else "do-while"
  | .breakJump id noMarker _ => s!"break break#{id}" ++ (if noMarker then " no-marker" else "")
  | .nextJump _ => "next"
  | .redo => "redo"
  | .retry => "retry"
  | .returnJump id isLocal _ => s!"return return#{id}" ++ (if isLocal then " local" else "")
  | .tryRescue _ _ _ skipTrace => if skipTrace then "try omit-backtrace" else "try"
  | .exceptionTranslating _ => "exception-translating"
  | .ensure _ _ => "ensure"
  | .catchReturn id _ => s!"catch-return return#{id}"
  | .catchNext _ => "catch-next"
  | .defined _ => "defined"
  | .definedAs k _ => s!"defined-as {k.word}"
  | .namedCaptures _ _ _ _ => "named-captures-match"
  | .dead what => s!"dead {Text.quote what}"
  | .checkArity a => s!"check-arity {a.text}"
  | .preArg i m => if m == .runtime then s!"arg {i}" else s!"arg {i} or-nil"
  | .optionalArg i m _ => s!"optional-arg {i} min={m}"
  | .restArgs s p => s!"rest-args {s} post={p}"
  | .postArg e p o => s!"post-arg -{e} pre={p} opt={o}"
  | .keywordArg n d => s!"keyword-arg {n}" ++ (if d.isNone then " required" else "")
  | .keywordRest ex => "keyword-rest excluding=[" ++ " ".intercalate ex ++ "]"
  | .blockArg asProc => if asProc then "block-arg proc" else "block-arg"
  | .singleBlockArg => "single-block-arg"
  | .shouldDestructure n => s!"should-destructure {n}"

namespace Op

/-- A line break and the indentation of `level`. -/
def lineAt (style : PrintStyle) (level : Nat) : String :=
  "\n" ++ String.join (List.replicate level style.indent)

/-- The label of a node with its flags and span, as the style shows them. -/
def fullLabel (style : PrintStyle) (o : Op) : String :=
  o.form.label ++
    (if style.showFlags && o.flags.newline then " [nl]" else "") ++
    (if style.showFlags && o.flags.coverage then " [cov]" else "") ++
    (if style.showSpans then
      (match o.span with | some s => s!" @{s.start}..{s.stop}" | none => "")
    else "")

/-- The opening of a rescue clause. -/
def rescueHead {α : Type} : RescueGuard α → String
  | .any => "(rescue any"
  | .classes _ => "(rescue"
  | .splat _ => "(rescue splat"

theorem mem_children_tryRescue_body {b : Op} {rs : List (RescueClause Op)} {e : Option Op}
    {x : Bool} : b ∈ (Form.tryRescue b rs e x).children := by
  simp [Form.children]

theorem mem_children_tryRescue_clause {b : Op} {rs : List (RescueClause Op)} {e : Option Op}
    {x : Bool} {r : RescueClause Op} {c : Op} (hr : r ∈ rs) (hc : c ∈ r.children) :
    c ∈ (Form.tryRescue b rs e x).children := by
  exact List.mem_append.2 (Or.inl (List.mem_cons_of_mem _ (List.mem_flatMap.2 ⟨r, hr, hc⟩)))

theorem mem_children_tryRescue_else {b : Op} {rs : List (RescueClause Op)} {e : Option Op}
    {x : Bool} {c : Op} (hc : c ∈ e) : c ∈ (Form.tryRescue b rs e x).children := by
  exact List.mem_append.2 (Or.inr (Option.mem_toList.2 hc))

/-- A node printed at indentation `level`, without a final line break. -/
def print (style : PrintStyle) (level : Nat) : Op → String
  | .mk f s fl =>
    let child (c : String) := lineAt style (level + 1) ++ c
    let unit (h : UnitHead) (body : String) :=
      child ("(" ++ h.text ++ lineAt style (level + 2) ++ body ++ ")")
    let inner : String :=
      match f with
      | .methodDef d h b =>
        child (print style (level + 1) d) ++ unit h (print style (level + 2) b)
      | .runModuleBody d h b =>
        child (print style (level + 1) d) ++ unit h (print style (level + 2) b)
      | .blockDef _ h b _ _ => unit h (print style (level + 2) b)
      | .tryRescue b rs e _ =>
        child (print style (level + 1) b) ++
          String.join (rs.attach.map fun ⟨r, _⟩ =>
            child (rescueHead r.guard ++
              String.join (r.children.attach.map fun ⟨c, _⟩ =>
                lineAt style (level + 2) ++ print style (level + 2) c) ++ ")")) ++
          String.join (e.attach.toList.map fun ⟨c, _⟩ =>
            child ("(else" ++ lineAt style (level + 2) ++ print style (level + 2) c ++ ")"))
      | other => String.join (other.children.attach.map fun ⟨c, _⟩ =>
          child (print style (level + 1) c))
    "(" ++ fullLabel style (.mk f s fl) ++ inner ++ ")"
termination_by o => o
decreasing_by
  all_goals first
    | (simp only [Op.mk.sizeOf_spec, Form.methodDef.sizeOf_spec]; omega)
    | (simp only [Op.mk.sizeOf_spec, Form.runModuleBody.sizeOf_spec]; omega)
    | (simp only [Op.mk.sizeOf_spec, Form.blockDef.sizeOf_spec]; omega)
    | (simp only [Op.mk.sizeOf_spec, Form.tryRescue.sizeOf_spec]; omega)
    | exact sizeOf_lt_of_mem_children (mem_children_tryRescue_clause (by assumption) (by assumption))
    | exact sizeOf_lt_of_mem_children (mem_children_tryRescue_else (by assumption))
    | exact sizeOf_lt_of_mem_children (by assumption)

/-- A node printed as a whole, with a final line break. -/
def dump (style : PrintStyle) (o : Op) : String :=
  print style 0 o ++ "\n"

end Op

/-- A unit printed as a whole, with a final line break. -/
def ExecUnit.dump (style : PrintStyle) (u : ExecUnit) : String :=
  "(" ++ u.head.text ++ Op.lineAt style 1 ++ Op.print style 1 u.body ++ ")\n"

/-- Whether every span the style shows can be written: printing shows the span of every node
below the unit, and writing one computes its stop. -/
def ExecUnit.spansShowable (style : PrintStyle) (u : ExecUnit) : Bool :=
  !style.showSpans || u.body.nodes.all fun n => n.span.all Span.fits

/-- A unit printed as a whole, or the overflow of a shown span's stop. -/
def ExecUnit.render (style : PrintStyle) (u : ExecUnit) : Except OffsetOverflow String :=
  if u.spansShowable style then .ok (u.dump style) else .error .sum

end RubyLower
