import RubyLower.Lower.Dispatch
import RubyLower.Proofs.Rules.Rescue
import RubyLower.Proofs.KeepsScope.Steps

/-!
# Lowering keeps the scope: every rule

Each rule keeps the scope when the recursive calls do. Most rules are chains of steps that keep
it; the rules that make a unit push a new frame and set it up (`Lower.block_keepsScope`,
`Lower.method_keepsScope`, `Lower.moduleBody_keepsScope`), and three rules change the scope for
their body and put it back on every outcome: a loop its frame's break id
(`Lower.loop_keepsScope`), a module its lexical scope (`Lower.openModule_keepsScope`) and a
singleton class the constant lookup mode (`Lower.sclass_keepsScope`).

`Lower.dispatch_keepsScope` takes each kind of node to its rule, and `Lower.recurAt_keepsScope`
closes the recursion by induction on the fuel. So lowering any node, from any place and any
progress, leaves the scope of the body it stands in as it found it, whether it gives a result or
stops (`Lower.lower_restoresScope`); the place itself, with the frame, the modes and the frame
markers, is read-only.
-/

namespace RubyLower

namespace Lower

/-! ## Rules that read the place or the environment only -/

theorem bignum_keepsScope (digits : String) (span : Span) : (bignum digits span).KeepsScope := by
  unfold bignum
  split
  · exact KeepsScope.fail _ _ _ _
  · split <;> exact KeepsScope.pure _

theorem fixnum_keepsScope (v : Int) (span : Span) : (fixnum v span).KeepsScope := by
  unfold fixnum
  split <;> exact KeepsScope.atSpan _ _

theorem str_keepsScope (value : String) (frozen : Bool) (span : Span) :
    (str value frozen span).KeepsScope :=
  options_keepsScope.bind fun _ => by split <;> exact KeepsScope.pure _

theorem vcall_keepsScope (name : String) (span : Span) : (vcall name span).KeepsScope :=
  source_keepsScope.bind fun _ => by split <;> exact KeepsScope.pure _

theorem localRead_keepsScope (name : String) (span : Span) : (localRead name span).KeepsScope :=
  (resolveOrDeclare_keepsScope name).bind fun _ => KeepsScope.pure _

theorem dvarRead_keepsScope (name : String) (depth : Nat) (span : Span) :
    (dvarRead name depth span).KeepsScope := by
  refine frame_keepsScope.bind fun f => (resolve_keepsScope f name).bind fun found => ?_
  extract_lets afterSlot
  have hafterSlot : ∀ slot, (afterSlot slot).KeepsScope := fun _ => KeepsScope.pure _
  split
  · exact (KeepsScope.pure _).bind hafterSlot
  · exact env_keepsScope.bind fun _ => (declare_keepsScope _ name).bind fun _ =>
      (resolveOrDeclare_keepsScope name).bind hafterSlot

theorem captureSetters_keepsScope (matchData : Slot) (declareIn : Nat) (name : String) :
    (captureSetters matchData declareIn name).KeepsScope :=
  (declare_keepsScope declareIn name).bind fun _ => (resolveOrDeclare_keepsScope name).bind
    fun _ => KeepsScope.pure _

theorem withPrelude_keepsScope (prelude : List Op) (body : Op) :
    (withPrelude prelude body).KeepsScope :=
  frame_keepsScope.bind fun f => (frameData_keepsScope f).bind fun _ => by
    dsimp only
    split <;> exact KeepsScope.pure _

theorem unitHead_keepsScope (id : Nat) (name : String) (kind : UnitKind) (arity : Arity) :
    (unitHead id name kind arity).KeepsScope :=
  (frameData_keepsScope id).bind fun _ => lexicalScope_keepsScope.bind fun _ => KeepsScope.pure _

theorem restSlot_keepsScope (rest : RestParam) (pfx : String) : (restSlot rest pfx).KeepsScope := by
  unfold restSlot
  split
  · exact frame_keepsScope.bind fun f => declare_keepsScope f _
  · exact temp_keepsScope pfx
  · exact temp_keepsScope pfx

theorem masgnNil_keepsScope : masgnNil.KeepsScope :=
  modes_keepsScope.bind fun _ => KeepsScope.pure _

theorem constantWrite_keepsScope (read value : Op) (span : Span) :
    (constantWrite read value span).KeepsScope := by
  unfold constantWrite
  split
  · exact KeepsScope.pure _
  · exact KeepsScope.pure _
  · exact KeepsScope.pure _
  · exact KeepsScope.fail _ _ _ _

theorem inBlock_keepsScope : inBlock.KeepsScope :=
  frame_keepsScope.bind fun f => (frameData_keepsScope f).bind fun _ => KeepsScope.pure _

theorem redo_keepsScope (span : Span) : (redo span).KeepsScope := by
  refine inBlock_keepsScope.bind fun _ => modes_keepsScope.bind fun _ => ?_
  split
  · exact KeepsScope.fail _ _ _ _
  · exact KeepsScope.pure _

theorem retry_keepsScope (span : Span) : (retry span).KeepsScope := by
  refine modes_keepsScope.bind fun _ => inBlock_keepsScope.bind fun _ => ?_
  split
  · exact KeepsScope.fail _ _ _ _
  · exact KeepsScope.pure _

section Rules

variable {r : Recur} (hr : r.KeepsScope)
include hr

/-! ## Literals -/

theorem rational_keepsScope (a b : Node) (span : Span) : (rational r a b span).KeepsScope :=
  (hr.expr a).bind fun _ => (hr.expr b).bind fun _ => KeepsScope.pure _

theorem complex_keepsScope (a : Node) (span : Span) : (complex r a span).KeepsScope :=
  (hr.expr a).bind fun _ => KeepsScope.pure _

theorem dstr_keepsScope (parts : List Node) (span : Span) : (dstr r parts span).KeepsScope :=
  (exprs_keepsScope hr parts).bind fun _ => KeepsScope.pure _

theorem dsymbol_keepsScope (parts : List Node) (span : Span) : (dsymbol r parts span).KeepsScope :=
  (exprs_keepsScope hr parts).bind fun _ => KeepsScope.pure _

theorem dxstr_keepsScope (parts : List Node) (span : Span) : (dxstr r parts span).KeepsScope :=
  (exprs_keepsScope hr parts).bind fun _ => KeepsScope.pure _

theorem evstr_keepsScope (body : Option Node) (span : Span) : (evstr r body span).KeepsScope := by
  unfold evstr
  split
  · exact KeepsScope.pure _
  · exact (hr.expr _).bind fun _ => KeepsScope.pure _

theorem dregexp_keepsScope (parts : List Node) (flags : RegexpFlags) (span : Span) :
    (dregexp r parts flags span).KeepsScope :=
  (exprs_keepsScope hr parts).bind fun _ => by
    dsimp only
    split <;> exact KeepsScope.pure _

theorem matchLastLine_keepsScope (re : Node) (span : Span) : (matchLastLine r re span).KeepsScope :=
  (hr.expr re).bind fun _ => KeepsScope.pure _

theorem match2_keepsScope (receiver value : Node) (span : Span) :
    (match2 r receiver value span).KeepsScope := by
  refine (hr.expr receiver).bind fun _ => (hr.expr value).bind fun _ =>
    (KeepsScope.atSpan _ _).bind fun _ => ?_
  dsimp only
  split
  · split
    · exact KeepsScope.pure _
    · exact (temp_keepsScope _).bind fun md => env_keepsScope.bind fun _ =>
        frame_keepsScope.bind fun _ => (KeepsScope.mapM (captureSetters_keepsScope md _) _).bind
          fun _ => KeepsScope.pure _
  · exact KeepsScope.pure _

theorem hashStep_keepsScope (acc : List Op × List (Op × Op)) (pair : Option Node × Node) :
    (hashStep r acc pair).KeepsScope := by
  unfold hashStep
  split
  · exact (hr.expr _).bind fun _ => (hr.expr _).bind fun _ => KeepsScope.pure _
  · exact (hr.expr _).bind fun _ => KeepsScope.pure _

theorem hash_keepsScope (pairs : List (Option Node × Node)) (span : Span) :
    (hash r pairs span).KeepsScope := by
  refine (KeepsScope.foldlM (hashStep_keepsScope hr) pairs _).bind fun ⟨parts, pending⟩ => ?_
  dsimp only
  split <;> exact KeepsScope.atSpan _ _

theorem range_keepsScope (low high : Option Node) (exclusive : Bool) (span : Span) :
    (range r low high exclusive span).KeepsScope := by
  unfold range
  extract_lets afterLow
  have hafterLow : ∀ lo, (afterLow lo).KeepsScope := by
    intro lo
    dsimp -zeta only [afterLow]
    extract_lets afterHigh
    have hafterHigh : ∀ hi, (afterHigh hi).KeepsScope := fun _ => KeepsScope.pure _
    split
    · exact (hr.expr _).bind hafterHigh
    · exact (KeepsScope.pure _).bind hafterHigh
  split
  · exact (hr.expr _).bind hafterLow
  · exact (KeepsScope.pure _).bind hafterLow

theorem flipFlop_keepsScope (low high : Node) (exclusive : Bool) (span : Span) :
    (flipFlop r low high exclusive span).KeepsScope :=
  (hr.expr low).bind fun _ => (hr.expr high).bind fun _ => frame_keepsScope.bind fun f =>
    (allocFlipFlop_keepsScope f).bind fun _ => KeepsScope.pure _

/-! ## Parameters -/

theorem bindParameter_keepsScope (param : Node) (value : Op) :
    (bindParameter r param value).KeepsScope := by
  unfold bindParameter
  split
  · exact frame_keepsScope.bind fun f => (declare_keepsScope f _).bind fun _ => KeepsScope.pure _
  · exact (temp_keepsScope _).bind fun _ => (hr.target _ _).bind fun _ => KeepsScope.pure _
  · exact (hr.target _ _).bind fun _ => KeepsScope.pure _

theorem optionalBinding_keepsScope (params : Params Node) (src : ArgSource) (offset : Nat)
    (param : Node) : (optionalBinding r params src offset param).KeepsScope := by
  unfold optionalBinding
  extract_lets index afterName
  have hafterName : ∀ x, (afterName x).KeepsScope := by
    rintro ⟨name, default?⟩
    dsimp -zeta only [afterName]
    extract_lets afterDefault
    have hafterDefault : ∀ d, (afterDefault d).KeepsScope := by
      intro d
      dsimp -zeta only [afterDefault]
      exact frame_keepsScope.bind fun f => (declare_keepsScope f name).bind fun _ => KeepsScope.pure _
    split
    · exact (hr.expr _).bind hafterDefault
    · exact (KeepsScope.pure _).bind hafterDefault
  split
  · exact (KeepsScope.pure _).bind hafterName
  · exact (KeepsScope.pure _).bind hafterName
  · exact (KeepsScope.fail _ _ _ _).bind hafterName

theorem positional_keepsScope (params : Params Node) (kind : UnitKind) (src : ArgSource)
    (names : MethodParams) : (positional r params kind src names).KeepsScope := by
  unfold positional
  refine (KeepsScope.mapM ?pres _).bind fun _ => (KeepsScope.mapM ?optionals _).bind fun _ => ?_
  case pres =>
    rintro ⟨_, param⟩
    exact bindParameter_keepsScope hr param _
  case optionals =>
    rintro ⟨i, param⟩
    exact optionalBinding_keepsScope hr params src i param
  extract_lets afterRest
  have hafterRest : ∀ rest, (afterRest rest).KeepsScope := by
    intro rest
    dsimp -zeta only [afterRest]
    refine (KeepsScope.mapM ?posts _).bind fun _ => KeepsScope.pure _
    rintro ⟨_, param⟩
    exact bindParameter_keepsScope hr param _
  split
  · exact (KeepsScope.pure _).bind hafterRest
  · exact (KeepsScope.pure _).bind hafterRest
  · exact (restSlot_keepsScope _ _).bind fun _ => (KeepsScope.pure _).bind hafterRest

theorem keywordBinding_keepsScope (kw : String × Option Node) : (keywordBinding r kw).KeepsScope :=
  (KeepsScope.optionMapM hr.expr _).bind fun _ => frame_keepsScope.bind fun f =>
    (declare_keepsScope f _).bind fun _ => KeepsScope.pure _

theorem parameters_keepsScope (params : Params Node) (kind : UnitKind) :
    (parameters r params kind).KeepsScope := by
  unfold parameters
  extract_lets required optional arity check afterKeep
  -- each join point of the rule keeps the scope, from the last one back
  have hafterKeep : ∀ keep, (afterKeep keep).KeepsScope := by
    intro keep
    dsimp -zeta only [afterKeep]
    extract_lets afterPositional
    have hafterPositional : ∀ pn, (afterPositional pn).KeepsScope := by
      rintro ⟨positionals, names⟩
      dsimp -zeta only [afterPositional]
      refine (KeepsScope.mapM (keywordBinding_keepsScope hr) _).bind fun _ => ?_
      extract_lets names' afterKeywordRest
      have hafterKeywordRest : ∀ kr, (afterKeywordRest kr).KeepsScope := by
        rintro ⟨keywordRest, names⟩
        dsimp -zeta only [afterKeywordRest]
        extract_lets afterBlock
        have hafterBlock : ∀ bp, (afterBlock bp).KeepsScope := by
          rintro ⟨blockParam, names⟩
          dsimp -zeta only [afterBlock]
          extract_lets finish
          have hfinish : ∀ u, (finish u).KeepsScope := fun _ => KeepsScope.pure _
          -- a method records its parameters in its frame, which keeps the frame's break id
          split
          · exact frame_keepsScope.bind fun _ => (KeepsScope.modifyFrame fun _ => by rfl).bind hfinish
          · exact hfinish ()
        split
        · exact frame_keepsScope.bind fun f => (declare_keepsScope f _).bind fun _ =>
            (KeepsScope.pure _).bind hafterBlock
        · exact (KeepsScope.pure _).bind hafterBlock
      split
      · exact (restSlot_keepsScope _ _).bind fun _ => (KeepsScope.pure _).bind hafterKeywordRest
      · exact (KeepsScope.pure _).bind hafterKeywordRest
    split
    · exact (positional_keepsScope hr _ _ _ _).bind fun _ => (temp_keepsScope _).bind fun _ =>
        (positional_keepsScope hr _ _ _ _).bind fun _ => (KeepsScope.pure _).bind hafterPositional
    · exact (positional_keepsScope hr _ _ _ _).bind hafterPositional
  split
  · exact frame_keepsScope.bind fun f => (declare_keepsScope f _).bind fun _ =>
      (KeepsScope.pure _).bind hafterKeep
  · exact (KeepsScope.pure _).bind hafterKeep

/-! ## Blocks and calls -/

theorem forParameter_keepsScope (var : Node) : (forParameter r var).KeepsScope :=
  (allocTempName_keepsScope _).bind fun _ => frame_keepsScope.bind fun f =>
    (declare_keepsScope f _).bind fun _ => (hr.target var _).bind fun _ => KeepsScope.pure _

/-- A block or lambda pushes its frame and sets it up, which touches no frame seen before. -/
theorem block_keepsScope (spec : BlockSpec) (kind : ProcKind) : (block r spec kind).KeepsScope := by
  unfold block
  extract_lets isLambda unitKind
  refine modes_keepsScope.bind fun _ => ?_
  extract_lets ownScope
  refine frame_keepsScope.bind fun f => ?_
  extract_lets afterReturn
  have hafterReturn : ∀ ret, (afterReturn ret).KeepsScope := by
    intro ret
    dsimp -zeta only [afterReturn]
    refine allocBreak_keepsScope.bind fun _ => KeepsScope.pushFrame fun bf => ?_
    refine (KeepsScope.forIn (fun l _ => (declare_keepsScope bf l).bind fun _ => KeepsScope.pure _)
      _ _).bind fun _ => ?_
    extract_lets afterMarker
    have hafterMarker : ∀ marker, (afterMarker marker).KeepsScope := by
      intro marker
      dsimp -zeta only [afterMarker]
      refine KeepsScope.inFrame ?_ bf
      extract_lets afterParams
      have hafterParams : ∀ x, (afterParams x).KeepsScope := by
        rintro ⟨arity, prelude⟩
        dsimp -zeta only [afterParams]
        exact (exprOrNil_keepsScope hr _ _).bind fun _ => (withPrelude_keepsScope _ _).bind fun _ =>
          (frameData_keepsScope bf).bind fun _ => (unitHead_keepsScope _ _ _ _).bind fun _ =>
            KeepsScope.pure _
      split
      · exact (forParameter_keepsScope hr _).bind hafterParams
      · exact (parameters_keepsScope hr _ _).bind hafterParams
    split
    · exact (KeepsScope.pure _).bind hafterMarker
    · exact currentMarker_keepsScope.bind hafterMarker
  split
  · exact (allocReturn_keepsScope.map _).bind hafterReturn
  · exact (frameData_keepsScope f).bind fun _ => (KeepsScope.pure _).bind hafterReturn

theorem lambda_keepsScope (b : BlockLit Node) : (lambda r b).KeepsScope :=
  ((block_keepsScope hr _ _).withMarker _).bind fun _ => KeepsScope.pure _

theorem literalBlock_keepsScope (spec : BlockSpec) : (literalBlock r spec).KeepsScope :=
  (temp_keepsScope _).bind fun _ => ((block_keepsScope hr spec .proc).withMarker _).bind
    fun _ => KeepsScope.pure _

theorem blockArg_keepsScope (b : BlockArg) : (blockArg r b).KeepsScope := by
  unfold blockArg
  split
  · exact KeepsScope.pure _
  · split
    · exact literalBlock_keepsScope hr _
    · exact (hr.expr _).bind fun _ => KeepsScope.pure _
    · exact (hr.expr _).bind fun _ => KeepsScope.pure _
  · exact literalBlock_keepsScope hr _

theorem arguments_keepsScope (args : Option Node) (span : Span) :
    (arguments r args span).KeepsScope := by
  unfold arguments
  split
  · exact KeepsScope.pure _
  · split
    · exact (exprs_keepsScope hr _).bind fun _ => KeepsScope.pure _
    all_goals first
      | exact (hr.expr _).bind fun _ => KeepsScope.pure _
      | split
        · exact KeepsScope.fail _ _ _ _
        · exact KeepsScope.throw _

theorem finishCall_keepsScope (receiver : Op) (name : String) (args : List Op) (splatted : Bool)
    (block : BlockArg) (flags : CallFlags) (span : Span) :
    (finishCall r receiver name args splatted block flags span).KeepsScope :=
  modes_keepsScope.bind fun _ => (blockArg_keepsScope hr block).bind fun ⟨_, _⟩ => KeepsScope.pure _

theorem callNode_keepsScope (receiver : Op) (name : String) (args : Option Node) (block : BlockArg)
    (flags : CallFlags) (span : Span) : (callNode r receiver name args block flags span).KeepsScope :=
  (arguments_keepsScope hr args span).bind fun ⟨_, _⟩ => finishCall_keepsScope hr _ _ _ _ _ _ _

theorem argsCat_keepsScope (first second : Node) (span : Span) :
    (argsCat r first second span).KeepsScope := by
  unfold argsCat
  split
  exact (hr.expr _).bind fun _ => (KeepsScope.mapM (fun n => (hr.expr n).bind fun _ =>
    KeepsScope.pure _) _).bind fun _ => KeepsScope.pure _

theorem argsPush_keepsScope (first second : Node) (span : Span) :
    (argsPush r first second span).KeepsScope :=
  (hr.expr first).bind fun _ => (hr.expr second).bind fun _ => KeepsScope.pure _

theorem primitive_keepsScope (name : String) (args : Option Node) (span : Span) :
    (primitive r name args span).KeepsScope := by
  refine source_keepsScope.bind fun _ => ?_
  split
  · exact KeepsScope.fail _ _ _ _
  · refine (arguments_keepsScope hr args span).bind fun ⟨_, _⟩ => ?_
    dsimp only
    split
    · exact KeepsScope.fail _ _ _ _
    · exact KeepsScope.pure _

theorem internalCall_keepsScope (name : String) (iter : Option Node) (span : Span) :
    (internalCall r name iter span).KeepsScope := by
  unfold internalCall
  split
  · split
    · exact ((exprOrNil_keepsScope hr _ _).withModes _).bind fun _ => KeepsScope.pure _
    · exact KeepsScope.fail _ _ _ _
  · split
    · exact KeepsScope.pure _
    · split <;> exact KeepsScope.pure _

theorem notProvidedTest_keepsScope (args : Option Node) (span : Span) :
    (notProvidedTest r args span).KeepsScope := by
  unfold notProvidedTest
  split
  · exact (hr.expr _).bind fun _ => KeepsScope.pure _
  · exact KeepsScope.fail _ _ _ _

theorem call_keepsScope (receiver : Node) (name : String) (args iter : Option Node) (lazy : Bool)
    (span : Span) : (call r receiver name args iter lazy span).KeepsScope := by
  unfold call
  extract_lets frozenLiteral afterExpand
  have hafter : ∀ e, (afterExpand e).KeepsScope := by
    intro e
    dsimp -zeta only [afterExpand]
    split
    · exact KeepsScope.pure _
    · exact (hr.expr receiver).bind fun _ => callNode_keepsScope hr _ _ _ _ _ _
  clear_value frozenLiteral
  cases frozenLiteral with
  | some value => exact KeepsScope.pure _
  | none =>
    dsimp only
    split
    · split
      · exact ((primitive_keepsScope hr name args span).map _).bind hafter
      · split
        · exact (internalCall_keepsScope hr name iter span).bind hafter
        · exact (KeepsScope.pure _).bind hafter
    · refine source_keepsScope.bind fun _ => ?_
      split
      · exact ((notProvidedTest_keepsScope hr args span).map _).bind hafter
      · exact (KeepsScope.pure _).bind hafter
    · exact (KeepsScope.pure _).bind hafter

theorem fcall_keepsScope (name : String) (args iter : Option Node) (span : Span) :
    (fcall r name args iter span).KeepsScope :=
  callNode_keepsScope hr _ _ _ _ _ _

theorem attrAssign_keepsScope (receiver : Node) (name : String) (args : Option Node) (lazy : Bool)
    (span : Span) : (attrAssign r receiver name args lazy span).KeepsScope :=
  (hr.expr receiver).bind fun _ => callNode_keepsScope hr _ _ _ _ _ _

theorem superCall_keepsScope (args iter : Option Node) (span : Span) :
    (superCall r args iter span).KeepsScope :=
  (arguments_keepsScope hr args span).bind fun ⟨_, _⟩ => (blockArg_keepsScope hr _).bind
    fun ⟨_, _⟩ => KeepsScope.pure _

theorem postExe_keepsScope (body : Option Node) (span : Span) : (postExe r body span).KeepsScope :=
  finishCall_keepsScope hr _ _ _ _ _ _ _

end Rules

theorem methodBlockRead_keepsScope : methodBlockRead.KeepsScope :=
  frame_keepsScope.bind fun f => (resolve_keepsScope f _).bind fun _ => KeepsScope.pure _

theorem readParam_keepsScope (name : String) : (readParam name).KeepsScope :=
  (resolveOrDeclare_keepsScope name).bind fun _ => KeepsScope.pure _

theorem forwardedKeywords_keepsScope (ps : MethodParams) : (forwardedKeywords ps).KeepsScope := by
  unfold forwardedKeywords
  split
  · exact KeepsScope.pure _
  · refine (KeepsScope.mapM (fun n => (readParam_keepsScope n).bind fun _ => KeepsScope.pure _)
      _).bind fun _ => ?_
    dsimp only
    split
    · exact (readParam_keepsScope _).bind fun _ => KeepsScope.pure _
    · exact KeepsScope.pure _

section Rules

variable {r : Recur} (hr : r.KeepsScope)
include hr

theorem zsuper_keepsScope (iter : Option Node) (span : Span) : (zsuper r iter span).KeepsScope := by
  unfold zsuper
  refine env_keepsScope.bind fun _ => frame_keepsScope.bind fun _ => ?_
  extract_lets m afterArgs
  refine (frameData_keepsScope _).bind fun _ => ?_
  extract_lets ps
  have hafterArgs : ∀ x, (afterArgs x).KeepsScope := by
    intro x
    dsimp -zeta only [afterArgs]
    extract_lets afterBlock
    have hafterBlock : ∀ y, (afterBlock y).KeepsScope := fun _ => KeepsScope.pure _
    split
    · exact (blockArg_keepsScope hr _).bind hafterBlock
    · exact methodBlockRead_keepsScope.bind fun _ => (KeepsScope.pure _).bind hafterBlock
  refine (KeepsScope.mapM readParam_keepsScope _).bind fun _ =>
    (KeepsScope.mapM readParam_keepsScope _).bind fun _ =>
      (forwardedKeywords_keepsScope ps).bind fun _ => ?_
  split
  · exact (readParam_keepsScope _).bind fun _ => (KeepsScope.pure _).bind hafterArgs
  · exact (KeepsScope.pure _).bind hafterArgs

theorem yieldCall_keepsScope (args : Option Node) (span : Span) :
    (yieldCall r args span).KeepsScope := by
  unfold yieldCall
  extract_lets afterArgs
  have hafterArgs : ∀ x, (afterArgs x).KeepsScope := by
    intro x
    dsimp -zeta only [afterArgs]
    exact methodBlockRead_keepsScope.bind fun _ => KeepsScope.pure _
  have hlist := (arguments_keepsScope hr args span).bind hafterArgs
  split
  · split
    all_goals first
      | exact hlist
      | exact (hr.expr _).bind fun _ => (KeepsScope.pure _).bind hafterArgs
  · exact hlist

/-! ## Assignments -/

theorem localAssignment_keepsScope (name : String) (value : Option Node) (span : Span) :
    (localAssignment r name value span).KeepsScope :=
  (assignmentSlot_keepsScope name).bind fun _ => (valueOrDead_keepsScope hr value _).bind fun _ =>
    KeepsScope.pure _

theorem assignAttribute_keepsScope (receiver : Node) (name : String) (args : Option Node)
    (lazy : Bool) (value : Op) (span : Span) :
    (assignAttribute r receiver name args lazy value span).KeepsScope := by
  refine (hr.expr receiver).bind fun _ => ?_
  extract_lets afterArgs
  have hafterArgs : ∀ x, (afterArgs x).KeepsScope := by
    rintro ⟨arguments, splatted⟩
    exact finishCall_keepsScope hr _ _ _ _ _ _ _
  split
  · exact (KeepsScope.pure _).bind hafterArgs
  · split
    · exact (exprs_keepsScope hr _).bind fun _ => (KeepsScope.pure _).bind hafterArgs
    all_goals first
      | exact (hr.expr _).bind fun _ => (KeepsScope.pure _).bind hafterArgs
      | exact (KeepsScope.fail _ _ _ _).bind hafterArgs

theorem masgnParallel_keepsScope (pre : List Node) (rhs : Op) :
    (masgnParallel r pre rhs).KeepsScope := by
  unfold masgnParallel
  split
  · exact (KeepsScope.mapM (fun _ => (temp_keepsScope _).bind fun _ => KeepsScope.pure _) _).bind
      fun _ => (KeepsScope.mapM (fun ⟨_, _, _⟩ => hr.target _ _) _).bind fun _ => KeepsScope.pure _
  · exact KeepsScope.pure _

theorem masgnIndexed_keepsScope (pre : List Node) (rest : Option Node) (post : List Node)
    (rhs : Op) (useToAry : Bool) : (masgnIndexed r pre rest post rhs useToAry).KeepsScope := by
  refine (temp_keepsScope _).bind fun _ => (temp_keepsScope _).bind fun _ =>
    masgnNil_keepsScope.bind fun _ => ?_
  extract_lets load preCount postCount
  refine (KeepsScope.mapM ?leading _).bind fun _ => ?_
  case leading =>
    rintro ⟨_, t⟩
    exact hr.target t _
  extract_lets afterMiddle
  have hafterMiddle : ∀ middle, (afterMiddle middle).KeepsScope := by
    intro middle
    dsimp -zeta only [afterMiddle]
    refine (KeepsScope.mapM ?trailing _).bind fun _ => KeepsScope.pure _
    rintro ⟨_, t⟩
    exact hr.target t _
  split
  · exact (hr.target _ _).bind fun _ => (KeepsScope.pure _).bind hafterMiddle
  · exact (KeepsScope.pure _).bind hafterMiddle

theorem masgnRestOnly_keepsScope (rest : Node) (rhs : Op) : (masgnRestOnly r rest rhs).KeepsScope := by
  refine masgnNil_keepsScope.bind fun _ => ?_
  dsimp only
  -- which right side and conversion of nil the splat gives changes no step
  split
  · split <;> exact (temp_keepsScope _).bind fun _ => (temp_keepsScope _).bind fun _ =>
      (hr.target _ _).bind fun _ => KeepsScope.pure _
  · exact (temp_keepsScope _).bind fun _ => (temp_keepsScope _).bind fun _ =>
      (hr.target _ _).bind fun _ => KeepsScope.pure _

theorem masgn_keepsScope (m : MultiAsgn Node) (rhs : Op) (rhsIsList : Bool) :
    (masgn r m rhs rhsIsList).KeepsScope := by
  unfold masgn
  extract_lets sameArity afterResult
  have hafterResult : ∀ result, (afterResult result).KeepsScope := fun _ => KeepsScope.pure _
  split
  · exact (masgnParallel_keepsScope hr _ _).bind hafterResult
  · split
    · exact (masgnIndexed_keepsScope hr _ _ _ _ _).bind hafterResult
    · split
      · split
        · split
          · exact (KeepsScope.pure _).bind hafterResult
          · split
            · exact (hr.target _ _).bind hafterResult
            · exact (masgnRestOnly_keepsScope hr _ _).bind hafterResult
        · exact (KeepsScope.fail _ _ _ _).bind hafterResult
      · split
        · exact (masgnIndexed_keepsScope hr _ _ _ _ _).bind hafterResult
        · exact (KeepsScope.fail _ _ _ _).bind hafterResult

theorem multipleAssignment_keepsScope (m : MultiAsgn Node) :
    (multipleAssignment r m).KeepsScope := by
  unfold multipleAssignment
  split
  · exact KeepsScope.fail _ _ _ _
  · exact (hr.expr _).bind fun _ => masgn_keepsScope hr _ _ _

theorem target_keepsScope (t : Node) (value : Op) : (target r t value).KeepsScope := by
  unfold target
  split
  · exact (assignmentSlot_keepsScope _).bind fun _ => KeepsScope.pure _
  · exact (assignmentSlot_keepsScope _).bind fun _ => KeepsScope.pure _
  · exact frame_keepsScope.bind fun f => (declare_keepsScope f _).bind fun _ => KeepsScope.pure _
  · exact KeepsScope.pure _
  · exact classVarScope_keepsScope.bind fun _ => KeepsScope.pure _
  · exact KeepsScope.pure _
  · exact (constPathModule_keepsScope hr _).bind fun _ => KeepsScope.pure _
  · exact assignAttribute_keepsScope hr _ _ _ _ _ _
  · exact masgn_keepsScope hr _ _ _
  · exact hr.target _ _
  · exact KeepsScope.pure _
  · exact KeepsScope.fail _ _ _ _

theorem opAsgnAnd_keepsScope (first second : Node) (span : Span) :
    (opAsgnAnd r first second span).KeepsScope :=
  (hr.expr first).bind fun _ => (hr.expr second).bind fun _ => KeepsScope.pure _

theorem opAsgnOr_keepsScope (first second : Node) (span : Span) :
    (opAsgnOr r first second span).KeepsScope :=
  (hr.expr first).bind fun _ => (hr.expr second).bind fun _ => KeepsScope.pure _

theorem opAsgnConstDecl_keepsScope (first : Node) (operator : String) (second : Node) (span : Span) :
    (opAsgnConstDecl r first operator second span).KeepsScope := by
  refine (hr.expr _).bind fun _ => (hr.expr _).bind fun _ => ?_
  split
  · exact (constantWrite_keepsScope _ _ _).bind fun _ => KeepsScope.atSpan _ _
  · split
    · exact (constantWrite_keepsScope _ _ _).bind fun _ => KeepsScope.atSpan _ _
    · exact (constantWrite_keepsScope _ _ _).bind fun _ => KeepsScope.atSpan _ _

theorem opAsgn_keepsScope (receiver : Node) (attr operator : String) (value : Node) (lazy : Bool)
    (span : Span) : (opAsgn r receiver attr operator value lazy span).KeepsScope :=
  (hr.expr receiver).bind fun _ => (hr.expr value).bind fun _ => (temp_keepsScope _).bind fun _ =>
    KeepsScope.pure _

theorem opElementAsgn_keepsScope (receiver : Node) (args : Option Node) (operator : String)
    (value : Node) (span : Span) : (opElementAsgn r receiver args operator value span).KeepsScope :=
  (hr.expr receiver).bind fun _ => (temp_keepsScope _).bind fun _ =>
    (arguments_keepsScope hr args span).bind fun ⟨_, _⟩ =>
      (KeepsScope.mapM (fun _ => (temp_keepsScope _).bind fun _ => KeepsScope.pure _) _).bind fun _ =>
        (hr.expr value).bind fun _ => KeepsScope.pure _

/-! ## Control flow -/

theorem conditional_keepsScope (condition : Node) (thenBody elseBody : Option Node) (span : Span)
    (lineStart : Bool) : (conditional r condition thenBody elseBody span lineStart).KeepsScope := by
  refine (hr.expr condition).bind fun _ => ?_
  extract_lets afterCondition
  have hafterCondition : ∀ c, (afterCondition c).KeepsScope := by
    intro c
    dsimp -zeta only [afterCondition]
    refine (KeepsScope.optionMapM hr.expr _).bind fun _ => (KeepsScope.optionMapM hr.expr _).bind
      fun _ => ?_
    split <;> exact KeepsScope.pure _
  split
  · exact (markLineStart_keepsScope _ _).bind hafterCondition
  · exact (KeepsScope.pure _).bind hafterCondition

/-- A loop sets its frame's break id to its own for the body, and puts the frame's own back after
the body whether it stops or not. -/
theorem loop_keepsScope (condition : Node) (body : Option Node) (testFirst isUntil : Bool)
    (span : Span) : (loop r condition body testFirst isUntil span).KeepsScope :=
  (hr.expr condition).bind fun _ => allocBreak_keepsScope.bind fun _ => frame_keepsScope.bind
    fun _ => KeepsScope.breakFor (((exprOrNil_keepsScope hr body span).withMarker _).withModes _)
      fun _ => KeepsScope.pure _

theorem forLoop_keepsScope (var iter : Node) (body : Option Node) (span : Span) :
    (forLoop r var iter body span).KeepsScope :=
  (hr.expr iter).bind fun _ => (finishCall_keepsScope hr _ _ _ _ _ _ _).withModes _

theorem whenArm_keepsScope (w : WhenArm Node) : (whenArm r w).KeepsScope := by
  refine (hr.expr _).bind fun _ => ?_
  have rest : ∀ c, (do return (c, ← exprOrNil r w.body w.span) : Lower (Op × Op)).KeepsScope :=
    fun _ => (exprOrNil_keepsScope hr _ _).bind fun _ => KeepsScope.pure _
  dsimp only
  split
  · exact (KeepsScope.atSpan _ _).bind fun _ => (KeepsScope.atSpan _ _).bind rest
  · exact (KeepsScope.pure _).bind rest

theorem whenSubjectArm_keepsScope (subject : Slot) (w : WhenArm Node) :
    (whenSubjectArm r subject w).KeepsScope := by
  refine (hr.expr _).bind fun _ => ?_
  have rest : ∀ c, (do let c ← atSpan c w.span; return (c, ← exprOrNil r w.body w.span) :
      Lower (Op × Op)).KeepsScope :=
    fun _ => (KeepsScope.atSpan _ _).bind fun _ => (exprOrNil_keepsScope hr _ _).bind fun _ =>
      KeepsScope.pure _
  dsimp only
  split
  · exact (KeepsScope.atSpan _ _).bind fun _ => (KeepsScope.pure _).bind rest
  · exact (KeepsScope.pure _).bind rest

theorem caseWhen_keepsScope (subject : Option Node) (whens : List (WhenArm Node))
    (elseBody : Option Node) (span : Span) : (caseWhen r subject whens elseBody span).KeepsScope := by
  unfold caseWhen
  split
  · exact (KeepsScope.mapM (whenArm_keepsScope hr) _).bind fun _ =>
      (exprOrNil_keepsScope hr _ _).bind fun _ => KeepsScope.pure _
  · exact (hr.expr _).bind fun _ => (temp_keepsScope _).bind fun t =>
      (KeepsScope.mapM (whenSubjectArm_keepsScope hr t) _).bind fun _ =>
        (exprOrNil_keepsScope hr _ _).bind fun _ => KeepsScope.pure _

theorem breakJump_keepsScope (value : Option Node) (span : Span) :
    (breakJump r value span).KeepsScope := by
  refine frame_keepsScope.bind fun f => (frameData_keepsScope f).bind fun _ =>
    modes_keepsScope.bind fun _ => ?_
  split
  · split
    · exact (exprOrNil_keepsScope hr _ _).bind fun _ => KeepsScope.pure _
    · exact KeepsScope.fail _ _ _ _
  · exact KeepsScope.fail _ _ _ _

theorem nextJump_keepsScope (value : Option Node) (span : Span) :
    (nextJump r value span).KeepsScope := by
  refine inBlock_keepsScope.bind fun _ => modes_keepsScope.bind fun _ => ?_
  split
  · exact KeepsScope.fail _ _ _ _
  · exact ((exprOrNil_keepsScope hr _ _).withModes _).bind fun _ => KeepsScope.pure _

theorem returnJump_keepsScope (value : Option Node) (span : Span) :
    (returnJump r value span).KeepsScope :=
  frame_keepsScope.bind fun f => (frameData_keepsScope f).bind fun _ =>
    (exprOrNil_keepsScope hr _ _).bind fun _ => KeepsScope.pure _

/-! ## Rescue -/

theorem clauseBody_keepsScope (c : RescueArm Node) (span : Span) : (clauseBody r c span).KeepsScope :=
  (exprOrNil_keepsScope hr _ _).withModes _

theorem rescueList_keepsScope (c : RescueArm Node) (span : Span) (n : Node) :
    (rescueList r c span n).KeepsScope := by
  rw [rescueList_eq_nested]
  fun_induction rescueNested r c span n with
  | case1 _ _ els => exact (exprs_keepsScope hr els).bind fun _ =>
      (clauseBody_keepsScope hr c span).bind fun _ => KeepsScope.pure _
  | case2 _ _ v => exact (hr.expr v).bind fun _ =>
      (clauseBody_keepsScope hr c span).bind fun _ => KeepsScope.pure _
  | case3 _ _ first second ih => exact ih.bind fun _ => (hr.expr second).bind fun _ =>
      (clauseBody_keepsScope hr c span).bind fun _ => KeepsScope.pure _
  | case4 _ _ first second ih => exact ih.bind fun _ => (hr.expr second).bind fun _ =>
      (clauseBody_keepsScope hr c span).bind fun _ => KeepsScope.pure _
  | case5 => exact KeepsScope.fail _ _ _ _

theorem rescueArm_keepsScope (span : Span) (c : RescueArm Node) : (rescueArm r span c).KeepsScope := by
  unfold rescueArm
  split
  · exact rescueList_keepsScope hr c span _
  · exact (clauseBody_keepsScope hr c span).bind fun _ => KeepsScope.pure _

theorem rescue_keepsScope (body : Option Node) (arms : List (RescueArm Node)) (elseBody : Option Node)
    (span : Span) : (rescue r body arms elseBody span).KeepsScope :=
  (exprOrNil_keepsScope hr _ _).bind fun _ => options_keepsScope.bind fun _ =>
    (KeepsScope.mapM (rescueArm_keepsScope hr span) _).bind fun _ =>
      (KeepsScope.optionMapM hr.expr _).bind fun _ => KeepsScope.pure _

/-! ## Units -/

/-- A method pushes its frame and sets it up; its body is lowered in that frame. -/
theorem method_keepsScope (definee : Op) (name : String) (params : Params Node)
    (body : Option Node) (span : Span) : (method r definee name params body span).KeepsScope :=
  allocReturn_keepsScope.bind fun _ => frame_keepsScope.bind fun _ => KeepsScope.pushFrame fun mf =>
    KeepsScope.inFrame ((parameters_keepsScope hr params .method).bind fun ⟨_, _⟩ =>
      (exprOrNil_keepsScope hr body span).bind fun _ => (withPrelude_keepsScope _ _).bind fun _ =>
        (unitHead_keepsScope _ _ _ _).bind fun _ => KeepsScope.pure _) mf

theorem defn_keepsScope (name : String) (params : Params Node) (body : Option Node) (span : Span) :
    (defn r name params body span).KeepsScope :=
  method_keepsScope hr _ _ _ _ _

theorem defs_keepsScope (receiver : Node) (name : String) (params : Params Node)
    (body : Option Node) (span : Span) : (defs r receiver name params body span).KeepsScope :=
  (hr.expr receiver).bind fun _ => (KeepsScope.atSpan _ _).bind fun _ => method_keepsScope hr _ _ _ _ _

/-- A module body pushes its frame and sets it up; the body is lowered in that frame. -/
theorem moduleBody_keepsScope (definee : Op) (name : String) (body : Option Node) (span : Span)
    (singleton : Bool) : (moduleBody r definee name body span singleton).KeepsScope := by
  refine frame_keepsScope.bind fun f => ?_
  extract_lets afterReturn
  have hafterReturn : ∀ ret, (afterReturn ret).KeepsScope := by
    intro ret
    dsimp -zeta only [afterReturn]
    exact KeepsScope.pushFrame fun mf => KeepsScope.inFrame ((exprOrNil_keepsScope hr body span).bind
      fun _ => (withPrelude_keepsScope _ _).bind fun _ => (unitHead_keepsScope _ _ _ _).bind fun _ =>
        KeepsScope.pure _) mf
  split
  · exact (frameData_keepsScope f).bind fun _ => (KeepsScope.pure _).bind hafterReturn
  · exact (allocReturn_keepsScope.map _).bind hafterReturn

/-- A module enters a new lexical scope for its body and leaves it after the body, whether the
body stops or not. -/
theorem openModule_keepsScope (definee : Op) (name : String) (body : Option Node) (span : Span)
    (singleton : Bool) : (openModule r definee name body span singleton).KeepsScope :=
  KeepsScope.lexicalFor (moduleBody_keepsScope hr definee name body span singleton)

theorem classDef_keepsScope (path : ConstPath Node) (superclass body : Option Node) (span : Span) :
    (classDef r path superclass body span).KeepsScope :=
  (constPathModule_keepsScope hr path).bind fun _ => (KeepsScope.optionMapM hr.expr _).bind fun _ =>
    openModule_keepsScope hr _ _ _ _ _

theorem moduleDef_keepsScope (path : ConstPath Node) (body : Option Node) (span : Span) :
    (moduleDef r path body span).KeepsScope :=
  (constPathModule_keepsScope hr path).bind fun _ => openModule_keepsScope hr _ _ _ _ _

/-- A singleton class may switch constant lookup to dynamic for its body, and puts the mode it
found back after the body, whether the body stops or not. -/
theorem sclass_keepsScope (receiver : Node) (body : Option Node) (span : Span) :
    (sclass r receiver body span).KeepsScope := by
  refine (hr.expr receiver).bind fun _ => (KeepsScope.atSpan _ _).bind fun definee =>
    KeepsScope.dynamicFor (fun was p s => ?_)
      (openModule_keepsScope hr definee "singleton class" body span true)
  -- lookup found dynamic stays so; found static, it turns dynamic unless the singleton class is
  -- the top level's or a module's own
  cases was with
  | true => exact ⟨s.env.dynamicConstants, rfl⟩
  | false =>
    rw [if_pos (show (!false) = true from rfl), exec_bind_of_ok rfl, exec_bind_of_ok rfl]
    dsimp only
    split_ifs
    · exact ⟨true, exec_bind_of_ok rfl⟩
    · exact ⟨s.env.dynamicConstants, rfl⟩

theorem methodNameSymbol_keepsScope (n : Node) : (methodNameSymbol r n).KeepsScope := by
  unfold methodNameSymbol
  split
  · exact KeepsScope.pure _
  · exact hr.expr _
  · exact hr.expr _
  · exact KeepsScope.fail _ _ _ _

theorem aliasMethod_keepsScope (newName oldName : Node) (span : Span) :
    (aliasMethod r newName oldName span).KeepsScope :=
  (methodNameSymbol_keepsScope hr oldName).bind fun _ => (methodNameSymbol_keepsScope hr newName).bind
    fun _ => KeepsScope.pure _

theorem undef_keepsScope (name : Node) (span : Span) : (undef r name span).KeepsScope :=
  (methodNameSymbol_keepsScope hr name).bind fun _ => KeepsScope.pure _

end Rules

/-! ## Every node -/

variable {r : Recur}

/-- One node, lowered by the rule of its kind, keeps the scope when the recursive calls do. -/
theorem dispatch_keepsScope (hr : r.KeepsScope) (n : Node) : (dispatch r n).KeepsScope := by
  unfold dispatch
  dsimp only
  split
  · exact conditional_keepsScope hr _ _ _ _ _
  -- every other kind is flagged as a line start after its rule
  have flag : ∀ {x : Lower Op}, x.KeepsScope → (x >>= addNewline n).KeepsScope :=
    fun hx => hx.bind (addNewline_keepsScope n)
  split
  · exact flag (fixnum_keepsScope _ _)
  · exact flag (bignum_keepsScope _ _)
  · exact flag (KeepsScope.pure _)
  · exact flag (rational_keepsScope hr _ _ _)
  · exact flag (complex_keepsScope hr _ _)
  · exact flag (str_keepsScope _ _ _)
  · exact flag (KeepsScope.pure _)
  · exact flag (dstr_keepsScope hr _ _)
  · exact flag (dsymbol_keepsScope hr _ _)
  · exact flag (dxstr_keepsScope hr _ _)
  · exact flag (dregexp_keepsScope hr _ _ _)
  · exact flag (evstr_keepsScope hr _ _)
  · exact flag (KeepsScope.pure _)
  · exact flag (KeepsScope.pure _)
  · exact flag (KeepsScope.pure _)
  · exact flag (KeepsScope.pure _)
  · exact flag (KeepsScope.pure _)
  · exact flag (KeepsScope.pure _)
  · exact flag (KeepsScope.pure _)
  · exact flag (KeepsScope.pure _)
  · exact (exprs_keepsScope hr _).bind fun _ => flag (KeepsScope.pure _)
  · exact flag (hash_keepsScope hr _ _)
  · exact flag (range_keepsScope hr _ _ _ _)
  · exact flag (flipFlop_keepsScope hr _ _ _ _)
  · exact flag (KeepsScope.pure _)
  · exact flag (KeepsScope.pure _)
  · exact flag (matchLastLine_keepsScope hr _ _)
  · exact flag (match2_keepsScope hr _ _ _)
  · exact (hr.expr _).bind fun _ => (hr.expr _).bind fun _ => flag (KeepsScope.pure _)
  · exact (hr.expr _).bind fun _ => flag (KeepsScope.pure _)
  · exact flag (localRead_keepsScope _ _)
  · exact flag (dvarRead_keepsScope _ _ _)
  · exact flag (localAssignment_keepsScope hr _ _ _)
  · exact flag (localAssignment_keepsScope hr _ _ _)
  · exact flag (KeepsScope.pure _)
  · exact (valueOrDead_keepsScope hr _ _).bind fun _ => flag (KeepsScope.pure _)
  · exact classVarScope_keepsScope.bind fun _ => flag (KeepsScope.pure _)
  · exact classVarScope_keepsScope.bind fun _ => (valueOrDead_keepsScope hr _ _).bind fun _ =>
      flag (KeepsScope.pure _)
  · exact flag (KeepsScope.pure _)
  · exact (valueOrDead_keepsScope hr _ _).bind fun _ => flag (KeepsScope.pure _)
  · exact flag (readConst_keepsScope _ _)
  · exact (hr.expr _).bind fun _ => flag (KeepsScope.pure _)
  · exact flag (KeepsScope.pure _)
  · exact (constPathModule_keepsScope hr _).bind fun _ => (valueOrDead_keepsScope hr _ _).bind
      fun _ => flag (KeepsScope.pure _)
  · exact flag (call_keepsScope hr _ _ _ _ _ _)
  · exact flag (fcall_keepsScope hr _ _ _ _)
  · exact flag (vcall_keepsScope _ _)
  · exact flag (attrAssign_keepsScope hr _ _ _ _ _)
  · exact flag (superCall_keepsScope hr _ _ _)
  · exact flag (zsuper_keepsScope hr _ _)
  · exact flag (yieldCall_keepsScope hr _ _)
  · exact (hr.expr _).bind fun _ => flag (KeepsScope.pure _)
  · exact flag (lambda_keepsScope hr _)
  · exact (hr.expr _).bind fun _ => flag (KeepsScope.pure _)
  · exact flag (argsCat_keepsScope hr _ _ _)
  · exact flag (argsPush_keepsScope hr _ _ _)
  · exact flag (hr.expr _)
  · exact flag (KeepsScope.pure _)
  · exact flag (exprOrNil_keepsScope hr _ _)
  · exact (exprs_keepsScope hr _).bind fun _ => flag (KeepsScope.pure _)
  · exact flag (exprOrNil_keepsScope hr _ _)
  · exact flag (postExe_keepsScope hr _ _)
  · exact flag (conditional_keepsScope hr _ _ _ _ _)
  · exact (hr.expr _).bind fun _ => (hr.expr _).bind fun _ => flag (KeepsScope.pure _)
  · exact (hr.expr _).bind fun _ => (hr.expr _).bind fun _ => flag (KeepsScope.pure _)
  · exact flag (loop_keepsScope hr _ _ _ _ _)
  · exact flag (loop_keepsScope hr _ _ _ _ _)
  · exact flag (forLoop_keepsScope hr _ _ _ _)
  · exact flag (caseWhen_keepsScope hr _ _ _ _)
  · exact flag (breakJump_keepsScope hr _ _)
  · exact flag (nextJump_keepsScope hr _ _)
  · exact flag (redo_keepsScope _)
  · exact flag (retry_keepsScope _)
  · exact flag (returnJump_keepsScope hr _ _)
  · exact flag (rescue_keepsScope hr _ _ _ _)
  · exact (exprOrNil_keepsScope hr _ _).bind fun _ => (exprOrNil_keepsScope hr _ _).bind fun _ =>
      flag (KeepsScope.pure _)
  · exact flag (opAsgn_keepsScope hr _ _ _ _ _ _)
  · exact flag (opAsgnAnd_keepsScope hr _ _ _)
  · exact flag (opAsgnOr_keepsScope hr _ _ _)
  · exact flag (opElementAsgn_keepsScope hr _ _ _ _ _)
  · exact flag (opAsgnConstDecl_keepsScope hr _ _ _ _)
  · exact flag (multipleAssignment_keepsScope hr _)
  · exact flag (defn_keepsScope hr _ _ _ _)
  · exact flag (defs_keepsScope hr _ _ _ _ _)
  · exact flag (classDef_keepsScope hr _ _ _ _)
  · exact flag (moduleDef_keepsScope hr _ _ _)
  · exact flag (sclass_keepsScope hr _ _ _)
  · exact flag (aliasMethod_keepsScope hr _ _ _)
  · exact flag (KeepsScope.pure _)
  · exact flag (undef_keepsScope hr _ _)
  · exact flag (KeepsScope.fail _ _ _ _)
  · exact flag (KeepsScope.fail _ _ _ _)
  · exact flag (KeepsScope.fail _ _ _ _)

/-- The rules tied together at any fuel keep the scope; at fuel `0` every call stops at once. -/
theorem recurAt_keepsScope : ∀ fuel, (recurAt fuel).KeepsScope
  | 0 => ⟨fun _ => KeepsScope.throw _, fun _ _ => KeepsScope.throw _⟩
  | fuel + 1 =>
    have ih := recurAt_keepsScope fuel
    ⟨dispatch_keepsScope ih, target_keepsScope ih⟩

/-- Lowering a node, from any place and any progress, leaves the scope of the body it stands in
as it found it, whether it gives a result or stops: every frame is still there with the break id
it had, and the current lexical scope and the constant lookup mode are the ones it started with.
What it reads of the place (the frame, the modes, the frame markers) it cannot change. -/
theorem lower_restoresScope (n : Node) (p : Place) (s : Progress) :
    let e' := ((lower n).exec p s).2.env
    s.env.frames.size ≤ e'.frames.size ∧
      (∀ id < s.env.frames.size, (e'.frame id).breakId = (s.env.frame id).breakId) ∧
      e'.currentLexical = s.env.currentLexical ∧ e'.dynamicConstants = s.env.dynamicConstants :=
  have h := (recurAt_keepsScope (n.height + 1)).expr n p s
  ⟨h.size, h.breaks, h.lexical, h.dynamic⟩

end Lower

end RubyLower
