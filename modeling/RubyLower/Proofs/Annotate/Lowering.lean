import RubyLower.Proofs.Annotate.Rules

/-!
# The whole lowering runs alike under annotating options

The rules for control flow, rescue and the units (methods, classes, modules and singleton
classes) run alike when the recursive calls do, like those of `Annotate.Rules`. Two rules read
an annotating option: a line-start condition registers its line for coverage
(`Lower.markLineStart`), and a rescue may skip building the backtrace, which only sets the try's
backtrace flag (`Lower.rescue_alike`).

`Lower.dispatch_alike` takes each kind of node to its rule and flags the result as a line start
alike on both sides; `Lower.recurAt_alike` closes the recursion by induction on the fuel. So
lowering any node, and the top-level unit of a program, runs alike (`Lower.lower_alike`,
`Lower.program_alike`).
-/

namespace RubyLower

/-! ## Rescue clauses alike -/

/-- Two rescue clauses, lowered with coverage `c` and `c'`, differ only in their annotations. -/
structure RescueClause.Alike (c c' : Bool) (cl cl' : RescueClause Op) : Prop where
  plain : cl.map Op.plain = cl'.map Op.plain
  left : ∀ x ∈ cl.children, x.CoverageMarks c
  right : ∀ y ∈ cl'.children, y.CoverageMarks c'

namespace RescueClause.Alike

variable {c c' : Bool} {b b' : Op}

theorem any (hb : Op.Alike c c' b b') : RescueClause.Alike c c' ⟨.any, b⟩ ⟨.any, b'⟩ :=
  ⟨by simp [RescueClause.map, RescueGuard.map, hb.plain],
    by simpa [RescueClause.children] using hb.left,
    by simpa [RescueClause.children] using hb.right⟩

theorem classes {cs cs' : List Op} (hcs : List.Forall₂ (Op.Alike c c') cs cs')
    (hb : Op.Alike c c' b b') : RescueClause.Alike c c' ⟨.classes cs, b⟩ ⟨.classes cs', b'⟩ := by
  have h := Op.forall₂_alike_iff.1 hcs
  refine ⟨by simp [RescueClause.map, RescueGuard.map, h.1, hb.plain], ?_, ?_⟩
  · simp only [RescueClause.children, List.forall_mem_append, List.forall_mem_singleton]
    exact ⟨h.2.1, hb.left⟩
  · simp only [RescueClause.children, List.forall_mem_append, List.forall_mem_singleton]
    exact ⟨h.2.2, hb.right⟩

theorem splat {l l' : Op} (hl : Op.Alike c c' l l') (hb : Op.Alike c c' b b') :
    RescueClause.Alike c c' ⟨.splat l, b⟩ ⟨.splat l', b'⟩ :=
  ⟨by simp [RescueClause.map, RescueGuard.map, hl.plain, hb.plain],
    by simp [RescueClause.children, hl.left, hb.left],
    by simp [RescueClause.children, hl.right, hb.right]⟩

end RescueClause.Alike

namespace Op.Alike

variable {c c' : Bool}

/-- Tries with alike bodies, clauses and else parts are alike, whether each builds its
backtrace or not. -/
theorem tryRescue {b b' : Op} (hb : Alike c c' b b') {rs rs' : List (RescueClause Op)}
    (hrs : List.Forall₂ (RescueClause.Alike c c') rs rs') {e e' : Option Op}
    (he : Option.Rel (Alike c c') e e') (skip skip' : Bool) :
    Alike c c' (Op.ofForm (.tryRescue b rs e skip)) (Op.ofForm (.tryRescue b' rs' e' skip')) := by
  -- the clauses and the else part, plain alike and flagged as their lowerings flag
  have hclauses : rs.map (RescueClause.map Op.plain) = rs'.map (RescueClause.map Op.plain) ∧
      (∀ x ∈ rs.flatMap RescueClause.children, x.CoverageMarks c) ∧
      ∀ y ∈ rs'.flatMap RescueClause.children, y.CoverageMarks c' := by
    induction hrs with
    | nil => simp
    | cons hcl _ ih =>
      refine ⟨by rw [List.map_cons, List.map_cons, hcl.plain, ih.1], ?_, ?_⟩
      · simp only [List.flatMap_cons, List.forall_mem_append]
        exact ⟨hcl.left, ih.2.1⟩
      · simp only [List.flatMap_cons, List.forall_mem_append]
        exact ⟨hcl.right, ih.2.2⟩
  have helse : e.map Op.plain = e'.map Op.plain ∧ (∀ x ∈ e.toList, x.CoverageMarks c) ∧
      ∀ y ∈ e'.toList, y.CoverageMarks c' := by
    cases he with
    | none => simp
    | some h => simp [h.plain, h.left, h.right]
  refine ofForm ?_ ?_ ?_
  · simp only [Form.plain, Form.map, Form.tracing, hb.plain, hclauses.1, helse.1]
  · simp only [Form.children, List.forall_mem_cons, List.forall_mem_append]
    exact ⟨⟨hb.left, hclauses.2.1⟩, helse.2.1⟩
  · simp only [Form.children, List.forall_mem_cons, List.forall_mem_append]
    exact ⟨⟨hb.right, hclauses.2.2⟩, helse.2.2⟩

end Op.Alike

/-- Two executable units, lowered with coverage `c` and `c'`, differ only in their annotations:
the same head, and alike bodies. -/
structure ExecUnit.Alike (c c' : Bool) (u u' : ExecUnit) : Prop where
  head : u'.head = u.head
  body : Op.Alike c c' u.body u'.body

namespace Lower

variable {c c' : Bool}

section Rules

variable {r : Recur} (hr : r.Alike c c')
include hr

/-! ## Control flow -/

/-- A line-start condition is flagged, and its line registered when coverage is on, alike on
both sides. -/
theorem conditional_alike (condition : Node) (thenBody elseBody : Option Node) (span : Span)
    (lineStart : Bool) :
    Alike c c' (Op.Alike c c') (conditional r condition thenBody elseBody span lineStart)
      (conditional r condition thenBody elseBody span lineStart) := by
  refine (hr.expr condition).bind fun _ _ hcond => ?_
  extract_lets afterCondition
  have hafterCondition : ∀ x x', Op.Alike c c' x x' →
      Alike c c' (Op.Alike c c') (afterCondition x) (afterCondition x') := by
    intro x x' hx
    dsimp -zeta only [afterCondition]
    refine (Alike.optionMapM hr.expr _).bind fun t t' ht =>
      (Alike.optionMapM hr.expr _).bind fun e e' he => ?_
    cases ht with
    | none =>
      cases he with
      | none =>
        exact Alike.pure ((Op.Alike.sequence (.cons hx (.cons Op.Alike.refl_nil .nil))).ensureSpan span)
      | some he =>
        exact atSpan_alike (.ofPairs (.unlessThen (_, _) (_, _)) (Op.Alike.children₂ hx he)) span
    | some ht =>
      cases he with
      | none =>
        exact atSpan_alike (.ofPairs (.ifThen (_, _) (_, _)) (Op.Alike.children₂ hx ht)) span
      | some he => exact atSpan_alike (Op.Alike.ifElse hx ht he) span
  split
  · exact (markLineStart_alike hcond span).bind hafterCondition
  · exact (Alike.pure hcond).bind hafterCondition

/-- A loop's condition and body alike give alike loops; its break id and frames are the same on
both sides. -/
theorem loop_alike (condition : Node) (body : Option Node) (testFirst isUntil : Bool)
    (span : Span) :
    Alike c c' (Op.Alike c c') (loop r condition body testFirst isUntil span)
      (loop r condition body testFirst isUntil span) :=
  (hr.expr condition).bind fun _ _ hcond => allocBreak_alike.bind_eq fun breakId =>
    frame_alike.bind_eq fun f => (frameData_alike f).bind_eq fun _ =>
      (modifyFrame_alike f _).bind_eq fun _ =>
        (Alike.restoring (((exprOrNil_alike hr body span).withMarker none).withModes _)
          ((modifyFrame_alike f _).mono fun _ _ _ => trivial)).bind fun _ _ hb =>
            atSpan_alike (.ofPairs (.catchBreak breakId true (_, _)) (Op.Alike.children₁
              (.ofPairs (.whileLoop _ (_, _) (_, _)) (Op.Alike.children₂
                (Op.Alike.ite _ (Op.Alike.not hcond) hcond) hb)))) span

theorem forLoop_alike (var iter : Node) (body : Option Node) (span : Span) :
    Alike c c' (Op.Alike c c') (forLoop r var iter body span) (forLoop r var iter body span) :=
  (hr.expr iter).bind fun _ _ hrecv => (finishCall_alike hr hrecv _ .nil _ _ _ _).withModes _

/-- The arms of a `case`, condition and body alike. -/
abbrev ArmsAlike (c c' : Bool) (x y : Op × Op) : Prop :=
  Op.Alike c c' x.1 y.1 ∧ Op.Alike c c' x.2 y.2

theorem whenArm_alike (w : WhenArm Node) :
    Alike c c' (ArmsAlike c c') (whenArm r w) (whenArm r w) := by
  refine (hr.expr _).bind fun _ _ hp => ?_
  have rest : ∀ x x', Op.Alike c c' x x' → Alike c c' (ArmsAlike c c')
      (do return (x, ← exprOrNil r w.body w.span) : Lower (Op × Op))
      (do return (x', ← exprOrNil r w.body w.span)) :=
    fun _ _ hx => (exprOrNil_alike hr _ _).bind fun _ _ hb => Alike.pure ⟨hx, hb⟩
  dsimp only
  split
  · exact (atSpan_alike (Op.Alike.object_self _) _).bind fun _ _ hi =>
      (atSpan_alike (Op.Alike.call hi (.cons hp .nil) _ _) _).bind rest
  · exact (Alike.pure hp).bind rest

theorem whenSubjectArm_alike (subject : Slot) (w : WhenArm Node) :
    Alike c c' (ArmsAlike c c') (whenSubjectArm r subject w) (whenSubjectArm r subject w) := by
  refine (hr.expr _).bind fun _ _ hp => ?_
  have rest : ∀ x x', Op.Alike c c' x x' → Alike c c' (ArmsAlike c c')
      (do let c ← atSpan x w.span; return (c, ← exprOrNil r w.body w.span) : Lower (Op × Op))
      (do let c ← atSpan x' w.span; return (c, ← exprOrNil r w.body w.span)) :=
    fun _ _ hx => (atSpan_alike hx _).bind fun _ _ hc => (exprOrNil_alike hr _ _).bind
      fun _ _ hb => Alike.pure ⟨hc, hb⟩
  dsimp only
  split
  · exact (atSpan_alike (Op.Alike.object_self _) _).bind fun _ _ hi =>
      (Alike.pure (Op.Alike.call hi (.cons hp (.cons (Op.Alike.readLocal_self _) .nil)) _ _)).bind rest
  · exact (Alike.pure (Op.Alike.call hp (.cons (Op.Alike.readLocal_self _) .nil) _ _)).bind rest

theorem caseWhen_alike (subject : Option Node) (whens : List (WhenArm Node))
    (elseBody : Option Node) (span : Span) :
    Alike c c' (Op.Alike c c') (caseWhen r subject whens elseBody span)
      (caseWhen r subject whens elseBody span) := by
  unfold caseWhen
  cases subject with
  | none =>
    exact (Alike.mapM_same (whenArm_alike hr) _).bind fun _ _ harms =>
      (exprOrNil_alike hr _ _).bind fun _ _ ho =>
        Alike.pure ((chainArms_alike harms ho).ensureSpan span)
  | some s =>
    exact (hr.expr s).bind fun _ _ hs => (temp_alike _).bind_eq fun t =>
      (Alike.mapM_same (whenSubjectArm_alike hr t) _).bind fun _ _ harms =>
        (exprOrNil_alike hr _ _).bind fun _ _ ho => Alike.pure ((Op.Alike.sequence
          (.cons (Op.Alike.writeLocal hs t) (.cons (chainArms_alike harms ho) .nil))).ensureSpan span)

theorem breakJump_alike (value : Option Node) (span : Span) :
    Alike c c' (Op.Alike c c') (breakJump r value span) (breakJump r value span) := by
  refine frame_alike.bind_eq fun f => (frameData_alike f).bind_eq fun _ =>
    modes_alike.bind_eq fun _ => ?_
  split
  · split
    · exact (exprOrNil_alike hr _ _).bind fun _ _ hv =>
        atSpan_alike (.ofPairs (.breakJump _ _ (_, _)) (Op.Alike.children₁ hv)) span
    · exact Alike.fail _ _ _ _
  · exact Alike.fail _ _ _ _

theorem nextJump_alike (value : Option Node) (span : Span) :
    Alike c c' (Op.Alike c c') (nextJump r value span) (nextJump r value span) := by
  refine inBlock_alike.bind_eq fun _ => modes_alike.bind_eq fun _ => ?_
  split
  · exact Alike.fail _ _ _ _
  · exact ((exprOrNil_alike hr _ _).withModes _).bind fun _ _ hv =>
      atSpan_alike (.ofPairs (.nextJump (_, _)) (Op.Alike.children₁ hv)) span

theorem returnJump_alike (value : Option Node) (span : Span) :
    Alike c c' (Op.Alike c c') (returnJump r value span) (returnJump r value span) :=
  frame_alike.bind_eq fun f => (frameData_alike f).bind_eq fun _ =>
    (exprOrNil_alike hr _ _).bind fun _ _ hv =>
      atSpan_alike (.ofPairs (.returnJump _ _ (_, _)) (Op.Alike.children₁ hv)) span

/-! ## Rescue -/

theorem clauseBody_alike (arm : RescueArm Node) (span : Span) :
    Alike c c' (Op.Alike c c') (clauseBody r arm span) (clauseBody r arm span) :=
  (exprOrNil_alike hr _ _).withModes _

theorem rescueList_alike (arm : RescueArm Node) (span : Span) (n : Node) :
    Alike c c' (List.Forall₂ (RescueClause.Alike c c')) (rescueList r arm span n)
      (rescueList r arm span n) := by
  rw [rescueList_eq_nested]
  fun_induction rescueNested r arm span n with
  | case1 _ _ els =>
    exact (exprs_alike hr els).bind fun _ _ hcs => (clauseBody_alike hr arm span).bind
      fun _ _ hb => Alike.pure (.cons (.classes hcs hb) .nil)
  | case2 _ _ v =>
    exact (hr.expr v).bind fun _ _ hl => (clauseBody_alike hr arm span).bind
      fun _ _ hb => Alike.pure (.cons (.splat hl hb) .nil)
  | case3 _ _ first second ih =>
    exact ih.bind fun _ _ hbefore => (hr.expr second).bind fun _ _ hl =>
      (clauseBody_alike hr arm span).bind fun _ _ hb =>
        Alike.pure (List.rel_append hbefore (.cons (.splat hl hb) .nil))
  | case4 _ _ first second ih =>
    exact ih.bind fun _ _ hbefore => (hr.expr second).bind fun _ _ hcl =>
      (clauseBody_alike hr arm span).bind fun _ _ hb =>
        Alike.pure (List.rel_append hbefore (.cons (.classes (.cons hcl .nil) hb) .nil))
  | case5 => exact Alike.fail _ _ _ _

theorem rescueArm_alike (span : Span) (arm : RescueArm Node) :
    Alike c c' (List.Forall₂ (RescueClause.Alike c c')) (rescueArm r span arm)
      (rescueArm r span arm) := by
  unfold rescueArm
  split
  · exact rescueList_alike hr arm span _
  · exact (clauseBody_alike hr arm span).bind fun _ _ hb => Alike.pure (.cons (.any hb) .nil)

/-- Whether a try skips its backtrace reads an annotating option, and only sets the try's flag,
which alike trees may differ in. -/
theorem rescue_alike (body : Option Node) (arms : List (RescueArm Node)) (elseBody : Option Node)
    (span : Span) :
    Alike c c' (Op.Alike c c') (rescue r body arms elseBody span) (rescue r body arms elseBody span) :=
  (exprOrNil_alike hr _ _).bind fun _ _ hb => options_alike.bind fun _ _ _ =>
    (Alike.mapM_same (rescueArm_alike hr span) _).bind fun _ _ hcl =>
      (Alike.optionMapM hr.expr _).bind fun _ _ he =>
        atSpan_alike (Op.Alike.tryRescue (.ofPairs (.exceptionTranslating (_, _))
          (Op.Alike.children₁ hb)) (List.rel_flatten hcl) he _ _) span

/-! ## Units -/

/-- A method's body is lowered in a frame of its own; alike definees give alike definitions. -/
theorem method_alike {definee definee' : Op} (hd : Op.Alike c c' definee definee') (name : String)
    (params : Params Node) (body : Option Node) (span : Span) :
    Alike c c' (Op.Alike c c') (method r definee name params body span)
      (method r definee' name params body span) :=
  allocReturn_alike.bind_eq fun returnId => frame_alike.bind_eq fun _ => (onEnv_alike _).bind_eq
    fun mf => (modifyFrame_alike _ _).bind_eq fun _ => Alike.inFrame
      ((parameters_alike hr params .method).bind_relSnd fun _ _ _ hpre =>
        (exprOrNil_alike hr body span).bind fun _ _ hb =>
          (withPrelude_alike hpre (.ofPairs (.catchReturn returnId (_, _)) (Op.Alike.children₁ hb))).bind
            fun _ _ hbody => (unitHead_alike _ _ _ _).bind_eq fun head =>
              atSpan_alike (.ofPairs (.methodDef (_, _) head (_, _)) (Op.Alike.children₂ hd hbody))
                span) mf

theorem defn_alike (name : String) (params : Params Node) (body : Option Node) (span : Span) :
    Alike c c' (Op.Alike c c') (defn r name params body span) (defn r name params body span) :=
  method_alike hr defaultDefinee_alike _ _ _ _

theorem defs_alike (receiver : Node) (name : String) (params : Params Node) (body : Option Node)
    (span : Span) :
    Alike c c' (Op.Alike c c') (defs r receiver name params body span)
      (defs r receiver name params body span) :=
  (hr.expr receiver).bind fun _ _ hobj => (atSpan_alike (.ofPairs (.singletonClass (_, _))
    (Op.Alike.children₁ hobj)) span).bind fun _ _ hd => method_alike hr hd _ _ _ _

theorem moduleBody_alike {definee definee' : Op} (hd : Op.Alike c c' definee definee')
    (name : String) (body : Option Node) (span : Span) (singleton : Bool) :
    Alike c c' (Op.Alike c c') (moduleBody r definee name body span singleton)
      (moduleBody r definee' name body span singleton) := by
  refine frame_alike.bind_eq fun f => ?_
  extract_lets afterReturn afterReturn'
  have hafterReturn : ∀ ret, Alike c c' (Op.Alike c c') (afterReturn ret) (afterReturn' ret) := by
    intro ret
    dsimp -zeta only [afterReturn, afterReturn']
    exact (onEnv_alike _).bind_eq fun mf => (modifyFrame_alike _ _).bind_eq fun _ =>
      Alike.inFrame ((exprOrNil_alike hr body span).bind fun _ _ hb =>
        (atSpan_alike (.ofPairs (.insideModule (_, _)) (Op.Alike.children₁ hb)) span).bind
          fun _ _ hm => (withPrelude_alike .nil hm).bind fun _ _ hbody =>
            (unitHead_alike _ _ _ _).bind_eq fun head => atSpan_alike (.ofPairs
              (.runModuleBody (_, _) head (_, _)) (Op.Alike.children₂ hd hbody)) span) mf
  split
  · exact (frameData_alike f).bind_eq fun _ => (Alike.pure rfl).bind_eq hafterReturn
  · exact (allocReturn_alike.map fun _ _ h => congrArg some h).bind_eq hafterReturn

theorem openModule_alike {definee definee' : Op} (hd : Op.Alike c c' definee definee')
    (name : String) (body : Option Node) (span : Span) (singleton : Bool) :
    Alike c c' (Op.Alike c c') (openModule r definee name body span singleton)
      (openModule r definee' name body span singleton) :=
  (onEnv_alike _).bind_eq fun _ => Alike.restoring (moduleBody_alike hr hd name body span singleton)
    ((modifyEnv_alike _).mono fun _ _ _ => trivial)

theorem classDef_alike (path : ConstPath Node) (superclass body : Option Node) (span : Span) :
    Alike c c' (Op.Alike c c') (classDef r path superclass body span)
      (classDef r path superclass body span) := by
  refine (constPathModule_alike hr path).bind fun _ _ hp => (Alike.optionMapM hr.expr _).bind
    fun _ _ hs => openModule_alike hr ?_ _ _ _ _
  cases hs with
  | none => exact .ofPairs (.defineClass (_, _) _ none) (Op.Alike.children₁ hp)
  | some h => exact .ofPairs (.defineClass (_, _) _ (some (_, _))) (Op.Alike.children₂ hp h)

theorem moduleDef_alike (path : ConstPath Node) (body : Option Node) (span : Span) :
    Alike c c' (Op.Alike c c') (moduleDef r path body span) (moduleDef r path body span) :=
  (constPathModule_alike hr path).bind fun _ _ hp =>
    openModule_alike hr (.ofPairs (.defineModule (_, _) _) (Op.Alike.children₁ hp)) _ _ _ _

theorem sclass_alike (receiver : Node) (body : Option Node) (span : Span) :
    Alike c c' (Op.Alike c c') (sclass r receiver body span) (sclass r receiver body span) := by
  refine (hr.expr receiver).bind fun _ _ hobj => (atSpan_alike (.ofPairs (.singletonClass (_, _))
    (Op.Alike.children₁ hobj)) span).bind fun _ _ hd => isDynamic_alike.bind_eq fun was => ?_
  extract_lets afterMode ofSelf afterMode'
  have hafterMode : ∀ u, Alike c c' (Op.Alike c c') (afterMode u) (afterMode' u) := by
    intro u
    dsimp -zeta only [afterMode, afterMode']
    exact Alike.restoring (openModule_alike hr hd _ _ _ _)
      ((onEnv_alike _).bind_eq fun _ => Alike.pure trivial)
  split
  · refine frame_alike.bind_eq fun f => (frameData_alike f).bind_eq fun _ => ?_
    dsimp only
    split
    · exact (onEnv_alike _).bind_eq fun _ => hafterMode ()
    · exact hafterMode ()
  · exact hafterMode ()

theorem methodNameSymbol_alike (n : Node) :
    Alike c c' (Op.Alike c c') (methodNameSymbol r n) (methodNameSymbol r n) := by
  unfold methodNameSymbol
  split
  · exact atSpan_alike (Op.Alike.symbol_self _) _
  · exact hr.expr _
  · exact hr.expr _
  · exact Alike.fail _ _ _ _

theorem aliasMethod_alike (newName oldName : Node) (span : Span) :
    Alike c c' (Op.Alike c c') (aliasMethod r newName oldName span)
      (aliasMethod r newName oldName span) :=
  (methodNameSymbol_alike hr oldName).bind fun _ _ ho => (methodNameSymbol_alike hr newName).bind
    fun _ _ hn => atSpan_alike (.ofPairs (.aliasMethod (_, _) (_, _) (_, _))
      (Op.Alike.children₃ defaultDefinee_alike hn ho)) span

theorem undef_alike (name : Node) (span : Span) :
    Alike c c' (Op.Alike c c') (undef r name span) (undef r name span) :=
  (methodNameSymbol_alike hr name).bind fun _ _ hn => atSpan_alike (.ofPairs
    (.undefMethod (_, _) (_, _)) (Op.Alike.children₂ defaultDefinee_alike hn)) span

end Rules

/-! ## Every node -/

variable {r : Recur}

/-- One node, lowered by the rule of its kind, runs alike when the recursive calls do. -/
theorem dispatch_alike (hr : r.Alike c c') (n : Node) :
    Alike c c' (Op.Alike c c') (dispatch r n) (dispatch r n) := by
  unfold dispatch
  dsimp only
  split
  · exact conditional_alike hr _ _ _ _ _
  -- every other kind is flagged as a line start after its rule
  have flag : ∀ {x y : Lower Op}, Alike c c' (Op.Alike c c') x y →
      Alike c c' (Op.Alike c c') (x >>= addNewline n) (y >>= addNewline n) :=
    fun hx => hx.bind fun _ _ h => addNewline_alike n h
  have leaf : ∀ f : Form Op, f.children = [] →
      Alike c c' (Op.Alike c c') (atSpan (Op.ofForm f) n.span) (atSpan (Op.ofForm f) n.span) :=
    fun f hf => atSpan_alike (.leaf f hf) _
  split
  · exact flag (fixnum_alike _ _)
  · exact flag (bignum_alike _ _)
  · exact flag (leaf _ rfl)
  · exact flag (rational_alike hr _ _ _)
  · exact flag (complex_alike hr _ _)
  · exact flag (str_alike _ _ _)
  · exact flag (command_alike (.leaf _ rfl) _)
  · exact flag (dstr_alike hr _ _)
  · exact flag (dsymbol_alike hr _ _)
  · exact flag (dxstr_alike hr _ _)
  · exact flag (dregexp_alike hr _ _ _)
  · exact flag (evstr_alike hr _ _)
  · exact flag (atSpan_alike (Op.Alike.symbol_self _) _)
  · exact flag (atSpan_alike (Op.Alike.object_self _) _)
  · exact flag (leaf _ rfl)
  · exact flag (leaf _ rfl)
  · exact flag (leaf _ rfl)
  · exact flag (leaf _ rfl)
  · exact flag (leaf _ rfl)
  · exact flag (leaf _ rfl)
  · exact (exprs_alike hr _).bind fun _ _ h => flag (atSpan_alike (arrayLit_alike h) _)
  · exact flag (hash_alike hr _ _)
  · exact flag (range_alike hr _ _ _ _)
  · exact flag (flipFlop_alike hr _ _ _ _)
  · exact flag (leaf _ rfl)
  · exact flag (leaf _ rfl)
  · exact flag (matchLastLine_alike hr _ _)
  · exact flag (match2_alike hr _ _ _)
  · exact (hr.expr _).bind fun _ _ ha => (hr.expr _).bind fun _ _ hb =>
      flag (atSpan_alike (Op.Alike.call ha (.cons hb .nil) _ _) _)
  · exact (hr.expr _).bind fun _ _ h =>
      flag (atSpan_alike (.ofPairs (.defined (_, _)) (Op.Alike.children₁ h)) _)
  · exact flag (localRead_alike _ _)
  · exact flag (dvarRead_alike _ _ _)
  · exact flag (localAssignment_alike hr _ _ _)
  · exact flag (localAssignment_alike hr _ _ _)
  · exact flag (leaf _ rfl)
  · exact (valueOrDead_alike hr _ _).bind fun _ _ h =>
      flag (atSpan_alike (.ofPairs (.writeIvar _ (_, _)) (Op.Alike.children₁ h)) _)
  · exact classVarScope_alike.bind fun _ _ h =>
      flag (atSpan_alike (.ofPairs (.readCvar (_, _) _) (Op.Alike.children₁ h)) _)
  · exact classVarScope_alike.bind fun _ _ hs => (valueOrDead_alike hr _ _).bind fun _ _ hv =>
      flag (atSpan_alike (.ofPairs (.writeCvar (_, _) _ (_, _)) (Op.Alike.children₂ hs hv)) _)
  · exact flag (leaf _ rfl)
  · exact (valueOrDead_alike hr _ _).bind fun _ _ h =>
      flag (atSpan_alike (.ofPairs (.writeGlobal _ (_, _)) (Op.Alike.children₁ h)) _)
  · exact flag (readConst_alike _ _)
  · exact (hr.expr _).bind fun _ _ h =>
      flag (atSpan_alike (.ofPairs (.readConst (_, _) _) (Op.Alike.children₁ h)) _)
  · exact flag (atSpan_alike (.ofPairs (.readConst (_, _) _)
      (Op.Alike.children₁ (Op.Alike.object_self _))) _)
  · exact (constPathModule_alike hr _).bind fun _ _ hm => (valueOrDead_alike hr _ _).bind
      fun _ _ hv =>
        flag (atSpan_alike (.ofPairs (.writeConst (_, _) _ (_, _)) (Op.Alike.children₂ hm hv)) _)
  · exact flag (call_alike hr _ _ _ _ _ _)
  · exact flag (fcall_alike hr _ _ _ _)
  · exact flag (vcall_alike _ _)
  · exact flag (attrAssign_alike hr _ _ _ _ _)
  · exact flag (superCall_alike hr _ _ _)
  · exact flag (zsuper_alike hr _ _)
  · exact flag (yieldCall_alike hr _ _)
  · exact (hr.expr _).bind fun _ _ h =>
      flag (atSpan_alike (.ofPairs (.toProc (_, _)) (Op.Alike.children₁ h)) _)
  · exact flag (lambda_alike hr _)
  · exact (hr.expr _).bind fun _ _ h =>
      flag (atSpan_alike (.ofPairs (.splatCast _ _ _ (_, _)) (Op.Alike.children₁ h)) _)
  · exact flag (argsCat_alike hr _ _ _)
  · exact flag (argsPush_alike hr _ _ _)
  · exact flag (hr.expr _)
  · exact flag (leaf _ rfl)
  · exact flag (exprOrNil_alike hr _ _)
  · exact (exprs_alike hr _).bind fun _ _ h =>
      flag (Alike.pure ((Op.Alike.sequence h).ensureSpan _))
  · exact flag (exprOrNil_alike hr _ _)
  · exact flag (postExe_alike hr _ _)
  · exact flag (conditional_alike hr _ _ _ _ _)
  · exact (hr.expr _).bind fun _ _ ha => (hr.expr _).bind fun _ _ hb =>
      flag (atSpan_alike (.ofPairs (.and (_, _) (_, _)) (Op.Alike.children₂ ha hb)) _)
  · exact (hr.expr _).bind fun _ _ ha => (hr.expr _).bind fun _ _ hb =>
      flag (atSpan_alike (.ofPairs (.or (_, _) (_, _)) (Op.Alike.children₂ ha hb)) _)
  · exact flag (loop_alike hr _ _ _ _ _)
  · exact flag (loop_alike hr _ _ _ _ _)
  · exact flag (forLoop_alike hr _ _ _ _)
  · exact flag (caseWhen_alike hr _ _ _ _)
  · exact flag (breakJump_alike hr _ _)
  · exact flag (nextJump_alike hr _ _)
  · exact flag (redo_alike _)
  · exact flag (retry_alike _)
  · exact flag (returnJump_alike hr _ _)
  · exact flag (rescue_alike hr _ _ _ _)
  · exact (exprOrNil_alike hr _ _).bind fun _ _ ha => (exprOrNil_alike hr _ _).bind fun _ _ hb =>
      flag (atSpan_alike (.ofPairs (.ensure (_, _) (_, _)) (Op.Alike.children₂ ha hb)) _)
  · exact flag (opAsgn_alike hr _ _ _ _ _ _)
  · exact flag (opAsgnAnd_alike hr _ _ _)
  · exact flag (opAsgnOr_alike hr _ _ _)
  · exact flag (opElementAsgn_alike hr _ _ _ _ _)
  · exact flag (opAsgnConstDecl_alike hr _ _ _ _)
  · exact flag (multipleAssignment_alike hr _)
  · exact flag (defn_alike hr _ _ _ _)
  · exact flag (defs_alike hr _ _ _ _ _)
  · exact flag (classDef_alike hr _ _ _ _)
  · exact flag (moduleDef_alike hr _ _ _)
  · exact flag (sclass_alike hr _ _ _)
  · exact flag (aliasMethod_alike hr _ _ _)
  · exact flag (leaf _ rfl)
  · exact flag (undef_alike hr _ _)
  · exact flag (Alike.fail _ _ _ _)
  · exact flag (Alike.fail _ _ _ _)
  · exact flag (Alike.fail _ _ _ _)

/-- The rules tied together at any fuel run alike; at fuel `0` every call stops at once. -/
theorem recurAt_alike : ∀ fuel, (recurAt fuel).Alike c c'
  | 0 => ⟨fun _ => Alike.throw _, fun _ _ _ _ => Alike.throw _⟩
  | fuel + 1 =>
    have ih := recurAt_alike fuel
    ⟨dispatch_alike ih, fun n _ _ hv => target_alike ih n hv⟩

/-- Lowering a node runs alike under options that differ only in their annotations. -/
theorem lower_alike (n : Node) : Alike c c' (Op.Alike c c') (lower n) (lower n) :=
  (recurAt_alike (n.height + 1)).expr n

/-- The top-level unit of a program: the same head, and a body alike. -/
theorem program_alike (root : Option Node) :
    Alike c c' (ExecUnit.Alike c c') (program root) (program root) := by
  refine (modifyFrame_alike 0 _).bind_eq fun _ => (frameData_alike 0).bind_eq fun _ =>
    lexicalScope_alike.bind_eq fun _ => ?_
  dsimp only
  -- the body is the program's lowering or nil; the unit around it is built alike either way
  cases root <;> refine Alike.bind (R := Op.Alike c c') ?_ fun _ _ hb =>
    (withPrelude_alike .nil (.ofPairs (.catchReturn _ (_, _)) (Op.Alike.children₁ hb))).bind
      fun _ _ hbody => (frameData_alike 0).bind_eq fun _ => Alike.pure ⟨rfl, hbody⟩
  · exact atSpan_alike Op.Alike.refl_nil _
  · exact lower_alike _

end Lower

end RubyLower
