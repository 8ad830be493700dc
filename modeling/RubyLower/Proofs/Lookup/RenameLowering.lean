import RubyLower.Proofs.Lookup.RenameRules
import RubyLower.Proofs.Annotate.Compile

/-!
# Lowering a tree and its renaming

The rules for control flow, rescue and the units (methods, classes, modules and singleton
classes) are matched on a tree and its renaming when the recursive calls are, like those of
`Lookup.RenameRules`. Two rules see a renamed name beyond a lookup: a class or module defined at
a bare path takes its name from the path, and so does the name of its unit (`<class:Foo>`),
which the frame keeps as its method name; both are erased (`Op.nameless`, `Env.nameless`).

`Lower.dispatch_renamed` takes each kind of node to its rule and flags the result as a line start
on both sides; `Lower.recurAt_renames` closes the recursion by induction on the fuel. So lowering
any tree and its renaming, and the top-level units of two such programs, give the same error or
trees that differ only in names (`Lower.lower_renamed`, `Lower.program_renamed`).
-/

namespace RubyLower

/-! ## Rescue clauses that differ in names -/

/-- Two rescue clauses that differ at most in names. -/
def RescueClause.Renamed (cl cl' : RescueClause Op) : Prop :=
  cl.map Op.nameless = cl'.map Op.nameless

namespace RescueClause.Renamed

variable {b b' : Op}

theorem eq {cl cl' : RescueClause Op} (h : cl.Renamed cl') :
    cl.map Op.nameless = cl'.map Op.nameless := h

theorem any (hb : b.Renamed b') : RescueClause.Renamed ⟨.any, b⟩ ⟨.any, b'⟩ := by
  simp only [RescueClause.Renamed, RescueClause.map, RescueGuard.map, hb.eq]

theorem classes {cs cs' : List Op} (hcs : List.Forall₂ Op.Renamed cs cs') (hb : b.Renamed b') :
    RescueClause.Renamed ⟨.classes cs, b⟩ ⟨.classes cs', b'⟩ := by
  simp only [RescueClause.Renamed, RescueClause.map, RescueGuard.map,
    Op.Renamed.forall₂_iff.1 hcs, hb.eq]

theorem splat {l l' : Op} (hl : l.Renamed l') (hb : b.Renamed b') :
    RescueClause.Renamed ⟨.splat l, b⟩ ⟨.splat l', b'⟩ := by
  simp only [RescueClause.Renamed, RescueClause.map, RescueGuard.map, hl.eq, hb.eq]

end RescueClause.Renamed

/-- Tries with bodies, clauses and else parts that differ in names, building their backtraces
alike. -/
theorem Op.Renamed.tryRescue {b b' : Op} (hb : b.Renamed b') {rs rs' : List (RescueClause Op)}
    (hrs : List.Forall₂ RescueClause.Renamed rs rs') {e e' : Option Op}
    (he : Option.Rel Op.Renamed e e') (skip : Bool) :
    (Op.ofForm (.tryRescue b rs e skip)).Renamed (Op.ofForm (.tryRescue b' rs' e' skip)) := by
  have hclauses : rs.map (RescueClause.map Op.nameless) = rs'.map (RescueClause.map Op.nameless) := by
    induction hrs with
    | nil => rfl
    | cons hcl _ ih => rw [List.map_cons, List.map_cons, hcl.eq, ih]
  have helse : e.map Op.nameless = e'.map Op.nameless := by
    cases he with
    | none => rfl
    | some h => rw [Option.map_some, Option.map_some, h.eq]
  exact Op.Renamed.ofForm (by simp only [Form.nameless, Form.map, Form.unnamed, hb.eq, hclauses, helse])

/-- A class defined in modules that differ in names, under any two names, with superclasses
that differ in names. -/
theorem Op.Renamed.defineClass {p p' : Op} (hp : p.Renamed p') (name name' : String)
    {sup sup' : Option Op} (hs : Option.Rel Op.Renamed sup sup') :
    (Op.ofForm (.defineClass p name sup)).Renamed (Op.ofForm (.defineClass p' name' sup')) := by
  cases hs with
  | none => exact Op.Renamed.ofForm (by simp only [Form.nameless, Form.map, Form.unnamed, hp.eq,
      Option.map_none])
  | some h => exact Op.Renamed.ofForm (by simp only [Form.nameless, Form.map, Form.unnamed, hp.eq,
      Option.map_some, h.eq])

theorem Op.Renamed.defineModule {p p' : Op} (hp : p.Renamed p') (name name' : String) :
    (Op.ofForm (.defineModule p name)).Renamed (Op.ofForm (.defineModule p' name')) :=
  Op.Renamed.ofForm (by simp only [Form.nameless, Form.map, Form.unnamed, hp.eq])

/-- Class variable reads and writes and constant writes under any two names, in scopes and with
values that differ in names. -/
theorem Op.Renamed.readCvar {c c' : Op} (hc : c.Renamed c') (name name' : String) :
    (Op.ofForm (.readCvar c name)).Renamed (Op.ofForm (.readCvar c' name')) :=
  Op.Renamed.ofForm (by simp only [Form.nameless, Form.map, Form.unnamed, hc.eq])

theorem Op.Renamed.writeCvar {c c' v v' : Op} (hc : c.Renamed c') (name name' : String)
    (hv : v.Renamed v') :
    (Op.ofForm (.writeCvar c name v)).Renamed (Op.ofForm (.writeCvar c' name' v')) :=
  Op.Renamed.ofForm (by simp only [Form.nameless, Form.map, Form.unnamed, hc.eq, hv.eq])

theorem Op.Renamed.writeConst {m m' v v' : Op} (hm : m.Renamed m') (name name' : String)
    (hv : v.Renamed v') :
    (Op.ofForm (.writeConst m name v)).Renamed (Op.ofForm (.writeConst m' name' v')) :=
  Op.Renamed.ofForm (by simp only [Form.nameless, Form.map, Form.unnamed, hm.eq, hv.eq])

section Kinds

variable (σ : String → String)

/-- Only a list literal renames to one. -/
theorem Kind.exists_array_of_renameLookups {k : Kind Node} {els : List Node}
    (h : k.renameLookups σ = .array els) : ∃ els₀, k = .array els₀ := by
  cases k <;> dsimp only [Kind.renameLookups] at h <;> cases h
  exact ⟨_, rfl⟩

/-- Only a splat renames to one. -/
theorem Kind.exists_splat_of_renameLookups {k : Kind Node} {v : Node}
    (h : k.renameLookups σ = .splat v) : ∃ v₀, k = .splat v₀ := by
  cases k <;> dsimp only [Kind.renameLookups] at h <;> cases h
  exact ⟨_, rfl⟩

/-- Only an argument push renames to one. -/
theorem Kind.exists_argsPush_of_renameLookups {k : Kind Node} {a b : Node}
    (h : k.renameLookups σ = .argsPush a b) : ∃ a₀ b₀, k = .argsPush a₀ b₀ := by
  cases k <;> dsimp only [Kind.renameLookups] at h <;> cases h
  exact ⟨_, _, rfl⟩

/-- Whether a lone clause can observe the backtrace is read off its body's shape, which renaming
keeps. -/
theorem ignoresBacktrace_renameLookups (arms : List (RescueArm Node)) :
    Lower.ignoresBacktrace (arms.map (RescueArm.renameLookups σ)) = Lower.ignoresBacktrace arms := by
  rcases arms with _ | ⟨⟨span, exceptions, body⟩, _ | ⟨d, arms⟩⟩
  · rfl
  · cases body <;>
      simp [Lower.ignoresBacktrace, RescueArm.renameLookups, Node.isSideEffectFree_renameLookups,
        Node.isGlobalRead_renameLookups]
  · rfl

end Kinds

/-- Two executable units that differ at most in names: the same head, and bodies that differ
in names. -/
structure ExecUnit.Renamed (u u' : ExecUnit) : Prop where
  head : u'.head = u.head
  body : u.body.Renamed u'.body

namespace Lower

open Op (Renamed)

/-- Two arms of a `case` that differ in names, condition and body. -/
abbrev ArmsRenamed (x y : Op × Op) : Prop :=
  x.1.Renamed y.1 ∧ x.2.Renamed y.2

/-- A frame change that may set another method name on the other side, and is otherwise the
same. -/
theorem modifyFrame_renamed_of (id : Nat) {g g' : Frame → Frame}
    (hg : ∀ fr, (g fr).nameless = (g' fr.nameless).nameless)
    (hg' : ∀ fr, (g' fr).nameless = (g' fr.nameless).nameless) :
    Renamed Eq (modifyFrame id g) (modifyFrame id g') := by
  intro p s s' hs
  obtain ⟨he, hc⟩ := Progress.nameless_eq_iff.1 hs
  refine ⟨Progress.nameless_eq_iff.2 ⟨?_, hc⟩, rfl⟩
  show (s'.env.modifyFrame id g').nameless = (s.env.modifyFrame id g).nameless
  rw [Env.nameless_modifyFrame s'.env id hg', he, ← Env.nameless_modifyFrame s.env id hg]

section Rules

variable {r : Recur} (hr : r.Renames) (σ : String → String)
include hr

/-! ## Control flow -/

theorem conditional_renamed (condition : Node) (thenBody elseBody : Option Node) (span : Span)
    (lineStart : Bool) :
    Renamed Op.Renamed (conditional r condition thenBody elseBody span lineStart)
      (conditional r (condition.renameLookups σ) (renameLookupsOpt σ thenBody)
        (renameLookupsOpt σ elseBody) span lineStart) := by
  rw [renameLookupsOpt_eq_map, renameLookupsOpt_eq_map]
  refine (hr.expr σ condition).bind fun _ _ hcond => ?_
  extract_lets afterCondition afterCondition'
  have hafterCondition : ∀ x x', x.Renamed x' →
      Renamed Op.Renamed (afterCondition x) (afterCondition' x') := by
    intro x x' hx
    dsimp -zeta only [afterCondition, afterCondition']
    refine (Renamed.optionMapM (hr.expr σ) _).bind fun t t' ht =>
      (Renamed.optionMapM (hr.expr σ) _).bind fun e e' he => ?_
    cases ht with
    | none =>
      cases he with
      | none =>
        exact Renamed.pure
          ((Op.Renamed.sequence (.cons hx (.cons (Op.Renamed.refl _) .nil))).ensureSpan span)
      | some he =>
        exact atSpan_renamed (.ofPairs (.unlessThen (_, _) (_, _)) (Op.Renamed.children₂ hx he)) span
    | some ht =>
      cases he with
      | none =>
        exact atSpan_renamed (.ofPairs (.ifThen (_, _) (_, _)) (Op.Renamed.children₂ hx ht)) span
      | some he => exact atSpan_renamed (Op.Renamed.ifElse hx ht he) span
  split
  · exact (markLineStart_renamed hcond span).bind hafterCondition
  · exact (Renamed.pure hcond).bind hafterCondition

/-- A loop's break id and frames are the same on both sides; the break id it puts back is read
off frames that differ at most in their method names. -/
theorem loop_renamed (condition : Node) (body : Option Node) (testFirst isUntil : Bool)
    (span : Span) :
    Renamed Op.Renamed (loop r condition body testFirst isUntil span)
      (loop r (condition.renameLookups σ) (renameLookupsOpt σ body) testFirst isUntil span) := by
  rw [renameLookupsOpt_eq_map]
  refine (hr.expr σ condition).bind fun _ _ hcond => allocBreak_renamed.bind_eq fun breakId =>
    frame_renamed.bind_eq fun f => (frameData_renamed f).bind fun fr fr' hfr => ?_
  have hsaved : fr'.breakId = fr.breakId := by simpa using congrArg Frame.breakId hfr.symm
  rw [hsaved]
  exact (modifyFrame_renamed f fun _ => rfl).bind_eq fun _ =>
    (Renamed.restoring (((exprOrNil_renamed hr σ body span).withMarker none).withModes _)
      ((modifyFrame_renamed f fun _ => rfl).mono fun _ _ _ => trivial)).bind fun _ _ hb =>
        atSpan_renamed (.ofPairs (.catchBreak breakId true (_, _)) (Op.Renamed.children₁
          (.ofPairs (.whileLoop _ (_, _) (_, _)) (Op.Renamed.children₂
            (Op.Renamed.ite _ (Op.Renamed.not hcond) hcond) hb)))) span

theorem forLoop_renamed (var iter : Node) (body : Option Node) (span : Span) :
    Renamed Op.Renamed (forLoop r var iter body span)
      (forLoop r (var.renameLookups σ) (iter.renameLookups σ) (renameLookupsOpt σ body) span) := by
  -- the block of the loop, renamed, is the block of the renamed loop
  have hblock : BlockArg.renameLookups σ (.synthetic { span, body, forVar := some var }) =
      .synthetic { span, body := renameLookupsOpt σ body, forVar := some (var.renameLookups σ) } := by
    simp only [BlockArg.renameLookups, BlockSpec.renameLookups, Params.renameLookups_eq,
      renameLookupsOpt_eq_map, Option.map_some, List.map_nil]
  have h := fun (recv recv' : Op) (hrecv : recv.Renamed recv') =>
    finishCall_renamed hr σ hrecv "each" .nil false (.synthetic { span, body, forVar := some var }) {}
      span
  rw [hblock] at h
  exact (hr.expr σ iter).bind fun _ _ hrecv => (h _ _ hrecv).withModes _

theorem whenArm_renamed (w : WhenArm Node) :
    Renamed ArmsRenamed (whenArm r w) (whenArm r (w.renameLookups σ)) := by
  unfold whenArm WhenArm.renameLookups
  refine (hr.expr σ _).bind fun _ _ hp => ?_
  have rest : ∀ x x', x.Renamed x' → Renamed ArmsRenamed
      (do return (x, ← exprOrNil r w.body w.span) : Lower (Op × Op))
      (do return (x', ← exprOrNil r (w.body.map (Node.renameLookups σ)) w.span)) :=
    fun _ _ hx => (exprOrNil_renamed hr σ _ _).bind fun _ _ hb => Renamed.pure ⟨hx, hb⟩
  dsimp only
  split
  · exact (atSpan_renamed (Op.Renamed.refl _) _).bind fun _ _ hi =>
      (atSpan_renamed (Op.Renamed.call hi (.cons hp .nil) _ _) _).bind rest
  · exact (Renamed.pure hp).bind rest

theorem whenSubjectArm_renamed (subject : Slot) (w : WhenArm Node) :
    Renamed ArmsRenamed (whenSubjectArm r subject w)
      (whenSubjectArm r subject (w.renameLookups σ)) := by
  unfold whenSubjectArm WhenArm.renameLookups
  refine (hr.expr σ _).bind fun _ _ hp => ?_
  have rest : ∀ x x', x.Renamed x' → Renamed ArmsRenamed
      (do let c ← atSpan x w.span; return (c, ← exprOrNil r w.body w.span) : Lower (Op × Op))
      (do let c ← atSpan x' w.span
          return (c, ← exprOrNil r (w.body.map (Node.renameLookups σ)) w.span)) :=
    fun _ _ hx => (atSpan_renamed hx _).bind fun _ _ hc => (exprOrNil_renamed hr σ _ _).bind
      fun _ _ hb => Renamed.pure ⟨hc, hb⟩
  dsimp only
  split
  · exact (atSpan_renamed (Op.Renamed.refl _) _).bind fun _ _ hi =>
      (Renamed.pure (Op.Renamed.call hi (.cons hp (.cons (Op.Renamed.refl _) .nil)) _ _)).bind rest
  · exact (Renamed.pure (Op.Renamed.call hp (.cons (Op.Renamed.refl _) .nil) _ _)).bind rest

theorem caseWhen_renamed (subject : Option Node) (whens : List (WhenArm Node))
    (elseBody : Option Node) (span : Span) :
    Renamed Op.Renamed (caseWhen r subject whens elseBody span)
      (caseWhen r (renameLookupsOpt σ subject) (renameLookupsWhens σ whens)
        (renameLookupsOpt σ elseBody) span) := by
  rw [renameLookupsWhens_eq_map, renameLookupsOpt_eq_map σ elseBody]
  unfold caseWhen
  cases subject with
  | none =>
    exact (Renamed.mapM_map (whenArm_renamed hr σ) _).bind fun _ _ harms =>
      (exprOrNil_renamed hr σ _ _).bind fun _ _ ho =>
        Renamed.pure ((chainArms_renamed harms ho).ensureSpan span)
  | some s =>
    exact (hr.expr σ s).bind fun _ _ hs => (temp_renamed _).bind_eq fun t =>
      (Renamed.mapM_map (whenSubjectArm_renamed hr σ t) _).bind fun _ _ harms =>
        (exprOrNil_renamed hr σ _ _).bind fun _ _ ho => Renamed.pure ((Op.Renamed.sequence
          (.cons (Op.Renamed.writeLocal hs t) (.cons (chainArms_renamed harms ho) .nil))).ensureSpan
            span)

theorem breakJump_renamed (value : Option Node) (span : Span) :
    Renamed Op.Renamed (breakJump r value span) (breakJump r (renameLookupsOpt σ value) span) := by
  rw [renameLookupsOpt_eq_map]
  refine frame_renamed.bind_eq fun f => (frameData_renamed f).bind fun fr fr' hfr =>
    modes_renamed.bind_eq fun _ => ?_
  have hbreak : fr'.breakId = fr.breakId := by simpa using congrArg Frame.breakId hfr.symm
  have hblock : fr'.isBlock = fr.isBlock := by simpa using congrArg Frame.isBlock hfr.symm
  rw [hbreak, hblock]
  split
  · split
    · exact (exprOrNil_renamed hr σ _ _).bind fun _ _ hv =>
        atSpan_renamed (.ofPairs (.breakJump _ _ (_, _)) (Op.Renamed.children₁ hv)) span
    · exact Renamed.fail _ _ _ _
  · exact Renamed.fail _ _ _ _

theorem nextJump_renamed (value : Option Node) (span : Span) :
    Renamed Op.Renamed (nextJump r value span) (nextJump r (renameLookupsOpt σ value) span) := by
  rw [renameLookupsOpt_eq_map]
  refine inBlock_renamed.bind_eq fun _ => modes_renamed.bind_eq fun _ => ?_
  split
  · exact Renamed.fail _ _ _ _
  · exact ((exprOrNil_renamed hr σ _ _).withModes _).bind fun _ _ hv =>
      atSpan_renamed (.ofPairs (.nextJump (_, _)) (Op.Renamed.children₁ hv)) span

theorem returnJump_renamed (value : Option Node) (span : Span) :
    Renamed Op.Renamed (returnJump r value span)
      (returnJump r (renameLookupsOpt σ value) span) := by
  rw [renameLookupsOpt_eq_map]
  refine frame_renamed.bind_eq fun f => (frameData_renamed f).bind fun fr fr' hfr => ?_
  have hret : fr'.returnId = fr.returnId := by simpa using congrArg Frame.returnId hfr.symm
  have hkind : fr'.kind = fr.kind := by simpa using congrArg Frame.kind hfr.symm
  rw [hret, hkind]
  exact (exprOrNil_renamed hr σ _ _).bind fun _ _ hv =>
    atSpan_renamed (.ofPairs (.returnJump _ _ (_, _)) (Op.Renamed.children₁ hv)) span

/-! ## Rescue -/

theorem clauseBody_renamed (arm : RescueArm Node) (span : Span) :
    Renamed Op.Renamed (clauseBody r arm span) (clauseBody r (arm.renameLookups σ) span) :=
  (exprOrNil_renamed hr σ _ _).withModes _

theorem rescueList_renamed (arm : RescueArm Node) (span : Span) (n : Node) :
    Renamed (List.Forall₂ RescueClause.Renamed) (rescueList r arm span n)
      (rescueList r (arm.renameLookups σ) span (n.renameLookups σ)) := by
  simp only [rescueList_eq_nested]
  fun_induction rescueNested r arm span n with
  | case1 sp nl els =>
    show Renamed _ _ (rescueNested r _ span (.mk sp nl (.array (renameLookupsList σ els))))
    rw [renameLookupsList_eq_map]
    exact (exprs_renamed hr σ els).bind fun _ _ hcs => (clauseBody_renamed hr σ arm span).bind
      fun _ _ hb => Renamed.pure (.cons (.classes hcs hb) .nil)
  | case2 sp nl v =>
    show Renamed _ _ (rescueNested r _ span (.mk sp nl (.splat (v.renameLookups σ))))
    exact (hr.expr σ v).bind fun _ _ hl => (clauseBody_renamed hr σ arm span).bind
      fun _ _ hb => Renamed.pure (.cons (.splat hl hb) .nil)
  | case3 sp nl first second ih =>
    show Renamed _ _ (rescueNested r _ span
      (.mk sp nl (.argsCat (first.renameLookups σ) (second.renameLookups σ))))
    exact ih.bind fun _ _ hbefore => (hr.expr σ second).bind fun _ _ hl =>
      (clauseBody_renamed hr σ arm span).bind fun _ _ hb =>
        Renamed.pure (List.rel_append hbefore (.cons (.splat hl hb) .nil))
  | case4 sp nl first second ih =>
    show Renamed _ _ (rescueNested r _ span
      (.mk sp nl (.argsPush (first.renameLookups σ) (second.renameLookups σ))))
    exact ih.bind fun _ _ hbefore => (hr.expr σ second).bind fun _ _ hcl =>
      (clauseBody_renamed hr σ arm span).bind fun _ _ hb =>
        Renamed.pure (List.rel_append hbefore (.cons (.classes (.cons hcl .nil) hb) .nil))
  | case5 n h1 h2 h3 h4 =>
    obtain ⟨sp, nl, k⟩ := n
    show Renamed _ _ (rescueNested r _ span (.mk sp nl (k.renameLookups σ)))
    -- the renamed node is no exception list either, and fails with the same kind name
    unfold rescueNested
    split
    · next heq =>
      obtain ⟨els, rfl⟩ := Kind.exists_array_of_renameLookups σ (Node.mk.inj heq).2.2
      exact (h1 sp nl els rfl).elim
    · next heq =>
      obtain ⟨v, rfl⟩ := Kind.exists_splat_of_renameLookups σ (Node.mk.inj heq).2.2
      exact (h2 sp nl v rfl).elim
    · next heq =>
      obtain ⟨a, b, rfl⟩ := Kind.exists_argsCat_of_renameLookups σ (Node.mk.inj heq).2.2
      exact (h3 sp nl a b rfl).elim
    · next heq =>
      obtain ⟨a, b, rfl⟩ := Kind.exists_argsPush_of_renameLookups σ (Node.mk.inj heq).2.2
      exact (h4 sp nl a b rfl).elim
    · have hname : (Node.mk sp nl (k.renameLookups σ)).kind.name = (Node.mk sp nl k).kind.name :=
        Kind.name_renameLookups σ k
      rw [hname]
      exact Renamed.fail _ _ _ _

theorem rescueArm_renamed (span : Span) (arm : RescueArm Node) :
    Renamed (List.Forall₂ RescueClause.Renamed) (rescueArm r span arm)
      (rescueArm r span (arm.renameLookups σ)) := by
  unfold rescueArm
  have hex : (arm.renameLookups σ).exceptions = arm.exceptions.map (Node.renameLookups σ) := rfl
  rw [hex]
  cases arm.exceptions with
  | some ex => exact rescueList_renamed hr σ arm span ex
  | none =>
    exact (clauseBody_renamed hr σ arm span).bind fun _ _ hb => Renamed.pure (.cons (.any hb) .nil)

/-- Whether a try skips its backtrace is read off the shape of its clauses, which renaming
keeps. -/
theorem rescue_renamed (body : Option Node) (arms : List (RescueArm Node)) (elseBody : Option Node)
    (span : Span) :
    Renamed Op.Renamed (rescue r body arms elseBody span)
      (rescue r (renameLookupsOpt σ body) (renameLookupsRescues σ arms) (renameLookupsOpt σ elseBody)
        span) := by
  rw [renameLookupsOpt_eq_map, renameLookupsOpt_eq_map, renameLookupsRescues_eq_map]
  refine (exprOrNil_renamed hr σ _ _).bind fun _ _ hb => options_renamed.bind_eq fun _ => ?_
  rw [ignoresBacktrace_renameLookups]
  exact (Renamed.mapM_map (rescueArm_renamed hr σ span) _).bind fun _ _ hcl =>
    (Renamed.optionMapM (hr.expr σ) _).bind fun _ _ he =>
      atSpan_renamed (Op.Renamed.tryRescue (.ofPairs (.exceptionTranslating (_, _))
        (Op.Renamed.children₁ hb)) (List.rel_flatten hcl) he _) span

/-! ## Units -/

/-- A method's frame gets the method's own name on both sides; definees that differ in names give
definitions that differ in names. -/
theorem method_renamed {definee definee' : Op} (hd : definee.Renamed definee') (name : String)
    (params : Params Node) (body : Option Node) (span : Span) :
    Renamed Op.Renamed (method r definee name params body span)
      (method r definee' name (Params.renameLookups σ params) (renameLookupsOpt σ body) span) := by
  rw [renameLookupsOpt_eq_map]
  exact allocReturn_renamed.bind_eq fun returnId => frame_renamed.bind_eq fun _ =>
    (onEnv_renamed (Env.Blind.pushFrame _ _)).bind_eq fun mf =>
      (modifyFrame_renamed mf fun _ => rfl).bind_eq fun _ => Renamed.inFrame
        ((parameters_renamed hr σ params .method).bind_relSnd fun _ _ _ hpre =>
          (exprOrNil_renamed hr σ body span).bind fun _ _ hb =>
            (withPrelude_renamed hpre (.ofPairs (.catchReturn returnId (_, _))
              (Op.Renamed.children₁ hb))).bind fun _ _ hbody =>
                (unitHead_renamed _ _ _ _ _).bind fun _ _ hhead =>
                  atSpan_renamed (Op.Renamed.methodDef hd hhead hbody) span) mf

theorem defn_renamed (name : String) (params : Params Node) (body : Option Node) (span : Span) :
    Renamed Op.Renamed (defn r name params body span)
      (defn r name (Params.renameLookups σ params) (renameLookupsOpt σ body) span) :=
  method_renamed hr σ (Op.Renamed.refl _) _ _ _ _

theorem defs_renamed (receiver : Node) (name : String) (params : Params Node) (body : Option Node)
    (span : Span) :
    Renamed Op.Renamed (defs r receiver name params body span)
      (defs r (receiver.renameLookups σ) name (Params.renameLookups σ params) (renameLookupsOpt σ body)
        span) :=
  (hr.expr σ receiver).bind fun _ _ hobj => (atSpan_renamed (.ofPairs (.singletonClass (_, _))
    (Op.Renamed.children₁ hobj)) span).bind fun _ _ hd => method_renamed hr σ hd _ _ _ _

/-- A module body under any two names: the names go only into the frame's method name and the
unit's head, both erased. -/
theorem moduleBody_renamed {definee definee' : Op} (hd : definee.Renamed definee')
    (name name' : String) (body : Option Node) (span : Span) (singleton : Bool) :
    Renamed Op.Renamed (moduleBody r definee name body span singleton)
      (moduleBody r definee' name' (body.map (Node.renameLookups σ)) span singleton) := by
  refine frame_renamed.bind_eq fun f => ?_
  extract_lets afterReturn afterReturn'
  have hafterReturn : ∀ ret, Renamed Op.Renamed (afterReturn ret) (afterReturn' ret) := by
    intro ret
    dsimp -zeta only [afterReturn, afterReturn']
    refine (onEnv_renamed (Env.Blind.pushFrame _ _)).bind_eq fun mf =>
      (modifyFrame_renamed_of mf ?_ ?_).bind_eq fun _ =>
        Renamed.inFrame ((exprOrNil_renamed hr σ body span).bind fun _ _ hb =>
          (atSpan_renamed (.ofPairs (.insideModule (_, _)) (Op.Renamed.children₁ hb)) span).bind
            fun _ _ hm => (withPrelude_renamed .nil hm).bind fun _ _ hbody =>
              (unitHead_renamed _ _ _ _ _).bind fun _ _ hhead =>
                atSpan_renamed (Op.Renamed.runModuleBody hd hhead hbody) span) mf
    -- the frame gets the unit's name, erased on both sides
    all_goals exact fun _ => rfl
  split
  · exact (frameData_renamed f).bind fun _ _ hfr =>
      (Renamed.pure (by simpa using congrArg Frame.returnId hfr)).bind_eq hafterReturn
  · exact (allocReturn_renamed.map fun _ _ h => congrArg some h).bind_eq hafterReturn

theorem openModule_renamed {definee definee' : Op} (hd : definee.Renamed definee')
    (name name' : String) (body : Option Node) (span : Span) (singleton : Bool) :
    Renamed Op.Renamed (openModule r definee name body span singleton)
      (openModule r definee' name' (body.map (Node.renameLookups σ)) span singleton) :=
  (onEnv_renamed Env.Blind.pushLexical).bind_eq fun _ =>
    Renamed.restoring (moduleBody_renamed hr σ hd name name' body span singleton)
      ((modifyEnv_renamed (Env.Blind.popLexical _)).mono fun _ _ _ => trivial)

/-- A class at a bare path takes the path's name, which renaming may change; the definition and
its unit differ only in that name. -/
theorem classDef_renamed (path : ConstPath Node) (superclass body : Option Node) (span : Span) :
    Renamed Op.Renamed (classDef r path superclass body span)
      (classDef r (ConstPath.renameLookups σ path) (renameLookupsOpt σ superclass)
        (renameLookupsOpt σ body) span) := by
  rw [renameLookupsOpt_eq_map, renameLookupsOpt_eq_map]
  exact (constPathModule_renamed hr σ path).bind fun _ _ hp =>
    (Renamed.optionMapM (hr.expr σ) _).bind fun _ _ hs =>
      openModule_renamed hr σ (Op.Renamed.defineClass hp _ _ hs) _ _ _ _ _

theorem moduleDef_renamed (path : ConstPath Node) (body : Option Node) (span : Span) :
    Renamed Op.Renamed (moduleDef r path body span)
      (moduleDef r (ConstPath.renameLookups σ path) (renameLookupsOpt σ body) span) := by
  rw [renameLookupsOpt_eq_map]
  exact (constPathModule_renamed hr σ path).bind fun _ _ hp =>
    openModule_renamed hr σ (Op.Renamed.defineModule hp _ _) _ _ _ _ _

/-- Whether a singleton class makes lookup dynamic is read off the frame and the receiver's
kind, which renaming keeps. -/
theorem sclass_renamed (receiver : Node) (body : Option Node) (span : Span) :
    Renamed Op.Renamed (sclass r receiver body span)
      (sclass r (receiver.renameLookups σ) (renameLookupsOpt σ body) span) := by
  rw [renameLookupsOpt_eq_map]
  refine (hr.expr σ receiver).bind fun _ _ hobj => (atSpan_renamed (.ofPairs (.singletonClass (_, _))
    (Op.Renamed.children₁ hobj)) span).bind fun _ _ hd => isDynamic_renamed.bind_eq fun was => ?_
  extract_lets afterMode ofSelf afterMode' ofSelf'
  have hafterMode : ∀ u, Renamed Op.Renamed (afterMode u) (afterMode' u) := by
    intro u
    dsimp -zeta only [afterMode, afterMode']
    exact Renamed.restoring (openModule_renamed hr σ hd _ _ _ _ _)
      ((onEnv_renamed (Env.Blind.setDynamic _)).bind_eq fun _ => Renamed.pure trivial)
  have hofSelf : ofSelf' = ofSelf := by
    dsimp only [ofSelf, ofSelf']
    rw [Node.kind_renameLookups]
    generalize receiver.kind = k
    cases k <;> rfl
  rw [hofSelf]
  split
  · refine frame_renamed.bind_eq fun f => (frameData_renamed f).bind fun fr fr' hfr => ?_
    have hmodule : fr'.isModuleBody = fr.isModuleBody := by
      simpa using congrArg Frame.isModuleBody hfr.symm
    have hkind : fr'.kind = fr.kind := by simpa using congrArg Frame.kind hfr.symm
    dsimp only
    rw [hmodule, hkind]
    split
    · exact (onEnv_renamed (Env.Blind.setDynamic _)).bind_eq fun _ => hafterMode ()
    · exact hafterMode ()
  · exact hafterMode ()

/-- A method name given as a literal, a symbol or an interpolated symbol; renaming keeps which. -/
theorem methodNameSymbol_renamed (n : Node) :
    Renamed Op.Renamed (methodNameSymbol r n) (methodNameSymbol r (n.renameLookups σ)) := by
  unfold methodNameSymbol
  rw [Node.kind_renameLookups, Node.span_renameLookups]
  generalize n.kind = k
  cases k
  case literal name => exact atSpan_renamed (Op.Renamed.refl _) _
  case symbol | dsymbol => exact hr.expr σ n
  -- any other node is no method name, and fails with its kind's name
  all_goals exact Renamed.fail _ _ _ _

theorem aliasMethod_renamed (newName oldName : Node) (span : Span) :
    Renamed Op.Renamed (aliasMethod r newName oldName span)
      (aliasMethod r (newName.renameLookups σ) (oldName.renameLookups σ) span) :=
  (methodNameSymbol_renamed hr σ oldName).bind fun _ _ ho =>
    (methodNameSymbol_renamed hr σ newName).bind fun _ _ hn =>
      atSpan_renamed (.ofPairs (.aliasMethod (_, _) (_, _) (_, _))
        (Op.Renamed.children₃ (Op.Renamed.refl _) hn ho)) span

theorem undef_renamed (name : Node) (span : Span) :
    Renamed Op.Renamed (undef r name span) (undef r (name.renameLookups σ) span) :=
  (methodNameSymbol_renamed hr σ name).bind fun _ _ hn => atSpan_renamed (.ofPairs
    (.undefMethod (_, _) (_, _)) (Op.Renamed.children₂ (Op.Renamed.refl _) hn)) span

end Rules

/-! ## Every node -/

variable {r : Recur}

theorem unsupportedNode_renamed {α β : Type} {R : α → β → Prop} (σ : String → String) (n : Node) :
    Renamed R (unsupportedNode n : Lower α) (unsupportedNode (n.renameLookups σ)) := by
  unfold unsupportedNode
  rw [Node.kind_renameLookups, Kind.name_renameLookups, Node.span_renameLookups]
  exact Renamed.fail _ _ _ _

/-- One node and its renaming, lowered by the rule of their kind, are matched when the recursive
calls are. -/
theorem dispatch_renamed (hr : r.Renames) (σ : String → String) (n : Node) :
    Renamed Op.Renamed (dispatch r n) (dispatch r (n.renameLookups σ)) := by
  -- every kind but a conditional is flagged as a line start after its rule
  have flag : ∀ {x y : Lower Op}, Renamed Op.Renamed x y →
      Renamed Op.Renamed (x >>= addNewline n) (y >>= addNewline (n.renameLookups σ)) :=
    fun hx => hx.bind fun _ _ h => addNewline_renamed σ n h
  have same : ∀ f : Form Op, Renamed Op.Renamed (atSpan (Op.ofForm f) n.span)
      (atSpan (Op.ofForm f) n.span) :=
    fun _ => atSpan_renamed (Op.Renamed.refl _) _
  unfold dispatch
  rw [Node.kind_renameLookups, Node.span_renameLookups, Node.newline_renameLookups]
  dsimp only
  generalize n.kind = k
  cases k <;> dsimp only [Kind.renameLookups]
  case fixnum v => exact flag (fixnum_renamed v _)
  case bignum digits => exact flag (bignum_renamed digits _)
  case float v => exact flag (same _)
  case rational a b => exact flag (rational_renamed hr σ a b _)
  case complex a => exact flag (complex_renamed hr σ a _)
  case str v frozen => exact flag (str_renamed v frozen _)
  case xstr v => exact flag (command_renamed (Op.Renamed.refl _) _)
  case dstr ps => exact flag (dstr_renamed hr σ ps _)
  case dsymbol ps => exact flag (dsymbol_renamed hr σ ps _)
  case dxstr ps => exact flag (dxstr_renamed hr σ ps _)
  case dregexp ps flags => exact flag (dregexp_renamed hr σ ps flags _)
  case evstr b => exact flag (evstr_renamed hr σ b _)
  case symbol name => exact flag (atSpan_renamed (Op.Renamed.refl _) _)
  case regexp source flags => exact flag (atSpan_renamed (Op.Renamed.refl _) _)
  case trueLit | falseLit | nilLit | selfRef | zeroArray => exact flag (same _)
  case encoding name => exact flag (same _)
  case array els =>
    rw [renameLookupsList_eq_map]
    exact (exprs_renamed hr σ els).bind fun _ _ h => flag (atSpan_renamed (Op.Renamed.arrayLit h) _)
  case hash ps => exact flag (hash_renamed hr σ ps _)
  case dot lo hi ex => exact flag (range_renamed hr σ lo hi ex _)
  case flip lo hi ex => exact flag (flipFlop_renamed hr σ lo hi ex _)
  case localVar name depth => exact flag (localRead_renamed name _)
  case dvar name depth => exact flag (dvarRead_renamed name depth _)
  case localAsgn name depth v => exact flag (localAssignment_renamed hr σ name v _)
  case dasgn name depth v => exact flag (localAssignment_renamed hr σ name v _)
  case instVar name => exact flag (same _)
  case instAsgn name v =>
    rw [renameLookupsOpt_eq_map]
    exact (valueOrDead_renamed hr σ v _).bind fun _ _ h =>
      flag (atSpan_renamed (.ofPairs (.writeIvar _ (_, _)) (Op.Renamed.children₁ h)) _)
  case classVar name =>
    exact classVarScope_renamed.bind fun _ _ h =>
      flag (atSpan_renamed (Op.Renamed.readCvar h name (σ name)) _)
  case classVarAsgn name v =>
    rw [renameLookupsOpt_eq_map]
    exact classVarScope_renamed.bind fun _ _ hs => (valueOrDead_renamed hr σ v _).bind fun _ _ hv =>
      flag (atSpan_renamed (Op.Renamed.writeCvar hs name (σ name) hv) _)
  case globalVar name => exact flag (same _)
  case globalAsgn name v =>
    rw [renameLookupsOpt_eq_map]
    exact (valueOrDead_renamed hr σ v _).bind fun _ _ h =>
      flag (atSpan_renamed (.ofPairs (.writeGlobal _ (_, _)) (Op.Renamed.children₁ h)) _)
  case const name => exact flag (readConst_renamed name (σ name) _)
  case colon2 left name =>
    exact (hr.expr σ left).bind fun _ _ h =>
      flag (atSpan_renamed (.ofPairs (.readConst (_, _) _) (Op.Renamed.children₁ h)) _)
  case colon3 name => exact flag (same _)
  case constDecl path v =>
    rw [renameLookupsOpt_eq_map]
    exact (constPathModule_renamed hr σ path).bind fun _ _ hm =>
      (valueOrDead_renamed hr σ v _).bind fun _ _ hv =>
        flag (atSpan_renamed (Op.Renamed.writeConst hm _ _ hv) _)
  case nthRef k => exact flag (same _)
  case backRef k => exact flag (same _)
  case call recv name args iter lazy => exact flag (call_renamed hr σ recv name args iter lazy _)
  case fcall name args iter => exact flag (fcall_renamed hr σ name args iter _)
  case vcall name => exact flag (vcall_renamed name _)
  case attrAssign recv name args lazy => exact flag (attrAssign_renamed hr σ recv name args lazy _)
  case superCall args iter => exact flag (superCall_renamed hr σ args iter _)
  case zsuper iter => exact flag (zsuper_renamed hr σ iter _)
  case yieldCall args => exact flag (yieldCall_renamed hr σ args _)
  case blockPass body =>
    exact (hr.expr σ body).bind fun _ _ h =>
      flag (atSpan_renamed (.ofPairs (.toProc (_, _)) (Op.Renamed.children₁ h)) _)
  case iter b => exact flag (unsupportedNode_renamed σ n)
  case lambda b =>
    rw [BlockLit.renameLookups_eq_mk]
    exact flag (lambda_renamed hr σ b)
  case splat v =>
    exact (hr.expr σ v).bind fun _ _ h =>
      flag (atSpan_renamed (.ofPairs (.splatCast _ _ _ (_, _)) (Op.Renamed.children₁ h)) _)
  case argsCat a b => exact flag (argsCat_renamed hr σ a b _)
  case argsPush a b => exact flag (argsPush_renamed hr σ a b _)
  case svalue v => exact flag (hr.expr σ v)
  case star => exact flag (same _)
  case matchLastLine re => exact flag (matchLastLine_renamed hr σ re _)
  case match2 a b => exact flag (match2_renamed hr σ a b _)
  case match3 a b =>
    exact (hr.expr σ a).bind fun _ _ ha => (hr.expr σ b).bind fun _ _ hb =>
      flag (atSpan_renamed (Op.Renamed.call ha (.cons hb .nil) _ _) _)
  case defined e =>
    exact (hr.expr σ e).bind fun _ _ h =>
      flag (atSpan_renamed (.ofPairs (.defined (_, _)) (Op.Renamed.children₁ h)) _)
  case begin body =>
    rw [renameLookupsOpt_eq_map]
    exact flag (exprOrNil_renamed hr σ body _)
  case block children =>
    rw [renameLookupsList_eq_map]
    exact (exprs_renamed hr σ children).bind fun _ _ h =>
      flag (Renamed.pure ((Op.Renamed.sequence h).ensureSpan _))
  case preExe body =>
    rw [renameLookupsOpt_eq_map]
    exact flag (exprOrNil_renamed hr σ body _)
  case postExe body => exact flag (postExe_renamed hr σ body _)
  case conditional c t e => exact conditional_renamed hr σ c t e _ _
  case and a b =>
    exact (hr.expr σ a).bind fun _ _ ha => (hr.expr σ b).bind fun _ _ hb =>
      flag (atSpan_renamed (.ofPairs (.and (_, _) (_, _)) (Op.Renamed.children₂ ha hb)) _)
  case or a b =>
    exact (hr.expr σ a).bind fun _ _ ha => (hr.expr σ b).bind fun _ _ hb =>
      flag (atSpan_renamed (.ofPairs (.or (_, _) (_, _)) (Op.Renamed.children₂ ha hb)) _)
  case whileLoop c b testFirst => exact flag (loop_renamed hr σ c b testFirst false _)
  case untilLoop c b testFirst => exact flag (loop_renamed hr σ c b testFirst true _)
  case forLoop v it b => exact flag (forLoop_renamed hr σ v it b _)
  case caseWhen subject ws e => exact flag (caseWhen_renamed hr σ subject ws e _)
  case breakJump v => exact flag (breakJump_renamed hr σ v _)
  case nextJump v => exact flag (nextJump_renamed hr σ v _)
  case redo => exact flag (redo_renamed _)
  case retry => exact flag (retry_renamed _)
  case returnJump v => exact flag (returnJump_renamed hr σ v _)
  case rescue b cs e => exact flag (rescue_renamed hr σ b cs e _)
  case ensure b e =>
    rw [renameLookupsOpt_eq_map, renameLookupsOpt_eq_map]
    exact (exprOrNil_renamed hr σ b _).bind fun _ _ ha => (exprOrNil_renamed hr σ e _).bind
      fun _ _ hb =>
        flag (atSpan_renamed (.ofPairs (.ensure (_, _) (_, _)) (Op.Renamed.children₂ ha hb)) _)
  case opAsgn recv attr op v lazy => exact flag (opAsgn_renamed hr σ recv attr op v lazy _)
  case opAsgnAnd a b => exact flag (opAsgnAnd_renamed hr σ a b _)
  case opAsgnOr a b => exact flag (opAsgnOr_renamed hr σ a b _)
  case opElementAsgn recv args op v => exact flag (opElementAsgn_renamed hr σ recv args op v _)
  case opAsgnConstDecl a op b => exact flag (opAsgnConstDecl_renamed hr σ a op b _)
  case multipleAsgn m =>
    rw [MultiAsgn.renameLookups_eq_mk]
    exact flag (multipleAssignment_renamed hr σ m)
  case defn name ps body => exact flag (defn_renamed hr σ name ps body _)
  case defs recv name ps body => exact flag (defs_renamed hr σ recv name ps body _)
  case classDef path sup body => exact flag (classDef_renamed hr σ path sup body _)
  case moduleDef path body => exact flag (moduleDef_renamed hr σ path body _)
  case sclass recv body => exact flag (sclass_renamed hr σ recv body _)
  case «alias» a b => exact flag (aliasMethod_renamed hr σ a b _)
  case valias a b => exact flag (same _)
  case undef name => exact flag (undef_renamed hr σ name _)
  case literal name => exact flag (unsupportedNode_renamed σ n)
  case argument name => exact flag (unsupportedNode_renamed σ n)

/-- The rules tied together at any fuel are matched on every tree and its renamings; at fuel `0`
every call stops at once. -/
theorem recurAt_renames : ∀ fuel, (recurAt fuel).Renames
  | 0 => ⟨fun _ _ => Renamed.throw _, fun _ _ _ _ _ => Renamed.throw _⟩
  | fuel + 1 =>
    have ih := recurAt_renames fuel
    ⟨dispatch_renamed ih, fun σ n _ _ hv => target_renamed ih σ n hv⟩

/-- Lowering a tree and its renaming gives the same error, or trees that differ only in names,
from any two progresses that differ only in method names. -/
theorem lower_renamed (σ : String → String) (n : Node) :
    Renamed Op.Renamed (lower n) (lower (n.renameLookups σ)) := by
  unfold lower
  rw [Node.height_renameLookups]
  exact (recurAt_renames (n.height + 1)).expr σ n

/-- The top-level units of a program and of its renaming: the same head, and bodies that differ
only in names. -/
theorem program_renamed (σ : String → String) (root : Option Node) :
    Renamed ExecUnit.Renamed (program root) (program (root.map (Node.renameLookups σ))) := by
  refine (modifyFrame_renamed 0 fun _ => rfl).bind_eq fun _ => (frameData_renamed 0).bind
    fun fr fr' hfr => lexicalScope_renamed.bind_eq fun _ => ?_
  have hret : fr'.returnId = fr.returnId := by simpa using congrArg Frame.returnId hfr.symm
  rw [hret]
  dsimp only
  -- the body is the program's lowering or nil; the unit around it is built alike either way, its
  -- locals read off frames that differ at most in their method names
  cases root <;> dsimp only [Option.map_none, Option.map_some] <;>
    refine Renamed.bind (R := Op.Renamed) ?_ fun _ _ hb =>
      (withPrelude_renamed .nil (.ofPairs (.catchReturn _ (_, _)) (Op.Renamed.children₁ hb))).bind
        fun _ _ hbody => (frameData_renamed 0).bind fun fr₀ fr₀' h₀ => Renamed.pure
          ⟨by rw [show fr₀'.locals = fr₀.locals by simpa using congrArg Frame.locals h₀.symm], hbody⟩
  · exact atSpan_renamed (Op.Renamed.refl _) _
  · exact lower_renamed σ _

end Lower

/-! ## Compiled units -/

/-- Two compilations that differ only in names: the same file and coverage lines, and top-level
units that differ only in names. -/
structure Compiled.Renamed (c c' : Compiled) : Prop where
  file : c'.file = c.file
  coverage : c'.coverage = c.coverage
  root : c.root.Renamed c'.root

/-- Renaming the looked-up names of a unit's tree changes its compilation only in names: both
fail with the same error, or both give compilations that differ only in names. -/
theorem compileUnit_renameLookups (options : Options) (u : SourceUnit) (σ : String → String) :
    ResultsAlike Compiled.Renamed (compileUnit options u)
      (compileUnit options { u with root := u.root.map (Node.renameLookups σ) }) := by
  obtain ⟨hs, hres⟩ := Lower.program_renamed σ u.root
    { source := SourceInfo.ofUnit options u.file u.source, frame := 0 } { env := Env.initial }
    { env := Env.initial } rfl
  generalize hx : (Lower.program u.root).exec
    { source := SourceInfo.ofUnit options u.file u.source, frame := 0 } { env := Env.initial } = x
    at hs hres
  generalize hy : (Lower.program (u.root.map (Node.renameLookups σ))).exec
    { source := SourceInfo.ofUnit options u.file u.source, frame := 0 } { env := Env.initial } = y
    at hs hres
  obtain ⟨r, s⟩ := x
  obtain ⟨r', s'⟩ := y
  rw [compileUnit_of_exec hx, @compileUnit_of_exec options { u with root := u.root.map (Node.renameLookups σ) } _ _ hy]
  have hcov : s'.coverage = s.coverage := (Progress.nameless_eq_iff.1 hs).2
  -- one run failing and the other not is ruled out by the runs being matched
  cases r <;> cases r' <;> simp only [ResultsAlike, Except.map] at hres ⊢
  · exact hres
  · exact ⟨rfl, by rw [hcov], hres⟩

end RubyLower
