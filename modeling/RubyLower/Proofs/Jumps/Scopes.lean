import RubyLower.Proofs.Jumps.Assign
import RubyLower.Proofs.Rules.Control
import RubyLower.Proofs.Rules.Rescue

/-!
# Runs of the lowering against their visits: the rules that change the scope

The jump keywords are decided by the scope a node is lowered in, and a few rules change it. A
loop body is lowered with the frame's break id set to the loop's, in a scope that allows
`break`, `next` and `redo` (`Lower.Visits.breakFor`); the frame's own break id is put back after
the body whether it stops or not, so the run as a whole lets the progress evolve. A rescue
clause's body allows `retry` too. A method or a module body is lowered over a new frame that is
no block's, so no jump is allowed in it (`Place.Ready.enterUnit`), whatever the place allowed.

Each keyword visits itself in the scope of the place (`Lower.breakJump_visits`): the rule fails
with a control-flow fault exactly when the keyword is not allowed there. For `break` this needs
the place's invariant that a frame in a block or a loop body has a break id.
-/

namespace RubyLower

/-- A loop body over a ready place's frame, with the frame's break id the loop's, is ready at the
loop body's scope. -/
theorem Place.Ready.enterLoop {p : Place} {s : Progress} {c : JumpScope} (hp : p.Ready s c)
    (bid : Nat) :
    ({ { p with modes := { p.modes with whileLoop := true } } with markers := none :: p.markers } :
      Place).Ready { s with env := s.env.modifyFrame p.frame fun fr => { fr with breakId := some bid } }
        c.enterLoop := by
  have hframe : (s.env.modifyFrame p.frame fun fr => { fr with breakId := some bid }).frame p.frame =
      { s.env.frame p.frame with breakId := some bid } := by
    rw [Env.frame_modifyFrame, if_pos ⟨rfl, hp.frame⟩]
  refine ⟨Env.Ok.modifyFrame rfl (fun h => h) hp.ok, by simpa using hp.frame, ?_,
    fun _ => by rw [hframe]; rfl⟩
  rw [← hp.scope]
  simp only [Place.jumpScope, JumpScope.enterLoop, hframe]
  rfl

/-- A method's or a module's body, over a frame of its own that is no block's, is in none of the
scopes that allow a jump. -/
theorem Place.Ready.enterUnit {p : Place} {s : Progress} {c : JumpScope} (hp : p.Ready s c)
    {id : Nat} (hid : id < s.env.frames.size) (hb : (s.env.frame id).isBlock = false) :
    (p.enter id).Ready s c.enterUnit := by
  have he := hp.enter hid fun h => by rw [hb] at h; cases h
  rwa [hb] at he

namespace Lower

section Rules

variable {p : Place} {s : Progress} {c : JumpScope} {h : Nat}

/-- A loop body is lowered with the frame's break id the loop's, in the loop body's scope; the
frame's own break id is put back after it, whether the body gives a result or stops. -/
theorem Visits.breakFor {α : Type} {x : Lower α} {bid : Nat} {L : List Visit} {Q : α → Prop}
    (hx : x.Visits { { p with modes := { p.modes with whileLoop := true } } with
      markers := none :: p.markers }
      { s with env := s.env.modifyFrame p.frame fun fr => { fr with breakId := some bid } }
      c.enterLoop h L Q) :
    (Lower.modifyFrame p.frame (fun fr => { fr with breakId := some bid }) >>= fun _ =>
      Lower.restoring
        (Lower.modifyFrame p.frame fun fr => { fr with breakId := (s.env.frame p.frame).breakId })
        (Lower.withModes (fun m => { m with whileLoop := true }) (Lower.withMarker none x))).Visits
      p s c h L Q := by
  intro hp
  have hx := hx (hp.enterLoop bid)
  have hset : (Lower.modifyFrame p.frame fun fr => { fr with breakId := some bid }).exec p s =
      (.ok (), { s with env := s.env.modifyFrame p.frame fun fr => { fr with breakId := some bid } }) :=
    rfl
  rw [exec_bind, hset]
  dsimp only
  rw [exec_restoring]
  have hrun : (Lower.withModes (fun m => { m with whileLoop := true })
      (Lower.withMarker none x)).exec p
        { s with env := s.env.modifyFrame p.frame fun fr => { fr with breakId := some bid } } =
      x.exec { { p with modes := { p.modes with whileLoop := true } } with
        markers := none :: p.markers }
        { s with env := s.env.modifyFrame p.frame fun fr => { fr with breakId := some bid } } := rfl
  rw [hrun]
  revert hx
  rcases x.exec _ _ with ⟨e | a, s4⟩
  · exact id
  · rintro ⟨he, hm, hq⟩
    exact ⟨Progress.Evolves.restoreBreak he, hm, hq⟩

variable {r : Recur} (hr : r.Visits h)
include hr

/-! ## Control flow -/

theorem conditional_visits (condition : Node) (thenBody elseBody : Option Node) (span : Span)
    (lineStart : Bool) :
    (conditional r condition thenBody elseBody span lineStart).Visits p s c h
      (.node c .expr condition :: (Visit.exprs c thenBody.toList ++ Visit.exprs c elseBody.toList))
      Op.Spanned := by
  unfold conditional
  refine (hr.expr condition p s c).bind fun cnd s1 _ hc => ?_
  extract_lets finish
  have hfinish : ∀ c' s2, (finish c').Visits p s2 c h
      (Visit.exprs c thenBody.toList ++ Visit.exprs c elseBody.toList) Op.Spanned := by
    intro c' s2
    dsimp -zeta only [finish]
    refine (optionExprs_visits hr thenBody).bind fun t s3 _ _ =>
      ((optionExprs_visits hr elseBody).bind fun e s4 _ _ => ?_).of_eq (List.append_nil _)
    split
    · exact Visits.pure (Op.spanned_withSpan _ _)
    · exact Visits.pure (Op.spanned_withSpan _ _)
    · exact Visits.pure (Op.spanned_withSpan _ _)
    · exact Visits.pure (Op.spanned_ensureSpan _ _)
  clear_value finish
  split
  · exact (markLineStart_visits hc span).quiet_bind fun c' s2 _ _ => hfinish c' s2
  · exact Visits.bind_read rfl (hfinish _ s1)

/-- A `while` or `until` loop: the condition in the place's scope, the body in the loop body's. -/
theorem loop_visits (condition : Node) (body : Option Node) (testFirst isUntil : Bool) (span : Span) :
    (loop r condition body testFirst isUntil span).Visits p s c h
      (.node c .expr condition :: Visit.exprs c.enterLoop body.toList) Op.Spanned := by
  unfold loop
  refine (hr.expr condition p s c).bind fun cnd s1 _ _ => ?_
  refine allocBreak_visits.quiet_bind fun bid s2 _ _ => ?_
  refine Visits.bind_read rfl (Visits.bind_read rfl ?_)
  rw [← bind_assoc]
  refine (Visits.breakFor (exprOrNil_visits hr body span)).bind_quiet fun b _ _ _ => ?_
  exact Visits.pure (Op.spanned_withSpan _ _)

/-- A `for` loop: the collection in the place's scope, the variable and the body in the scope of
the block they are lowered in. -/
theorem forLoop_visits (var iter : Node) (body : Option Node) (span : Span) :
    (forLoop r var iter body span).Visits p s c h
      (.node c .expr iter :: .node c.enterBlock .target var :: Visit.exprs c.enterBlock body.toList)
      Op.Spanned :=
  (hr.expr iter p s c).bind fun _ _ _ _ => Visits.withModes ⟨rfl, rfl⟩ (finishCall_visits hr _ _ _ _ _ _ _)

/-- The test of an arm, with a splat a call built here on a module read built here, then its
body. -/
theorem whenArm_visits (w : WhenArm Node) :
    (whenArm r w).Visits p s c h (.node c .expr w.pattern :: Visit.exprs c w.body.toList)
      fun _ => True := by
  unfold whenArm
  refine (hr.expr w.pattern p s c).bind fun _ _ _ _ => ?_
  have rest : ∀ t s', (do return (t, ← exprOrNil r w.body w.span) : Lower (Op × Op)).Visits p s' c h
      (Visit.exprs c w.body.toList) fun _ => True :=
    fun _ _ => (exprOrNil_visits hr w.body w.span).bind_pure fun _ _ => trivial
  dsimp only
  split
  · exact (Visits.atSpan (Q := fun _ => True) (.inl rfl) trivial).quiet_bind fun _ _ _ _ =>
      (Visits.atSpan (Q := fun _ => True) (.inl rfl) trivial).quiet_bind fun t s' _ _ => rest t s'
  · exact (Visits.pure (Q := fun _ => True) trivial).quiet_bind fun t s' _ _ => rest t s'

/-- The test of an arm is a call built here, given its span, then the body. -/
theorem whenSubjectArm_visits (subject : Slot) (w : WhenArm Node) :
    (whenSubjectArm r subject w).Visits p s c h
      (.node c .expr w.pattern :: Visit.exprs c w.body.toList) fun _ => True := by
  unfold whenSubjectArm
  refine (hr.expr w.pattern p s c).bind fun _ _ _ _ => ?_
  have rest : ∀ t s', t.span = none →
      (do let t ← atSpan t w.span; return (t, ← exprOrNil r w.body w.span) :
        Lower (Op × Op)).Visits p s' c h (Visit.exprs c w.body.toList) fun _ => True :=
    fun _ _ ht => (Visits.atSpan (Q := fun _ => True) (.inl ht) trivial).quiet_bind fun _ _ _ _ =>
      (exprOrNil_visits hr w.body w.span).bind_pure fun _ _ => trivial
  dsimp only
  split
  · exact (Visits.atSpan (Q := fun _ => True) (.inl rfl) trivial).quiet_bind fun _ _ _ _ =>
      (Visits.pure (Q := fun t => t.span = none) rfl).quiet_bind fun t s' _ ht => rest t s' ht
  · exact (Visits.pure (Q := fun t => t.span = none) rfl).quiet_bind fun t s' _ ht => rest t s' ht

theorem caseWhen_visits (subject : Option Node) (whens : List (WhenArm Node)) (elseBody : Option Node)
    (span : Span) :
    (caseWhen r subject whens elseBody span).Visits p s c h
      (Visit.exprs c subject.toList ++
        whens.flatMap (fun w => .node c .expr w.pattern :: Visit.exprs c w.body.toList) ++
        Visit.exprs c elseBody.toList) Op.Spanned := by
  unfold caseWhen
  cases subject with
  | none =>
    refine ((Visits.mapM whens fun w _ _ => whenArm_visits hr w).bind fun _ s1 _ _ =>
      (exprOrNil_visits hr elseBody span).bind_pure fun _ _ => Op.spanned_ensureSpan _ _).of_eq ?_
    simp [Visit.exprs]
  | some sub =>
    refine ((hr.expr sub p s c).bind fun _ s1 _ _ => (temp_visits _).quiet_bind fun t s2 _ _ =>
      (Visits.mapM whens fun w _ _ => whenSubjectArm_visits hr t w).bind fun _ s3 _ _ =>
        (exprOrNil_visits hr elseBody span).bind_pure fun _ _ => Op.spanned_ensureSpan _ _).of_eq ?_
    simp [Visit.exprs]

/-! ## Jumps -/

/-- `break` visits its own keyword, in the place's scope: the place has a break id wherever the
keyword is allowed. -/
theorem breakJump_visits (value : Option Node) (span : Span) :
    (breakJump r value span).Visits p s c h (.jump c .breakJump :: Visit.exprs c value.toList)
      Op.Spanned := by
  refine Visits.of_ready fun hp => ?_
  unfold breakJump
  refine Visits.bind_read rfl (Visits.bind_read rfl (Visits.bind_read rfl ?_))
  split
  · next id hid =>
    split
    · next hallowed =>
      refine ((exprOrNil_visits hr value span).bind_pure fun _ _ =>
        Op.spanned_withSpan _ _).cons_quiet ?_
      rw [Visit.misplaced_jump_iff]
      show ¬ (c.block || c.loop) = false
      rw [hp.block, hp.loop, hallowed]
      decide
    · next hno =>
      refine Visits.fail_jump ⟨_, List.mem_cons_self, ?_⟩
      rw [Visit.misplaced_jump_iff]
      show (c.block || c.loop) = false
      rw [hp.block, hp.loop]
      simpa using hno
  · next hnone =>
    -- without a break id the place is neither in a block nor in a loop body
    refine Visits.fail_jump ⟨_, List.mem_cons_self, ?_⟩
    rw [Visit.misplaced_jump_iff]
    show (c.block || c.loop) = false
    rw [Bool.or_eq_false_iff]
    by_contra hin
    have hsome := hp.breakId (by cases hb : c.block <;> cases hl : c.loop <;> simp_all)
    rw [hnone] at hsome
    cases hsome

/-- `next` visits its own keyword, in the place's scope, and its value. -/
theorem nextJump_visits (value : Option Node) (span : Span) :
    (nextJump r value span).Visits p s c h (.jump c .nextJump :: Visit.exprs c value.toList)
      Op.Spanned := by
  refine Visits.of_ready fun hp => ?_
  unfold nextJump
  refine Visits.bind_read rfl (Visits.bind_read rfl ?_)
  split
  · next hno =>
    refine Visits.fail_jump ⟨_, List.mem_cons_self, ?_⟩
    rw [Visit.misplaced_jump_iff]
    show (c.block || c.loop) = false
    rw [hp.block, hp.loop]
    simpa using hno
  · next hyes =>
    refine ((Visits.withModes ⟨rfl, rfl⟩ (exprOrNil_visits hr value span)).bind_pure fun _ _ =>
      Op.spanned_withSpan _ _).cons_quiet ?_
    rw [Visit.misplaced_jump_iff]
    show ¬ (c.block || c.loop) = false
    rw [hp.block, hp.loop]
    simpa using hyes

omit hr in
theorem redo_visits (span : Span) : (redo span).Visits p s c h [.jump c .redo] Op.Spanned := by
  refine Visits.of_ready fun hp => ?_
  unfold redo
  refine Visits.bind_read rfl (Visits.bind_read rfl ?_)
  split
  · next hno =>
    refine Visits.fail_jump ⟨_, List.mem_cons_self, ?_⟩
    rw [Visit.misplaced_jump_iff]
    show (c.block || c.loop) = false
    rw [hp.block, hp.loop]
    simpa using hno
  · next hyes =>
    refine (Visits.pure (Op.spanned_withSpan _ _)).cons_quiet ?_
    rw [Visit.misplaced_jump_iff]
    show ¬ (c.block || c.loop) = false
    rw [hp.block, hp.loop]
    simpa using hyes

omit hr in
/-- `retry` is allowed in a rescue clause too. -/
theorem retry_visits (span : Span) : (retry span).Visits p s c h [.jump c .retry] Op.Spanned := by
  refine Visits.of_ready fun hp => ?_
  unfold retry
  refine Visits.bind_read rfl (Visits.bind_read rfl ?_)
  split
  · next hno =>
    refine Visits.fail_jump ⟨_, List.mem_cons_self, ?_⟩
    rw [Visit.misplaced_jump_iff]
    show (c.block || c.loop || c.rescue) = false
    rw [hp.block, hp.loop, hp.rescue]
    revert hno
    cases p.modes.inRescue <;> cases (s.env.frame p.frame).isBlock <;> cases p.modes.whileLoop <;>
      decide
  · next hyes =>
    refine (Visits.pure (Op.spanned_withSpan _ _)).cons_quiet ?_
    rw [Visit.misplaced_jump_iff]
    show ¬ (c.block || c.loop || c.rescue) = false
    rw [hp.block, hp.loop, hp.rescue]
    revert hyes
    cases p.modes.inRescue <;> cases (s.env.frame p.frame).isBlock <;> cases p.modes.whileLoop <;>
      decide

theorem returnJump_visits (value : Option Node) (span : Span) :
    (returnJump r value span).Visits p s c h (Visit.exprs c value.toList) Op.Spanned :=
  Visits.bind_read rfl (Visits.bind_read rfl
    ((exprOrNil_visits hr value span).bind_pure fun _ _ => Op.spanned_withSpan _ _))

/-! ## Rescue -/

theorem clauseBody_visits (arm : RescueArm Node) (span : Span) :
    (clauseBody r arm span).Visits p s c h (Visit.exprs c.enterRescue arm.body.toList) Op.Spanned :=
  fun hp => exprOrNil_visits hr arm.body span hp.enterRescue

/-- The clauses of an exception list: the list's parts, and the clause body once per clause. -/
theorem rescueList_visits (arm : RescueArm Node) (span : Span) (n : Node) :
    (rescueList r arm span n).Visits p s c h
      (.node c .exceptions n :: Visit.exprs c.enterRescue arm.body.toList) fun _ => True := by
  rw [rescueList_eq_nested]
  fun_induction rescueNested r arm span n with
  | case1 _ _ els =>
    exact Visits.gather ((exprs_visits hr els).bind fun _ _ _ _ =>
      (clauseBody_visits hr arm span).bind_pure fun _ _ => trivial)
  | case2 _ _ v =>
    exact Visits.gather ((hr.expr v p s c).bind fun _ _ _ _ =>
      (clauseBody_visits hr arm span).bind_pure fun _ _ => trivial)
  | case3 _ _ first second ih =>
    refine Visits.gather ((ih.bind fun _ s1 _ _ => (hr.expr second p s1 c).bind fun _ _ _ _ =>
      (clauseBody_visits hr arm span).bind_pure fun _ _ => trivial).congr_mem (fun v => ?_)
        fun _ h => h)
    dsimp only [Node.parts, Node.kind, Kind.exceptionParts]
    simp only [List.mem_append, List.mem_cons, List.not_mem_nil]
    tauto
  | case4 _ _ first second ih =>
    refine Visits.gather ((ih.bind fun _ s1 _ _ => (hr.expr second p s1 c).bind fun _ _ _ _ =>
      (clauseBody_visits hr arm span).bind_pure fun _ _ => trivial).congr_mem (fun v => ?_)
        fun _ h => h)
    dsimp only [Node.parts, Node.kind, Kind.exceptionParts]
    simp only [List.mem_append, List.mem_cons, List.not_mem_nil]
    tauto
  | case5 => exact Visits.fail (by decide)

theorem rescueArm_visits (span : Span) (arm : RescueArm Node) :
    (rescueArm r span arm).Visits p s c h (Visit.ofRescueArm c arm) fun _ => True := by
  unfold rescueArm Visit.ofRescueArm
  split
  · next ex hex =>
    rw [hex]
    exact rescueList_visits hr arm span ex
  · next hex =>
    rw [hex]
    exact (clauseBody_visits hr arm span).bind_pure fun _ _ => trivial

theorem rescue_visits (body : Option Node) (arms : List (RescueArm Node)) (elseBody : Option Node)
    (span : Span) :
    (rescue r body arms elseBody span).Visits p s c h
      (Visit.exprs c body.toList ++ arms.flatMap (Visit.ofRescueArm c) ++
        Visit.exprs c elseBody.toList) Op.Spanned := by
  unfold rescue
  rw [List.append_assoc]
  refine (exprOrNil_visits hr body span).bind fun _ s1 _ _ => Visits.bind_read rfl ?_
  refine ((Visits.mapM arms fun a _ _ => rescueArm_visits hr span a).bind fun _ s2 _ _ =>
    (optionExprs_visits hr elseBody).bind_pure fun _ _ => Op.spanned_withSpan _ _)

/-! ## Definitions -/

/-- A method's parameters and body are lowered over a new frame of a method, in a scope that
allows no jump. -/
theorem method_visits (definee : Op) (name : String) (params : Params Node) (body : Option Node)
    (span : Span) :
    (method r definee name params body span).Visits p s c h
      (Visit.ofParams c.enterUnit params ++ Visit.exprs c.enterUnit body.toList) Op.Spanned := by
  unfold method
  refine allocReturn_visits.quiet_bind fun rid s1 _ _ => Visits.bind_read rfl ?_
  refine Visits.pushFrame_bind (fun _ => ⟨rfl, rfl, rfl⟩) fun s2 _ hlt hfr => ?_
  have hnew := Env.frame_pushFrame_new s1.env (some p.frame) .method
  have hblock : (s2.env.frame s1.env.frames.size).isBlock = false := by
    rw [hfr]
    simp [Frame.isBlock, hnew.2.1]
  refine Visits.inFrame ?_ fun hp => hp.enterUnit hlt hblock
  refine (parameters_visits hr params .method).bind fun res s3 _ _ => ?_
  refine (exprOrNil_visits hr body span).bind_quiet fun b s4 _ _ => ?_
  exact (withPrelude_visits _ _).bind_quiet fun _ _ _ _ =>
    (unitHead_visits _ _ _ _).bind_quiet fun _ _ _ _ => Visits.pure (Op.spanned_withSpan _ _)

theorem defn_visits (name : String) (params : Params Node) (body : Option Node) (span : Span) :
    (defn r name params body span).Visits p s c h
      (Visit.ofParams c.enterUnit params ++ Visit.exprs c.enterUnit body.toList) Op.Spanned :=
  method_visits hr _ name params body span

theorem defs_visits (receiver : Node) (name : String) (params : Params Node) (body : Option Node)
    (span : Span) :
    (defs r receiver name params body span).Visits p s c h
      (.node c .expr receiver ::
        (Visit.ofParams c.enterUnit params ++ Visit.exprs c.enterUnit body.toList)) Op.Spanned :=
  (hr.expr receiver p s c).bind fun _ _ _ _ => method_visits hr _ name params body span

/-- A module body is lowered over a new frame of a module body, in a scope that allows no jump. -/
theorem moduleBody_visits (definee : Op) (name : String) (body : Option Node) (span : Span)
    (singleton : Bool) :
    (moduleBody r definee name body span singleton).Visits p s c h
      (Visit.exprs c.enterUnit body.toList) Op.Spanned := by
  unfold moduleBody
  refine Visits.bind_read rfl ?_
  extract_lets jp
  have hjp : ∀ ret s1, (jp ret).Visits p s1 c h (Visit.exprs c.enterUnit body.toList) Op.Spanned := by
    intro ret s1
    dsimp only [jp]
    refine Visits.pushFrame_bind (fun _ => ⟨rfl, rfl, rfl⟩) fun s2 _ hlt hfr => ?_
    have hnew := Env.frame_pushFrame_new s1.env (some p.frame) .moduleBody
    have hblock : (s2.env.frame s1.env.frames.size).isBlock = false := by
      rw [hfr]
      simp [Frame.isBlock, hnew.2.1]
    refine Visits.inFrame ?_ fun hp => hp.enterUnit hlt hblock
    exact (exprOrNil_visits hr body span).bind_quiet fun b _ _ _ => (withPrelude_visits _ _).bind_quiet
      fun _ _ _ _ => (unitHead_visits _ _ _ _).bind_quiet fun _ _ _ _ =>
        Visits.pure (Op.spanned_withSpan _ _)
  clear_value jp
  split
  · exact Visits.bind_read rfl (hjp _ s)
  · exact (Visits.map (R := fun _ => True) allocReturn_visits fun _ _ => trivial).quiet_bind
      fun ret s1 _ _ => hjp ret s1

/-- A module body in a lexical scope of its own, left again afterwards. -/
theorem openModule_visits (definee : Op) (name : String) (body : Option Node) (span : Span)
    (singleton : Bool) :
    (openModule r definee name body span singleton).Visits p s c h
      (Visit.exprs c.enterUnit body.toList) Op.Spanned :=
  (Visits.onEnv (Q := fun _ => True) (fun _ => Progress.Evolves.of_frames_eq
    (Env.frames_pushLexical _)) trivial).quiet_bind fun _ _ _ _ =>
      Visits.restoring (fun _ => ⟨_, rfl, Progress.Evolves.of_frames_eq (Env.frames_popLexical _ _)⟩)
        (moduleBody_visits hr definee name body span singleton)

theorem classDef_visits (path : ConstPath Node) (superclass body : Option Node) (span : Span) :
    (classDef r path superclass body span).Visits p s c h
      (Visit.ofPath c path ++ Visit.exprs c superclass.toList ++ Visit.exprs c.enterUnit body.toList)
      Op.Spanned := by
  unfold classDef
  rw [List.append_assoc]
  exact (constPathModule_visits hr path).bind fun _ _ _ _ => (optionExprs_visits hr superclass).bind
    fun _ _ _ _ => openModule_visits hr _ _ body span false

theorem moduleDef_visits (path : ConstPath Node) (body : Option Node) (span : Span) :
    (moduleDef r path body span).Visits p s c h
      (Visit.ofPath c path ++ Visit.exprs c.enterUnit body.toList) Op.Spanned :=
  (constPathModule_visits hr path).bind fun _ _ _ _ => openModule_visits hr _ _ body span false

/-- A singleton class body; the lookup mode is put back afterwards. -/
theorem sclass_visits (receiver : Node) (body : Option Node) (span : Span) :
    (sclass r receiver body span).Visits p s c h
      (.node c .expr receiver :: Visit.exprs c.enterUnit body.toList) Op.Spanned := by
  unfold sclass
  refine (hr.expr receiver p s c).bind fun obj s1 _ _ => Visits.bind_read rfl (Visits.bind_read rfl ?_)
  extract_lets rest ofSelf
  have hrest : ∀ s2, (rest ()).Visits p s2 c h (Visit.exprs c.enterUnit body.toList) Op.Spanned := by
    intro s2
    dsimp -zeta only [rest]
    exact Visits.restoring (fun _ => ⟨_, rfl, Progress.Evolves.of_frames_eq
      (Env.frames_setDynamic _ _)⟩) (openModule_visits hr _ _ body span true)
  clear_value rest
  split
  · refine Visits.bind_read rfl (Visits.bind_read rfl ?_)
    dsimp only
    split
    · exact (Visits.onEnv (Q := fun _ => True) (fun _ => Progress.Evolves.of_frames_eq
        (Env.frames_setDynamic _ _)) trivial).quiet_bind fun _ s2 _ _ => hrest s2
    · exact hrest s1
  · exact hrest s1

theorem methodNameSymbol_visits (n : Node) :
    (methodNameSymbol r n).Visits p s c h (Visit.ofName c n) Op.Spanned := by
  unfold methodNameSymbol Visit.ofName
  split
  · next name hk => rw [hk]; exact Visits.pure (Op.spanned_withSpan _ _)
  · next hk => rw [hk]; exact hr.expr n p s c
  · next hk => rw [hk]; exact hr.expr n p s c
  · exact Visits.fail (by decide)

/-- `alias new old` lowers the old name first. -/
theorem aliasMethod_visits (newName oldName : Node) (span : Span) :
    (aliasMethod r newName oldName span).Visits p s c h
      (Visit.ofName c oldName ++ Visit.ofName c newName) Op.Spanned :=
  (methodNameSymbol_visits hr oldName).bind fun _ _ _ _ =>
    (methodNameSymbol_visits hr newName).bind_pure fun _ _ => Op.spanned_withSpan _ _

theorem undef_visits (name : Node) (span : Span) :
    (undef r name span).Visits p s c h (Visit.ofName c name) Op.Spanned :=
  (methodNameSymbol_visits hr name).bind_pure fun _ _ => Op.spanned_withSpan _ _

end Rules

end Lower

end RubyLower
