import RubyLower.Proofs.Jumps.Scopes
import RubyLower.Proofs.Program

/-!
# The control-flow faults of a compilation are its misplaced jump keywords

`Lower.dispatch_visits` takes each kind of node to its rule: lowering a node visits what its
kind's parts list (`Kind.exprParts`). `Lower.recurAt_visits` closes the recursion by induction on
the fuel, one level of lowering per level of the tree; at fuel `0` running out is owed to a node
at least as high as the levels left. A program is lowered at the top level, whose scope allows
no jump (`Place.ready_initial`).

So a unit whose tree keeps its spans in range fails with a control-flow fault only when one of
the keywords the lowering visits is misplaced, and when one is, it fails; if no fault of another
kind comes first, the fault is a control-flow one (`compileUnit_controlFlow_iff`). The keywords
visited are those of `Visit`: of a call of `Garnet.privately` only the block's body is visited,
so a keyword in a parameter default of that block is never looked at
(`compileUnit_ok_privatelyParamBreak`).

The visits never account for a node given a second span, so no compilation stops that way
(`compileUnit_spansAssignedOnce`).
-/

namespace RubyLower

namespace Lower

section Rules

variable {p : Place} {s : Progress} {c : JumpScope} {h : Nat}
variable {r : Recur} (hr : r.Visits h)
include hr

omit hr in
theorem fixnum_visits (v : Int) (span : Span) : (fixnum v span).Visits p s c h [] Op.Spanned := by
  unfold fixnum
  split <;> exact Visits.atSpan (.inl rfl) (Op.spanned_withSpan _ _)

/-- One node, lowered by the rule of its kind, visits what its kind's parts list. -/
theorem dispatch_visits_mk (sp : Span) (nl : Bool) (k : Kind Node) :
    (dispatch r (.mk sp nl k)).Visits p s c h (Kind.exprParts c sp k) Op.Spanned := by
  unfold dispatch
  dsimp only [Node.kind, Node.span, Node.newline]
  -- every kind but a conditional is flagged as a line start after its rule
  have flag : ∀ {s : Progress} {x : Lower Op} {L : List Visit}, x.Visits p s c h L Op.Spanned →
      (x >>= addNewline (.mk sp nl k)).Visits p s c h L Op.Spanned :=
    fun hx => hx.bind_quiet fun _ _ _ ho => addNewline_visits ho _
  split
  · exact conditional_visits hr _ _ _ _ _
  split
  · exact flag (fixnum_visits _ _)
  · exact flag (bignum_visits _ _)
  · exact flag (Visits.pure (Op.spanned_withSpan _ _))
  · exact flag (rational_visits hr _ _ _)
  · exact flag (complex_visits hr _ _)
  · exact flag (str_visits _ _ _)
  · exact flag (Visits.pure (Op.spanned_withSpan _ _))
  · exact flag (dstr_visits hr _ _)
  · exact flag (dsymbol_visits hr _ _)
  · exact flag (dxstr_visits hr _ _)
  · exact flag (dregexp_visits hr _ _ _)
  · exact flag (evstr_visits hr _ _)
  · exact flag (Visits.pure (Op.spanned_withSpan _ _))
  · exact flag (Visits.pure (Op.spanned_withSpan _ _))
  · exact flag (Visits.pure (Op.spanned_withSpan _ _))
  · exact flag (Visits.pure (Op.spanned_withSpan _ _))
  · exact flag (Visits.pure (Op.spanned_withSpan _ _))
  · exact flag (Visits.pure (Op.spanned_withSpan _ _))
  · exact flag (Visits.pure (Op.spanned_withSpan _ _))
  · exact flag (Visits.pure (Op.spanned_withSpan _ _))
  · exact (exprs_visits hr _).bind_quiet fun _ _ _ _ => flag (Visits.pure (Op.spanned_withSpan _ _))
  · exact flag (hash_visits hr _ _)
  · exact flag (range_visits hr _ _ _ _)
  · exact flag (flipFlop_visits hr _ _ _ _)
  · exact flag (Visits.pure (Op.spanned_withSpan _ _))
  · exact flag (Visits.pure (Op.spanned_withSpan _ _))
  · exact flag (matchLastLine_visits hr _ _)
  · exact flag (match2_visits hr _ _ _)
  · exact (hr.expr _ p s c).bind fun _ s1 _ _ => (hr.expr _ p s1 c).bind_quiet fun _ _ _ _ =>
      flag (Visits.pure (Op.spanned_withSpan _ _))
  · exact (hr.expr _ p s c).bind_quiet fun _ _ _ _ => flag (Visits.pure (Op.spanned_withSpan _ _))
  · exact flag (localRead_visits _ _)
  · exact flag (dvarRead_visits _ _ _)
  · exact flag (localAssignment_visits hr _ _ _)
  · exact flag (localAssignment_visits hr _ _ _)
  · exact flag (Visits.pure (Op.spanned_withSpan _ _))
  · exact (valueOrDead_visits hr _ _).bind_quiet fun _ _ _ _ =>
      flag (Visits.pure (Op.spanned_withSpan _ _))
  · exact classVarScope_visits.quiet_bind fun _ _ _ _ => flag (Visits.pure (Op.spanned_withSpan _ _))
  · exact classVarScope_visits.quiet_bind fun _ _ _ _ => (valueOrDead_visits hr _ _).bind_quiet
      fun _ _ _ _ => flag (Visits.pure (Op.spanned_withSpan _ _))
  · exact flag (Visits.pure (Op.spanned_withSpan _ _))
  · exact (valueOrDead_visits hr _ _).bind_quiet fun _ _ _ _ =>
      flag (Visits.pure (Op.spanned_withSpan _ _))
  · exact flag (readConst_visits _ _)
  · exact (hr.expr _ p s c).bind_quiet fun _ _ _ _ => flag (Visits.pure (Op.spanned_withSpan _ _))
  · exact flag (Visits.pure (Op.spanned_withSpan _ _))
  · exact (constPathModule_visits hr _).bind fun _ _ _ _ => (valueOrDead_visits hr _ _).bind_quiet
      fun _ _ _ _ => flag (Visits.pure (Op.spanned_withSpan _ _))
  · exact flag (call_visits hr _ _ _ _ _ _)
  · exact flag (fcall_visits hr _ _ _ _)
  · exact flag (vcall_visits _ _)
  · exact flag (attrAssign_visits hr _ _ _ _ _)
  · exact flag (superCall_visits hr _ _ _)
  · exact flag (zsuper_visits hr _ _)
  · exact flag (yieldCall_visits hr _ _)
  · exact (hr.expr _ p s c).bind_quiet fun _ _ _ _ => flag (Visits.pure (Op.spanned_withSpan _ _))
  · exact flag (lambda_visits hr _)
  · exact (hr.expr _ p s c).bind_quiet fun _ _ _ _ => flag (Visits.pure (Op.spanned_withSpan _ _))
  · exact flag (argsCat_visits hr _ _ _)
  · exact flag (argsPush_visits hr _ _ _)
  · exact flag (hr.expr _ p s c)
  · exact flag (Visits.pure (Op.spanned_withSpan _ _))
  · exact flag (exprOrNil_visits hr _ _)
  · exact (exprs_visits hr _).bind_quiet fun _ _ _ _ =>
      flag (Visits.pure (Op.spanned_ensureSpan _ _))
  · exact flag (exprOrNil_visits hr _ _)
  · exact flag (postExe_visits hr _ _)
  · exact flag (conditional_visits hr _ _ _ _ _)
  · exact (hr.expr _ p s c).bind fun _ s1 _ _ => (hr.expr _ p s1 c).bind_quiet fun _ _ _ _ =>
      flag (Visits.pure (Op.spanned_withSpan _ _))
  · exact (hr.expr _ p s c).bind fun _ s1 _ _ => (hr.expr _ p s1 c).bind_quiet fun _ _ _ _ =>
      flag (Visits.pure (Op.spanned_withSpan _ _))
  · exact flag (loop_visits hr _ _ _ _ _)
  · exact flag (loop_visits hr _ _ _ _ _)
  · exact flag (forLoop_visits hr _ _ _ _)
  · exact flag (caseWhen_visits hr _ _ _ _)
  · exact flag (breakJump_visits hr _ _)
  · exact flag (nextJump_visits hr _ _)
  · exact flag (redo_visits _)
  · exact flag (retry_visits _)
  · exact flag (returnJump_visits hr _ _)
  · exact flag (rescue_visits hr _ _ _ _)
  · exact (exprOrNil_visits hr _ _).bind fun _ _ _ _ => (exprOrNil_visits hr _ _).bind_quiet
      fun _ _ _ _ => flag (Visits.pure (Op.spanned_withSpan _ _))
  · exact flag (opAsgn_visits hr _ _ _ _ _ _)
  · exact flag (opAsgnAnd_visits hr _ _ _)
  · exact flag (opAsgnOr_visits hr _ _ _)
  · exact flag (opElementAsgn_visits hr _ _ _ _ _)
  · exact flag (opAsgnConstDecl_visits hr _ _ _ _)
  · exact flag (multipleAssignment_visits hr _)
  · exact flag (defn_visits hr _ _ _ _)
  · exact flag (defs_visits hr _ _ _ _ _)
  · exact flag (classDef_visits hr _ _ _ _)
  · exact flag (moduleDef_visits hr _ _ _)
  · exact flag (sclass_visits hr _ _ _)
  · exact flag (aliasMethod_visits hr _ _ _)
  · exact flag (Visits.pure (Op.spanned_withSpan _ _))
  · exact flag (undef_visits hr _ _)
  · exact flag (Visits.fail (by decide))
  · exact flag (Visits.fail (by decide))
  · exact flag (Visits.fail (by decide))

/-- One node, lowered by the rule of its kind, visits what its parts list. -/
theorem dispatch_visits (n : Node) :
    (dispatch r n).Visits p s c h (n.parts c .expr) Op.Spanned := by
  obtain ⟨sp, nl, k⟩ := n
  exact dispatch_visits_mk hr sp nl k

end Rules

/-- The rules tied together at fuel `k` are checked against the nodes they lower with `k` levels
left: at fuel `k + 1` a rule's parts are put down to its node one level up, and at fuel `0`
running out is owed to the node itself. -/
theorem recurAt_visits : ∀ fuel, (recurAt fuel).Visits fuel
  | 0 => ⟨fun _ _ _ _ => Visits.throw_exhausted ⟨_, List.mem_singleton_self _, .inl (Nat.zero_le _)⟩,
      fun _ _ _ _ _ => Visits.throw_exhausted ⟨_, List.mem_singleton_self _, .inl (Nat.zero_le _)⟩⟩
  | fuel + 1 =>
    have ih := recurAt_visits fuel
    ⟨fun n _ _ _ => Visits.toNode (dispatch_visits ih n),
      fun t v _ _ _ => Visits.toNode (target_visits ih t v)⟩

theorem lower_visits {p : Place} {s : Progress} {c : JumpScope} (n : Node) :
    (lower n).Visits p s c (n.height + 1) [.node c .expr n] Op.Spanned :=
  (recurAt_visits (n.height + 1)).expr n p s c

/-- The top-level unit lowers its root in the scope of the top level, which allows no jump. -/
theorem program_visits {p : Place} {s : Progress} {c : JumpScope} (n : Node) :
    (program (some n)).Visits p s c (n.height + 1) [.node c .expr n] fun _ => True := by
  unfold program
  refine Visits.quiet_bind (Visits.modifyFrame ?_ ?_ ?_) fun _ s1 _ _ => ?_
  · exact fun _ => ⟨rfl, rfl, rfl, List.prefix_refl _, fun h => h, List.prefix_refl _⟩
  · exact fun _ => rfl
  · exact fun _ => rfl
  refine Visits.bind_read rfl (Visits.bind_read rfl ?_)
  exact (lower_visits n).bind_quiet fun _ _ _ _ => (withPrelude_visits _ _).bind_quiet
    fun _ _ _ _ => Visits.bind_read rfl (Visits.pure trivial)

/-- An empty program is nil at the start of the file, and visits nothing. -/
theorem program_none_visits {p : Place} {s : Progress} {c : JumpScope} {h : Nat} :
    (program none).Visits p s c h [] fun _ => True := by
  unfold program
  refine Visits.quiet_bind (Visits.modifyFrame ?_ ?_ ?_) fun _ s1 _ _ => ?_
  · exact fun _ => ⟨rfl, rfl, rfl, List.prefix_refl _, fun h => h, List.prefix_refl _⟩
  · exact fun _ => rfl
  · exact fun _ => rfl
  refine Visits.bind_read rfl (Visits.bind_read rfl ?_)
  exact (Visits.atSpan (Q := fun _ => True) (.inl rfl) trivial).quiet_bind fun _ _ _ _ =>
    (withPrelude_visits _ _).bind_quiet fun _ _ _ _ => Visits.bind_read rfl (Visits.pure trivial)

end Lower

/-- The place of a program is ready at the top level's scope: the frame of the top level is no
block's, and no loop or rescue clause is open. -/
theorem Place.ready_initial (source : SourceInfo) :
    ({ source, frame := 0 } : Place).Ready { env := Env.initial } { core := source.isCore } :=
  ⟨Env.initial_ok, show 0 < 1 by decide, rfl, fun h => by simp at h⟩

/-- A unit fails with the error that `program` stops with over a fresh environment. -/
theorem compileUnit_eq_error {options : Options} {u : SourceUnit} {e : LowerError}
    (h : compileUnit options u = .error e) :
    ∃ s, (Lower.program u.root).exec { source := SourceInfo.ofUnit options u.file u.source, frame := 0 }
      { env := Env.initial } = (.error e, s) := by
  unfold compileUnit at h
  dsimp only at h
  split at h
  · cases h
  · next e' s hrun =>
    cases h
    exact ⟨s, hrun⟩

/-- A node gets its span once: no compilation, whatever its options and its tree, stops because
a lowering gave a node that has a span a different one, since every stop is accounted for by
the visits and a span given twice never is. A span added where one may be missing
(`Op.ensureSpan`) leaves the span a node has. -/
theorem compileUnit_spansAssignedOnce :
    (∀ (options : Options) (u : SourceUnit) (old new : Span),
      compileUnit options u ≠ .error (.spanTwice old new)) ∧
    ∀ (o : Op) (sp : Span), (o.ensureSpan sp).span = some (o.span.getD sp) := by
  refine ⟨fun options u old new h => ?_, fun o sp => ?_⟩
  · obtain ⟨s, hrun⟩ := compileUnit_eq_error h
    have hready := Place.ready_initial (SourceInfo.ofUnit options u.file u.source)
    cases hroot : u.root with
    | none =>
      rw [hroot] at hrun
      have hv := Lower.program_none_visits (h := 0) hready
      rw [hrun] at hv
      exact hv
    | some n =>
      rw [hroot] at hrun
      have hv := Lower.program_visits n hready
      rw [hrun] at hv
      exact hv
  · obtain ⟨f, _ | old, fl⟩ := o <;> rfl

/-- The control-flow faults of a compilation are exactly its misplaced jump keywords. A unit
whose tree keeps its spans in range, and whose lowering raises no fault of another kind, fails
with a control-flow fault exactly when a keyword that the lowering visits stands where it is not
allowed: `break`, `next` or `redo` outside a block and a loop body, `retry` outside these and a
rescue clause. -/
theorem compileUnit_controlFlow_iff {options : Options} {u : SourceUnit} {n : Node}
    (hroot : u.root = some n) (hfit : n.SpansFit)
    (hkinds : ∀ f, compileUnit options u = .error (.fault f) →
      f.kind ≠ .unsupportedShape ∧ f.kind ≠ .argumentShape ∧ f.kind ≠ .internalForm) :
    (∃ f, compileUnit options u = .error (.fault f) ∧ f.kind = .controlFlow) ↔
      (Visit.node { core := (SourceInfo.ofUnit options u.file u.source).isCore } .expr n).Misplaced := by
  have hv := Lower.program_visits (s := { env := Env.initial }) n
    (Place.ready_initial (SourceInfo.ofUnit options u.file u.source))
  -- with its spans in range the root needs no more levels than the lowering gives it
  have hin : ¬ (Visit.node { core := (SourceInfo.ofUnit options u.file u.source).isCore } .expr n).OutOf
      (n.height + 1) :=
    fun ho => ho.elim (fun hle => by omega) (fun hf => hf hfit)
  constructor
  · rintro ⟨f, hf, hk⟩
    obtain ⟨s, hrun⟩ := compileUnit_eq_error hf
    rw [hroot] at hrun
    rw [hrun] at hv
    obtain ⟨v, hv', hm⟩ := hv hk
    rwa [List.mem_singleton.1 hv'] at hm
  · intro hm
    have hres : compileUnit options u = match (Lower.program (some n)).exec
        { source := SourceInfo.ofUnit options u.file u.source, frame := 0 } { env := Env.initial } with
        | (.ok root, s) => .ok { file := u.file, root, coverage := s.coverage.toList }
        | (.error e, _) => .error e := by
      unfold compileUnit
      rw [hroot]
      rfl
    revert hv
    rcases hrun : (Lower.program (some n)).exec
      { source := SourceInfo.ofUnit options u.file u.source, frame := 0 } { env := Env.initial } with
      ⟨e | root, s⟩
    · rw [hrun] at hres
      intro hv
      cases e with
      | fault f =>
        refine ⟨f, hres, ?_⟩
        obtain ⟨h1, h2, h3⟩ := hkinds f hres
        cases hk : f.kind
        · rfl
        · exact absurd hk h1
        · exact absurd hk h2
        · exact absurd hk h3
      | overflow _ =>
        obtain ⟨v, hv', ho⟩ := hv
        rw [List.mem_singleton.1 hv'] at ho
        exact absurd ho hin
      | exhausted =>
        obtain ⟨v, hv', ho⟩ := hv
        rw [List.mem_singleton.1 hv'] at ho
        exact absurd ho hin
      | spanTwice _ _ => exact hv.elim
    · rintro ⟨-, hnone, -⟩
      exact absurd hm (hnone _ List.mem_cons_self)


/-- A node without children keeps its spans in range when its own span is. -/
theorem Node.spansFit_of_children_nil {sp : Span} {nl : Bool} {k : Kind Node} (hk : k.children = [])
    (hsp : sp.fits = true) : (Node.mk sp nl k).SpansFit := by
  intro m hm
  cases hm with
  | refl => exact hsp
  | child hc _ => rw [hk] at hc; cases hc

/-- A `break` at the top level fails with a control-flow fault, and is misplaced there. -/
theorem compileUnit_controlFlow_topLevelBreak :
    (∃ f, compileUnit {} { file := "t.rb", root := some (.mk ⟨0, 0⟩ false (.breakJump none)) } =
        .error (.fault f) ∧ f.kind = .controlFlow) ∧
      (Visit.node { core := (SourceInfo.ofUnit {} "t.rb" "").isCore } .expr
        (.mk ⟨0, 0⟩ false (.breakJump none))).Misplaced := by
  have hrun : compileUnit {} { file := "t.rb", root := some (.mk ⟨0, 0⟩ false (.breakJump none)) } =
      .error (.fault ⟨.controlFlow, .invalidBreak, [], ⟨0, 0⟩⟩) := rfl
  have hiff := compileUnit_controlFlow_iff (u := { file := "t.rb", root := some (.mk ⟨0, 0⟩ false (.breakJump none)) }) rfl
    (Node.spansFit_of_children_nil rfl rfl) fun f hf => by
      rw [hrun] at hf
      cases hf
      exact ⟨by decide, by decide, by decide⟩
  exact ⟨⟨_, hrun, rfl⟩, hiff.1 ⟨_, hrun, rfl⟩⟩

/-- A `break` in a parameter default of the block of `Garnet.privately` is not visited: the call
lowers only the block's body, so the unit compiles, though the `break` would be misplaced where
the call stands. -/
theorem compileUnit_ok_privatelyParamBreak :
    (∃ c, compileUnit {} { file := "t.rb", root := some (.mk ⟨0, 0⟩ false
      (.call (.mk ⟨0, 0⟩ false (.const "Garnet")) "privately" none
        (some (.mk ⟨0, 0⟩ false (.iter {
          params := { optional := [.mk ⟨0, 0⟩ false
            (.localAsgn "a" 0 (some (.mk ⟨3, 2⟩ false (.breakJump none))))] },
          span := ⟨0, 0⟩, body := some (.mk ⟨0, 0⟩ false .nilLit), locals := [] }))) false)) } =
        .ok c) ∧
      (Visit.node { core := (SourceInfo.ofUnit {} "t.rb" "").isCore } .expr
        (.mk ⟨3, 2⟩ false (.breakJump none))).Misplaced :=
  ⟨⟨_, rfl⟩, .part List.mem_cons_self (.jump rfl)⟩

end RubyLower
