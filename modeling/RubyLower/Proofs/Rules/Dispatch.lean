import RubyLower.Lower.Dispatch
import RubyLower.Proofs.Rules.Assign
import RubyLower.Proofs.Rules.Control
import RubyLower.Proofs.Rules.Rescue

/-!
# Every rule, and the recursion that ties them

`dispatch_yields` takes each kind of node to its rule: lowering a node at a fitting place gives a
good node, when the recursive calls do. `recurAt_sound` closes the recursion by induction on the
fuel: the calls at fuel `k + 1` are the rules over the calls at fuel `k`, and at fuel `0` every
call fails, which a step may always do. So every lowering of a node is good at its place
(`lower_yields`).
-/

namespace RubyLower

namespace Lower

variable {r : Recur} {p : Place} {s : Progress}

/-- One node, lowered by the rule of its kind, is good at a fitting place when the recursive
calls are sound. -/
theorem dispatch_yields (hr : r.Sound) (hp : p.Fits s) (n : Node) :
    (dispatch r n).Yields p s fun o s' => o.Good p s' := by
  unfold dispatch
  dsimp only
  -- every kind but a conditional is flagged as a line start after its rule
  have flag : ∀ {s : Progress} {x : Lower Op}, p.Fits s → x.Yields p s (fun o s' => o.Good p s') →
      (x >>= addNewline n).Yields p s fun o s' => o.Good p s' :=
    fun hp hx => hx.bind fun _ _ e1 ho => addNewline_yields (hp.evolve e1) ho n
  split
  · exact conditional_yields hr hp _ _ _ _ _
  split
  · exact flag hp (fixnum_yields _ _)
  · exact flag hp (bignum_yields _ _)
  · exact flag hp (Yields.pure (Op.Good.leaf rfl rfl).withSpan)
  · exact flag hp (rational_yields hr hp _ _ _)
  · exact flag hp (complex_yields hr hp _ _)
  · exact flag hp (str_yields _ _ _)
  · exact flag hp (command_yields (Op.Good.leaf rfl rfl) _)
  · exact flag hp (dstr_yields hr hp _ _)
  · exact flag hp (dsymbol_yields hr hp _ _)
  · exact flag hp (dxstr_yields hr hp _ _)
  · exact flag hp (dregexp_yields hr hp _ _ _)
  · exact flag hp (evstr_yields hr hp _ _)
  · exact flag hp (Yields.pure (Op.Good.symbol _).withSpan)
  · exact flag hp (regexp_yields _ _ _)
  · exact flag hp (Yields.pure (Op.Good.leaf rfl rfl).withSpan)
  · exact flag hp (Yields.pure (Op.Good.leaf rfl rfl).withSpan)
  · exact flag hp (Yields.pure (Op.Good.leaf rfl rfl).withSpan)
  · exact flag hp (Yields.pure (Op.Good.leaf rfl rfl).withSpan)
  · exact flag hp (Yields.pure (Op.Good.leaf rfl rfl).withSpan)
  · exact flag hp (Yields.pure (Op.Good.leaf rfl rfl).withSpan)
  · exact (exprs_yields hr hp _).bind fun _ _ e1 hos =>
      flag (hp.evolve e1) (Yields.pure (Op.Good.bare rfl (by exact hos)).withSpan)
  · exact flag hp (hash_yields hr hp _ _)
  · exact flag hp (range_yields hr hp _ _ _ _)
  · exact flag hp (flipFlop_yields hr hp _ _ _ _)
  · exact flag hp (Yields.pure (Op.Good.leaf rfl rfl).withSpan)
  · exact flag hp (Yields.pure (Op.Good.leaf rfl rfl).withSpan)
  · exact flag hp (matchLastLine_yields hr hp _ _)
  · exact flag hp (match2_yields hr hp _ _ _)
  · refine (hr.expr _ p s hp).bind fun recv s1 e1 hrecv => ?_
    have hp1 := hp.evolve e1
    refine (hr.expr _ p s1 hp1).bind fun v s2 e2 hv => flag (hp1.evolve e2) (Yields.pure ?_)
    exact (Op.Good.call (hrecv.evolve hp1 e2) (List.forall_mem_singleton.2 hv) _ _).withSpan
  · refine (hr.expr _ p s hp).bind fun o _ e1 ho => flag (hp.evolve e1) (Yields.pure ?_)
    exact (Op.Good.bare rfl (by simp [Form.children, ho])).withSpan
  · exact flag hp (localRead_yields hp _ _)
  · exact flag hp (dvarRead_yields hp _ _ _)
  · exact flag hp (localAssignment_yields hr hp _ _ _)
  · exact flag hp (localAssignment_yields hr hp _ _ _)
  · exact flag hp (Yields.pure (Op.Good.leaf rfl rfl).withSpan)
  · refine (valueOrDead_yields hr hp _ _).bind fun v _ e1 hv => flag (hp.evolve e1) (Yields.pure ?_)
    exact (Op.Good.bare rfl (by simp [Form.children, hv])).withSpan
  · refine classVarScope_yields.bind fun sc _ e1 hsc => flag (hp.evolve e1) (Yields.pure ?_)
    exact (Op.Good.bare rfl (by simp [Form.children, hsc])).withSpan
  · refine classVarScope_yields.bind fun sc s1 e1 hsc => ?_
    have hp1 := hp.evolve e1
    refine (valueOrDead_yields hr hp1 _ _).bind fun v s2 e2 hv => flag (hp1.evolve e2) (Yields.pure ?_)
    have hsc2 := hsc.evolve hp1 e2
    exact (Op.Good.bare rfl (by simp [Form.children, hsc2, hv])).withSpan
  · exact flag hp (Yields.pure (Op.Good.leaf rfl rfl).withSpan)
  · refine (valueOrDead_yields hr hp _ _).bind fun v _ e1 hv => flag (hp.evolve e1) (Yields.pure ?_)
    exact (Op.Good.bare rfl (by simp [Form.children, hv])).withSpan
  · exact flag hp (readConst_yields _ _)
  · refine (hr.expr _ p s hp).bind fun m _ e1 hm => flag (hp.evolve e1) (Yields.pure ?_)
    exact (Op.Good.bare rfl (by simp [Form.children, hm])).withSpan
  · exact flag hp (Yields.pure
      (Op.Good.bare rfl (by simp [Form.children, Op.Good.object])).withSpan)
  · refine (constPathModule_yields hr hp _).bind fun m s1 e1 hm => ?_
    have hp1 := hp.evolve e1
    refine (valueOrDead_yields hr hp1 _ _).bind fun v s2 e2 hv => flag (hp1.evolve e2) (Yields.pure ?_)
    have hm2 := hm.evolve hp1 e2
    exact (Op.Good.bare rfl (by simp [Form.children, hm2, hv])).withSpan
  · exact flag hp (call_yields hr hp _ _ _ _ _ _)
  · exact flag hp (fcall_yields hr hp _ _ _ _)
  · exact flag hp (vcall_yields _ _)
  · exact flag hp (attrAssign_yields hr hp _ _ _ _ _)
  · exact flag hp (superCall_yields hr hp _ _ _)
  · exact flag hp (zsuper_yields hr hp _ _)
  · exact flag hp (yieldCall_yields hr hp _ _)
  · refine (hr.expr _ p s hp).bind fun b _ e1 hb => flag (hp.evolve e1) (Yields.pure ?_)
    exact (Op.Good.bare rfl (by simp [Form.children, hb])).withSpan
  · exact flag hp (lambda_yields hr hp _)
  · refine (hr.expr _ p s hp).bind fun v _ e1 hv => flag (hp.evolve e1) (Yields.pure ?_)
    exact (Op.Good.bare rfl (by simp [Form.children, hv])).withSpan
  · exact flag hp (argsCat_yields hr hp _ _ _)
  · exact flag hp (argsPush_yields hr hp _ _ _)
  · exact flag hp (hr.expr _ p s hp)
  · exact flag hp (Yields.pure (Op.Good.leaf rfl rfl).withSpan)
  · exact flag hp (exprOrNil_yields hr hp _ _)
  · exact (exprs_yields hr hp _).bind fun _ _ e1 hos =>
      flag (hp.evolve e1) (Yields.pure (Op.Good.sequence hos).ensureSpan)
  · exact flag hp (exprOrNil_yields hr hp _ _)
  · exact flag hp (postExe_yields hr hp _ _)
  · exact flag hp (conditional_yields hr hp _ _ _ _ _)
  · refine (hr.expr _ p s hp).bind fun left s1 e1 hl => ?_
    have hp1 := hp.evolve e1
    refine (hr.expr _ p s1 hp1).bind fun right s2 e2 hright => flag (hp1.evolve e2) (Yields.pure ?_)
    have hl2 := hl.evolve hp1 e2
    exact (Op.Good.bare rfl (by simp [Form.children, hl2, hright])).withSpan
  · refine (hr.expr _ p s hp).bind fun left s1 e1 hl => ?_
    have hp1 := hp.evolve e1
    refine (hr.expr _ p s1 hp1).bind fun right s2 e2 hright => flag (hp1.evolve e2) (Yields.pure ?_)
    have hl2 := hl.evolve hp1 e2
    exact (Op.Good.bare rfl (by simp [Form.children, hl2, hright])).withSpan
  · exact flag hp (loop_yields hr hp _ _ _ _ _)
  · exact flag hp (loop_yields hr hp _ _ _ _ _)
  · exact flag hp (forLoop_yields hr hp _ _ _ _)
  · exact flag hp (caseWhen_yields hr hp _ _ _ _)
  · exact flag hp (breakJump_yields hr hp _ _)
  · exact flag hp (nextJump_yields hr hp _ _)
  · exact flag hp (redo_yields _)
  · exact flag hp (retry_yields _)
  · exact flag hp (returnJump_yields hr hp _ _)
  · exact flag hp (rescue_yields hr hp _ _ _ _)
  · refine (exprOrNil_yields hr hp _ _).bind fun body s1 e1 hbody => ?_
    have hp1 := hp.evolve e1
    refine (exprOrNil_yields hr hp1 _ _).bind fun ens s2 e2 hens => flag (hp1.evolve e2) (Yields.pure ?_)
    have hbody2 := hbody.evolve hp1 e2
    exact (Op.Good.bare rfl (by simp [Form.children, hbody2, hens])).withSpan
  · exact flag hp (opAsgn_yields hr hp _ _ _ _ _ _)
  · exact flag hp (opAsgnAnd_yields hr hp _ _ _)
  · exact flag hp (opAsgnOr_yields hr hp _ _ _)
  · exact flag hp (opElementAsgn_yields hr hp _ _ _ _ _)
  · exact flag hp (opAsgnConstDecl_yields hr hp _ _ _ _)
  · exact flag hp (multipleAssignment_yields hr hp _)
  · exact flag hp (defn_yields hr hp _ _ _ _)
  · exact flag hp (defs_yields hr hp _ _ _ _ _)
  · exact flag hp (classDef_yields hr hp _ _ _ _)
  · exact flag hp (moduleDef_yields hr hp _ _ _)
  · exact flag hp (sclass_yields hr hp _ _ _)
  · exact flag hp (aliasMethod_yields hr hp _ _ _)
  · exact flag hp (Yields.pure (Op.Good.leaf rfl rfl).withSpan)
  · exact flag hp (undef_yields hr hp _ _)
  · exact flag hp Yields.fail
  · exact flag hp Yields.fail
  · exact flag hp Yields.fail

/-- The rules tied together at any fuel are sound. -/
theorem recurAt_sound : ∀ fuel, (recurAt fuel).Sound
  | 0 => ⟨fun _ _ _ _ => Yields.throw, fun _ _ _ _ _ _ => Yields.throw⟩
  | fuel + 1 =>
    have ih := recurAt_sound fuel
    ⟨fun n _ _ hp => dispatch_yields ih hp n, fun t _ _ _ hp hv => target_yields ih hp t hv⟩

/-- Lowering a node at a fitting place fails, or gives a node good there in a progress that
evolves from the one it started from. -/
theorem lower_yields (hp : p.Fits s) (n : Node) : (lower n).Yields p s fun o s' => o.Good p s' :=
  (recurAt_sound (n.height + 1)).expr n p s hp

end Lower

end RubyLower
