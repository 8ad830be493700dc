import RubyLower.Proofs.OperandCopies

/-!
# `case` is a chain of conditionals

`case` lowers to conditionals nested from the last `when` outwards (`Lower.chainArms`). With a
subject, the subject is lowered once and written to a new temporary before everything else, and
arm `i` tests `pattern_i === t` against that temporary, or `Internal.when_splat(list_i, t)` for
`when *list_i`; without one, arm `i` tests its expression itself, or
`Internal.any_truthy?(list_i)` (`Lower.whenTest`). Each arm runs its body, `nil` at the arm's span
when it has none, and the chain ends with the `else` body, `nil` at the node's span when there is
none (`Lower.CaseDesugared`).

Evaluated as conditionals are, the chain tests the arms in order, each only after all earlier
ones failed, and gives the body of the first arm whose test holds, or else the `else` body
(`Lower.branch_chainArms`). `Lower.caseWhen_desugars` says both of the rule, for any recursion
whose results stand in a relation `T n o` ("`o` is a lowering of `n`") to the nodes lowered.
-/

namespace RubyLower

namespace Op

/-- Following the conditionals of a node `depth` levels deep, when each condition `c` comes out
`holds c`: the conditions tested, in order, and the node reached. -/
def branch (holds : Op → Bool) : Nat → Op → List Op × Op
  | 0, o => ([], o)
  | depth + 1, o =>
    match o.form with
    | .ifElse c t e =>
      if holds c then ([c], t)
      else ((c :: (branch holds depth e).1), (branch holds depth e).2)
    | _ => ([], o)

end Op

namespace Lower

theorem chainArms_cons (c t : Op) (arms : List (Op × Op)) (otherwise : Op) :
    chainArms ((c, t) :: arms) otherwise = Op.ifElse c t (chainArms arms otherwise) :=
  rfl

/-- Through its arms, a chain of conditionals tests the arms in order up to the first whose test
holds, and reaches that arm's body, or the node it ends with when no test holds. -/
theorem branch_chainArms (holds : Op → Bool) :
    ∀ (arms : List (Op × Op)) (otherwise : Op),
      Op.branch holds arms.length (chainArms arms otherwise) =
        ((arms.takeWhile (fun a => !holds a.1)).map Prod.fst ++
            ((arms.find? (fun a => holds a.1)).map Prod.fst).toList,
          ((arms.find? (fun a => holds a.1)).map Prod.snd).getD otherwise)
  | [], _ => rfl
  | (c, t) :: arms, otherwise => by
    rw [List.length_cons, chainArms_cons, Op.branch]
    dsimp only [Op.ifElse, Op.ofForm, Op.form]
    rw [branch_chainArms holds arms otherwise]
    cases hc : holds c <;> simp [hc]

/-- The test of a `when` arm on its pattern's lowering `pv`: with the subject in slot `t`,
`pv === t`, or `Internal.when_splat(pv, t)` for `when *list`; without a subject, `pv` itself, or
`Internal.any_truthy?(pv)`. A call test stands at the arm's span. -/
def whenTest (subject : Option Slot) (w : WhenArm Node) (pv : Op) : Op :=
  let internal := (Op.object (.core .internal)).withSpan w.span
  subject.elim
    (if w.splat then (Op.call internal "any_truthy?" [pv] privateCall).withSpan w.span else pv)
    fun t => (if w.splat then Op.call internal "when_splat" [pv, Op.readLocal t] privateCall
      else Op.call pv "===" [Op.readLocal t] privateCall).withSpan w.span

/-- `o` stands in `T` to the node `n`, or is `nil` at `span` when there is no node. -/
def LowersOrNil (T : Node → Op → Prop) (n : Option Node) (span : Span) (o : Op) : Prop :=
  n.elim (o = Op.nil.withSpan span) fun n => T n o

/-- The arms of a `case`, one per `when` in order: the test on the lowering of the arm's pattern,
and the lowering of its body. -/
def CaseArms (T : Node → Op → Prop) (subject : Option Slot) (whens : List (WhenArm Node))
    (arms : List (Op × Op)) : Prop :=
  List.Forall₂ (fun w arm => ∃ pv, T w.pattern pv ∧ arm.1 = whenTest subject w pv ∧
    LowersOrNil T w.body w.span arm.2) whens arms

/-- The lowering `out` of `case` with arms `arms` and else body `otherwise`: without a subject,
the chain of the arms at the node's span; with one, the sequence of the write of the subject's
lowering to a temporary of the frame and the chain, tested against that temporary; a sequence
node of the two whenever the chain is no sequence to splice, as it never is with an arm. -/
def CaseDesugared (T : Node → Op → Prop) (frame : Nat) (subject : Option Node)
    (whens : List (WhenArm Node)) (elseBody : Option Node) (span : Span) (arms : List (Op × Op))
    (otherwise out : Op) : Prop :=
  LowersOrNil T elseBody span otherwise ∧
    ((subject = none ∧ CaseArms T none whens arms ∧ out = (chainArms arms otherwise).ensureSpan span) ∨
      ∃ sn sv, ∃ e : Env, subject = some sn ∧ T sn sv ∧
        CaseArms T (some (e.allocTemp frame "case").2) whens arms ∧
        out = (Op.sequence [Op.writeLocal (e.allocTemp frame "case").2 sv,
          chainArms arms otherwise]).ensureSpan span ∧
        ((chainArms arms otherwise).spliceable = none →
          out = .mk (.seq [Op.writeLocal (e.allocTemp frame "case").2 sv, chainArms arms otherwise])
            (some span) {}))

/-- A chain with an arm is a conditional, no sequence to splice. -/
theorem spliceable_chainArms_cons (a : Op × Op) (arms : List (Op × Op)) (otherwise : Op) :
    (chainArms (a :: arms) otherwise).spliceable = none :=
  rfl

/-- A write followed by a node that is no sequence to splice is a sequence node of the two. -/
theorem sequence_writeLocal_ensureSpan {t : Slot} {v c : Op} (hc : c.spliceable = none)
    (span : Span) :
    (Op.sequence [Op.writeLocal t v, c]).ensureSpan span =
      .mk (.seq [Op.writeLocal t v, c]) (some span) {} := by
  have hsplice : Op.splice [Op.writeLocal t v, c] = [Op.writeLocal t v, c] := by
    refine Op.splice_of_forall fun o ho => ?_
    simp only [List.mem_cons, List.not_mem_nil, or_false] at ho
    rcases ho with rfl | rfl
    · rfl
    · exact hc
  have hdrop : Op.dropIdle [Op.writeLocal t v, c] = [Op.writeLocal t v, c] := by
    rw [Op.dropIdle_cons (List.cons_ne_nil c [])]
    rfl
  rw [Op.sequence_of_two_le (by rw [hsplice, hdrop]; exact Nat.le_refl 2), hsplice, hdrop]
  rfl

section Steps

variable {p : Place} {s : Progress}

theorem internalAt_post (span : Span) :
    (internalAt span).Post p s fun o _ => o = (Op.object (.core .internal)).withSpan span :=
  Post.atSpan rfl

theorem temp_post (pfx : String) :
    (temp pfx).Post p s fun t _ => t = (s.env.allocTemp p.frame pfx).2 :=
  Post.bind_read frame_post (Post.onEnv rfl)

end Steps

section Rule

variable {r : Recur} {T : Node → Op → Prop} (hr : ∀ n p s, (r.expr n).Post p s fun o _ => T n o)
  {p : Place} {s : Progress}
include hr

theorem exprOrNil_post (n : Option Node) (span : Span) :
    (exprOrNil r n span).Post p s fun o _ => LowersOrNil T n span o := by
  cases n with
  | none =>
    unfold exprOrNil
    exact Post.atSpan rfl
  | some n => exact hr n p s

/-- An arm without subject: its test on the pattern's lowering, then the lowering of its body. -/
theorem whenArm_post (w : WhenArm Node) :
    (whenArm r w).Post p s fun arm _ =>
      ∃ pv, T w.pattern pv ∧ arm.1 = whenTest none w pv ∧ LowersOrNil T w.body w.span arm.2 := by
  unfold whenArm
  refine (hr w.pattern p s).bind fun pv s1 hpv => ?_
  -- the test, then the body, whichever test it is
  have rest : ∀ c s2, c = whenTest none w pv →
      (do let b ← exprOrNil r w.body w.span; pure (c, b) : Lower (Op × Op)).Post p s2 fun arm _ =>
        ∃ pv, T w.pattern pv ∧ arm.1 = whenTest none w pv ∧ LowersOrNil T w.body w.span arm.2 :=
    fun c _ hc => (exprOrNil_post hr w.body w.span).bind fun _ _ hb => Post.pure ⟨pv, hpv, hc, hb⟩
  dsimp only
  split
  · next hsplat =>
    exact (internalAt_post w.span).bind fun internal s2 hi =>
      (Post.atSpan (Q := fun c _ => c = whenTest none w pv) (by simp [whenTest, hsplat, hi])).bind
        fun c s3 hc => rest c s3 hc
  · next hsplat =>
    exact rest pv s1 (by simp [whenTest, hsplat])

/-- An arm testing the subject in `t`: its test on the pattern's lowering and `t`, then the
lowering of its body. -/
theorem whenSubjectArm_post (t : Slot) (w : WhenArm Node) :
    (whenSubjectArm r t w).Post p s fun arm _ =>
      ∃ pv, T w.pattern pv ∧ arm.1 = whenTest (some t) w pv ∧ LowersOrNil T w.body w.span arm.2 := by
  unfold whenSubjectArm
  refine (hr w.pattern p s).bind fun pv s1 hpv => ?_
  -- the test, given the arm's span, then the body
  have rest : ∀ c s2, c.withSpan w.span = whenTest (some t) w pv →
      (do let c ← atSpan c w.span; let b ← exprOrNil r w.body w.span; pure (c, b) :
        Lower (Op × Op)).Post p s2 fun arm _ =>
        ∃ pv, T w.pattern pv ∧ arm.1 = whenTest (some t) w pv ∧ LowersOrNil T w.body w.span arm.2 :=
    fun c _ hc => (Post.atSpan (Q := fun c' _ => c' = whenTest (some t) w pv) hc).bind fun _ _ hc' =>
      (exprOrNil_post hr w.body w.span).bind fun _ _ hb => Post.pure ⟨pv, hpv, hc', hb⟩
  dsimp only
  split
  · next hsplat =>
    refine (internalAt_post w.span).bind fun internal s2 hi => ?_
    rw [pure_bind]
    exact rest _ s2 (by simp [whenTest, hsplat, hi])
  · next hsplat =>
    rw [pure_bind]
    exact rest _ s1 (by simp [whenTest, hsplat])

/-- **`case` is a chain of conditionals.** Lowered with a recursion whose results stand in `T`
to the nodes lowered, `case` is the chain of its arms in order, over a temporary holding the
subject when it has one (`CaseDesugared`); run as conditionals, the chain tests the arms in
order up to the first whose test holds and gives its body, or else the `else` body. -/
theorem caseWhen_desugars (subject : Option Node) (whens : List (WhenArm Node))
    (elseBody : Option Node) (span : Span) :
    (caseWhen r subject whens elseBody span).Post p s fun out _ =>
      ∃ arms otherwise, CaseDesugared T p.frame subject whens elseBody span arms otherwise out ∧
        ∀ holds : Op → Bool, Op.branch holds arms.length (chainArms arms otherwise) =
          ((arms.takeWhile (fun a => !holds a.1)).map Prod.fst ++
              ((arms.find? (fun a => holds a.1)).map Prod.fst).toList,
            ((arms.find? (fun a => holds a.1)).map Prod.snd).getD otherwise) := by
  cases subject with
  | none =>
    refine (Post.mapM_forall₂ whens (fun w _ s => whenArm_post hr w) s).bind fun arms s1 harms => ?_
    refine (exprOrNil_post hr elseBody span).bind fun otherwise s2 hother => Post.pure ?_
    exact ⟨arms, otherwise, ⟨hother, .inl ⟨rfl, harms, rfl⟩⟩, fun holds => branch_chainArms holds _ _⟩
  | some sn =>
    refine (hr sn p s).bind fun sv s1 hsv => ?_
    -- the subject goes to a temporary allocated after it is lowered
    refine (temp_post "case").bind fun t s2 ht => ?_
    refine (Post.mapM_forall₂ whens (fun w _ s => whenSubjectArm_post hr t w) s2).bind
      fun arms s3 harms => ?_
    refine (exprOrNil_post hr elseBody span).bind fun otherwise s4 hother => Post.pure ?_
    subst ht
    refine ⟨arms, otherwise, ⟨hother, .inr ⟨sn, sv, s1.env, rfl, hsv, harms, rfl, fun hc => ?_⟩⟩,
      fun holds => branch_chainArms holds _ _⟩
    exact sequence_writeLocal_ensureSpan hc span

end Rule

/-- `case x when 1 then :one when *list end`, each operand lowered to its tag: the arms test
`1 === t` and `Internal.when_splat(list, t)` in order over the temporary `t` holding `x`. -/
theorem caseWhen_desugars_splatArm :
    ∃ whens : List (WhenArm Node), whens =
        [⟨⟨7, 10⟩, .mk ⟨12, 1⟩ false (.fixnum 1), some (.mk ⟨19, 4⟩ false (.symbol "one")), false⟩,
          ⟨⟨24, 12⟩, .mk ⟨30, 4⟩ false (.vcall "list"), none, true⟩] ∧
      (∀ n p s, (Recur.tagging.expr n).Post p s fun o _ => o = n.tagged) ∧
      (caseWhen Recur.tagging (some (.mk ⟨5, 1⟩ false (.vcall "x"))) whens none ⟨0, 40⟩).Post
        { source := SourceInfo.ofUnit {} "t.rb" "", frame := 0 } { env := Env.initial } fun out _ =>
        ∃ arms otherwise, CaseDesugared (fun n o => o = n.tagged) 0
            (some (.mk ⟨5, 1⟩ false (.vcall "x"))) whens none ⟨0, 40⟩ arms otherwise out ∧
          ∀ holds : Op → Bool, Op.branch holds arms.length (chainArms arms otherwise) =
            ((arms.takeWhile (fun a => !holds a.1)).map Prod.fst ++
                ((arms.find? (fun a => holds a.1)).map Prod.fst).toList,
              ((arms.find? (fun a => holds a.1)).map Prod.snd).getD otherwise) :=
  have hr : ∀ n p s, (Recur.tagging.expr n).Post p s fun o _ => o = n.tagged :=
    fun _ _ _ => Post.pure rfl
  ⟨_, rfl, hr, caseWhen_desugars hr _ _ _ _⟩

end Lower

end RubyLower
