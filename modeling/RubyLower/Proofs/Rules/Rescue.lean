import RubyLower.Lower.Rescue
import RubyLower.Proofs.Steps

/-!
# The rules for `rescue`

A try node and its exception translation are bare, so a `rescue` is good when its body, its
clauses and its `else` are. Each clause body is lowered where `retry` is allowed, which changes no
part of the place that goodness sees.

The clauses of an exception list come from a worklist of its parts. Whatever is on it, the
worklist makes the clauses of its parts one part after the other, front first
(`rescueWork_eq`): a concatenation pushes its list part in front of its second part, so the
clauses of the list part come first. Started on a whole list it is therefore the recursion down
the list's left spine (`rescueList_eq_nested`), along which the rules here and elsewhere are
proved.
-/

namespace RubyLower

namespace Lower

/-- The clauses of an exception list, read by recursion down its left spine: the clauses of the
list part of a concatenation, then the clause of its second part. -/
def rescueNested (r : Recur) (c : RescueArm Node) (span : Span) (n : Node) :
    Lower (List (RescueClause Op)) :=
  match n with
  | .mk _ _ (.array els) => do
    let classes ← exprs r els
    return [⟨.classes classes, ← clauseBody r c span⟩]
  | .mk _ _ (.splat v) => do
    let list ← r.expr v
    return [⟨.splat list, ← clauseBody r c span⟩]
  | .mk _ _ (.argsCat first second) => do
    let before ← rescueNested r c span first
    let list ← r.expr second
    return before ++ [⟨.splat list, ← clauseBody r c span⟩]
  | .mk _ _ (.argsPush first second) => do
    let before ← rescueNested r c span first
    let cls ← r.expr second
    return before ++ [⟨.classes [cls], ← clauseBody r c span⟩]
  | other => fail .unsupportedShape .unsupportedRescueList [other.kind.name] other.span

/-- The clauses a part on the worklist stands for. -/
def PendingException.clauses (r : Recur) (c : RescueArm Node) (span : Span) :
    PendingException → Lower (List (RescueClause Op))
  | .list n => rescueNested r c span n
  | .splatOf n => do
    let list ← r.expr n
    return [⟨.splat list, ← clauseBody r c span⟩]
  | .arrayOf n => do
    let cls ← r.expr n
    return [⟨.classes [cls], ← clauseBody r c span⟩]

section Worklist

variable (r : Recur) (c : RescueArm Node) (span : Span)

/-- A node that is no list, splat or concatenation stops the recursion with its fault. -/
theorem rescueNested_of_leaf {n : Node}
    (h1 : ∀ sp nl els, n = .mk sp nl (.array els) → False)
    (h2 : ∀ sp nl v, n = .mk sp nl (.splat v) → False)
    (h3 : ∀ sp nl first second, n = .mk sp nl (.argsCat first second) → False)
    (h4 : ∀ sp nl first second, n = .mk sp nl (.argsPush first second) → False) :
    rescueNested r c span n =
      fail .unsupportedShape .unsupportedRescueList [n.kind.name] n.span := by
  unfold rescueNested
  split
  · exact (h1 _ _ _ rfl).elim
  · exact (h2 _ _ _ rfl).elim
  · exact (h3 _ _ _ _ rfl).elim
  · exact (h4 _ _ _ _ rfl).elim
  · rfl

/-- **The worklist makes its parts' clauses in order.** From any worklist and clauses so far,
the result is the clauses so far followed by the clauses of each pending part, the front part
first. Its one non-routine case is a concatenation: it is replaced at the front by its list part
and then its second part, whose clauses are those of the concatenation in that order. -/
theorem rescueWork_eq (pending : List PendingException) (rescues : List (RescueClause Op)) :
    rescueWork r c span pending rescues = do
      let cls ← pending.mapM (PendingException.clauses r c span)
      return rescues ++ cls.flatten := by
  fun_induction rescueWork r c span pending rescues with
  | case1 rescues => simp
  | case2 n pending rescues ih => simp [ih, PendingException.clauses]
  | case3 n pending rescues ih => simp [ih, PendingException.clauses]
  | case4 sp nl els pending rescues ih =>
    simp [ih, PendingException.clauses, rescueNested]
  | case5 sp nl v pending rescues ih =>
    simp [ih, PendingException.clauses, rescueNested]
  | case6 sp nl first second pending rescues ih =>
    rw [ih]
    simp [PendingException.clauses, rescueNested]
  | case7 sp nl first second pending rescues ih =>
    rw [ih]
    simp [PendingException.clauses, rescueNested]
  | case8 other pending rescues h1 h2 h3 h4 =>
    -- the part at fault stops both the worklist and the lowering of the parts in turn
    rw [List.mapM_cons, PendingException.clauses, rescueNested_of_leaf r c span h1 h2 h3 h4]
    simp only [fail_bind]

/-- Started on a whole exception list, the worklist is the recursion down its left spine. -/
theorem rescueList_eq_nested (n : Node) : rescueList r c span n = rescueNested r c span n := by
  simp [rescueList, rescueWork_eq, PendingException.clauses]

end Worklist

/-- Every child of every clause is good. -/
def ClausesGood (p : Place) (s : Progress) (cls : List (RescueClause Op)) : Prop :=
  ∀ cl ∈ cls, ∀ x ∈ cl.children, x.Good p s

section Clauses

variable {p : Place} {s : Progress}

theorem ClausesGood.evolve {cls : List (RescueClause Op)} {s' : Progress} (h : ClausesGood p s cls)
    (hp : p.Fits s) (he : s.Evolves s') : ClausesGood p s' cls :=
  fun cl hcl x hx => (h cl hcl x hx).evolve hp he

theorem ClausesGood.append {cls cls' : List (RescueClause Op)} (h : ClausesGood p s cls)
    (h' : ClausesGood p s cls') : ClausesGood p s (cls ++ cls') := by
  intro cl hcl
  rcases List.mem_append.1 hcl with hcl | hcl
  · exact h cl hcl
  · exact h' cl hcl

theorem ClausesGood.singleton {cl : RescueClause Op} (h : ∀ x ∈ cl.children, x.Good p s) :
    ClausesGood p s [cl] := by
  intro cl' hcl
  obtain rfl := List.mem_singleton.1 hcl
  exact h

end Clauses

section Rules

variable {r : Recur} (hr : r.Sound) {p : Place} {s : Progress}
include hr

/-- A clause body is lowered where `retry` is allowed, and good at the place. -/
theorem clauseBody_yields (hp : p.Fits s) (c : RescueArm Node) (span : Span) :
    (clauseBody r c span).Yields p s fun o s' => o.Good p s' := by
  have hq : ({ p with modes := { p.modes with inRescue := true } } : Place).Fits s :=
    ⟨hp.ok, hp.frame, hp.returnId, hp.markers⟩
  refine Yields.withReader ((exprOrNil_yields hr hq _ span).mono fun o s' _ h => ?_)
  refine Op.Good.congr ?_ ?_ h <;> rfl

/-- The clauses of an exception list: one per part of `A, *list, B`, in order. -/
theorem rescueList_yields (c : RescueArm Node) (span : Span) (n : Node) (hp : p.Fits s) :
    (rescueList r c span n).Yields p s fun cls s' => ClausesGood p s' cls := by
  rw [rescueList_eq_nested]
  fun_induction rescueNested r c span n generalizing s with
  | case1 _ _ els =>
    refine (exprs_yields hr hp els).bind fun classes s1 e1 hclasses => ?_
    refine (clauseBody_yields hr (hp.evolve e1) c span).bind fun body s2 e2 hbody => ?_
    refine Yields.pure (ClausesGood.singleton ?_)
    simp only [RescueClause.children, List.mem_append, List.mem_singleton]
    rintro x (hx | rfl)
    · exact (hclasses x hx).evolve (hp.evolve e1) e2
    · exact hbody
  | case2 _ _ v =>
    refine (hr.expr v p s hp).bind fun list s1 e1 hlist => ?_
    refine (clauseBody_yields hr (hp.evolve e1) c span).bind fun body s2 e2 hbody => ?_
    refine Yields.pure (ClausesGood.singleton ?_)
    simp only [RescueClause.children, List.mem_append, List.mem_singleton]
    rintro x (rfl | rfl)
    · exact hlist.evolve (hp.evolve e1) e2
    · exact hbody
  | case3 _ _ first second ih =>
    refine (ih hp).bind fun before s1 e1 hbefore => ?_
    have hp1 := hp.evolve e1
    refine (hr.expr second p s1 hp1).bind fun list s2 e2 hlist => ?_
    have hp2 := hp1.evolve e2
    refine (clauseBody_yields hr hp2 c span).bind fun body s3 e3 hbody => ?_
    refine Yields.pure ((hbefore.evolve hp1 (e2.trans e3)).append (ClausesGood.singleton ?_))
    simp only [RescueClause.children, List.mem_append, List.mem_singleton]
    rintro x (rfl | rfl)
    · exact hlist.evolve hp2 e3
    · exact hbody
  | case4 _ _ first second ih =>
    refine (ih hp).bind fun before s1 e1 hbefore => ?_
    have hp1 := hp.evolve e1
    refine (hr.expr second p s1 hp1).bind fun cls s2 e2 hcls => ?_
    have hp2 := hp1.evolve e2
    refine (clauseBody_yields hr hp2 c span).bind fun body s3 e3 hbody => ?_
    refine Yields.pure ((hbefore.evolve hp1 (e2.trans e3)).append (ClausesGood.singleton ?_))
    simp only [RescueClause.children, List.mem_append, List.mem_singleton]
    rintro x (rfl | rfl)
    · exact hcls.evolve hp2 e3
    · exact hbody
  | case5 => exact Yields.fail

theorem rescueArm_yields (hp : p.Fits s) (span : Span) (c : RescueArm Node) :
    (rescueArm r span c).Yields p s fun cls s' => ClausesGood p s' cls := by
  unfold rescueArm
  split
  · exact rescueList_yields hr c span _ hp
  · refine (clauseBody_yields hr hp c span).bind fun body s1 _ hbody => ?_
    refine Yields.pure (ClausesGood.singleton ?_)
    simp only [RescueClause.children, List.nil_append, List.mem_singleton]
    rintro x rfl
    exact hbody

/-- `begin ... rescue ... else ... end`: a bare try node of good parts. -/
theorem rescue_yields (hp : p.Fits s) (body : Option Node) (arms : List (RescueArm Node))
    (elseBody : Option Node) (span : Span) :
    (rescue r body arms elseBody span).Yields p s fun o s' => o.Good p s' := by
  unfold rescue
  refine (exprOrNil_yields hr hp body span).bind fun b s1 e1 hb => ?_
  have hp1 := hp.evolve e1
  refine Yields.bind_read options_post ?_
  refine (Yields.mapM (Q := fun cls s' => ClausesGood p s' cls)
    (fun _ _ _ hp he h => h.evolve hp he) arms hp1 fun c _ s' hp' _ =>
      rescueArm_yields hr hp' span c).bind fun clauses s2 e2 hclauses => ?_
  have hp2 := hp1.evolve e2
  refine (optionMapM_yields hr hp2 elseBody).bind fun e s3 e3 he => Yields.pure ?_
  have hb3 : (Op.ofForm (.exceptionTranslating b)).Good p s3 :=
    Op.Good.bare rfl (List.forall_mem_singleton.2 (hb.evolve hp1 (e2.trans e3)))
  refine (Op.Good.bare rfl fun x hx => ?_).withSpan
  simp only [Form.children, List.mem_cons, List.mem_append, List.mem_flatMap, List.mem_flatten] at hx
  rcases hx with (rfl | ⟨cl, ⟨cls, hcls, hcl⟩, hx⟩) | hx
  · exact hb3
  · exact (hclauses cls hcls cl hcl x hx).evolve hp2 e3
  · exact he x (Option.mem_toList.1 hx)

end Rules

end Lower

end RubyLower
