import RubyLower.Proofs.Jumps.Calls

/-!
# Runs of the lowering against their visits: assignments

An assignment lowers its value as an expression and assigns to its targets, each in the scope
of the assignment: no assignment opens a scope. A multiple assignment picks one of three ways to
assign (in parallel from as many values as leading targets, by position, or to a lone rest
target), and each of them visits the pattern's targets (`Lower.masgn_visits`); a target's own
parts are what assigning to it visits (`Lower.target_visits`).
-/

namespace RubyLower

namespace Lower

section Rules

variable {p : Place} {s : Progress} {c : JumpScope} {h : Nat}
variable {r : Recur} (hr : r.Visits h)
include hr

theorem localAssignment_visits (name : String) (value : Option Node) (span : Span) :
    (localAssignment r name value span).Visits p s c h (Visit.exprs c value.toList) Op.Spanned :=
  (assignmentSlot_visits name).quiet_bind fun _ _ _ _ =>
    (valueOrDead_visits hr value _).bind_pure fun _ _ => Op.spanned_withSpan _ _

theorem assignAttribute_visits (receiver : Node) (name : String) (args : Option Node) (lazy : Bool)
    (value : Op) (span : Span) :
    (assignAttribute r receiver name args lazy value span).Visits p s c h
      (.node c .expr receiver :: Visit.ofArgs c span args) Op.Spanned := by
  unfold assignAttribute
  refine (hr.expr receiver p s c).bind fun _ s1 _ _ => ?_
  extract_lets afterArgs
  have hafterArgs : ∀ a s', (afterArgs a).Visits p s' c h [] Op.Spanned := by
    intro a s'
    exact (finishCall_visits hr _ _ _ _ _ _ _).of_eq (by rw [Visit.ofBlockArg])
  clear_value afterArgs
  -- the visits stay folded while the rule's match on the kind is split
  split
  · exact Visits.bind_read rfl (hafterArgs _ s1)
  · next a =>
    -- the visits of the arguments match on the kind as the rule does; the equation of each
    -- branch settles that match too
    split
    · next els _ =>
      exact ((exprs_visits hr els).bind fun _ s2 _ _ => Visits.bind_read rfl (hafterArgs _ s2)).of_eq
        (by simp_all)
    · next v _ =>
      exact ((hr.expr a p s1 c).bind fun _ s2 _ _ => Visits.bind_read rfl (hafterArgs _ s2)).of_eq
        (by simp_all)
    · next x y _ =>
      exact ((hr.expr a p s1 c).bind fun _ s2 _ _ => Visits.bind_read rfl (hafterArgs _ s2)).of_eq
        (by simp_all)
    · next x y _ =>
      exact ((hr.expr a p s1 c).bind fun _ s2 _ _ => Visits.bind_read rfl (hafterArgs _ s2)).of_eq
        (by simp_all)
    · exact Visits.fail_bind (by decide)

/-- With as many values as leading targets, each target is assigned from its temporary. -/
theorem masgnParallel_visits (pre : List Node) (rhs : Op)
    (hrhs : ∃ vs, rhs.form = .arrayLit vs ∧ vs.length = pre.length) :
    (masgnParallel r pre rhs).Visits p s c h (Visit.targets c pre) fun _ => True := by
  obtain ⟨vs, hform, hlen⟩ := hrhs
  unfold masgnParallel
  split
  · next values hv =>
    rw [hform] at hv
    cases hv
    refine (Visits.mapM_length _ fun v _ s' =>
      (temp_visits _).bind_pure fun _ _ => trivial).quiet_bind fun temps s1 _ htemps => ?_
    have hzip : (pre.zip temps).map Prod.fst = pre := List.map_fst_zip (by omega)
    refine ((Visits.mapM (V := fun tv => [.node c .target tv.1]) (Q := fun _ => True) _
      fun tv _ s' => (hr.target tv.1 _ p s' c)).bind_pure fun _ _ => trivial).of_eq ?_
    rw [Visit.targets]
    conv_rhs => rw [← hzip]
    rw [List.map_map, List.map_eq_flatMap]
    rfl
  · next hv => exact absurd hform (hv vs)

omit hr in
theorem masgnNil_visits : masgnNil.Visits p s c h [] fun _ => True :=
  Visits.bind_read rfl (Visits.pure trivial)

/-- Assignment by position: the leading targets, the rest target and the trailing targets. -/
theorem masgnIndexed_visits (pre : List Node) (rest : Option Node) (post : List Node) (rhs : Op)
    (useToAry : Bool) :
    (masgnIndexed r pre rest post rhs useToAry).Visits p s c h
      (Visit.targets c pre ++ (Visit.targets c rest.toList ++ Visit.targets c post))
      fun _ => True := by
  unfold masgnIndexed
  refine (temp_visits _).quiet_bind fun rhsTemp _ _ _ => ?_
  refine (temp_visits _).quiet_bind fun arrayTemp _ _ _ => ?_
  refine masgnNil_visits.quiet_bind fun nilAs _ _ _ => ?_
  simp only [Visit.targets, List.map_eq_flatMap]
  refine (Visits.mapM_zip_range pre fun i t s' => hr.target t _ p s' c).bind fun _ s1 _ _ => ?_
  -- the rest target, if any, between the leading and the trailing ones
  split
  · exact (hr.target _ _ p s1 c).bind fun _ s2 _ _ => Visits.bind_read rfl
      ((Visits.mapM_zip_range post fun i t s' => hr.target t _ p s' c).bind_pure fun _ _ => trivial)
  · exact Visits.bind_read rfl
      ((Visits.mapM_zip_range post fun i t s' => hr.target t _ p s' c).bind_pure fun _ _ => trivial)

theorem masgnRestOnly_visits (rest : Node) (rhs : Op) :
    (masgnRestOnly r rest rhs).Visits p s c h [.node c .target rest] fun _ => True :=
  masgnNil_visits.quiet_bind fun _ _ _ _ => (temp_visits _).quiet_bind fun _ _ _ _ =>
    (temp_visits _).quiet_bind fun _ s1 _ _ => (hr.target rest _ p s1 c).bind_pure fun _ _ => trivial

/-- A multiple assignment assigns each of its targets. -/
theorem masgn_visits (m : MultiAsgn Node) (rhs : Op) (rhsIsList : Bool) :
    (masgn r m rhs rhsIsList).Visits p s c h (Visit.ofPattern c m) Op.Spanned := by
  unfold masgn
  extract_lets sameArity finish
  have hfinish : ∀ res s', (finish res).Visits p s' c h [] Op.Spanned :=
    fun _ _ => Visits.pure (Op.spanned_withSpan _ _)
  clear_value finish
  rw [Visit.ofPattern]
  split
  · next hsame =>
    -- as many values as leading targets, and nothing else to assign
    simp only [sameArity, Bool.and_eq_true, Bool.not_eq_true', List.isEmpty_eq_false_iff,
      Option.isNone_iff_eq_none, List.isEmpty_iff] at hsame
    obtain ⟨⟨⟨-, hrest⟩, hpost⟩, hlen⟩ := hsame
    rw [hrest, hpost]
    refine ((masgnParallel_visits hr m.pre rhs ?_).bind fun res s' _ _ => hfinish res s').of_eq
      (by simp [Visit.targets])
    split at hlen
    · next vs hv => exact ⟨vs, hv, by simpa using hlen⟩
    · cases hlen
  · split
    · exact ((masgnIndexed_visits hr _ _ _ _ _).bind fun res s' _ _ => hfinish res s').of_eq
        (by rw [List.append_nil, List.append_assoc])
    · split
      · next hpre hpost =>
        rw [List.isEmpty_iff] at hpost
        rw [Bool.not_eq_true, Bool.not_eq_false', List.isEmpty_iff] at hpre
        rw [hpre, hpost]
        split
        · next rn hrest =>
          rw [hrest]
          split
          · next hk =>
            -- a bare `*` assigns nothing
            refine ((Visits.bind_read rfl (hfinish _ s)).cons_quiet (v := .node c .target rn)
              (Visit.not_misplaced_of_parts_nil ?_)).of_eq (by simp [Visit.targets])
            simp [Node.parts, hk, Kind.targetParts]
          · split
            · exact ((hr.target rn rhs p s c).bind fun res s' _ _ => hfinish res s').of_eq
                (by simp [Visit.targets])
            · exact ((masgnRestOnly_visits hr rn rhs).bind fun res s' _ _ => hfinish res s').of_eq
                (by simp [Visit.targets])
        · exact Visits.fail_bind (by decide)
      · split
        · exact ((masgnIndexed_visits hr _ _ _ _ _).bind fun res s' _ _ => hfinish res s').of_eq
            (by rw [List.append_nil, List.append_assoc])
        · exact Visits.fail_bind (by decide)

theorem multipleAssignment_visits (m : MultiAsgn Node) :
    (multipleAssignment r m).Visits p s c h
      (match m.value with
        | none => []
        | some v => .node c .expr v :: Visit.ofPattern c m) Op.Spanned := by
  unfold multipleAssignment
  -- a case split on the value rather than a split of the match, which the statement shares
  cases hv : m.value with
  | none => exact Visits.fail (by decide)
  | some v =>
    dsimp only
    exact (hr.expr v p s c).bind fun _ s1 _ _ => masgn_visits hr m _ _

/-- Assigning to a target visits what the target's parts list. -/
theorem target_visits (t : Node) (value : Op) :
    (target r t value).Visits p s c h (t.parts c .target) fun _ => True := by
  unfold target
  rw [Node.parts]
  dsimp only
  split
  · next hk => rw [hk]; exact (assignmentSlot_visits _).bind_pure fun _ _ => trivial
  · next hk => rw [hk]; exact (assignmentSlot_visits _).bind_pure fun _ _ => trivial
  · next hk => rw [hk]; exact Visits.bind_read rfl ((declare_visits _ _).bind_pure fun _ _ => trivial)
  · next hk => rw [hk]; exact Visits.pure trivial
  · next hk => rw [hk]; exact classVarScope_visits.bind_pure fun _ _ => trivial
  · next hk => rw [hk]; exact Visits.pure trivial
  · next path _ hk => rw [hk]; exact (constPathModule_visits hr path).bind_pure fun _ _ => trivial
  · next hk => rw [hk]; exact (assignAttribute_visits hr _ _ _ _ _ _).mono fun _ _ => trivial
  · next m hk => rw [hk]; exact (masgn_visits hr m value false).mono fun _ _ => trivial
  · next inner hk => rw [hk]; exact hr.target inner value p s c
  · next hk => rw [hk]; exact Visits.pure trivial
  · exact Visits.fail (by decide)

theorem opAsgnAnd_visits (first second : Node) (span : Span) :
    (opAsgnAnd r first second span).Visits p s c h (Visit.exprs c [first, second]) Op.Spanned :=
  (hr.expr first p s c).bind fun _ s1 _ _ =>
    (hr.expr second p s1 c).bind_pure fun _ _ => Op.spanned_withSpan _ _

theorem opAsgnOr_visits (first second : Node) (span : Span) :
    (opAsgnOr r first second span).Visits p s c h (Visit.exprs c [first, second]) Op.Spanned :=
  (hr.expr first p s c).bind fun _ s1 _ _ =>
    (hr.expr second p s1 c).bind_pure fun _ _ => Op.spanned_withSpan _ _

omit hr in
/-- The write of a constant is built here, without a span. -/
theorem constantWrite_visits (read value : Op) (span : Span) :
    (constantWrite read value span).Visits p s c h [] fun w => w.span = none := by
  unfold constantWrite
  split
  · exact Visits.pure rfl
  · exact Visits.pure rfl
  · exact Visits.pure rfl
  · exact Visits.fail (by decide)

theorem opAsgnConstDecl_visits (first : Node) (operator : String) (second : Node) (span : Span) :
    (opAsgnConstDecl r first operator second span).Visits p s c h
      (Visit.exprs c [first, match second.kind with
        | .constDecl _ (some v) => v
        | _ => second]) Op.Spanned := by
  unfold opAsgnConstDecl
  refine (hr.expr first p s c).bind fun _ s1 _ _ => (hr.expr _ p s1 c).bind_quiet
    fun _ s2 _ _ => ?_
  split
  · exact (constantWrite_visits _ _ _).bind_pure fun _ _ => Op.spanned_withSpan _ _
  · split
    · exact (constantWrite_visits _ _ _).bind_pure fun _ _ => Op.spanned_withSpan _ _
    · exact (constantWrite_visits _ _ _).quiet_bind fun _ _ _ hw =>
        Visits.atSpan (.inl hw) (Op.spanned_withSpan _ _)

theorem opAsgn_visits (receiver : Node) (attr operator : String) (value : Node) (lazy : Bool)
    (span : Span) :
    (opAsgn r receiver attr operator value lazy span).Visits p s c h
      (Visit.exprs c [receiver, value]) Op.Spanned :=
  (hr.expr receiver p s c).bind fun _ s1 _ _ => (hr.expr value p s1 c).bind_quiet fun _ _ _ _ =>
    (temp_visits _).quiet_bind fun _ _ _ _ => Visits.pure (Op.spanned_ensureSpan _ _)

theorem opElementAsgn_visits (receiver : Node) (args : Option Node) (operator : String)
    (value : Node) (span : Span) :
    (opElementAsgn r receiver args operator value span).Visits p s c h
      (.node c .expr receiver :: (Visit.ofArgs c span args ++ [.node c .expr value])) Op.Spanned :=
  (hr.expr receiver p s c).bind fun _ _ _ _ => (temp_visits _).quiet_bind fun _ _ _ _ =>
    (arguments_visits hr args span).bind fun _ _ _ _ =>
      (Visits.mapM_quiet (Q := fun _ => True) _ fun _ _ _ =>
        (temp_visits _).bind_pure fun _ _ => trivial).quiet_bind
        fun _ s4 _ _ => (hr.expr value p s4 c).bind_quiet fun _ _ _ _ =>
          Visits.pure (Op.spanned_ensureSpan _ _)

end Rules

end Lower

end RubyLower
