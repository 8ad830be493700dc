import RubyLower.Lower.Assign
import RubyLower.Proofs.Rules.Call

/-!
# The rules for assignments

Reads and writes of locals get their slots from the steps on locals, so they point into the
scopes of the place's frame; every other node an assignment builds is bare, and good when its
parts are. Multiple and operator assignment go through temporaries of the place's frame.
`Lower.target_yields` is the assignment to a target, which `Recur.Sound` asks of the recursive
calls: assigning a good value gives a good node.
-/

namespace RubyLower

namespace Lower

section Nodes

variable {p : Place} {s : Progress}

theorem guardDefined_good {t : Op} (h : t.Good p s) : (guardDefined t).Good p s := by
  have hd : (Op.ofForm (.defined t)).Good p s := Op.Good.bare rfl (List.forall_mem_singleton.2 h)
  exact Op.Good.bare rfl (by simp [Form.children, hd, h])

theorem asAssignment_good {o : Op} (h : o.Good p s) : (asAssignment o).Good p s :=
  Op.Good.bare rfl (List.forall_mem_singleton.2 h)

theorem logical_good {left right : Op} (hl : left.Good p s) (hr : right.Good p s)
    (operator : String) : (logical operator left right).Good p s := by
  unfold logical
  split <;> exact Op.Good.bare rfl (by simp [Form.children, hl, hr])

/-- A constant read turned into a write keeps the read's module. -/
theorem constantWrite_yields {read value : Op} (hread : read.Good p s) (hv : value.Good p s)
    (span : Span) : (constantWrite read value span).Yields p s fun o s' => o.Good p s' := by
  obtain ⟨f, sp, fl⟩ := read
  unfold constantWrite
  split
  · next m name hf =>
    subst hf
    have hm := hread.of_mem_children rfl (List.mem_singleton_self m)
    exact Yields.pure (Op.Good.bare rfl (by simp [Form.children, hm, hv]))
  · next scope _ _ =>
    have hm : (Op.ofForm (.lexicalScopeModule scope)).Good p s := Op.Good.leaf rfl rfl
    exact Yields.pure (Op.Good.bare rfl (by simp [Form.children, hm, hv]))
  · have hm : (Op.ofForm .dynamicLexicalScopeModule).Good p s := Op.Good.leaf rfl rfl
    exact Yields.pure (Op.Good.bare rfl (by simp [Form.children, hm, hv]))
  · exact Yields.fail

theorem masgnNil_post : masgnNil.Post p s fun a s' =>
    a = (if p.modes.nextExpression then .emptyArray else .arrayWithNil) ∧ s' = s :=
  ⟨rfl, rfl⟩

end Nodes

theorem localRead_yields {p : Place} {s : Progress} (hp : p.Fits s) (name : String) (span : Span) :
    (localRead name span).Yields p s fun o s' => o.Good p s' :=
  (resolveOrDeclare_yields hp name).bind fun _ _ _ hslot =>
    Yields.pure (Op.Good.withSpan (Op.Good.readLocal hslot))

/-- A read from inside a block: a slot found from the place's frame, or declared some frames out
and then found. -/
theorem dvarRead_yields {p : Place} {s : Progress} (hp : p.Fits s) (name : String) (depth : Nat)
    (span : Span) : (dvarRead name depth span).Yields p s fun o s' => o.Good p s' := by
  unfold dvarRead
  refine Yields.bind_read frame_post ?_
  extract_lets afterSlot
  have hafter : ∀ slot s1, s.Evolves s1 → slot.ResolvesIn (s1.env.scopes p.frame) →
      (afterSlot slot).Yields p s1 fun o s' => o.Good p s' :=
    fun _ _ _ hslot => Yields.pure (Op.Good.withSpan (Op.Good.readLocal hslot))
  refine (resolve_yields hp name).bind fun res s1 e1 hres => ?_
  cases res with
  | some slot => exact Yields.bind_read (Post.pure ⟨rfl, rfl⟩) (hafter slot s1 e1 (hres slot rfl))
  | none =>
    refine Yields.bind_read env_post ((declare_yields_any _ name).bind fun _ s2 e2 _ => ?_)
    refine (resolveOrDeclare_yields ((hp.evolve e1).evolve e2) name).bind fun slot s3 e3 hslot => ?_
    exact hafter slot s3 (e1.trans (e2.trans e3)) hslot

section Rules

variable {r : Recur} (hr : r.Sound) {p : Place} {s : Progress}
include hr

theorem localAssignment_yields (hp : p.Fits s) (name : String) (value : Option Node)
    (span : Span) : (localAssignment r name value span).Yields p s fun o s' => o.Good p s' := by
  unfold localAssignment
  refine (assignmentSlot_yields hp name).bind fun slot s1 e1 hslot => ?_
  refine (valueOrDead_yields hr (hp.evolve e1) value _).bind fun v s2 e2 hv => ?_
  exact Yields.pure (Op.Good.withSpan
    (Op.Good.writeLocal (hslot.mono (e2.grows.scopes (hp.evolve e1).frame)) hv))

theorem assignAttribute_yields (hp : p.Fits s) (receiver : Node) (name : String)
    (args : Option Node) (lazy : Bool) {value : Op} (hv : value.Good p s) (span : Span) :
    (assignAttribute r receiver name args lazy value span).Yields p s fun o s' => o.Good p s' := by
  unfold assignAttribute
  refine (hr.expr receiver p s hp).bind fun recv s1 e1 hrecv => ?_
  have hp1 := hp.evolve e1
  have hv1 := hv.evolve hp e1
  extract_lets afterArgs
  have hafter : ∀ arguments splatted s2, s1.Evolves s2 → (∀ a ∈ arguments, a.Good p s2) →
      (afterArgs (arguments, splatted)).Yields p s2 fun o s' => o.Good p s' :=
    fun _ _ _ e2 hargs =>
      finishCall_yields hr (hp1.evolve e2) (hrecv.evolve hp1 e2) hargs name _ _ _ span
  split
  · exact Yields.bind_read (Post.pure ⟨rfl, rfl⟩)
      (hafter _ _ s1 (.refl s1) (List.forall_mem_singleton.2 hv1))
  · split
    · refine (exprs_yields hr hp1 _).bind fun os s2 e2 hos => ?_
      refine Yields.bind_read (Post.pure ⟨rfl, rfl⟩) (hafter _ _ s2 e2 fun a ha => ?_)
      rcases List.mem_append.1 ha with ha | ha
      · exact hos a ha
      · exact List.mem_singleton.1 ha ▸ hv1.evolve hp1 e2
    all_goals first
      | exact Yields.fail
      | refine (hr.expr _ p s1 hp1).bind fun list s2 e2 hlist => ?_
        refine Yields.bind_read (Post.pure ⟨rfl, rfl⟩)
          (hafter _ _ s2 e2 (List.forall_mem_singleton.2 (Op.Good.bare rfl ?_)))
        exact List.forall_mem_cons.2 ⟨Op.Good.bare rfl (List.forall_mem_singleton.2 hlist),
          List.forall_mem_singleton.2 (hv1.evolve hp1 e2)⟩

/-- Leading targets as many as literal values: each value goes to a temporary first. -/
theorem masgnParallel_yields (hp : p.Fits s) (pre : List Node) {rhs : Op} (hrhs : rhs.Good p s) :
    (masgnParallel r pre rhs).Yields p s fun o s' => o.Good p s' := by
  unfold masgnParallel
  split
  · next values hform =>
    obtain ⟨f, sp, fl⟩ := rhs
    obtain rfl : f = .arrayLit values := hform
    have hvals : ∀ v ∈ values, v.Good p s := fun v hv => hrhs.of_mem_children rfl hv
    refine (Yields.mapM (Q := fun t s' => t.1.ResolvesIn (s'.env.scopes p.frame) ∧ t.2.Good p s')
      (fun _ _ _ hp he h => ⟨h.1.mono (he.grows.scopes hp.frame), h.2.evolve hp he⟩) values hp
      fun v hv s' hp' e' => (temp_yields hp' _).bind fun t s'' e'' ht =>
        Yields.pure ⟨ht, (hvals v hv).evolve hp (e'.trans e'')⟩).bind fun temps s1 e1 htemps => ?_
    have hp1 := hp.evolve e1
    refine (Yields.mapM_good hp1 (pre.zip temps) fun ⟨t, sl, v⟩ hx s' hp' e' =>
      hr.target t _ p s' hp' (Op.Good.readLocal
        ((htemps _ (List.of_mem_zip hx).2).1.mono (e'.grows.scopes hp1.frame)))).bind
      fun assigns s2 e2 hassigns => Yields.pure ?_
    have htemps2 : ∀ t ∈ temps, t.1.ResolvesIn (s2.env.scopes p.frame) ∧ t.2.Good p s2 :=
      fun t ht => ⟨(htemps t ht).1.mono (e2.grows.scopes hp1.frame), (htemps t ht).2.evolve hp1 e2⟩
    refine Op.Good.bare rfl (List.forall_mem_cons.2 ⟨Op.Good.sequence fun x hx => ?_,
      List.forall_mem_singleton.2 (Op.Good.bare rfl fun x hx => ?_)⟩)
    · rcases List.mem_append.1 hx with hx | hx
      · obtain ⟨t, ht, rfl⟩ := List.mem_map.1 hx
        exact Op.Good.writeLocal (htemps2 t ht).1 (htemps2 t ht).2
      · exact hassigns x hx
    · obtain ⟨t, ht, rfl⟩ := List.mem_map.1 hx
      exact Op.Good.readLocal (htemps2 t ht).1
  · exact Yields.pure hrhs

/-- Assignment by position: the right side and its array go to temporaries, and each target
takes an element, the middle slice, or an element from the back. -/
theorem masgnIndexed_yields (hp : p.Fits s) (pre : List Node) (rest : Option Node)
    (post : List Node) {rhs : Op} (hrhs : rhs.Good p s) (useToAry : Bool) :
    (masgnIndexed r pre rest post rhs useToAry).Yields p s fun o s' => o.Good p s' := by
  unfold masgnIndexed
  refine (temp_yields hp _).bind fun rhsTemp s1 e1 hrt => ?_
  have hp1 := hp.evolve e1
  refine (temp_yields hp1 _).bind fun arrayTemp s2 e2 hat => ?_
  have hp2 := hp1.evolve e2
  refine Yields.bind_read masgnNil_post ?_
  extract_lets load preCount postCount
  -- the array temporary resolves wherever the lowering gets to
  have hat' : ∀ s', s2.Evolves s' → arrayTemp.ResolvesIn (s'.env.scopes p.frame) :=
    fun _ e => hat.mono (e.grows.scopes hp2.frame)
  refine (Yields.mapM_good hp2 _ fun ⟨n, t⟩ _ s' hp' e' =>
    hr.target t _ p s' hp' (arrayIndex_good (hat' s' e') _)).bind fun leading s4 e4 hlead => ?_
  have hp4 := hp2.evolve e4
  extract_lets afterMiddle
  have hafter : ∀ middle s5, s4.Evolves s5 → (∀ o ∈ middle, o.Good p s5) →
      (afterMiddle middle).Yields p s5 fun o s' => o.Good p s' := by
    intro middle s5 e5 hmid
    dsimp -zeta only [afterMiddle]
    have hp5 := hp4.evolve e5
    refine (Yields.mapM_good hp5 _ fun x _ s' hp' e' => ?_).bind
      fun trailing s6 e6 htrail => Yields.pure ?_
    · obtain ⟨n, t⟩ := x
      have h := hat' s' (e4.trans (e5.trans e'))
      exact hr.target t _ p s' hp' (Op.Good.ifElse
        (Op.Good.bare rfl (List.forall_mem_singleton.2 (Op.Good.readLocal h)))
        (arrayIndex_good h _) (arrayIndex_good h _))
    have e26 : s2.Evolves s6 := e4.trans (e5.trans e6)
    have hrt6 := hrt.mono ((e2.trans e26).grows.scopes hp1.frame)
    refine Op.Good.bare rfl (List.forall_mem_cons.2 ⟨Op.Good.sequence fun x hx => ?_,
      List.forall_mem_singleton.2 (Op.Good.readLocal hrt6)⟩)
    simp only [List.mem_append, List.mem_cons, List.mem_nil_iff, or_false] at hx
    rcases hx with (((rfl | rfl) | hx) | hx) | hx
    · exact Op.Good.writeLocal hrt6 (hrhs.evolve hp (e1.trans (e2.trans e26)))
    · exact Op.Good.writeLocal (hat' s6 e26)
        (Op.Good.bare rfl (List.forall_mem_singleton.2 (Op.Good.readLocal hrt6)))
    · exact (hlead x hx).evolve hp4 (e5.trans e6)
    · exact (hmid x hx).evolve hp5 e6
    · exact htrail x hx
  split
  · refine (hr.target _ _ p s4 hp4 (by exact Op.Good.bare rfl (List.forall_mem_singleton.2
      (Op.Good.readLocal (hat' s4 e4))))).bind fun o s5 e5 ho => ?_
    exact Yields.bind_read (Post.pure ⟨rfl, rfl⟩) (hafter _ s5 e5 (List.forall_mem_singleton.2 ho))
  · exact Yields.bind_read (Post.pure ⟨rfl, rfl⟩) (hafter [] s4 (.refl s4) (by simp))

/-- Assignment of the whole right side to one rest target, through a splat temporary. -/
theorem masgnRestOnly_yields (hp : p.Fits s) (rest : Node) {rhs : Op} (hrhs : rhs.Good p s) :
    (masgnRestOnly r rest rhs).Yields p s fun o s' => o.Good p s' := by
  unfold masgnRestOnly
  refine Yields.bind_read masgnNil_post ?_
  split
  next rhs' nilAs hsel =>
  -- a cast of a literal nil is assigned as the nil itself
  have hrhs' : rhs'.Good p s := by
    obtain ⟨f, sp, fl⟩ := rhs
    split at hsel
    · next hf =>
      split at hsel
      · cases hsel
        subst hf
        exact hrhs.of_mem_children rfl (List.mem_singleton_self _)
      · cases hsel
        exact hrhs
    · cases hsel
      exact hrhs
  refine (temp_yields hp _).bind fun rhsTemp s1 e1 hrt => ?_
  have hp1 := hp.evolve e1
  refine (temp_yields hp1 _).bind fun splatTemp s2 e2 hst => ?_
  have hp2 := hp1.evolve e2
  refine (hr.target rest _ p s2 hp2 (Op.Good.readLocal hst)).bind fun assign s3 e3 hassign => ?_
  have hrt3 := hrt.mono ((e2.trans e3).grows.scopes hp1.frame)
  have hst3 := hst.mono (e3.grows.scopes hp2.frame)
  refine Yields.pure (Op.Good.bare rfl (List.forall_mem_cons.2 ⟨Op.Good.sequence ?_,
    List.forall_mem_singleton.2 ?_⟩))
  · simp only [List.mem_cons, List.mem_nil_iff, or_false]
    rintro x (rfl | rfl | rfl)
    · exact Op.Good.writeLocal hrt3 (hrhs'.evolve hp (e1.trans (e2.trans e3)))
    · exact Op.Good.writeLocal hst3
        (Op.Good.bare rfl (List.forall_mem_singleton.2 (Op.Good.readLocal hrt3)))
    · exact hassign
  · split
    · exact Op.Good.readLocal hst3
    · exact Op.Good.readLocal hrt3

/-- A multiple assignment takes one of the shapes above, or fails. -/
theorem masgn_yields (hp : p.Fits s) (m : MultiAsgn Node) {rhs : Op} (hrhs : rhs.Good p s)
    (rhsIsList : Bool) : (masgn r m rhs rhsIsList).Yields p s fun o s' => o.Good p s' := by
  unfold masgn
  extract_lets sameArity finish
  have hfinish : ∀ result s', s.Evolves s' → result.Good p s' →
      (finish result).Yields p s' fun o s'' => o.Good p s'' :=
    fun _ _ _ h => Yields.pure (asAssignment_good h).withSpan
  split
  · exact (masgnParallel_yields hr hp _ hrhs).bind hfinish
  split
  · exact (masgnIndexed_yields hr hp _ _ _ hrhs _).bind hfinish
  split
  · split
    · split
      · exact (Yields.pure hrhs).bind hfinish
      · split
        · exact (hr.target _ _ p s hp hrhs).bind hfinish
        · exact (masgnRestOnly_yields hr hp _ hrhs).bind hfinish
    · exact Yields.fail.bind hfinish
  split
  · exact (masgnIndexed_yields hr hp _ _ _ hrhs _).bind hfinish
  · exact Yields.fail.bind hfinish

theorem multipleAssignment_yields (hp : p.Fits s) (m : MultiAsgn Node) :
    (multipleAssignment r m).Yields p s fun o s' => o.Good p s' := by
  unfold multipleAssignment
  split
  · exact Yields.fail
  · exact (hr.expr _ p s hp).bind fun _ s1 e1 hrhs => masgn_yields hr (hp.evolve e1) m hrhs _

/-- Assigning a good value to a target gives a good node. -/
theorem target_yields (hp : p.Fits s) (t : Node) {value : Op} (hv : value.Good p s) :
    (target r t value).Yields p s fun o s' => o.Good p s' := by
  unfold target
  split
  · exact (assignmentSlot_yields hp _).bind fun _ s1 e1 hslot =>
      Yields.pure (Op.Good.writeLocal hslot (hv.evolve hp e1)).withSpan
  · exact (assignmentSlot_yields hp _).bind fun _ s1 e1 hslot =>
      Yields.pure (Op.Good.writeLocal hslot (hv.evolve hp e1)).withSpan
  · exact Yields.bind_read frame_post ((declare_yields hp _).bind fun _ s1 e1 hslot =>
      Yields.pure (Op.Good.writeLocal hslot (hv.evolve hp e1)).withSpan)
  · refine Yields.pure (Op.Good.withSpan ?_)
    exact Op.Good.bare rfl (List.forall_mem_singleton.2 hv)
  · refine classVarScope_yields.bind fun sc s1 e1 (hsc : sc.Good p s1) => Yields.pure ?_
    exact (Op.Good.bare rfl (by simp [Form.children, hsc, hv.evolve hp e1])).withSpan
  · refine Yields.pure (Op.Good.withSpan ?_)
    exact Op.Good.bare rfl (List.forall_mem_singleton.2 hv)
  · refine (constPathModule_yields hr hp _).bind fun md s1 e1 (hmd : md.Good p s1) => Yields.pure ?_
    exact (Op.Good.bare rfl (by simp [Form.children, hmd, hv.evolve hp e1])).withSpan
  · exact assignAttribute_yields hr hp _ _ _ _ hv _
  · exact masgn_yields hr hp _ hv false
  · exact hr.target _ _ p s hp hv
  · exact Yields.pure hv
  · exact Yields.fail

theorem opAsgnAnd_yields (hp : p.Fits s) (first second : Node) (span : Span) :
    (opAsgnAnd r first second span).Yields p s fun o s' => o.Good p s' := by
  refine (hr.expr first p s hp).bind fun left s1 e1 hl => ?_
  refine (hr.expr second p s1 (hp.evolve e1)).bind fun right s2 e2 hright => ?_
  have hl2 := hl.evolve (hp.evolve e1) e2
  exact Yields.pure (asAssignment_good (Op.Good.bare rfl (by simp [Form.children, hl2, hright]))).withSpan

theorem opAsgnOr_yields (hp : p.Fits s) (first second : Node) (span : Span) :
    (opAsgnOr r first second span).Yields p s fun o s' => o.Good p s' := by
  refine (hr.expr first p s hp).bind fun left s1 e1 hl => ?_
  refine (hr.expr second p s1 (hp.evolve e1)).bind fun right s2 e2 hright => ?_
  have hl2 := hl.evolve (hp.evolve e1) e2
  -- the left side is read as is, or under its guard
  have hleft : ∀ guarded : Bool, (if guarded then guardDefined left else left).Good p s2 := by
    intro guarded
    cases guarded
    · exact hl2
    · exact guardDefined_good hl2
  refine Yields.pure (asAssignment_good (Op.Good.bare rfl ?_)).withSpan
  exact List.forall_mem_cons.2 ⟨hleft _, List.forall_mem_singleton.2 hright⟩

/-- A constant operator assignment reads the constant and writes it back; the read appears twice,
and is good both times. -/
theorem opAsgnConstDecl_yields (hp : p.Fits s) (first : Node) (operator : String) (second : Node)
    (span : Span) : (opAsgnConstDecl r first operator second span).Yields p s fun o s' => o.Good p s' := by
  unfold opAsgnConstDecl
  refine (hr.expr _ p s hp).bind fun left s1 e1 hl => ?_
  have hp1 := hp.evolve e1
  refine (hr.expr _ p s1 hp1).bind fun value s2 e2 hv => ?_
  have hp2 := hp1.evolve e2
  have hl2 := hl.evolve hp1 e2
  split
  · refine (constantWrite_yields hl2 hv span).bind fun write s3 e3 hw => ?_
    have hl3 := hl2.evolve hp2 e3
    exact Yields.pure (asAssignment_good (Op.Good.bare rfl (by simp [Form.children, hl3, hw]))).withSpan
  split
  · refine (constantWrite_yields hl2 hv span).bind fun write s3 e3 hw => ?_
    have hl3 := guardDefined_good (hl2.evolve hp2 e3)
    exact Yields.pure (asAssignment_good (Op.Good.bare rfl (by simp [Form.children, hl3, hw]))).withSpan
  · have hcombined := Op.Good.call hl2 (List.forall_mem_singleton.2 hv) operator privateCall
    exact (constantWrite_yields hl2 hcombined span).bind fun _ _ _ hw => Yields.atSpan hw.withSpan

/-- An attribute operator assignment reads the receiver from a temporary for the getter and the
setter. -/
theorem opAsgn_yields (hp : p.Fits s) (receiver : Node) (attr operator : String) (value : Node)
    (lazy : Bool) (span : Span) :
    (opAsgn r receiver attr operator value lazy span).Yields p s fun o s' => o.Good p s' := by
  unfold opAsgn
  extract_lets flags setter
  refine (hr.expr _ p s hp).bind fun recv s1 e1 hrecv => ?_
  have hp1 := hp.evolve e1
  refine (hr.expr _ p s1 hp1).bind fun v s2 e2 hv => ?_
  have hp2 := hp1.evolve e2
  refine (temp_yields hp2 _).bind fun t s3 e3 ht => ?_
  extract_lets getter body lazyBody
  have hv3 := hv.evolve hp2 e3
  have hcall : ∀ name args fl, (∀ a ∈ args, a.Good p s3) →
      (Op.call (Op.readLocal t) name args fl).Good p s3 :=
    fun _ _ _ h => Op.Good.call (Op.Good.readLocal ht) h _ _
  have hgetter : getter.Good p s3 := hcall _ _ _ (by simp)
  have hbody : body.Good p s3 := by
    dsimp -zeta only [body]
    split
    · exact asAssignment_good
        (logical_good hgetter (hcall _ _ _ (List.forall_mem_singleton.2 hv3)) _)
    · exact hcall _ _ _ (List.forall_mem_singleton.2
        (Op.Good.call hgetter (List.forall_mem_singleton.2 hv3) _ _))
  have hlazy : lazyBody.Good p s3 := by
    dsimp -zeta only [lazyBody]
    split
    · have hnil : (Op.ofForm (.isNil (Op.readLocal t))).Good p s3 :=
        Op.Good.bare rfl (List.forall_mem_singleton.2 (Op.Good.readLocal ht))
      exact Op.Good.bare rfl (by simp [Form.children, hbody, Op.Good.not hnil])
    · exact hbody
  refine Yields.pure (Op.Good.ensureSpan (Op.Good.sequence ?_))
  simp only [List.mem_cons, List.mem_nil_iff, or_false]
  rintro x (rfl | rfl)
  · exact Op.Good.writeLocal ht (hrecv.evolve hp1 (e2.trans e3))
  · exact hlazy

/-- An element operator assignment evaluates the receiver and each index once, into temporaries
that the getter and the setter read. -/
theorem opElementAsgn_yields (hp : p.Fits s) (receiver : Node) (args : Option Node)
    (operator : String) (value : Node) (span : Span) :
    (opElementAsgn r receiver args operator value span).Yields p s fun o s' => o.Good p s' := by
  unfold opElementAsgn
  refine (hr.expr _ p s hp).bind fun recv s1 e1 hrecv => ?_
  have hp1 := hp.evolve e1
  refine (temp_yields hp1 _).bind fun recvTemp s2 e2 hrt => ?_
  have hp2 := hp1.evolve e2
  refine (arguments_yields hr hp2 _ _).bind fun res s3 e3 hiv => ?_
  obtain ⟨indexValues, splatted⟩ := res
  dsimp -zeta only
  have hp3 := hp2.evolve e3
  refine (Yields.mapM (Q := fun t s' => t.1.ResolvesIn (s'.env.scopes p.frame) ∧ t.2.Good p s')
    (fun _ _ _ hp he h => ⟨h.1.mono (he.grows.scopes hp.frame), h.2.evolve hp he⟩) indexValues hp3
    fun iv hmem s' hp' e' => (temp_yields hp' _).bind fun _ s'' e'' ht =>
      Yields.pure ⟨ht, (hiv iv hmem).evolve hp3 (e'.trans e'')⟩).bind
    fun indexTemps s4 e4 hit => ?_
  have hp4 := hp3.evolve e4
  refine (hr.expr _ p s4 hp4).bind fun v s5 e5 hv => ?_
  extract_lets indices flags getter setterArgs body
  have hit5 : ∀ t ∈ indexTemps, t.1.ResolvesIn (s5.env.scopes p.frame) ∧ t.2.Good p s5 :=
    fun t ht => ⟨(hit t ht).1.mono (e5.grows.scopes hp4.frame), (hit t ht).2.evolve hp4 e5⟩
  have hrt5 := hrt.mono ((e3.trans (e4.trans e5)).grows.scopes hp2.frame)
  have hindices : ∀ i ∈ indices, i.Good p s5 := by
    intro i hi
    obtain ⟨t, ht, rfl⟩ := List.mem_map.1 hi
    exact Op.Good.readLocal (hit5 t ht).1
  have hcall : ∀ name args fl, (∀ a ∈ args, a.Good p s5) →
      (Op.call (Op.readLocal recvTemp) name args fl).Good p s5 :=
    fun _ _ _ h => Op.Good.call (Op.Good.readLocal hrt5) h _ _
  have hgetter : getter.Good p s5 := hcall _ _ _ hindices
  -- the setter takes the indices and the new value, spread or splatted
  have hsetter : ∀ x, x.Good p s5 → ∀ a ∈ setterArgs x, a.Good p s5 := by
    intro x hx
    dsimp -zeta only [setterArgs]
    split
    · have hdup : (Op.ofForm (.arrayDup (Op.sequence indices))).Good p s5 :=
        Op.Good.bare rfl (List.forall_mem_singleton.2 (Op.Good.sequence hindices))
      exact List.forall_mem_singleton.2 (Op.Good.bare rfl (by simp [Form.children, hdup, hx]))
    · intro a ha
      rcases List.mem_append.1 ha with ha | ha
      · exact hindices a ha
      · exact List.mem_singleton.1 ha ▸ hx
  have hbody : body.Good p s5 := by
    dsimp -zeta only [body]
    split
    · exact asAssignment_good (logical_good hgetter (hcall _ _ _ (hsetter v hv)) _)
    · exact hcall _ _ _ (hsetter _ (Op.Good.call hgetter (List.forall_mem_singleton.2 hv) _ _))
  refine Yields.pure (Op.Good.ensureSpan (Op.Good.sequence fun x hx => ?_))
  simp only [List.mem_append, List.mem_cons, List.mem_nil_iff, or_false] at hx
  rcases hx with (rfl | hx) | rfl
  · exact Op.Good.writeLocal hrt5 (hrecv.evolve hp1 (e2.trans (e3.trans (e4.trans e5))))
  · obtain ⟨t, ht, rfl⟩ := List.mem_map.1 hx
    exact Op.Good.writeLocal (hit5 t ht).1 (hit5 t ht).2
  · exact hbody

end Rules

end Lower

end RubyLower
