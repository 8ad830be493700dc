import RubyLower.Lower.Call
import RubyLower.Proofs.Rules.Literal
import RubyLower.Proofs.Rules.Units

/-!
# The rules for calls

A call, `super` and `END` take their block last. A literal block is lowered with a fresh marker
pushed on the place (`Lower.literalBlock_yields`), and the call then runs inside a catch for the
block's break id while the marker is set: the block's definition stands exactly where its breaks
may leave (`Op.Good.wrapLiteralBlock`). Any other block value is good where the call stands.
`Lower.BlockValueGood` is what a call needs of its block either way.
-/

namespace RubyLower

/-! ## Calls with a block -/

/-- What a call needs of its block value: a good value when the block is no literal one; for a
literal block with break id `bid` and marker `m`, a marker that points into the place's scopes
and a definition that is good where it stands but for its breaks, which leave at the site of the
block of a call marked with `m` inside a catch for `bid`. -/
def Lower.BlockValueGood (p : Place) (s : Progress) : Option Op → Option (Nat × Slot) → Prop
  | value, none => ∀ v ∈ value, v.Good p s
  | value, some (bid, m) => m.ResolvesIn (s.env.scopes p.frame) ∧ ∀ v ∈ value,
      v.SlotsIn (s.env.scopes p.frame) ∧
      v.BreaksIn { p.breakScope s with site := .callBlock bid m } ∧
      ∀ c, p.ReturnFits s c → v.ReturnsIn c

theorem Lower.BlockValueGood.evolve {p : Place} {s s' : Progress} {value : Option Op}
    {literal : Option (Nat × Slot)} (h : BlockValueGood p s value literal) (hp : p.Fits s)
    (he : s.Evolves s') : BlockValueGood p s' value literal := by
  match literal, h with
  | none, h => exact fun v hv => (h v hv).evolve hp he
  | some (bid, m), ⟨hm, hv⟩ =>
    refine ⟨hm.mono (he.grows.scopes hp.frame), fun v hvm => ?_⟩
    obtain ⟨hs, hb, hr⟩ := hv v hvm
    exact ⟨hs.mono (he.grows.scopes hp.frame), Place.breakScope_evolve hp he ▸ hb,
      fun c hc => hr c ((Place.returnFits_evolve hp he).1 hc)⟩

section CallNodes

variable {p : Place} {s : Progress} {f : Form Op} {xs : List Op} {value : Option Op}

/-- A node of a call form, whose children are `xs` and then its block value, seen at a site: it
is good when `xs` are good and the block value is good at the site of the call's block. -/
theorem Op.callLike_good (hbare : f.Bare = true) (hchildren : f.children = xs ++ value.toList)
    (hstep : ∀ c i, breakStep c f i =
      { c with site := if i = xs.length then c.site.toBlock else .none })
    (hxs : ∀ x ∈ xs, x.Good p s) (st : BreakSite)
    (hv : ∀ v ∈ value, v.SlotsIn (s.env.scopes p.frame) ∧
      v.BreaksIn { p.breakScope s with site := st.toBlock } ∧ ∀ c, p.ReturnFits s c → v.ReturnsIn c)
    (sp : Option Span) (fl : OpFlags) :
    (Op.mk f sp fl).SlotsIn (s.env.scopes p.frame) ∧
      (Op.mk f sp fl).BreaksIn { p.breakScope s with site := st } ∧
      ∀ c, p.ReturnFits s c → (Op.mk f sp fl).ReturnsIn c := by
  have hf := Form.scoping_of_bare hbare
  have hmem : ∀ x ∈ f.children, x ∈ xs ∨ x ∈ value := by
    intro x hx
    rw [hchildren, List.mem_append, Option.mem_toList] at hx
    exact hx
  refine ⟨?_, ?_, fun c hc => ?_⟩
  · rw [Op.SlotsIn, Op.holds_mk_of_step (slotStep_of_not_scoping hf _)]
    refine ⟨slotNode_of_bare hbare _, fun x hx => ?_⟩
    rcases hmem x hx with hx | hx
    exacts [(hxs x hx).slots, (hv x hx).1]
  · rw [Op.BreaksIn, Op.holds_mk]
    refine ⟨breakNode_of_bare hbare _, fun i hi => ?_⟩
    rw [hstep]
    simp only [hchildren, List.length_append] at hi ⊢
    rcases Nat.lt_or_ge i xs.length with hlt | hge
    · -- a child before the block sees no site
      rw [if_neg (Nat.ne_of_lt hlt), List.getElem_append_left hlt]
      exact (hxs _ (List.getElem_mem hlt)).breaks
    · -- the block sees the site of the call's block
      cases value with
      | none => simp only [Option.toList_none, List.length_nil] at hi; omega
      | some v =>
        simp only [Option.toList_some, List.length_singleton] at hi ⊢
        obtain rfl : i = xs.length := by omega
        rw [if_pos rfl, List.getElem_append_right (Nat.le_refl _)]
        simp only [Nat.sub_self, List.getElem_cons_zero]
        exact (hv v rfl).2.1
  · rw [Op.ReturnsIn, Op.holds_mk_of_step (returnStep_of_not_scoping hf hc.root)]
    refine ⟨returnNode_of_bare hbare _, fun x hx => ?_⟩
    rcases hmem x hx with hx | hx
    exacts [(hxs x hx).returns c hc, (hv x hx).2.2 c hc]

/-- A call with its block is good where it stands: a literal block's definition is the block of
a call marked with the block's marker inside a catch for the block's break id. -/
theorem Op.Good.wrapLiteralBlock {literal : Option (Nat × Slot)} (hbare : f.Bare = true)
    (hchildren : f.children = xs ++ value.toList)
    (hstep : ∀ c i, breakStep c f i =
      { c with site := if i = xs.length then c.site.toBlock else .none })
    (hxs : ∀ x ∈ xs, x.Good p s) (hv : Lower.BlockValueGood p s value literal)
    (sp : Option Span) (fl : OpFlags) :
    (Lower.wrapLiteralBlock (Op.mk f sp fl) literal).Good p s := by
  match literal, hv with
  | none, hv =>
    obtain ⟨hs, hb, hr⟩ := Op.callLike_good hbare hchildren hstep hxs .none
      (fun v hvm => ⟨(hv v hvm).slots, (hv v hvm).breaks, (hv v hvm).returns⟩) sp fl
    exact ⟨hs, hb, hr⟩
  | some (bid, m), ⟨hm, hv⟩ =>
    obtain ⟨hs, hb, hr⟩ := Op.callLike_good hbare hchildren hstep hxs (.marked bid m) hv sp fl
    refine ⟨?_, ?_, fun c hc => ?_⟩
    · rw [Lower.wrapLiteralBlock, Op.SlotsIn, ofForm, Op.holds_mk_of_step fun _ => rfl]
      refine ⟨trivial, List.forall_mem_singleton.2 ?_⟩
      rw [ofForm, Op.holds_mk_of_step fun _ => rfl]
      exact ⟨hm, List.forall_mem_singleton.2 hs⟩
    · -- the catch and the mark lead to the site of the call's block
      rw [Lower.wrapLiteralBlock, Op.BreaksIn, ofForm, Op.holds_mk]
      refine ⟨trivial, fun i hi => ?_⟩
      simp only [Form.children, List.length_singleton, Nat.lt_one_iff] at hi
      subst hi
      rw [ofForm]
      simp only [Form.children, List.getElem_cons_zero, breakStep]
      rw [Op.holds_mk]
      refine ⟨trivial, fun j hj => ?_⟩
      simp only [Form.children, List.length_singleton, Nat.lt_one_iff] at hj
      subst hj
      exact hb
    · rw [Lower.wrapLiteralBlock, Op.ReturnsIn, ofForm, Op.holds_mk]
      refine ⟨trivial, fun i hi => ?_⟩
      simp only [Form.children, List.length_singleton, Nat.lt_one_iff] at hi
      subst hi
      rw [ofForm]
      simp only [Form.children, List.getElem_cons_zero, returnStep]
      rw [Op.holds_mk]
      refine ⟨trivial, fun j hj => ?_⟩
      simp only [Form.children, List.length_singleton, Nat.lt_one_iff] at hj
      subst hj
      exact hr _ ⟨hc.target, hc.inProc, hc.guarded, rfl⟩

theorem Op.Good.callWith {recv : Op} {args : List Op} {name : String} {flags : CallFlags}
    {literal : Option (Nat × Slot)} (hrecv : recv.Good p s) (hargs : ∀ a ∈ args, a.Good p s)
    (hv : Lower.BlockValueGood p s value literal) (sp : Option Span) (fl : OpFlags) :
    (Lower.wrapLiteralBlock (Op.mk (.call recv name args value flags) sp fl) literal).Good p s :=
  wrapLiteralBlock rfl (by rfl) (fun _ _ => by rfl)
    (List.forall_mem_cons.2 ⟨hrecv, hargs⟩ : ∀ x ∈ recv :: args, x.Good p s) hv sp fl

theorem Op.Good.superWith {args : List Op} {splatted zsuper : Bool}
    {literal : Option (Nat × Slot)} (hargs : ∀ a ∈ args, a.Good p s)
    (hv : Lower.BlockValueGood p s value literal) (sp : Option Span) (fl : OpFlags) :
    (Lower.wrapLiteralBlock (Op.mk (.superCall args value splatted zsuper) sp fl) literal).Good p s :=
  wrapLiteralBlock rfl rfl (fun _ _ => rfl) hargs hv sp fl

end CallNodes

namespace Lower

section Rules

variable {r : Recur} (hr : r.Sound) {p : Place} {s : Progress}

theorem Yields.mapSome {α : Type} {x : Lower α} {Q : α → Progress → Prop} (h : x.Yields p s Q) :
    (some <$> x).Yields p s fun o s' => ∀ a ∈ o, Q a s' :=
  Yields.map (h.mono fun _ _ _ ha _ hb => Option.some.inj hb ▸ ha)

theorem uncopied_good {o : Op} (h : o.Good p s) : (uncopied o).Good p s := by
  unfold uncopied
  split
  · next c _ _ =>
    exact Op.Good.bare rfl (List.forall_mem_singleton.2 (h.of_mem_children rfl (by simp [Form.children])))
  · exact h

include hr

/-- A literal block: its definition stands where its breaks may leave once the call is wrapped
with its break id and its marker, a new temporary of the place's frame. -/
theorem literalBlock_yields (hp : p.Fits s) (spec : BlockSpec) :
    (literalBlock r spec).Yields p s fun res s' => BlockValueGood p s' res.1 res.2 := by
  unfold literalBlock withMarker
  refine (temp_yields hp _).bind fun marker s1 e1 hm => ?_
  have hp1 := hp.evolve e1
  refine (Yields.withReader (block_yields hr (hp1.withMarker (m := some marker)
    fun _ h => Option.some.inj h ▸ hm) spec .proc)).bind fun res s2 e2 h => ?_
  obtain ⟨definition, bid⟩ := res
  refine Yields.pure ⟨hm.mono (e2.grows.scopes hp1.frame), fun v hv => ?_⟩
  obtain rfl := Option.some.inj hv
  exact ⟨h.slots, h.breaks _ (.inr ⟨marker, rfl, rfl⟩),
    fun c hc => h.returns c ⟨hc.target, hc.inProc, hc.guarded, hc.root⟩⟩

theorem blockArg_yields (hp : p.Fits s) (b : BlockArg) :
    (blockArg r b).Yields p s fun res s' => BlockValueGood p s' res.1 res.2 := by
  unfold blockArg
  split
  · exact Yields.pure fun v hv => by cases hv
  · split
    · exact literalBlock_yields hr hp _
    · refine (hr.expr _ p s hp).bind fun o s1 _ ho => Yields.pure fun v hv => ?_
      obtain rfl := Option.some.inj hv
      exact Op.Good.withSpan (Op.Good.bare rfl (List.forall_mem_singleton.2 ho))
    · refine (hr.expr _ p s hp).bind fun o s1 _ ho => Yields.pure fun v hv => ?_
      obtain rfl := Option.some.inj hv
      exact ho
  · exact literalBlock_yields hr hp _

theorem arguments_yields (hp : p.Fits s) (args : Option Node) (span : Span) :
    (arguments r args span).Yields p s fun res s' => ∀ o ∈ res.1, o.Good p s' := by
  unfold arguments
  split
  · exact Yields.pure (by simp)
  · split
    · exact (exprs_yields hr hp _).bind fun os s1 _ hos => Yields.pure hos
    all_goals first
      | exact (hr.expr _ p s hp).bind fun o s1 _ ho =>
          Yields.pure (List.forall_mem_singleton.2 (uncopied_good ho))
      | split
        · exact Yields.fail
        · exact Yields.throw

theorem finishCall_yields (hp : p.Fits s) {receiver : Op} {args : List Op}
    (hrecv : receiver.Good p s) (hargs : ∀ a ∈ args, a.Good p s) (name : String) (splatted : Bool)
    (block : BlockArg) (flags : CallFlags) (span : Span) :
    (finishCall r receiver name args splatted block flags span).Yields p s
      fun o s' => o.Good p s' := by
  unfold finishCall
  refine Yields.bind_read modes_post ((blockArg_yields hr hp block).bind fun res s1 e1 hres => ?_)
  obtain ⟨value, literal⟩ := res
  exact Yields.pure (Op.Good.callWith (hrecv.evolve hp e1) (fun a ha => (hargs a ha).evolve hp e1)
    hres _ _)

theorem callNode_yields (hp : p.Fits s) {receiver : Op} (hrecv : receiver.Good p s) (name : String)
    (args : Option Node) (block : BlockArg) (flags : CallFlags) (span : Span) :
    (callNode r receiver name args block flags span).Yields p s fun o s' => o.Good p s' := by
  unfold callNode
  refine (arguments_yields hr hp args span).bind fun res s1 e1 hargs => ?_
  obtain ⟨arguments, splatted⟩ := res
  exact finishCall_yields hr (hp.evolve e1) (hrecv.evolve hp e1) hargs name splatted block flags span

theorem argsCat_yields (hp : p.Fits s) (first second : Node) (span : Span) :
    (argsCat r first second span).Yields p s fun o s' => o.Good p s' := by
  unfold argsCat
  refine (hr.expr _ p s hp).bind fun h s1 e1 hh => ?_
  refine (Yields.mapM_good (hp.evolve e1) _ fun n _ s' hp' _ =>
      (hr.expr n p s' hp').bind fun o _ _ ho =>
        Yields.pure (by exact Op.Good.bare rfl (List.forall_mem_singleton.2 ho))).bind
    fun spreads s2 e2 hs => Yields.pure ?_
  exact Op.Good.withSpan (Op.Good.bare rfl
    (List.forall_mem_cons.2 ⟨hh.evolve (hp.evolve e1) e2, hs⟩))

theorem argsPush_yields (hp : p.Fits s) (first second : Node) (span : Span) :
    (argsPush r first second span).Yields p s fun o s' => o.Good p s' := by
  unfold argsPush
  refine (hr.expr first p s hp).bind fun a s1 e1 ha => ?_
  refine (hr.expr second p s1 (hp.evolve e1)).bind fun v s2 e2 hv => Yields.pure ?_
  have hdup : (Op.ofForm (.arrayDup a)).Good p s2 :=
    Op.Good.bare rfl (List.forall_mem_singleton.2 (ha.evolve (hp.evolve e1) e2))
  exact Op.Good.withSpan (Op.Good.bare rfl (by simp [Form.children, hdup, hv]))

theorem primitive_yields (hp : p.Fits s) (name : String) (args : Option Node) (span : Span) :
    (primitive r name args span).Yields p s fun o s' => o.Good p s' := by
  unfold primitive
  refine Yields.bind_read source_post ?_
  split
  · exact Yields.fail
  · refine (arguments_yields hr hp args span).bind fun res s1 _ hargs => ?_
    obtain ⟨arguments, splatted⟩ := res
    dsimp only
    split
    · exact Yields.fail
    · exact Yields.pure (Op.Good.withSpan (Op.Good.bare rfl hargs))

/-- The calls on the internal module with a form of their own; `privately` lowers its block's
body in private mode, which changes nothing goodness sees. -/
theorem internalCall_yields (hp : p.Fits s) (name : String) (iter : Option Node) (span : Span) :
    (internalCall r name iter span).Yields p s fun o s' => ∀ x ∈ o, x.Good p s' := by
  unfold internalCall
  split
  · split
    · refine Yields.map (Yields.withReader (Yields.mono (exprOrNil_yields hr
        (by exact ⟨hp.ok, hp.frame, hp.returnId, hp.markers⟩) _ span) fun o s' _ ho => ?_))
      exact fun x hx => Option.some.inj hx ▸
        Op.Good.congr (p := { p with modes := { p.modes with privately := true } }) rfl rfl ho
    · exact Yields.fail
  · split
    · exact Yields.pure fun x hx => Option.some.inj hx ▸ Op.Good.withSpan (Op.Good.leaf rfl rfl)
    · split
      · exact Yields.pure fun x hx => Option.some.inj hx ▸
          Op.Good.withSpan (Op.Good.bare rfl (List.forall_mem_singleton.2 Op.Good.selfValue))
      · exact Yields.pure fun x hx => by cases hx

theorem notProvidedTest_yields (hp : p.Fits s) (args : Option Node) (span : Span) :
    (notProvidedTest r args span).Yields p s fun o s' => o.Good p s' := by
  unfold notProvidedTest
  split
  · exact (hr.expr _ p s hp).bind fun o _ _ ho =>
      Yields.pure (Op.Good.withSpan (Op.Good.bare rfl (List.forall_mem_singleton.2 ho)))
  · exact Yields.fail

theorem fcall_yields (hp : p.Fits s) (name : String) (args iter : Option Node) (span : Span) :
    (fcall r name args iter span).Yields p s fun o s' => o.Good p s' :=
  callNode_yields hr hp Op.Good.selfValue name args _ _ span

theorem attrAssign_yields (hp : p.Fits s) (receiver : Node) (name : String) (args : Option Node)
    (lazy : Bool) (span : Span) :
    (attrAssign r receiver name args lazy span).Yields p s fun o s' => o.Good p s' := by
  unfold attrAssign
  exact (hr.expr receiver p s hp).bind fun recv s1 e1 hrecv =>
    callNode_yields hr (hp.evolve e1) hrecv name args _ _ span

theorem superCall_yields (hp : p.Fits s) (args iter : Option Node) (span : Span) :
    (superCall r args iter span).Yields p s fun o s' => o.Good p s' := by
  unfold superCall
  refine (arguments_yields hr hp args span).bind fun res s1 e1 hargs => ?_
  obtain ⟨arguments, splatted⟩ := res
  refine (blockArg_yields hr (hp.evolve e1) _).bind fun res s2 e2 hv => ?_
  obtain ⟨value, literal⟩ := res
  exact Yields.pure (Op.Good.superWith (fun a ha => (hargs a ha).evolve (hp.evolve e1) e2) hv _ _)

theorem postExe_yields (hp : p.Fits s) (body : Option Node) (span : Span) :
    (postExe r body span).Yields p s fun o s' => o.Good p s' :=
  finishCall_yields hr hp (Op.Good.object _)
    (List.forall_mem_singleton.2 (Op.Good.leaf rfl rfl)) _ _ _ _ span

theorem call_yields (hp : p.Fits s) (receiver : Node) (name : String) (args iter : Option Node)
    (lazy : Bool) (span : Span) :
    (call r receiver name args iter lazy span).Yields p s fun o s' => o.Good p s' := by
  unfold call
  extract_lets frozenLiteral afterExpand
  have hafter : ∀ e s1, s.Evolves s1 → (∀ x ∈ e, x.Good p s1) →
      (afterExpand e).Yields p s1 fun o s' => o.Good p s' := by
    intro e s1 e1 he
    dsimp -zeta only [afterExpand]
    split
    · exact Yields.pure (he _ rfl)
    · exact (hr.expr receiver p s1 (hp.evolve e1)).bind fun recv s2 e2 hrecv =>
        callNode_yields hr ((hp.evolve e1).evolve e2) hrecv _ _ _ _ span
  have hnone : (pure none >>= afterExpand).Yields p s fun o s' => o.Good p s' :=
    Yields.bind_read (Post.pure ⟨rfl, rfl⟩) (hafter none s (.refl s) fun _ h => by cases h)
  -- which literal is frozen matters not: either way the result is good
  clear_value frozenLiteral
  cases frozenLiteral with
  | some value =>
    exact Yields.pure (Op.Good.withSpan
      (Op.Good.bare rfl (List.forall_mem_singleton.2 (Op.Good.object _))))
  | none =>
    dsimp only
    split
    · split
      · exact (Yields.mapSome (primitive_yields hr hp name args span)).bind hafter
      · split
        · exact (internalCall_yields hr hp name iter span).bind hafter
        · exact hnone
    · refine Yields.bind_read source_post ?_
      split
      · exact (Yields.mapSome (notProvidedTest_yields hr hp args span)).bind hafter
      · exact hnone
    · exact hnone

end Rules

section Reads

variable {p : Place} {s : Progress}

theorem methodBlockRead_yields (hp : p.Fits s) :
    methodBlockRead.Yields p s fun o s' => ∀ x ∈ o, x.Good p s' := by
  unfold methodBlockRead
  refine Yields.bind_read frame_post ((resolve_yields hp _).bind fun slot s1 _ hslot => ?_)
  refine Yields.pure fun x hx => ?_
  cases slot with
  | none => cases hx
  | some t =>
    obtain rfl := Option.some.inj hx
    exact Op.Good.readLocal (hslot t rfl)

theorem readParam_yields (hp : p.Fits s) (name : String) :
    (readParam name).Yields p s fun o s' => o.Good p s' :=
  (resolveOrDeclare_yields hp name).bind fun _ _ _ hslot => Yields.pure (Op.Good.readLocal hslot)

theorem forwardedKeywords_yields (hp : p.Fits s) (ps : MethodParams) :
    (forwardedKeywords ps).Yields p s fun o s' => ∀ x ∈ o, x.Good p s' := by
  unfold forwardedKeywords
  split
  · exact Yields.pure fun _ h => by cases h
  · refine (Yields.mapM (Q := fun kv s' => kv.1.Good p s' ∧ kv.2.Good p s')
      (fun _ _ _ hp he h => ⟨h.1.evolve hp he, h.2.evolve hp he⟩) _ hp
      fun n _ s' hp' _ => (readParam_yields hp' n).bind fun v _ _ hv =>
        Yields.pure ⟨Op.Good.symbol n, hv⟩).bind fun pairs s1 e1 hpairs => ?_
    have hh := hashLit_good hpairs
    split
    · refine (readParam_yields (hp.evolve e1) _).bind fun rest s2 e2 hrest => Yields.pure ?_
      refine fun x hx => Option.some.inj hx ▸ Op.Good.bare rfl fun y hy => ?_
      simp only [Form.children, List.mem_cons, List.mem_nil_iff, or_false] at hy
      rcases hy with rfl | rfl
      · exact hh.evolve (hp.evolve e1) e2
      · exact Op.Good.bare rfl (List.forall_mem_singleton.2 hrest)
    · exact Yields.pure fun x hx => Option.some.inj hx ▸ hh

end Reads

section Rules

variable {r : Recur} (hr : r.Sound) {p : Place} {s : Progress}
include hr

theorem zsuper_yields (hp : p.Fits s) (iter : Option Node) (span : Span) :
    (zsuper r iter span).Yields p s fun o s' => o.Good p s' := by
  unfold zsuper
  refine Yields.bind_read env_post (Yields.bind_read frame_post ?_)
  extract_lets m afterArgs
  refine Yields.bind_read (frameData_post _) ?_
  extract_lets ps
  have hreads : ∀ (names : List String) s1, p.Fits s1 →
      (names.mapM readParam).Yields p s1 fun os s' => ∀ o ∈ os, o.Good p s' :=
    fun names _ hp1 => Yields.mapM_good hp1 names fun n _ _ hp' _ => readParam_yields hp' n
  refine (hreads _ s hp).bind fun leading s1 e1 hlead => ?_
  have hp1 := hp.evolve e1
  refine (hreads _ s1 hp1).bind fun post s2 e2 hpost => ?_
  have hp2 := hp1.evolve e2
  refine (forwardedKeywords_yields hp2 ps).bind fun keywords s3 e3 hkw => ?_
  have hp3 := hp2.evolve e3
  have hafterArgs : ∀ arguments splatted s4, s3.Evolves s4 → (∀ a ∈ arguments, a.Good p s4) →
      (afterArgs (arguments, splatted)).Yields p s4 fun o s' => o.Good p s' := by
    intro arguments splatted s4 e4 hargs
    dsimp -zeta only [afterArgs]
    have hp4 := hp3.evolve e4
    extract_lets afterBlock
    have hafterBlock : ∀ value literal s5, s4.Evolves s5 → BlockValueGood p s5 value literal →
        (afterBlock (value, literal)).Yields p s5 fun o s' => o.Good p s' := by
      intro value literal s5 e5 hv
      dsimp -zeta only [afterBlock]
      exact Yields.pure (Op.Good.superWith (fun a ha => (hargs a ha).evolve hp4 e5) hv _ _)
    split
    · exact (blockArg_yields hr hp4 _).bind fun x s5 e5 hx => hafterBlock x.1 x.2 s5 e5 hx
    · exact (methodBlockRead_yields hp4).bind fun v s5 e5 hv =>
        Yields.bind_read (Post.pure ⟨rfl, rfl⟩) (hafterBlock v none s5 e5 hv)
  split
  · -- a rest parameter: the arguments are spread from one array built of all of them
    refine (readParam_yields hp3 _).bind fun restOp s4 e4 hrest => ?_
    have hp4 := hp3.evolve e4
    have hlit : ∀ {xs : List Op}, (∀ o ∈ xs, o.Good p s4) → (Op.ofForm (.arrayLit xs)).Good p s4 :=
      fun h => Op.Good.bare rfl h
    refine Yields.bind_read (Post.pure ⟨rfl, rfl⟩) (hafterArgs _ _ s4 e4
      (List.forall_mem_singleton.2 (Op.Good.bare rfl fun x hx => ?_)))
    simp only [Form.children, List.mem_append, List.mem_cons, List.mem_nil_iff, or_false,
      Option.mem_toList] at hx
    rcases hx with ((rfl | rfl) | hx) | hx
    · exact hlit fun o ho => (hlead o ho).evolve hp1 ((e2.trans e3).trans e4)
    · exact Op.Good.bare rfl (List.forall_mem_singleton.2 hrest)
    · split at hx
      · cases hx
      · rw [List.mem_singleton] at hx
        exact hx ▸ hlit fun o ho => (hpost o ho).evolve hp2 (e3.trans e4)
    · cases keywords with
      | none => cases hx
      | some k =>
        obtain rfl := Option.some.inj hx
        exact hlit (List.forall_mem_singleton.2 ((hkw k rfl).evolve hp3 e4))
  · refine Yields.bind_read (Post.pure ⟨rfl, rfl⟩) (hafterArgs _ _ s3 (.refl s3) fun a ha => ?_)
    simp only [List.mem_append, Option.mem_toList] at ha
    rcases ha with (ha | ha) | ha
    · exact (hlead a ha).evolve hp1 (e2.trans e3)
    · exact (hpost a ha).evolve hp2 e3
    · exact hkw a ha

theorem yieldCall_yields (hp : p.Fits s) (args : Option Node) (span : Span) :
    (yieldCall r args span).Yields p s fun o s' => o.Good p s' := by
  unfold yieldCall
  extract_lets afterArgs
  have hafterArgs : ∀ arguments splatted s1, s.Evolves s1 → (∀ a ∈ arguments, a.Good p s1) →
      (afterArgs (arguments, splatted)).Yields p s1 fun o s' => o.Good p s' := by
    intro arguments splatted s1 e1 hargs
    dsimp -zeta only [afterArgs]
    refine (methodBlockRead_yields (hp.evolve e1)).bind fun blk s2 e2 hblk => ?_
    refine Yields.pure (Op.Good.withSpan (Op.Good.bare rfl fun x hx => ?_))
    simp only [Form.children, List.mem_append, List.mem_singleton] at hx
    rcases hx with hx | rfl
    · exact (hargs x hx).evolve (hp.evolve e1) e2
    · cases blk with
      | none => exact Op.Good.nil
      | some b => exact hblk b rfl
  have hlist : (arguments r args span >>= afterArgs).Yields p s fun o s' => o.Good p s' :=
    (arguments_yields hr hp args span).bind fun x s1 e1 hx => hafterArgs x.1 x.2 s1 e1 hx
  split
  · split
    all_goals first
      | exact hlist
      | exact (hr.expr _ p s hp).bind fun o s1 e1 ho => Yields.bind_read (Post.pure ⟨rfl, rfl⟩)
          (hafterArgs _ _ s1 e1 (List.forall_mem_singleton.2 ho))
  · exact hlist

end Rules

theorem vcall_yields {p : Place} {s : Progress} (name : String) (span : Span) :
    (vcall name span).Yields p s fun o s' => o.Good p s' := by
  unfold vcall
  refine Yields.bind_read source_post ?_
  split
  · exact Yields.pure (Op.Good.withSpan (Op.Good.object _))
  · exact Yields.pure (Op.Good.withSpan (Op.Good.call Op.Good.selfValue (by simp) _ _))

end Lower

end RubyLower
