import RubyLower.Lower.Definition
import RubyLower.Proofs.UnitBody
import RubyLower.Proofs.Rules.Params

/-!
# The rules that define units

Blocks, lambdas, methods and module bodies each lower their body over a new frame, a child of the
place's frame, and wrap it into a definition node. The definition is good where it stands because
its unit knows what its frame knows (`Frame.scope_le_unit`): the unit's description is read from
the frame at the end, and its body sets up the frame's flip-flop states first. The body's slots
then point into the unit's scope pushed in front of the place's scopes (`Op.SlotsIn.enter`).

Breaks and returns are where the kinds differ. A method or module body is a fresh start for both
(`Op.Good.unitDef`). A lambda catches its own breaks and returns around its body. A block's
returns leave with those of the place's frame, and its breaks leave its unit with its break id,
which only the call it is the literal block of may catch: `Op.BlockGood` is goodness with that
one exception, which the rules for calls discharge.
-/

namespace RubyLower

/-! ## Definitions of units -/

theorem Env.scopes_of_parent {e : Env} (hok : e.Ok) {id q : Nat} (h : (e.frame id).parent = some q) :
    e.scopes id = (e.frame id).scope :: e.scopes q := by
  rw [scopes, chain_of_ok hok, h]
  rfl

/-- A unit knows at least what its frame knows when its description is the frame's and its body
sets up the frame's states first. -/
theorem Frame.scope_le_unit {fr : Frame} {h : UnitHead} {b : Op} (hk : h.kind = fr.kind.unitKind)
    (hl : h.locals = fr.locals) (hn : h.needsDeclarationFrame = fr.needsDeclarationFrame)
    (hi : fr.flipFlopStates ⊆ b.leadingInits) : fr.scope.Le (ExecUnit.mk h b).scope :=
  ⟨hk.symm, by simp only [ExecUnit.scope, Frame.scope, hl]; exact List.prefix_refl _, fun hc => by
    simpa [Scope.Crossable, ExecUnit.scope, Frame.scope, hk, hn] using hc, hi⟩

/-- The body of a unit over a child frame has its slots in the unit's scope pushed in front of
the parent's scopes, when the unit knows what its frame knows. -/
theorem Op.SlotsIn.enter {e : Env} (hok : e.Ok) {uf q : Nat} (hparent : (e.frame uf).parent = some q)
    {x : ExecUnit} (hle : (e.frame uf).scope.Le x.scope) (h : x.body.SlotsIn (e.scopes uf)) :
    x.body.SlotsIn (x.scope :: e.scopes q) := by
  rw [Env.scopes_of_parent hok hparent] at h
  exact h.mono (.cons hle (List.forall₂_same.2 fun u _ => Scope.Le.refl u))

/-- The place of a body lowered over frame `id` from `p`. -/
abbrev Place.enter (p : Place) (id : Nat) : Place :=
  { p with frame := id, modes := {}, markers := [] }

/-- A body lowered over a frame of the place fits there when the frame has a return id. -/
theorem Place.Fits.enter {p : Place} {s : Progress} (hp : p.Fits s) {id : Nat}
    (hid : id < s.env.frames.size) (hret : (s.env.frame id).returnId.isSome = true) :
    (p.enter id).Fits s :=
  ⟨hp.ok, hid, hret, fun _ hm => by cases hm⟩

/-- A part lowered with one more marker fits when the marker's slot points into the frame's
scopes. -/
theorem Place.Fits.withMarker {p : Place} {s : Progress} (hp : p.Fits s) {m : Option Slot}
    (hm : ∀ slot ∈ m, slot.ResolvesIn (s.env.scopes p.frame)) :
    ({ p with markers := m :: p.markers } : Place).Fits s := by
  refine ⟨hp.ok, hp.frame, hp.returnId, fun m' hm' => ?_⟩
  rcases List.mem_cons.1 hm' with rfl | hm'
  · exact hm
  · exact hp.markers m' hm'

/-- A block or lambda definition with break id `bid` lowered at `p` is good there, but for its
breaks: those may leave its unit with `bid` when it is a lambda, which catches them itself, or
where it is the block of a call marked with the place's marker inside a catch for `bid`. -/
structure Op.BlockGood (p : Place) (s : Progress) (kind : ProcKind) (o : Op) (bid : Nat) : Prop where
  slots : o.SlotsIn (s.env.scopes p.frame)
  breaks : ∀ site, (kind = .lambda ∨ ∃ m, (p.markers.head?).bind id = some m ∧
    site = .callBlock bid m) → o.BreaksIn { p.breakScope s with site }
  returns : ∀ c, p.ReturnFits s c → o.ReturnsIn c

namespace Op.BlockGood

variable {p : Place} {s s' : Progress} {kind : ProcKind} {o : Op} {bid : Nat}

theorem evolve (h : o.BlockGood p s kind bid) (hp : p.Fits s) (he : s.Evolves s') :
    o.BlockGood p s' kind bid :=
  ⟨h.slots.mono (he.grows.scopes hp.frame),
    fun site hsite => Place.breakScope_evolve hp he ▸ h.breaks site hsite,
    fun c hc => h.returns c ((Place.returnFits_evolve hp he).1 hc)⟩

/-- A lambda's definition is good. -/
theorem good (h : o.BlockGood p s .lambda bid) : o.Good p s :=
  ⟨h.slots, h.breaks .none (.inl rfl), h.returns⟩

/-- The definition of a block or lambda over frame `bf` is good at `p` when its unit knows what
the frame knows and its body is good over the frame: a child of `p`'s frame with break id `bid`,
which for a block has the return id of `p`'s frame and for a lambda catches its body's breaks
and returns. -/
theorem blockDef {head : UnitHead} {W : Op} {bf : Nat} {marker : Option Slot} (sp : Span)
    (hp : p.Fits s) (hparent : (s.env.frame bf).parent = some p.frame)
    (hscope : (s.env.frame bf).scope.Le (ExecUnit.mk head W).scope)
    (hbid : (s.env.frame bf).breakId = some bid) (hhead : head.breakId = some bid)
    (hW : W.Good (p.enter bf) s)
    (hproc : kind = .proc → marker = (p.markers.head?).bind id ∧ (s.env.frame bf).kind = .block ∧
      (s.env.frame bf).returnId = (s.env.frame p.frame).returnId)
    (hlam : kind = .lambda → marker = none ∧ (s.env.frame bf).kind = .lambda ∧
      W.ReturnsIn (.enter head) ∧ ∃ x ∈ W.nodes, x.form.CatchesLambdaBody bid) :
    ((Op.ofForm (.blockDef kind head W bid marker)).withSpan sp).BlockGood p s kind bid := by
  have hkind : head.kind = (s.env.frame bf).kind.unitKind := hscope.kind.symm
  refine ⟨Op.holds_withSpan.2 ?_, fun site hsite => Op.holds_withSpan.2 ?_,
    fun c hc => Op.holds_withSpan.2 ?_⟩
  · rw [ofForm, Op.holds_mk]
    refine ⟨fun m hm => ?_, fun i hi => ?_⟩
    · cases kind with
      | proc =>
        rw [(hproc rfl).1, Option.mem_def, Option.bind_eq_some_iff] at hm
        obtain ⟨mo, hmo, hm⟩ := hm
        exact hp.markers mo (List.mem_of_mem_head? hmo) m hm
      | lambda => rw [(hlam rfl).1] at hm; cases hm
    · simp only [Form.children, List.length_singleton, Nat.lt_one_iff] at hi
      subst hi
      exact Op.SlotsIn.enter hp.ok hparent hscope hW.slots
  · rw [ofForm, Op.holds_mk]
    refine ⟨trivial, fun i hi => ?_⟩
    simp only [Form.children, List.length_singleton, Nat.lt_one_iff] at hi
    subst hi
    -- the unit's breaks leave with its break id, which its definition lets out at this site
    simp only [Form.children, List.getElem_cons_zero, breakStep]
    refine Op.BreaksIn.mono (c := (p.enter bf).breakScope s) ⟨rfl, fun id hid => ?_, rfl⟩ hW.breaks
    obtain ⟨-, -, hid⟩ := hid
    obtain rfl : id = bid := Option.some.inj (hid.symm.trans hbid)
    refine ⟨rfl, hhead, ?_⟩
    cases kind with
    | proc =>
      obtain ⟨hm, hfk, -⟩ := hproc rfl
      rcases hsite with h | ⟨m, hm', rfl⟩
      · cases h
      · exact .inr ⟨by rw [hkind, hfk]; rfl, m, hm.trans hm', rfl⟩
    | lambda =>
      obtain ⟨-, hfk, -, hx⟩ := hlam rfl
      exact .inl ⟨by rw [hkind, hfk]; rfl, hx⟩
  · rw [ofForm, Op.holds_mk]
    refine ⟨trivial, fun i hi => ?_⟩
    simp only [Form.children, List.length_singleton, Nat.lt_one_iff] at hi
    subst hi
    cases kind with
    | proc =>
      -- a block's returns leave with those of the place's frame, from inside a proc
      obtain ⟨-, hfk, hret⟩ := hproc rfl
      have hk : head.kind = .proc := by rw [hkind, hfk]; rfl
      simp only [Form.children, List.getElem_cons_zero, returnStep, hk, if_true]
      exact hW.returns _ ⟨fun t ht => (hc.target t ht).trans hret.symm, by simp [hfk],
        hc.guarded, rfl⟩
    | lambda =>
      obtain ⟨-, hfk, hW', -⟩ := hlam rfl
      have hk : head.kind = .lambda := by rw [hkind, hfk]; rfl
      simp only [Form.children, List.getElem_cons_zero, returnStep, hk]
      exact hW'

end Op.BlockGood

/-- The definition of a method or module body over frame `uf` is good at `p` when its unit
knows what the frame knows, its definee is good at `p`, and its body is good over the frame, a
child of `p`'s frame that is no block, and keeps its returns where the unit's entry allows. -/
theorem Op.Good.unitDef {p : Place} {s : Progress} {f : Form Op} {d W : Op} {head : UnitHead}
    {uf : Nat} (sp : Span) (hf : f = .methodDef d head W ∨ f = .runModuleBody d head W)
    (hp : p.Fits s) (hparent : (s.env.frame uf).parent = some p.frame)
    (hnb : (s.env.frame uf).isBlock = false)
    (hscope : (s.env.frame uf).scope.Le (ExecUnit.mk head W).scope) (hd : d.Good p s)
    (hW : W.Good (p.enter uf) s) (hret : W.ReturnsIn (.enter head)) :
    ((Op.ofForm f).withSpan sp).Good p s := by
  have hroot : (p.enter uf).breakScope s = .root := by
    simp [Place.breakScope, BreakScope.root, hnb]
  have hWb : W.BreaksIn .root := hroot ▸ hW.breaks
  -- the definee is lowered where the node stands, the body is the unit's
  refine ⟨?_, ?_, fun c hc => ?_⟩
  · rcases hf with rfl | rfl <;> exact Op.holds_withSpan.2
      (Op.holds_two rfl trivial hd.slots (Op.SlotsIn.enter hp.ok hparent hscope hW.slots))
  · rcases hf with rfl | rfl <;> exact Op.holds_withSpan.2 (Op.holds_two rfl trivial hd.breaks hWb)
  · rcases hf with rfl | rfl <;> exact Op.holds_withSpan.2
      (Op.holds_two rfl trivial (hd.returns _ ⟨hc.target, hc.inProc, hc.guarded, rfl⟩) hret)

namespace Lower

variable {β : Type} {p : Place} {s : Progress}

/-! ## Steps that make a unit -/

/-- A new frame under the place's frame, set up by `g`: the progress evolves, for the frame is
new, and the rest runs with the new frame there. -/
theorem pushFrame_bind_yields {fk : FrameKind} {g : Frame → Frame} {k : Nat → Lower β}
    {Q : β → Progress → Prop} (hp : p.Fits s)
    (hg : ∀ fr, (g fr).parent = fr.parent ∧ (g fr).locals = fr.locals ∧
      (g fr).flipFlopStates = fr.flipFlopStates)
    (hk : ∀ s', s.Evolves s' → s.env.frames.size < s'.env.frames.size →
      s'.env.frame s.env.frames.size =
        g ((s.env.pushFrame (some p.frame) fk).1.frame s.env.frames.size) →
      (k s.env.frames.size).Yields p s' Q) :
    (onEnv (·.pushFrame (some p.frame) fk) >>= fun bf => modifyFrame bf g >>= fun _ => k bf).Yields
      p s Q := by
  set e := (s.env.pushFrame (some p.frame) fk).1 with he
  set bf := s.env.frames.size
  have hsize : e.frames.size = bf + 1 := Env.frames_size_pushFrame _ _ _
  have hevolve : s.Evolves { s with env := e.modifyFrame bf g } := by
    refine ⟨Env.Grows.modifyFrame_new (Env.Grows.pushFrame _ _ _) (Nat.le_refl _),
      Env.SameBreaks.modifyFrame_new (Env.SameBreaks.pushFrame _ _ _) (Nat.le_refl _), fun hok => ?_⟩
    obtain ⟨hpar, hloc, hst⟩ := hg (e.frame bf)
    exact (hok.pushFrame hp.frame fk).modifyFrame hpar fun h slot hs => hloc ▸ h slot (hst ▸ hs)
  refine Post.bind (Post.onEnv (Q := fun a s1 => a = bf ∧ s1 = { s with env := e }) ⟨rfl, rfl⟩)
    fun a s1 ⟨ha, hs1⟩ => ?_
  subst ha hs1
  refine Post.bind (Post.modifyEnv (Q := fun _ s2 => s2 = { s with env := e.modifyFrame bf g }) rfl)
    fun _ s2 hs2 => ?_
  subst hs2
  have hframe : (e.modifyFrame bf g).frame bf = g (e.frame bf) := by
    rw [Env.frame_modifyFrame, if_pos ⟨rfl, by omega⟩]
  exact Post.mono (hk _ hevolve (by simp [hsize]) hframe) fun _ _ ⟨he', hq⟩ =>
    ⟨hevolve.trans he', hq⟩

theorem unitHead_post (id : Nat) (name : String) (kind : UnitKind) (arity : Arity) :
    (unitHead id name kind arity).Post p s fun h s' =>
      h = { name, kind, arity, locals := (s.env.frame id).locals,
            ownScope := (s.env.frame id).ownScope, returnId := (s.env.frame id).returnId,
            breakId := (s.env.frame id).breakId, blockDepth := (s.env.frame id).blockDepth,
            lexicalScope := s.env.currentLexical,
            needsDeclarationFrame := (s.env.frame id).needsDeclarationFrame } ∧ s' = s :=
  ⟨rfl, rfl⟩

/-! ## The rules -/

theorem defaultDefinee_good : defaultDefinee.Good p s :=
  Op.Good.bare rfl (List.forall_mem_singleton.2 (Op.Good.leaf rfl rfl))

section Rules

variable {r : Recur} (hr : r.Sound)
include hr

/-- A method definition is good where it stands: its body is a new unit over a new method frame,
caught for its own return id. -/
theorem method_yields (hp : p.Fits s) {definee : Op} (hd : definee.Good p s) (name : String)
    (params : Params Node) (body : Option Node) (span : Span) :
    (method r definee name params body span).Yields p s fun o s' => o.Good p s' := by
  unfold method
  refine allocReturn_yields.bind fun rid s1 e1 _ => Yields.bind_read frame_post ?_
  refine pushFrame_bind_yields (hp.evolve e1) (fun _ => ⟨rfl, rfl, rfl⟩) fun s2 e2 hlt hfr => ?_
  set mf := s1.env.frames.size
  have hnew := Env.frame_pushFrame_new s1.env (some p.frame) .method
  have hret2 : (s2.env.frame mf).returnId = some rid := by rw [hfr]
  have hp2 : (p.enter mf).Fits s2 := (hp.evolve (e1.trans e2)).enter hlt (by rw [hret2]; rfl)
  refine Yields.withReader ((parameters_yields hr hp2 params .method).bind
    fun ⟨arity, prelude⟩ s3 e3 hpre => ?_)
  refine (exprOrNil_yields hr (hp2.evolve e3) body span).bind fun b s4 e4 hb => ?_
  refine Yields.bind_read (withPrelude_post _ _) (Yields.bind_read (unitHead_post _ _ _ _) ?_)
  -- the method frame at the end: still a child of the place's frame, a method's, with `rid`
  have hg := (e3.trans e4).grows.frame mf hlt
  have hparent : (s4.env.frame mf).parent = some p.frame := by rw [hg.parent, hfr]; exact hnew.1
  have hkind : (s4.env.frame mf).kind = .method := by rw [hg.kind, hfr]; exact hnew.2.1
  have hret : (s4.env.frame mf).returnId = some rid := hg.returnId.trans hret2
  have hp4 : (p.enter mf).Fits s4 := (hp2.evolve e3).evolve e4
  have hprelude : ∀ o ∈ prelude, o.Good (p.enter mf) s4 :=
    fun o ho => (hpre o ho).evolve (hp2.evolve e3) e4
  have hk : ((s4.env.frame mf).kind == .block) = false := by rw [hkind]; rfl
  refine Yields.pure (Op.Good.unitDef span (.inl rfl)
    (hp.evolve (e1.trans (e2.trans (e3.trans e4)))) hparent (by simp [Frame.isBlock, hkind])
    (Frame.scope_le_unit (by rw [hkind]; rfl) rfl rfl (Op.subset_leadingInits_withInits rfl))
    (hd.evolve hp (e1.trans (e2.trans (e3.trans e4))))
    (Op.Good.withInits (hp4.ok.states_resolve mf) hprelude (Op.Good.catchReturn hb)) ?_)
  exact Op.returnsIn_enter_withInits rfl rfl hk
    (hp4.ok.states_resolve mf) hprelude (Op.Good.returnsIn_catchReturn hb hret hret hk (.inl rfl))

theorem forParameter_yields (hp : p.Fits s) (var : Node) :
    (forParameter r var).Yields p s fun res s' => ∀ o ∈ res.2, o.Good p s' := by
  unfold forParameter
  refine (onEnv_yields_of_frames (Env.frames_allocTempName _ _)).bind fun name s1 e1 _ => ?_
  refine Yields.bind_read frame_post ((declare_yields (hp.evolve e1) name).bind fun t s2 e2 ht => ?_)
  have hp2 := (hp.evolve e1).evolve e2
  refine (hr.target var _ p s2 hp2 (Op.Good.readLocal ht)).bind fun assign s3 e3 ha => ?_
  refine Yields.pure fun o ho => ?_
  simp only [List.mem_cons, List.mem_nil_iff, or_false] at ho
  rcases ho with rfl | rfl
  · exact Op.Good.writeLocal (ht.mono (e3.grows.scopes hp2.frame)) (Op.Good.leaf rfl rfl)
  · exact ha

/-- A block or lambda definition is good where it stands, but for the breaks that leave its
unit. -/
theorem block_yields (hp : p.Fits s) (spec : BlockSpec) (kind : ProcKind) :
    (block r spec kind).Yields p s fun res s' => res.1.BlockGood p s' kind res.2 := by
  unfold block
  extract_lets isLambda unitKind
  have hL : isLambda = true ↔ kind = .lambda := by simp [isLambda]
  refine Yields.bind_read modes_post ?_
  extract_lets ownScope
  refine Yields.bind_read frame_post ?_
  extract_lets afterReturn
  have hafterReturn : ∀ ret s1, s.Evolves s1 → ret.isSome = true →
      (kind = .proc → ret = (s.env.frame p.frame).returnId) →
      (afterReturn ret).Yields p s1 fun res s' => res.1.BlockGood p s' kind res.2 := by
    intro ret s1 e1 hret hproc
    dsimp -zeta only [afterReturn]
    refine allocBreak_yields.bind fun bid s2 e2 _ => ?_
    refine pushFrame_bind_yields ((hp.evolve e1).evolve e2) (fun _ => ⟨rfl, rfl, rfl⟩)
      fun s3 e3 hlt hfr => ?_
    refine (Yields.forIn_unit (I := fun _ => True) spec.locals trivial fun l _ s' _ =>
      (declare_yields_any _ l).bind fun _ _ _ _ => Yields.pure trivial).bind fun _ s4 e4 _ => ?_
    extract_lets afterMarker
    set bf := s2.env.frames.size
    have hnew := Env.frame_pushFrame_new s2.env (some p.frame)
      (if isLambda = true then FrameKind.lambda else FrameKind.block)
    have hp4 : (p.enter bf).Fits s4 :=
      (((hp.evolve e1).evolve e2).evolve (e3.trans e4)).enter (Nat.lt_of_lt_of_le hlt e4.grows.size)
        (by rw [(e4.grows.frame bf hlt).returnId, hfr]; exact hret)
    have hafterMarker : ∀ marker, (kind = .proc → marker = (p.markers.head?).bind id) →
        (kind = .lambda → marker = none) →
        (afterMarker marker).Yields p s4 fun res s' => res.1.BlockGood p s' kind res.2 := by
      intro marker hmp hml
      dsimp -zeta only [afterMarker]
      refine Yields.withReader ?_
      extract_lets afterParams
      have hafterParams : ∀ arity prelude s5, s4.Evolves s5 →
          (∀ o ∈ prelude, o.Good (p.enter bf) s5) →
          (afterParams (arity, prelude)).Yields (p.enter bf) s5
            fun res s' => res.1.BlockGood p s' kind res.2 := by
        intro arity prelude s5 e5 hpre
        dsimp -zeta only [afterParams]
        refine (exprOrNil_yields hr (hp4.evolve e5) spec.body spec.span).bind fun b s6 e6 hb => ?_
        dsimp only
        refine Yields.bind_read (withPrelude_post _ _)
          (Yields.bind_read (frameData_post _) (Yields.bind_read (unitHead_post _ _ _ _) ?_))
        refine Yields.pure ?_
        -- the block's frame at the end: a child of the place's frame, of the block's kind, with
        -- the return id and break id it was given
        have e36 : s3.Evolves s6 := e4.trans (e5.trans e6)
        have hevolve : s.Evolves s6 := e1.trans (e2.trans (e3.trans e36))
        have hg := e36.grows.frame bf hlt
        have hparent : (s6.env.frame bf).parent = some p.frame := by
          rw [hg.parent, hfr]; exact hnew.1
        have hkind : (s6.env.frame bf).kind = if isLambda = true then .lambda else .block := by
          rw [hg.kind, hfr]; exact hnew.2.1
        have hret6 : (s6.env.frame bf).returnId = ret := by rw [hg.returnId, hfr]
        have hbid : (s6.env.frame bf).breakId = some bid := by rw [e36.breaks bf hlt, hfr]
        have hp6 : (p.enter bf).Fits s6 := (hp4.evolve e5).evolve e6
        have hprelude : ∀ o ∈ prelude, o.Good (p.enter bf) s6 :=
          fun o ho => (hpre o ho).evolve (hp4.evolve e5) e6
        have hnext : (Op.ofForm (.catchNext b)).Good (p.enter bf) s6 :=
          Op.Good.bare rfl (List.forall_mem_singleton.2 hb)
        refine Op.BlockGood.blockDef spec.span (hp.evolve hevolve) hparent ?_ hbid hbid ?_ ?_ ?_
        · refine Frame.scope_le_unit ?_ rfl rfl (Op.subset_leadingInits_withInits (by split <;> rfl))
          show unitKind = _
          rw [hkind]
          simp only [unitKind]
          split <;> rfl
        · refine Op.Good.withInits (hp6.ok.states_resolve bf) hprelude ?_
          split
          · exact Op.Good.lambdaBody hnext
          · exact hnext
        · -- a block: its returns leave with those of the place's frame
          intro hk
          have hl : isLambda = false := by simp [isLambda, hk]
          refine ⟨hmp hk, by rw [hkind, hl]; rfl, ?_⟩
          rw [hret6, hproc hk, (hevolve.grows.frame _ hp.frame).returnId]
        · -- a lambda: its body catches its own returns and breaks
          intro hk
          have hl : isLambda = true := hL.2 hk
          obtain ⟨rid, rfl⟩ := Option.isSome_iff_exists.1 hret
          have hfk : ((s6.env.frame bf).kind == .block) = false := by rw [hkind, if_pos hl]; rfl
          simp only [hl, if_true]
          refine ⟨hml hk, by rw [hkind, if_pos hl], ?_, _, Op.mem_nodes_withInits rfl, rfl⟩
          refine Op.returnsIn_enter_withInits rfl rfl hfk (hp6.ok.states_resolve bf) hprelude ?_
          exact Op.Good.returnsIn_lambdaBody hnext hret6 hret6 hfk (by simp [unitKind, hl])
      split
      · exact (forParameter_yields hr hp4 _).bind fun x s5 e5 hx => hafterParams x.1 x.2 s5 e5 hx
      · exact (parameters_yields hr hp4 spec.params unitKind).bind
          fun x s5 e5 hx => hafterParams x.1 x.2 s5 e5 hx
    split
    · next h =>
      exact Yields.bind_read (Post.pure ⟨rfl, rfl⟩)
        (hafterMarker none (fun hk => by cases (hL.1 h).symm.trans hk) fun _ => rfl)
    · next h =>
      exact Yields.bind_read currentMarker_post
        (hafterMarker _ (fun _ => rfl) fun hk => absurd (hL.2 hk) h)
  split
  · next h =>
    exact (Yields.map (allocReturn_yields.mono fun _ _ _ _ => rfl)).bind
      fun ret s1 e1 hret => hafterReturn ret s1 e1 hret fun hk => by cases (hL.1 h).symm.trans hk
  · next h =>
    refine Yields.bind_read (frameData_post _) (Yields.bind_read (Post.pure ⟨rfl, rfl⟩) ?_)
    exact hafterReturn _ s (.refl s) hp.returnId fun _ => rfl

/-- A lambda's definition is good where it stands. -/
theorem lambda_yields (hp : p.Fits s) (b : BlockLit Node) :
    (lambda r b).Yields p s fun o s' => o.Good p s' := by
  unfold lambda withMarker
  refine (Yields.withReader (block_yields hr (hp.withMarker (m := none) fun _ h => by cases h) _
    .lambda)).bind fun res s1 _ h => ?_
  obtain ⟨definition, bid⟩ := res
  exact Yields.pure (Op.Good.congr (p := { p with markers := none :: p.markers }) rfl rfl h.good)

theorem defn_yields (hp : p.Fits s) (name : String) (params : Params Node) (body : Option Node)
    (span : Span) : (defn r name params body span).Yields p s fun o s' => o.Good p s' :=
  method_yields hr hp defaultDefinee_good name params body span

theorem defs_yields (hp : p.Fits s) (receiver : Node) (name : String) (params : Params Node)
    (body : Option Node) (span : Span) :
    (defs r receiver name params body span).Yields p s fun o s' => o.Good p s' := by
  unfold defs
  refine (hr.expr receiver p s hp).bind fun obj s1 e1 hobj => ?_
  refine method_yields hr (hp.evolve e1) ?_ name params body span
  exact Op.Good.withSpan (Op.Good.bare rfl (List.forall_mem_singleton.2 hobj))

/-- A module body is good where it stands: a new unit over a new module frame, with no target for
its returns. -/
theorem moduleBody_yields (hp : p.Fits s) {definee : Op} (hd : definee.Good p s) (name : String)
    (body : Option Node) (span : Span) (singleton : Bool) :
    (moduleBody r definee name body span singleton).Yields p s fun o s' => o.Good p s' := by
  unfold moduleBody
  refine Yields.bind_read frame_post ?_
  extract_lets jp
  have hjp : ∀ ret s1, s.Evolves s1 → ret.isSome = true →
      (jp ret).Yields p s1 fun o s' => o.Good p s' := by
    intro ret s1 e1 hret
    dsimp only [jp]
    refine pushFrame_bind_yields (hp.evolve e1) (fun _ => ⟨rfl, rfl, rfl⟩) fun s2 e2 hlt hfr => ?_
    set mf := s1.env.frames.size
    have hnew := Env.frame_pushFrame_new s1.env (some p.frame) .moduleBody
    have hp2 : (p.enter mf).Fits s2 :=
      (hp.evolve (e1.trans e2)).enter hlt (by rw [hfr]; exact hret)
    refine Yields.withReader ((exprOrNil_yields hr hp2 body span).bind fun b s3 e3 hb => ?_)
    refine Yields.bind_read (Post.atSpan ⟨rfl, rfl⟩) (Yields.bind_read (withPrelude_post _ _)
      (Yields.bind_read (unitHead_post _ _ _ _) ?_))
    have hg := e3.grows.frame mf hlt
    have hparent : (s3.env.frame mf).parent = some p.frame := by rw [hg.parent, hfr]; exact hnew.1
    have hkind : (s3.env.frame mf).kind = .moduleBody := by rw [hg.kind, hfr]; exact hnew.2.1
    have hp3 : (p.enter mf).Fits s3 := hp2.evolve e3
    have hW : (Op.withInits (s3.env.frame mf).flipFlopStates []
        ((Op.ofForm (.insideModule b)).withSpan span)).Good (p.enter mf) s3 :=
      Op.Good.withInits (hp3.ok.states_resolve mf) (by simp)
        (Op.Good.withSpan (Op.Good.bare rfl (List.forall_mem_singleton.2 hb)))
    refine Yields.pure (Op.Good.unitDef span (.inr rfl) (hp.evolve (e1.trans (e2.trans e3)))
      hparent (by simp [Frame.isBlock, hkind])
      (Frame.scope_le_unit (by rw [hkind]; rfl) rfl rfl (Op.subset_leadingInits_withInits rfl))
      (hd.evolve hp (e1.trans (e2.trans e3))) hW ?_)
    -- a module body is no target of returns: any fitting place allows what its entry allows
    refine Op.ReturnsIn.mono (c := ⟨none, True, false, False, false⟩)
      ⟨by simp [ReturnScope.enter], rfl, fun h => by cases h⟩
      (hW.returns _ ⟨(fun _ h => by cases h), ?_, .inl trivial, rfl⟩)
    rw [hkind]
    rfl
  split
  · exact Yields.bind_read (frameData_post _)
      (Yields.bind_read (Post.pure ⟨rfl, rfl⟩) (hjp _ s (.refl s) hp.returnId))
  · exact (Yields.map (allocReturn_yields.mono fun _ _ _ _ => rfl)).bind
      fun ret s1 e1 hret => hjp ret s1 e1 hret

theorem openModule_yields (hp : p.Fits s) {definee : Op} (hd : definee.Good p s) (name : String)
    (body : Option Node) (span : Span) (singleton : Bool) :
    (openModule r definee name body span singleton).Yields p s fun o s' => o.Good p s' := by
  unfold openModule
  refine (onEnv_yields_of_frames (Env.frames_pushLexical _)).bind fun _ s1 e1 _ => ?_
  refine Yields.restoring ((moduleBody_yields hr (hp.evolve e1) (hd.evolve hp e1) name body span
    singleton).mono fun o s2 e2 ho => ?_)
  exact (modifyEnv_yields (Progress.Evolves.of_frames_eq (Env.frames_popLexical _ _))).mono
    fun _ s3 e3 _ => ho.evolve ((hp.evolve e1).evolve e2) e3

theorem classDef_yields (hp : p.Fits s) (path : ConstPath Node) (superclass body : Option Node)
    (span : Span) : (classDef r path superclass body span).Yields p s fun o s' => o.Good p s' := by
  unfold classDef
  refine (constPathModule_yields hr hp path).bind fun parent s1 e1 hparent => ?_
  refine (optionMapM_yields hr (hp.evolve e1) superclass).bind fun sup s2 e2 hsup => ?_
  refine openModule_yields hr ((hp.evolve e1).evolve e2) ?_ _ body span false
  refine Op.Good.bare rfl (List.forall_mem_cons.2 ⟨hparent.evolve (hp.evolve e1) e2, fun x hx => ?_⟩)
  exact hsup x (Option.mem_toList.1 hx)

theorem moduleDef_yields (hp : p.Fits s) (path : ConstPath Node) (body : Option Node)
    (span : Span) : (moduleDef r path body span).Yields p s fun o s' => o.Good p s' := by
  unfold moduleDef
  refine (constPathModule_yields hr hp path).bind fun parent s1 e1 hparent => ?_
  refine openModule_yields hr (hp.evolve e1) ?_ _ body span false
  exact Op.Good.bare rfl (List.forall_mem_singleton.2 hparent)

theorem sclass_yields (hp : p.Fits s) (receiver : Node) (body : Option Node) (span : Span) :
    (sclass r receiver body span).Yields p s fun o s' => o.Good p s' := by
  unfold sclass
  refine (hr.expr receiver p s hp).bind fun obj s1 e1 hobj => ?_
  refine Yields.bind_read (Post.atSpan ⟨rfl, rfl⟩) (Yields.bind_read isDynamic_post ?_)
  extract_lets rest ofSelf
  have hrest : ∀ s2, s1.Evolves s2 → (rest ()).Yields p s2 fun o s' => o.Good p s' := by
    intro s2 e2
    have hp2 := (hp.evolve e1).evolve e2
    have hd : ((Op.ofForm (.singletonClass obj)).withSpan span).Good p s2 :=
      Op.Good.withSpan (Op.Good.bare rfl (List.forall_mem_singleton.2 (hobj.evolve (hp.evolve e1) e2)))
    dsimp -zeta only [rest]
    refine Yields.restoring ((openModule_yields hr hp2 hd _ body span true).mono
      fun o s3 e3 ho => ?_)
    refine (onEnv_yields_of_frames (Env.frames_setDynamic _ _)).bind fun _ s4 e4 _ => ?_
    exact Yields.pure (ho.evolve (hp2.evolve e3) e4)
  split
  · refine Yields.bind_read frame_post (Yields.bind_read (frameData_post _) ?_)
    dsimp only
    split
    · exact (onEnv_yields_of_frames (Env.frames_setDynamic _ _)).bind fun _ s2 e2 _ => hrest s2 e2
    · exact hrest s1 (.refl s1)
  · exact hrest s1 (.refl s1)

theorem methodNameSymbol_yields (hp : p.Fits s) (n : Node) :
    (methodNameSymbol r n).Yields p s fun o s' => o.Good p s' := by
  unfold methodNameSymbol
  split
  · exact Yields.pure (Op.Good.withSpan (Op.Good.symbol _))
  all_goals first | exact hr.expr n p s hp | exact Yields.fail

theorem aliasMethod_yields (hp : p.Fits s) (newName oldName : Node) (span : Span) :
    (aliasMethod r newName oldName span).Yields p s fun o s' => o.Good p s' := by
  unfold aliasMethod
  refine (methodNameSymbol_yields hr hp oldName).bind fun o s1 e1 ho => ?_
  refine (methodNameSymbol_yields hr (hp.evolve e1) newName).bind fun n s2 e2 hn => ?_
  refine Yields.pure (Op.Good.withSpan (Op.Good.bare rfl fun x hx => ?_))
  simp only [Form.children, List.mem_cons, List.mem_nil_iff, or_false] at hx
  rcases hx with rfl | rfl | rfl
  exacts [defaultDefinee_good, hn, ho.evolve (hp.evolve e1) e2]

theorem undef_yields (hp : p.Fits s) (name : Node) (span : Span) :
    (undef r name span).Yields p s fun o s' => o.Good p s' := by
  unfold undef
  refine (methodNameSymbol_yields hr hp name).bind fun n s1 e1 hn => ?_
  refine Yields.pure (Op.Good.withSpan (Op.Good.bare rfl fun x hx => ?_))
  simp only [Form.children, List.mem_cons, List.mem_nil_iff, or_false] at hx
  rcases hx with rfl | rfl
  exacts [defaultDefinee_good, hn]

end Rules

end Lower

end RubyLower
