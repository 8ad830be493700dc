import RubyLower.Lower.Control
import RubyLower.Proofs.Rules.Call

/-!
# The rules for control flow

Conditionals and `case` chains are bare nodes, good when their parts are. A loop is the one rule
that changes a frame's break id and puts it back: its body runs with the frame's break id set to
the loop's catch, so the body's breaks leave by that catch (`Op.Good.catchLoop`), and the progress
from before the loop evolves to the one after it (`Progress.Evolves.restoreBreak`), since the
break id in between is undone. A `break` takes its id from the frame it stands in, which is the
id the place allows; a `return` takes the frame's return id and is local outside procs.
-/

namespace RubyLower

/-! ## A break id set for a while -/

theorem Frame.grows_setBreak (fr : Frame) (id : Option Nat) : fr.Grows { fr with breakId := id } :=
  ⟨rfl, rfl, rfl, List.prefix_refl _, fun h => h, List.prefix_refl _⟩

/-- A frame's break id set for a while and then put back: when the progress evolved in between,
it evolved from before the change to after the restore. -/
theorem Progress.Evolves.restoreBreak {s s' : Progress} {i : Nat} {id : Option Nat}
    (he : ({ s with env := s.env.modifyFrame i fun fr => { fr with breakId := id } } : Progress).Evolves s') :
    s.Evolves { s' with env := s'.env.modifyFrame i fun fr => { fr with breakId := (s.env.frame i).breakId } } := by
  have hset : s.env.Grows (s.env.modifyFrame i fun fr => { fr with breakId := id }) :=
    Env.Grows.modifyFrame (Frame.grows_setBreak _ _)
  refine ⟨(hset.trans he.grows).trans (Env.Grows.modifyFrame (Frame.grows_setBreak _ _)), ?_,
    fun hok => Env.Ok.modifyFrame rfl (fun h => h) (he.ok (Env.Ok.modifyFrame rfl (fun h => h) hok))⟩
  intro j hj
  rw [Env.frame_modifyFrame]
  split
  · next h =>
    obtain ⟨rfl, -⟩ := h
    rfl
  · next h =>
    -- the other frames kept their break ids through the change and the body
    have hsize : j < s'.env.frames.size := by
      have := he.grows.size
      simp only [Env.frames_size_modifyFrame] at this
      omega
    rw [he.breaks j (by simpa using hj), Env.frame_modifyFrame, if_neg]
    rintro ⟨rfl, -⟩
    exact h ⟨rfl, hsize⟩

/-- With the break id of a fitting place's frame changed, the place still fits: nothing it counts
on is the break id. -/
theorem Place.Fits.setBreak {p : Place} {s : Progress} (hp : p.Fits s) (id : Option Nat) :
    p.Fits { s with env := s.env.modifyFrame p.frame fun fr => { fr with breakId := id } } := by
  have hg : s.env.Grows (s.env.modifyFrame p.frame fun fr => { fr with breakId := id }) :=
    Env.Grows.modifyFrame (Frame.grows_setBreak _ _)
  refine ⟨Env.Ok.modifyFrame rfl (fun h => h) hp.ok, by simpa using hp.frame, ?_,
    fun m hm slot hs => (hp.markers m hm slot hs).mono (hg.scopes hp.frame)⟩
  rw [(hg.frame _ hp.frame).returnId]
  exact hp.returnId

namespace Op.Good

variable {p : Place} {s : Progress}

/-- A loop in the catch for its own break id is good when its test is good at the place and its
body's breaks leave by that catch. -/
theorem catchLoop {bid : Nat} {test : LoopTest} {c b : Op} (hc : c.Good p s)
    (hslots : b.SlotsIn (s.env.scopes p.frame))
    (hbreaks : b.BreaksIn { loop := some (some bid), exits := fun _ => False, site := .none })
    (hreturns : ∀ rc, p.ReturnFits s rc → b.ReturnsIn rc) :
    (Op.ofForm (.catchBreak bid true (Op.ofForm (.whileLoop test c b)))).Good p s := by
  refine ⟨?_, ?_, fun rc hrc => ?_⟩
  · rw [Op.SlotsIn, ofForm, Op.holds_mk_of_step fun _ => rfl]
    refine ⟨trivial, List.forall_mem_singleton.2 ?_⟩
    rw [ofForm, Op.holds_mk_of_step fun _ => rfl]
    exact ⟨trivial, List.forall_mem_cons.2 ⟨hc.slots, List.forall_mem_singleton.2 hslots⟩⟩
  · rw [Op.BreaksIn, ofForm, Op.holds_mk]
    refine ⟨trivial, fun i hi => ?_⟩
    simp only [Form.children, List.length_singleton, Nat.lt_one_iff] at hi
    subst hi
    simp only [ofForm, Form.children, List.getElem_cons_zero, breakStep]
    -- the test sees the place again, the body the loop of the catch
    exact Op.holds_two rfl trivial hc.breaks
      (Op.BreaksIn.mono (c := { loop := some (some bid), exits := fun _ => False, site := .none })
        ⟨rfl, fun _ => False.elim, rfl⟩ hbreaks)
  · obtain ⟨target, caught, inProc, prelude, root⟩ := rc
    obtain rfl : root = false := hrc.root
    rw [Op.ReturnsIn, ofForm, Op.holds_mk_of_step fun _ => rfl]
    refine ⟨trivial, List.forall_mem_singleton.2 ?_⟩
    rw [ofForm, Op.holds_mk_of_step fun _ => rfl]
    exact ⟨trivial, List.forall_mem_cons.2 ⟨hc.returns _ hrc,
      List.forall_mem_singleton.2 (hreturns _ hrc)⟩⟩

end Op.Good

namespace Lower

section Nodes

variable {p : Place} {s : Progress}

/-- Arms nested into conditionals are good when the arms and the default are. -/
theorem chainArms_good {otherwise : Op} (ho : otherwise.Good p s) :
    ∀ {arms : List (Op × Op)}, (∀ a ∈ arms, a.1.Good p s ∧ a.2.Good p s) →
      (chainArms arms otherwise).Good p s
  | [], _ => ho
  | (c, t) :: arms, harms => by
    have hct := harms (c, t) List.mem_cons_self
    exact Op.Good.ifElse hct.1 hct.2
      (chainArms_good ho fun a ha => harms a (List.mem_cons_of_mem _ ha))

theorem internalAt_yields (span : Span) : (internalAt span).Yields p s fun o s' => o.Good p s' :=
  Yields.atSpan (Op.Good.object _).withSpan

theorem inBlock_post :
    inBlock.Post p s fun a s' => a = (s.env.frame p.frame).isBlock ∧ s' = s :=
  ⟨rfl, rfl⟩

theorem redo_yields (span : Span) : (redo span).Yields p s fun o s' => o.Good p s' := by
  unfold redo
  refine Yields.bind_read inBlock_post (Yields.bind_read modes_post ?_)
  split
  · exact Yields.fail
  · exact Yields.pure (Op.Good.leaf rfl rfl).withSpan

theorem retry_yields (span : Span) : (retry span).Yields p s fun o s' => o.Good p s' := by
  unfold retry
  refine Yields.bind_read modes_post (Yields.bind_read inBlock_post ?_)
  split
  · exact Yields.fail
  · exact Yields.pure (Op.Good.leaf rfl rfl).withSpan

end Nodes

section Rules

variable {r : Recur} (hr : r.Sound) {p : Place} {s : Progress}
include hr

theorem conditional_yields (hp : p.Fits s) (condition : Node) (thenBody elseBody : Option Node)
    (span : Span) (lineStart : Bool) :
    (conditional r condition thenBody elseBody span lineStart).Yields p s fun o s' => o.Good p s' := by
  unfold conditional
  refine (hr.expr _ p s hp).bind fun c s1 e1 hc => ?_
  have hp1 := hp.evolve e1
  extract_lets finish
  suffices hfinish : ∀ c s2, s1.Evolves s2 → c.Good p s2 →
      (finish c).Yields p s2 fun o s' => o.Good p s' by
    split
    · exact (markLineStart_yields hp1 hc span).bind hfinish
    · exact (Yields.pure hc).bind hfinish
  intro c s2 e2 hc
  dsimp -zeta only [finish]
  have hp2 := hp1.evolve e2
  refine (optionMapM_yields hr hp2 _).bind fun t s3 e3 ht => ?_
  have hp3 := hp2.evolve e3
  refine (optionMapM_yields hr hp3 _).bind fun e s4 e4 he => ?_
  have hc4 := hc.evolve hp2 (e3.trans e4)
  have ht4 : ∀ x ∈ t, x.Good p s4 := fun x hx => (ht x hx).evolve hp3 e4
  split
  · exact Yields.pure (Op.Good.ifElse hc4 (ht4 _ rfl) (he _ rfl)).withSpan
  · exact Yields.pure (Op.Good.bare rfl (by simp [Form.children, hc4, ht4 _ rfl])).withSpan
  · exact Yields.pure (Op.Good.bare rfl (by simp [Form.children, hc4, he _ rfl])).withSpan
  · refine Yields.pure (Op.Good.sequence ?_).ensureSpan
    simp [hc4, Op.Good.nil]

/-- A loop: the body runs in a loop body of the place's frame, whose break id is the loop's for
the while, and is good in the catch for that id. -/
theorem loop_yields (hp : p.Fits s) (condition : Node) (body : Option Node)
    (testFirst isUntil : Bool) (span : Span) :
    (loop r condition body testFirst isUntil span).Yields p s fun o s' => o.Good p s' := by
  unfold loop
  refine (hr.expr _ p s hp).bind fun c s1 e1 hc => ?_
  have hp1 := hp.evolve e1
  extract_lets test'
  have htest : test'.Good p s1 := by
    dsimp -zeta only [test']
    split
    · exact Op.Good.not hc
    · exact hc
  refine allocBreak_yields.bind fun bid s2 e2 _ => ?_
  have hp2 := hp1.evolve e2
  refine Yields.bind_read frame_post (Yields.bind_read (frameData_post _) ?_)
  -- the frame's break id is the loop's while the body is lowered
  refine Post.bind (Post.modifyEnv (Q := fun _ s' => s' = _) rfl) fun _ s3 hs3 => ?_
  subst hs3
  have hp3 := hp2.setBreak (some bid)
  have hq : ({ { p with modes := { p.modes with whileLoop := true } } with
      markers := none :: p.markers } : Place).Fits _ :=
    Place.Fits.withMarker (p := { p with modes := { p.modes with whileLoop := true } })
      ⟨hp3.ok, hp3.frame, hp3.returnId, hp3.markers⟩ (m := none) (by simp)
  -- the frame's own break id is put back after the body, whether it stops or not
  refine Post.bind (Post.restoring (Post.mono (Yields.withReader (Yields.withReader
    (exprOrNil_yields hr hq body span))) fun b s4 ⟨e34, hb⟩ => Post.modifyEnv ?_))
    fun b s5 h5 => Post.pure h5
  have e25 := Progress.Evolves.restoreBreak e34
  refine ⟨e25, ?_⟩
  have g45 : s4.env.Grows (s4.env.modifyFrame p.frame
      fun fr => { fr with breakId := (s2.env.frame p.frame).breakId }) :=
    Env.Grows.modifyFrame (Frame.grows_setBreak _ _)
  have hf4 : p.frame < s4.env.frames.size := Nat.lt_of_lt_of_le hp3.frame e34.grows.size
  -- the body's breaks leave by the loop's catch: in the body the frame's break id is the loop's
  have hloop : (s4.env.frame p.frame).breakId = some bid := by
    rw [e34.breaks _ hp3.frame, Env.frame_modifyFrame, if_pos ⟨rfl, hp2.frame⟩]
  refine Op.Good.withSpan (Op.Good.catchLoop ((htest.evolve hp1 e2).evolve hp2 e25)
    (hb.slots.mono (g45.scopes hf4)) (hb.breaks.mono ?_) fun rc hrc => hb.returns rc ?_)
  · exact ⟨by simp [Place.breakScope, hloop], fun _ h => by simp [Place.breakScope] at h, rfl⟩
  have hg := g45.frame _ hf4
  exact ⟨fun t ht => (hrc.target t ht).trans hg.returnId, hrc.inProc.trans (by rw [hg.kind]),
    hrc.guarded, hrc.root⟩

/-- A `for` loop is a call of `each` with a synthetic block, lowered at the place with the
`for` mode set. -/
theorem forLoop_yields (hp : p.Fits s) (var iter : Node) (body : Option Node) (span : Span) :
    (forLoop r var iter body span).Yields p s fun o s' => o.Good p s' := by
  unfold forLoop
  refine (hr.expr _ p s hp).bind fun recv s1 e1 hrecv => Yields.withReader ?_
  have hp1 := hp.evolve e1
  have hq : ({ p with modes := { p.modes with forStatement := true } } : Place).Fits s1 :=
    ⟨hp1.ok, hp1.frame, hp1.returnId, hp1.markers⟩
  refine (finishCall_yields hr hq (Op.Good.congr (p := p) rfl rfl hrecv) (by simp) _ _ _ _ span).mono
    fun o s2 _ h => ?_
  refine Op.Good.congr ?_ ?_ h <;> rfl

theorem whenArm_yields (hp : p.Fits s) (w : WhenArm Node) :
    (whenArm r w).Yields p s fun a s' => a.1.Good p s' ∧ a.2.Good p s' := by
  unfold whenArm
  refine (hr.expr _ p s hp).bind fun c s1 e1 hc => ?_
  have hp1 := hp.evolve e1
  -- the test, with or without the splat's call, then the body
  have rest : ∀ t s2, s1.Evolves s2 → t.Good p s2 →
      (do return (t, ← exprOrNil r w.body w.span) : Lower (Op × Op)).Yields p s2
        fun a s' => a.1.Good p s' ∧ a.2.Good p s' := fun t s2 e2 ht =>
    (exprOrNil_yields hr (hp1.evolve e2) _ _).bind fun _ s3 e3 hb =>
      Yields.pure ⟨ht.evolve (hp1.evolve e2) e3, hb⟩
  dsimp only
  split
  · refine (internalAt_yields _).bind fun i s2 e2 hi => ?_
    exact (Yields.atSpan (Op.Good.call hi (List.forall_mem_singleton.2 (hc.evolve hp1 e2)) _ _).withSpan).bind
      fun t s3 e3 ht => rest t s3 (e2.trans e3) ht
  · exact (Yields.pure hc).bind fun t s2 e2 ht => rest t s2 e2 ht

theorem whenSubjectArm_yields (hp : p.Fits s) {subject : Slot}
    (hsub : subject.ResolvesIn (s.env.scopes p.frame)) (w : WhenArm Node) :
    (whenSubjectArm r subject w).Yields p s fun a s' => a.1.Good p s' ∧ a.2.Good p s' := by
  unfold whenSubjectArm
  refine (hr.expr _ p s hp).bind fun pat s1 e1 hpat => ?_
  have hp1 := hp.evolve e1
  have hread : ∀ s2, s1.Evolves s2 → (Op.readLocal subject).Good p s2 := fun s2 e2 =>
    Op.Good.readLocal (hsub.mono ((e1.trans e2).grows.scopes hp.frame))
  -- the test, given its span, then the body
  have rest : ∀ t s2, s1.Evolves s2 → t.Good p s2 →
      (do let t ← atSpan t w.span; return (t, ← exprOrNil r w.body w.span) :
        Lower (Op × Op)).Yields p s2 fun a s' => a.1.Good p s' ∧ a.2.Good p s' :=
    fun t s2 e2 ht => (Yields.atSpan (Q := fun o s' => o.Good p s') ht.withSpan).bind fun _ s3 e3 ht' =>
      (exprOrNil_yields hr ((hp1.evolve e2).evolve e3) _ _).bind fun _ s4 e4 hb =>
        Yields.pure ⟨ht'.evolve ((hp1.evolve e2).evolve e3) e4, hb⟩
  dsimp only
  split
  · refine (internalAt_yields _).bind fun i s2 e2 hi => ?_
    exact (Yields.pure (Op.Good.call hi (by simp [hpat.evolve hp1 e2, hread s2 e2]) _ _)).bind
      fun t s3 e3 ht => rest t s3 (e2.trans e3) ht
  · exact (Yields.pure (Op.Good.call hpat (List.forall_mem_singleton.2 (hread s1 (.refl s1))) _ _)).bind
      fun t s2 e2 ht => rest t s2 e2 ht

theorem caseWhen_yields (hp : p.Fits s) (subject : Option Node) (whens : List (WhenArm Node))
    (elseBody : Option Node) (span : Span) :
    (caseWhen r subject whens elseBody span).Yields p s fun o s' => o.Good p s' := by
  unfold caseWhen
  -- the arms stay good as the lowering goes on
  have harm : ∀ (a : Op × Op) s s', p.Fits s → s.Evolves s' →
      a.1.Good p s ∧ a.2.Good p s → a.1.Good p s' ∧ a.2.Good p s' :=
    fun _ _ _ hp he h => ⟨h.1.evolve hp he, h.2.evolve hp he⟩
  split
  · refine (Yields.mapM harm whens hp fun w _ s' hp' _ => whenArm_yields hr hp' w).bind
      fun arms s1 e1 harms => ?_
    refine (exprOrNil_yields hr (hp.evolve e1) _ _).bind fun o s2 e2 ho => Yields.pure ?_
    exact (chainArms_good ho fun a ha => harm a _ _ (hp.evolve e1) e2 (harms a ha)).ensureSpan
  · refine (hr.expr _ p s hp).bind fun sv s1 e1 hsv => ?_
    have hp1 := hp.evolve e1
    refine (temp_yields hp1 _).bind fun t s2 e2 ht => ?_
    have hp2 := hp1.evolve e2
    refine (Yields.mapM harm whens hp2 fun w _ s' hp' e' =>
      whenSubjectArm_yields hr hp' (ht.mono (e'.grows.scopes hp2.frame)) w).bind
      fun arms s3 e3 harms => ?_
    have hp3 := hp2.evolve e3
    refine (exprOrNil_yields hr hp3 _ _).bind fun o s4 e4 ho => Yields.pure ?_
    have hchain := chainArms_good ho fun a ha => harm a _ _ hp3 e4 (harms a ha)
    refine (Op.Good.sequence ?_).ensureSpan
    simp only [List.mem_cons, List.mem_nil_iff, or_false]
    rintro x (rfl | rfl)
    · exact Op.Good.writeLocal (ht.mono ((e3.trans e4).grows.scopes hp2.frame))
        (hsv.evolve hp1 (e2.trans (e3.trans e4)))
    · exact hchain

/-- A `break` leaves by what the place allows: in a loop body the loop's catch, else the exit of
the block it stands in. -/
theorem breakJump_yields (hp : p.Fits s) (value : Option Node) (span : Span) :
    (breakJump r value span).Yields p s fun o s' => o.Good p s' := by
  unfold breakJump
  refine Yields.bind_read frame_post (Yields.bind_read (frameData_post _)
    (Yields.bind_read modes_post ?_))
  split
  · next id hid =>
    split
    · next hallowed =>
      refine (exprOrNil_yields hr hp _ _).bind fun v s1 e1 hv => Yields.pure (Op.Good.withSpan ?_)
      have hbreak : breakNode (p.breakScope s) (.breakJump id p.modes.whileLoop v) := by
        simp only [breakNode, Place.breakScope]
        cases hw : p.modes.whileLoop
        · rw [hw, Bool.or_false] at hallowed
          exact ⟨fun h => absurd h (by decide), fun _ => ⟨rfl, rfl, hallowed, hid⟩⟩
        · exact ⟨fun _ => by simp [hid], fun h => absurd h (by decide)⟩
      exact Op.Good.node rfl trivial (Place.breakScope_evolve hp e1 ▸ hbreak) (fun _ _ => trivial)
        (List.forall_mem_singleton.2 hv)
    · exact Yields.fail
  · exact Yields.fail

theorem nextJump_yields (hp : p.Fits s) (value : Option Node) (span : Span) :
    (nextJump r value span).Yields p s fun o s' => o.Good p s' := by
  unfold nextJump
  refine Yields.bind_read inBlock_post (Yields.bind_read modes_post ?_)
  split
  · exact Yields.fail
  · have hq : ({ p with modes := { p.modes with nextExpression := true } } : Place).Fits s :=
      ⟨hp.ok, hp.frame, hp.returnId, hp.markers⟩
    refine Yields.withReader (exprOrNil_yields hr hq _ _) |>.bind fun v s1 _ hv => ?_
    have hv' : v.Good p s1 := by
      refine Op.Good.congr ?_ ?_ hv <;> rfl
    refine Yields.pure (Op.Good.withSpan (Op.Good.bare rfl ?_))
    exact List.forall_mem_singleton.2 hv'

/-- A `return` carries the frame's return id and is local exactly outside a proc's frame. -/
theorem returnJump_yields (hp : p.Fits s) (value : Option Node) (span : Span) :
    (returnJump r value span).Yields p s fun o s' => o.Good p s' := by
  unfold returnJump
  refine Yields.bind_read frame_post (Yields.bind_read (frameData_post _) ?_)
  refine (exprOrNil_yields hr hp _ _).bind fun v s1 e1 hv => Yields.pure (Op.Good.withSpan ?_)
  refine Op.Good.node rfl trivial trivial (fun c hc t ht => ?_) (List.forall_mem_singleton.2 hv)
  have hg := e1.grows.frame _ hp.frame
  have hrid : (s.env.frame p.frame).returnId = some ((s.env.frame p.frame).returnId.getD 0) := by
    have h := hp.returnId
    cases hid : (s.env.frame p.frame).returnId with
    | none => simp [hid] at h
    | some id => rfl
  refine ⟨?_, ?_, hc.guarded⟩
  · rw [hc.target t ht, hg.returnId]
    exact hrid
  · rw [hc.inProc, hg.kind]
    rfl

end Rules

end Lower

end RubyLower
