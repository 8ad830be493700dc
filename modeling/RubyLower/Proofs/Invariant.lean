import RubyLower.Proofs.Run
import RubyLower.Proofs.Frames
import RubyLower.Proofs.BreakScope
import RubyLower.Proofs.ReturnScope

/-!
# What every lowering step keeps

A lowering step runs at a place: a frame, the modes of the body, the markers of the literal blocks
around. It may count on the place fitting the progress (`Place.Fits`): the frame tree is a tree
holding the place's frame, and the markers point into that frame's scopes. It gives back a
progress that evolves from the one it got (`Progress.Evolves`): frames only grow, and no frame
that was there changes its break id. Its result is good at the place (`Op.Good`):

* its slots point into the scopes of the place's frame;
* its breaks leave by what the place allows: in a loop body the loop of the frame's break id,
  elsewhere the frame's break id when the frame is a block's (`Place.breakScope`);
* its returns are fine in every return scope that fits the place (`Place.ReturnFits`): one whose
  target has the frame's return id, that is inside a proc exactly when the frame is a block's, and
  that is caught or in a prelude.

All three only get weaker as the progress evolves (`Op.Good.evolve`). Most forms hand their
children the place they stand at, so a node of such a form is good when its children are and it
carries nothing of its own (`Op.Good.bare`); the forms that do not (`Form.Scoping`) are catches,
frame marks, loops and units, which the rules that build them handle one by one.

`Lower.Yields x p s Q` packages the promise of a step: run at `p` from `s`, it fails, or it gives a
result with `Q` in a progress that evolves from `s`. `Recur.Sound` asks it of the recursive calls.
-/

namespace RubyLower

/-! ## Places and progress -/

/-- `s'` is `s` later in a lowering: frames only grow, no existing frame changes its break id, and
the frame tree stays well formed. -/
structure Progress.Evolves (s s' : Progress) : Prop where
  grows : s.env.Grows s'.env
  breaks : s.env.SameBreaks s'.env
  ok : s.env.Ok → s'.env.Ok

namespace Progress.Evolves

theorem refl (s : Progress) : s.Evolves s :=
  ⟨Env.Grows.refl _, Env.SameBreaks.refl _, fun h => h⟩

theorem trans {s s' s'' : Progress} (h : s.Evolves s') (h' : s'.Evolves s'') : s.Evolves s'' :=
  ⟨h.grows.trans h'.grows, h.breaks.trans h.grows h'.breaks, h'.ok ∘ h.ok⟩

/-- A step that leaves the frames alone evolves the progress. -/
theorem of_frames_eq {s s' : Progress} (h : s'.env.frames = s.env.frames) : s.Evolves s' :=
  ⟨Env.Grows.of_frames_eq h, Env.SameBreaks.of_frames_eq h, Env.Ok.of_frames_eq h⟩

end Progress.Evolves

/-- What a lowering at a place counts on: the frame tree is well formed and holds the place's
frame, which has a return id, and the markers of the literal blocks around point into the
frame's scopes. -/
structure Place.Fits (p : Place) (s : Progress) : Prop where
  ok : s.env.Ok
  frame : p.frame < s.env.frames.size
  returnId : (s.env.frame p.frame).returnId.isSome = true
  markers : ∀ m ∈ p.markers, ∀ slot ∈ m, slot.ResolvesIn (s.env.scopes p.frame)

theorem Place.Fits.evolve {p : Place} {s s' : Progress} (hp : p.Fits s) (he : s.Evolves s') :
    p.Fits s' :=
  ⟨he.ok hp.ok, Nat.lt_of_lt_of_le hp.frame he.grows.size,
    by rw [(he.grows.frame _ hp.frame).returnId]; exact hp.returnId,
    fun m hm slot hs => (hp.markers m hm slot hs).mono (he.grows.scopes hp.frame)⟩

/-- The break scope of a place: in a loop body, the loop with the frame's break id; elsewhere no
loop, and in a block or lambda the frame's break id as the one exit. -/
def Place.breakScope (p : Place) (s : Progress) : BreakScope :=
  { loop := if p.modes.whileLoop then some (s.env.frame p.frame).breakId else none,
    exits := fun id => p.modes.whileLoop = false ∧ (s.env.frame p.frame).isBlock = true ∧
      (s.env.frame p.frame).breakId = some id,
    site := .none }

/-- The return scopes a node lowered at a place may stand in: the target's return id is the
frame's, the node is inside a proc exactly when the frame is a block's, and it is caught or in a
prelude. -/
structure Place.ReturnFits (p : Place) (s : Progress) (c : ReturnScope) : Prop where
  target : ∀ t ∈ c.target, t = (s.env.frame p.frame).returnId
  inProc : c.inProc = ((s.env.frame p.frame).kind == .block)
  guarded : c.caught ∨ c.prelude
  root : c.root = false

/-- A node lowered at a place is good there: its slots point into the scopes of the place's frame,
its breaks leave by what the place allows, and its returns go where any fitting return scope
allows. -/
structure Op.Good (p : Place) (s : Progress) (o : Op) : Prop where
  slots : o.SlotsIn (s.env.scopes p.frame)
  breaks : o.BreaksIn (p.breakScope s)
  returns : ∀ c, p.ReturnFits s c → o.ReturnsIn c

section Evolve

variable {p : Place} {s s' : Progress}

theorem Place.breakScope_evolve (hp : p.Fits s) (he : s.Evolves s') :
    p.breakScope s' = p.breakScope s := by
  have hb := he.breaks _ hp.frame
  have hk := (he.grows.frame _ hp.frame).kind
  simp only [Place.breakScope, Frame.isBlock, hb, hk]

theorem Place.returnFits_evolve (hp : p.Fits s) (he : s.Evolves s') {c : ReturnScope} :
    p.ReturnFits s' c ↔ p.ReturnFits s c := by
  have hr := (he.grows.frame _ hp.frame).returnId
  have hk := (he.grows.frame _ hp.frame).kind
  constructor
  · intro h; exact ⟨hr ▸ h.target, hk ▸ h.inProc, h.guarded, h.root⟩
  · intro h; exact ⟨hr.symm ▸ h.target, hk.symm ▸ h.inProc, h.guarded, h.root⟩

/-- What is good at a place stays good as the progress evolves. -/
theorem Op.Good.evolve {o : Op} (h : o.Good p s) (hp : p.Fits s) (he : s.Evolves s') :
    o.Good p s' :=
  ⟨h.slots.mono (he.grows.scopes hp.frame), Place.breakScope_evolve hp he ▸ h.breaks,
    fun c hc => h.returns c ((Place.returnFits_evolve hp he).1 hc)⟩

end Evolve

/-- Goodness sees only the frame of a place and whether it is a loop body. -/
theorem Op.Good.congr {p p' : Place} {s : Progress} {o : Op} (hf : p'.frame = p.frame)
    (hw : p'.modes.whileLoop = p.modes.whileLoop) (h : o.Good p s) : o.Good p' s := by
  have hb : p'.breakScope s = p.breakScope s := by simp only [Place.breakScope, hf, hw]
  refine ⟨hf ▸ h.slots, hb ▸ h.breaks, fun c hc => h.returns c ?_⟩
  exact ⟨hf ▸ hc.target, hf ▸ hc.inProc, hc.guarded, hc.root⟩

/-! ## Forms that hand their children the same place -/

/-- The forms that hand their children another place: catches, frame marks, loops and units. -/
def Form.Scoping : Form Op → Bool
  | .catchBreak .. | .frameOnStack .. | .whileLoop .. | .blockDef .. | .methodDef ..
  | .runModuleBody .. | .catchReturn .. => true
  | _ => false

/-- The forms with nothing of their own to check: no slot, no break, no return, no new place. -/
def Form.Bare (f : Form Op) : Bool :=
  !f.Scoping && match f with
    | .readLocal _ | .writeLocal .. | .initFlipFlop _ | .flipFlop .. | .breakJump ..
    | .returnJump .. => false
    | _ => true

section Neutral

variable {f : Form Op} (hf : f.Scoping = false)
include hf

theorem slotStep_of_not_scoping (us : List Scope) (i : Nat) : slotStep us f i = us := by
  cases f <;> simp_all [Form.Scoping, slotStep]

theorem breakStep_of_not_scoping {c : BreakScope} (hc : c.site = .none) (i : Nat) :
    breakStep c f i = c := by
  obtain ⟨loop, exits, site⟩ := c
  cases hc
  cases f <;> simp_all [Form.Scoping, breakStep, BreakSite.toBlock]

theorem returnStep_of_not_scoping {c : ReturnScope} (hc : c.root = false) (i : Nat) :
    returnStep c f i = c := by
  obtain ⟨target, caught, inProc, prelude, root⟩ := c
  cases hc
  cases f <;> simp_all [Form.Scoping, returnStep]

end Neutral

theorem slotNode_of_bare {f : Form Op} (hf : f.Bare = true) (us : List Scope) : slotNode us f := by
  cases f <;> simp_all [Form.Bare, Form.Scoping, slotNode]

theorem breakNode_of_bare {f : Form Op} (hf : f.Bare = true) (c : BreakScope) : breakNode c f := by
  cases f <;> simp_all [Form.Bare, Form.Scoping, breakNode]

theorem returnNode_of_bare {f : Form Op} (hf : f.Bare = true) (c : ReturnScope) :
    returnNode c f := by
  cases f <;> simp_all [Form.Bare, Form.Scoping, returnNode]

theorem Form.scoping_of_bare {f : Form Op} (hf : f.Bare = true) : f.Scoping = false := by
  simp only [Form.Bare, Bool.and_eq_true, Bool.not_eq_true'] at hf
  exact hf.1

namespace Op.Good

variable {p : Place} {s : Progress}

/-- A node of a form that hands its children its own place is good when it is fine itself and its
children are good. -/
theorem node {f : Form Op} {sp : Option Span} {fl : OpFlags} (hf : f.Scoping = false)
    (hslot : slotNode (s.env.scopes p.frame) f) (hbreak : breakNode (p.breakScope s) f)
    (hret : ∀ c, p.ReturnFits s c → returnNode c f) (hc : ∀ x ∈ f.children, x.Good p s) :
    (Op.mk f sp fl).Good p s := by
  refine ⟨?_, ?_, fun c hfit => ?_⟩
  · rw [Op.SlotsIn, Op.holds_mk_of_step (slotStep_of_not_scoping hf _)]
    exact ⟨hslot, fun x hx => (hc x hx).slots⟩
  · rw [Op.BreaksIn, Op.holds_mk_of_step (breakStep_of_not_scoping hf rfl)]
    exact ⟨hbreak, fun x hx => (hc x hx).breaks⟩
  · rw [Op.ReturnsIn, Op.holds_mk_of_step (returnStep_of_not_scoping hf hfit.root)]
    exact ⟨hret c hfit, fun x hx => (hc x hx).returns c hfit⟩

/-- A node of a bare form is good when its children are. -/
theorem bare {f : Form Op} {sp : Option Span} {fl : OpFlags} (hf : f.Bare = true)
    (hc : ∀ x ∈ f.children, x.Good p s) : (Op.mk f sp fl).Good p s :=
  node (Form.scoping_of_bare hf) (slotNode_of_bare hf _) (breakNode_of_bare hf _)
    (fun c _ => returnNode_of_bare hf c) hc

/-- The children of a good node of a form that hands them its place are good. -/
theorem of_mem_children {f : Form Op} {sp : Option Span} {fl : OpFlags} {x : Op}
    (h : (Op.mk f sp fl).Good p s) (hf : f.Scoping = false) (hx : x ∈ f.children) : x.Good p s := by
  refine ⟨?_, ?_, fun c hfit => ?_⟩
  · have := h.slots
    rw [Op.SlotsIn, Op.holds_mk_of_step (slotStep_of_not_scoping hf _)] at this
    exact this.2 x hx
  · have := h.breaks
    rw [Op.BreaksIn, Op.holds_mk_of_step (breakStep_of_not_scoping hf rfl)] at this
    exact this.2 x hx
  · have := h.returns c hfit
    rw [Op.ReturnsIn, Op.holds_mk_of_step (returnStep_of_not_scoping hf hfit.root)] at this
    exact this.2 x hx

theorem withSpan {o : Op} {sp : Span} (h : o.Good p s) : (o.withSpan sp).Good p s :=
  ⟨Op.holds_withSpan.2 h.slots, Op.holds_withSpan.2 h.breaks,
    fun c hc => Op.holds_withSpan.2 (h.returns c hc)⟩

theorem ensureSpan {o : Op} {sp : Span} (h : o.Good p s) : (o.ensureSpan sp).Good p s :=
  ⟨Op.holds_ensureSpan.2 h.slots, Op.holds_ensureSpan.2 h.breaks,
    fun c hc => Op.holds_ensureSpan.2 (h.returns c hc)⟩

theorem markNewline {o : Op} (h : o.Good p s) : o.markNewline.Good p s :=
  ⟨Op.holds_markNewline.2 h.slots, Op.holds_markNewline.2 h.breaks,
    fun c hc => Op.holds_markNewline.2 (h.returns c hc)⟩

theorem markCoverage {o : Op} (h : o.Good p s) : o.markCoverage.Good p s :=
  ⟨Op.holds_markCoverage.2 h.slots, Op.holds_markCoverage.2 h.breaks,
    fun c hc => Op.holds_markCoverage.2 (h.returns c hc)⟩

/-- A sequence of good nodes is good. -/
theorem sequence {xs : List Op} (h : ∀ x ∈ xs, x.Good p s) : (Op.sequence xs).Good p s := by
  refine ⟨?_, ?_, fun c hc => ?_⟩
  · exact Op.holds_sequence (fun _ => trivial) trivial
      (fun _ i => slotStep_of_not_scoping rfl _ i) fun x hx => (h x hx).slots
  · exact Op.holds_sequence (fun _ => trivial) trivial
      (fun _ i => breakStep_of_not_scoping rfl rfl i) fun x hx => (h x hx).breaks
  · exact Op.holds_sequence (fun _ => trivial) trivial
      (fun _ i => returnStep_of_not_scoping rfl hc.root i) fun x hx => (h x hx).returns c hc

end Op.Good

/-! ## Steps -/

namespace Lower

/-- Run at `p` from `s`, `x` fails, or gives a result with `Q` in a progress that evolves from
`s`. -/
def Yields {α : Type} (x : Lower α) (p : Place) (s : Progress) (Q : α → Progress → Prop) : Prop :=
  x.Post p s fun a s' => s.Evolves s' ∧ Q a s'

section Yields

variable {α β : Type} {p : Place} {s : Progress}

theorem Yields.bind {x : Lower α} {f : α → Lower β} {Q : α → Progress → Prop}
    {R : β → Progress → Prop} (hx : x.Yields p s Q)
    (hf : ∀ a s', s.Evolves s' → Q a s' → (f a).Yields p s' R) : (x >>= f).Yields p s R :=
  Post.bind hx fun a s' ⟨he, ha⟩ =>
    (hf a s' he ha).mono fun _ _ ⟨he', hb⟩ => ⟨he.trans he', hb⟩

theorem Yields.pure {a : α} {Q : α → Progress → Prop} (h : Q a s) : (pure a : Lower α).Yields p s Q :=
  Post.pure ⟨Progress.Evolves.refl s, h⟩

theorem Yields.mono {x : Lower α} {Q Q' : α → Progress → Prop} (h : x.Yields p s Q)
    (hQ : ∀ a s', s.Evolves s' → Q a s' → Q' a s') : x.Yields p s Q' :=
  Post.mono h fun a s' ⟨he, ha⟩ => ⟨he, hQ a s' he ha⟩

theorem Yields.map {x : Lower α} {f : α → β} {Q : β → Progress → Prop}
    (h : x.Yields p s fun a s' => Q (f a) s') : (f <$> x).Yields p s Q :=
  Post.map h

theorem Yields.withReader {x : Lower α} {g : Place → Place} {Q : α → Progress → Prop}
    (h : x.Yields (g p) s Q) : (withReader g x : Lower α).Yields p s Q :=
  Post.withReader h

theorem Yields.throw {e : LowerError} {Q : α → Progress → Prop} : (throw e : Lower α).Yields p s Q :=
  trivial

theorem Yields.fail {kind : FaultKind} {message : Message} {args : List String} {span : Span}
    {Q : α → Progress → Prop} : (fail kind message args span : Lower α).Yields p s Q :=
  trivial

theorem Yields.atSpan {o : Op} {sp : Span} {Q : Op → Progress → Prop} (h : Q (o.withSpan sp) s) :
    (atSpan o sp).Yields p s Q :=
  Post.atSpan ⟨Progress.Evolves.refl s, h⟩

/-- A part followed by a restore that runs whether the part stops or not yields what the restore
yields after each result of the part. -/
theorem Yields.restoring {restore : Lower Unit} {x : Lower α} {Q : α → Progress → Prop}
    (h : x.Yields p s fun a s' => restore.Yields p s' fun _ s'' => Q a s'') :
    (Lower.restoring restore x).Yields p s Q :=
  Post.restoring (Post.mono h fun _ _ ⟨he, hr⟩ => Post.mono hr fun _ _ ⟨he', hq⟩ =>
    ⟨he.trans he', hq⟩)

/-- A read that leaves the progress alone: the rest runs on what it reads. -/
theorem Yields.bind_read {x : Lower α} {f : α → Lower β} {R : β → Progress → Prop} {v : α}
    (hx : x.Post p s fun a s' => a = v ∧ s' = s) (hf : (f v).Yields p s R) : (x >>= f).Yields p s R :=
  Post.bind hx fun _ _ ⟨ha, hs⟩ => ha ▸ hs ▸ hf

theorem frame_post : (frame : Lower Nat).Post p s fun a s' => a = p.frame ∧ s' = s :=
  ⟨rfl, rfl⟩

theorem modes_post : (modes : Lower Modes).Post p s fun a s' => a = p.modes ∧ s' = s :=
  ⟨rfl, rfl⟩

theorem options_post : (options : Lower Options).Post p s fun a s' => a = p.source.options ∧ s' = s :=
  ⟨rfl, rfl⟩

theorem source_post : (source : Lower SourceInfo).Post p s fun a s' => a = p.source ∧ s' = s :=
  ⟨rfl, rfl⟩

theorem env_post : (env : Lower Env).Post p s fun a s' => a = s.env ∧ s' = s :=
  ⟨rfl, rfl⟩

theorem frameData_post (id : Nat) :
    (frameData id).Post p s fun a s' => a = s.env.frame id ∧ s' = s :=
  ⟨rfl, rfl⟩

theorem isDynamic_post : isDynamic.Post p s fun a s' => a = s.env.dynamicConstants ∧ s' = s :=
  ⟨rfl, rfl⟩

theorem lexicalScope_post : lexicalScope.Post p s fun a s' => a = s.env.currentLexical ∧ s' = s :=
  ⟨rfl, rfl⟩

theorem currentMarker_post :
    currentMarker.Post p s fun a s' => a = (p.markers.head?).bind id ∧ s' = s :=
  ⟨rfl, rfl⟩

/-! ## Loops of steps -/

/-- Each element's step, run in any state the loop may have reached, gives a result with `Q`,
which the later steps keep: then all results have `Q` at the end. -/
theorem Yields.mapM {f : α → Lower β} {Q : β → Progress → Prop}
    (hQ : ∀ b s s', p.Fits s → s.Evolves s' → Q b s → Q b s') :
    ∀ (xs : List α) {s : Progress}, p.Fits s →
      (∀ x ∈ xs, ∀ s', p.Fits s' → s.Evolves s' → (f x).Yields p s' Q) →
      (xs.mapM f).Yields p s fun bs s' => ∀ b ∈ bs, Q b s'
  | [], _, _, _ => Yields.pure (by simp)
  | x :: xs, s, hp, hf => by
    rw [List.mapM_cons]
    refine (hf x List.mem_cons_self s hp (Progress.Evolves.refl s)).bind fun b s1 e1 hb => ?_
    refine (Yields.mapM hQ xs (hp.evolve e1) fun y hy s' hp' e' =>
      hf y (List.mem_cons_of_mem _ hy) s' hp' (e1.trans e')).bind
      fun bs s2 e2 hbs => Yields.pure fun c hc => ?_
    rcases List.mem_cons.1 hc with rfl | hc
    · exact hQ _ _ _ (hp.evolve e1) e2 hb
    · exact hbs c hc

theorem Yields.foldlM {γ : Type} {f : γ → α → Lower γ} {I : γ → Progress → Prop} :
    ∀ (xs : List α) {acc : γ} {s : Progress}, I acc s →
      (∀ x ∈ xs, ∀ acc s', I acc s' → (f acc x).Yields p s' I) → (xs.foldlM f acc).Yields p s I
  | [], _, _, hi, _ => Yields.pure hi
  | x :: xs, acc, s, hi, hf => by
    rw [List.foldlM_cons]
    exact (hf x List.mem_cons_self acc s hi).bind fun acc1 s1 _ hi1 =>
      Yields.foldlM xs hi1 fun y hy => hf y (List.mem_cons_of_mem _ hy)

theorem Yields.forIn_unit {g : α → PUnit → Lower (ForInStep PUnit)} {I : Progress → Prop} :
    ∀ (xs : List α) {s : Progress}, I s →
      (∀ x ∈ xs, ∀ s', I s' → (g x PUnit.unit).Yields p s' fun _ s'' => I s'') →
      (forIn xs PUnit.unit g).Yields p s fun _ s' => I s'
  | [], _, hi, _ => Yields.pure hi
  | x :: xs, s, hi, hf => by
    rw [List.forIn_cons]
    refine (hf x List.mem_cons_self s hi).bind fun step s1 _ hi1 => ?_
    cases step with
    | done => exact Yields.pure hi1
    | yield => exact Yields.forIn_unit xs hi1 fun y hy => hf y (List.mem_cons_of_mem _ hy)

end Yields

end Lower

/-! ## The recursive calls -/

/-- The recursive calls of a rule are sound: lowering a node at a fitting place gives a good node,
and so does assigning a good value to a target. -/
structure Recur.Sound (r : Recur) : Prop where
  expr : ∀ n p s, p.Fits s → (r.expr n).Yields p s fun o s' => o.Good p s'
  target : ∀ n v p s, p.Fits s → v.Good p s → (r.target n v).Yields p s fun o s' => o.Good p s'

end RubyLower
