import RubyLower.Proofs.SuperArgs
import RubyLower.Proofs.Jumps.Parts

/-!
# The locals of `for` bodies: the steps

A `for` body is a block frame without a scope of its own (`Frame.ownScope`): its assignments go
to the frames around it, so of its own locals only the temporaries the lowering makes should be
left. What else can land there is a local that a read or a parameter names where no frame in
sight declares it: `Lower.resolveOrDeclare` declares such a name where it stands. This module and
the next show that nothing else does, as an invariant of the lowering.

`Env.Guarded S k e` is the invariant. The frames are well formed (`Env.Ok`), and each frame is
guarded (`Frame.Guarded`): without a scope of its own it is a block inside another frame that
assigns into the frames around it, a method frame declares the parameters it records for
`super`, and a frame from `k` on without a scope of its own holds only names the lowering makes
itself (`Internal`) and names of `S`. A step keeps it and extends the environment
(`Env.Extends`: the frames grow and keep whether they have a scope of their own):
`Lower.KeepsBodies S k x` asks this of every run of `x` from a place whose frame exists and that
is not lowering the call of a `for` loop.

The steps that declare are the ones to look at. A declaration in a frame with a scope of its own,
or of an internal name or a name of `S`, keeps the invariant (`Env.Guarded.declareLocal`). An
assignment declares only in a frame with a scope of its own (`Lower.assignmentSlot_keepsBodies`):
from a for body it declares in the nearest frame with one, and then sees the name there. The
named groups of a regular expression are declared there too and seen (`Lower.captureSetters_guards`),
and `super` without arguments reads parameters that the method frame declares, which the body
sees (`Lower.readParam_guards`).
-/

namespace RubyLower

/-- A name the lowering makes for itself: a temporary, or the local that keeps a method's block.
It starts with `%`, as the name of no local of a source does. -/
def Internal (name : String) : Prop :=
  ∃ rest, name = "%" ++ rest

theorem internal_allocTempName (e : Env) (pfx : String) : Internal (e.allocTempName pfx).2 :=
  ⟨pfx ++ "_" ++ toString e.nextTemp, by
    show "%" ++ pfx ++ "_" ++ toString e.nextTemp = _
    simp only [String.append_assoc]⟩

/-! ## The locals a tree names -/

/-- The local that a node names and its lowering declares where it stands when no frame in sight
has it: a read of a local, plain or from inside a block, and a parameter. -/
def Kind.localUse : Kind Node → Option String
  | .localVar name _ => some name
  | .dvar name _ => some name
  | .argument name => some name
  | _ => none

namespace Node

/-- Every local that a node of the tree reads or binds as a parameter is named in `S`. -/
def UsesOnly (S : String → Prop) (n : Node) : Prop :=
  ∀ m : Node, m.Within n → ∀ name, m.kind.localUse = some name → S name

variable {S : String → Prop}

theorem UsesOnly.of_within {m n : Node} (hn : n.UsesOnly S) (h : m.Within n) : m.UsesOnly S :=
  fun m' hm' => hn m' (hm'.trans h)

theorem UsesOnly.child {c n : Node} (hn : n.UsesOnly S) (hc : c ∈ n.kind.children) :
    c.UsesOnly S :=
  hn.of_within (.of_mem_children hc)

theorem UsesOnly.self {n : Node} {name : String} (hn : n.UsesOnly S)
    (h : n.kind.localUse = some name) : S name :=
  hn n (.refl n) name h

theorem usesOnly_true (n : Node) : n.UsesOnly fun _ => True :=
  fun _ _ _ _ => trivial

end Node

/-! ## The invariant -/

namespace Frame

/-- What the invariant asks of one frame. Without a scope of its own it is a block inside another
frame that assigns into the frames around it, and, when it is `late`, holds only internal names
and names of `S`; a method frame declares the parameters it records. -/
structure Guarded (S : String → Prop) (late : Prop) (fr : Frame) : Prop where
  forBody : fr.ownScope = false →
    fr.isBlock = true ∧ fr.neverAssignInParentScope = false ∧ fr.parent.isSome = true
  params : ∀ n ∈ (fr.parameters.getD {}).forwarded, n ∈ fr.locals
  bodyLocals : late → fr.ownScope = false → ∀ name ∈ fr.locals, Internal name ∨ S name

variable {S : String → Prop} {late : Prop}

/-- Declaring keeps a frame guarded when the frame has a scope of its own, is not late, or the
name is internal or of `S`. -/
theorem Guarded.declare {fr : Frame} (h : fr.Guarded S late) (name : String)
    (hallowed : late → fr.ownScope = false → Internal name ∨ S name) :
    (fr.declare name).1.Guarded S late := by
  rw [Env.Frame.declare_fst]
  have hsub : fr.locals ⊆ if name ∈ fr.locals then fr.locals else fr.locals ++ [name] := by
    split
    · exact List.Subset.refl _
    · exact List.subset_append_left _ _
  refine ⟨h.forBody, fun n hn => hsub (h.params n hn), fun hl ho x hx => ?_⟩
  split at hx
  · exact h.bodyLocals hl ho x hx
  · rcases List.mem_append.1 hx with hx | hx
    · exact h.bodyLocals hl ho x hx
    · rw [List.mem_singleton.1 hx]
      exact hallowed hl ho

/-- A frame with a scope of its own and no recorded parameters is guarded. -/
theorem guarded_of_ownScope {fr : Frame} (hown : fr.ownScope = true) (hparams : fr.parameters = none) :
    fr.Guarded S late :=
  ⟨fun h => absurd (hown.symm.trans h) Bool.noConfusion, fun n hn => by simp [hparams,
    MethodParams.forwarded] at hn, fun _ h => absurd (hown.symm.trans h) Bool.noConfusion⟩

end Frame

namespace Env

/-- Every method frame declares the parameters it records, which `super` without arguments reads
back. -/
def ParamsDeclared (e : Env) : Prop :=
  ∀ j, ∀ n ∈ ((e.frame j).parameters.getD {}).forwarded, n ∈ (e.frame j).locals

/-- The invariant of the environment that the lowering keeps: the frames are well formed, and
every frame is guarded, the frames from `k` on keeping the locals of a for body to internal names
and names of `S`. -/
structure Guarded (S : String → Prop) (k : Nat) (e : Env) : Prop where
  ok : e.Ok
  frames : ∀ j < e.frames.size, (e.frame j).Guarded S (k ≤ j)

/-- `e'` is `e` later in a lowering: the frames grow, and keep whether they have a scope of their
own. -/
structure Extends (e e' : Env) : Prop where
  grows : e.Grows e'
  ownScope : ∀ j < e.frames.size, (e'.frame j).ownScope = (e.frame j).ownScope

variable {S : String → Prop} {k : Nat}

namespace Guarded

theorem forBodiesNested {e : Env} (h : e.Guarded S k) : e.ForBodiesNested :=
  fun j hj => (h.frames j hj).forBody

theorem paramsDeclared {e : Env} (h : e.Guarded S k) : e.ParamsDeclared := by
  intro j n hn
  rcases Nat.lt_or_ge j e.frames.size with hj | hj
  · exact (h.frames j hj).params n hn
  · have hnone : (default : Frame).parameters = none := rfl
    rw [frame_eq_default hj, hnone] at hn
    simp [MethodParams.forwarded] at hn

/-- A well-formed environment whose for bodies are nested and whose method frames declare their
parameters is guarded, for any names, from its end on. -/
theorem of_consistent {e : Env} (hok : e.Ok) (hnested : e.ForBodiesNested) (hparams : e.ParamsDeclared) :
    e.Guarded S e.frames.size :=
  ⟨hok, fun j hj => ⟨hnested j hj, hparams j, fun hl => absurd hl (Nat.not_le.2 hj)⟩⟩

/-- A frame of a guarded environment without a scope of its own, from `k` on, holds only internal
names and names of `S`. -/
theorem bodyLocal {e : Env} (h : e.Guarded S k) {j : Nat} (hj : j < e.frames.size) (hk : k ≤ j)
    (hown : (e.frame j).ownScope = false) {name : String} (hname : name ∈ (e.frame j).locals) :
    Internal name ∨ S name :=
  (h.frames j hj).bodyLocals hk hown name hname

theorem of_frames_eq {e e' : Env} (h : e.Guarded S k) (hf : e'.frames = e.frames) : e'.Guarded S k := by
  have hframe : ∀ j, e'.frame j = e.frame j := fun j => by unfold Env.frame; rw [hf]
  exact ⟨h.ok.of_frames_eq hf, fun j hj => hframe j ▸ h.frames j (hf ▸ hj)⟩

/-- A change to one frame that keeps its parent and flip-flop states well formed and the frame
guarded keeps the environment guarded. -/
theorem modifyFrame {e : Env} (h : e.Guarded S k) {i : Nat} {g : Frame → Frame}
    (hparent : (g (e.frame i)).parent = (e.frame i).parent)
    (hstates : (e.frame i).StatesOk → (g (e.frame i)).StatesOk)
    (hg : (e.frame i).Guarded S (k ≤ i) → (g (e.frame i)).Guarded S (k ≤ i)) :
    (e.modifyFrame i g).Guarded S k := by
  refine ⟨h.ok.modifyFrame hparent hstates, fun j hj => ?_⟩
  rw [frames_size_modifyFrame] at hj
  rw [frame_modifyFrame]
  split
  · next hij =>
    obtain ⟨rfl, -⟩ := hij
    exact hg (h.frames _ hj)
  · exact h.frames j hj

/-- Declaring a name keeps the environment guarded when the frame has a scope of its own, comes
before `k`, or the name is internal or of `S`. -/
theorem declareLocal {e : Env} (h : e.Guarded S k) (i : Nat) (name : String)
    (hallowed : k ≤ i → (e.frame i).ownScope = false → Internal name ∨ S name) :
    (e.declareLocal i name).1.Guarded S k := by
  rw [declareLocal_eq]
  exact h.modifyFrame (declare_fields _ name).1
    (fun hs => hs.of_grows (frame_declare_grows _ name) (declare_fields _ name).2.2.2.2)
    fun hfr => hfr.declare name hallowed

theorem allocTemp {e : Env} (h : e.Guarded S k) (i : Nat) (pfx : String) :
    (e.allocTemp i pfx).1.Guarded S k := by
  rw [allocTemp_eq]
  exact (h.of_frames_eq (frames_allocTempName e pfx)).declareLocal i _
    fun _ _ => .inl (internal_allocTempName e pfx)

theorem allocFlipFlop {e : Env} (h : e.Guarded S k) {i : Nat} (hi : i < e.frames.size) :
    (e.allocFlipFlop i).1.Guarded S k := by
  have h1 := h.allocTemp i "flipflop"
  refine ⟨h.ok.allocFlipFlop hi, fun j hj => ?_⟩
  rw [allocFlipFlop_eq, frames_size_modifyFrame] at hj
  rw [allocFlipFlop_eq, frame_modifyFrame]
  split
  · next hij =>
    obtain ⟨rfl, -⟩ := hij
    have hfr := h1.frames _ hj
    exact ⟨hfr.forBody, hfr.params, hfr.bodyLocals⟩
  · exact h1.frames j hj

/-- Marking frames changes nothing the invariant reads. -/
theorem marks {e e' : Env} (h : e.Guarded S k) (hm : e.Marks e') : e'.Guarded S k := by
  refine ⟨hm.ok h.ok, fun j hj => ?_⟩
  have hfr := h.frames j (hm.size ▸ hj)
  rw [hm.frame j]
  exact ⟨hfr.forBody, hfr.params, hfr.bodyLocals⟩

/-- Recording the parameters of a frame that declares them keeps the environment guarded. -/
theorem recordParams {e : Env} (h : e.Guarded S k) (i : Nat) (ps : MethodParams)
    (hdecl : ∀ n ∈ ps.forwarded, n ∈ (e.frame i).locals) :
    (e.modifyFrame i fun fr => { fr with parameters := some ps }).Guarded S k :=
  h.modifyFrame rfl id fun hfr => ⟨hfr.forBody, hdecl, hfr.bodyLocals⟩

/-- Changing a frame's break id keeps the environment guarded. -/
theorem setBreak {e : Env} (h : e.Guarded S k) (i : Nat) (b : Option Nat) :
    (e.modifyFrame i fun fr => { fr with breakId := b }).Guarded S k :=
  h.modifyFrame rfl id fun hfr => ⟨hfr.forBody, hfr.params, hfr.bodyLocals⟩

end Guarded

/-- The frame that `pushFrame` adds has a scope of its own and no recorded parameters, and assigns
into the frames around it exactly when it is a block or a lambda. -/
theorem frame_pushFrame_scope (e : Env) (parent : Option Nat) (kind : FrameKind) :
    let fr := (e.pushFrame parent kind).1.frame e.frames.size
    fr.ownScope = true ∧ fr.neverAssignInParentScope = !(kind == .block || kind == .lambda) ∧
      fr.parameters = none := by
  dsimp only [pushFrame]
  split <;> (try split) <;> simp [frame, Frame.fresh]

/-- A new frame under an existing one, set up by `g`, which changes only whether it has a scope of
its own, its jump ids and its method name, keeps the environment guarded when only a block goes
without a scope of its own. -/
theorem Guarded.pushFrame {e : Env} (h : e.Guarded S k) {parent : Nat}
    (hparent : parent < e.frames.size) (kind : FrameKind) {g : Frame → Frame}
    (hg : ∀ fr, g fr = { fr with
      ownScope := (g fr).ownScope
      returnId := (g fr).returnId
      breakId := (g fr).breakId
      methodName := (g fr).methodName })
    (hown : (g ((e.pushFrame (some parent) kind).1.frame e.frames.size)).ownScope = false →
      kind = .block) :
    ((e.pushFrame (some parent) kind).1.modifyFrame e.frames.size g).Guarded S k := by
  set e1 := (e.pushFrame (some parent) kind).1
  set fr := e1.frame e.frames.size
  obtain ⟨hpar, hkind, hlocals, -⟩ := frame_pushFrame_new e (some parent) kind
  obtain ⟨-, hnever, hparams⟩ := frame_pushFrame_scope e (some parent) kind
  -- the frames seen before are as they were, and the new one is guarded once set up
  have h1 : e1.Guarded S k := by
    refine ⟨h.ok.pushFrame hparent kind, fun j hj => ?_⟩
    rw [frames_size_pushFrame] at hj
    rcases Nat.lt_or_ge j e.frames.size with hj' | hj'
    · rw [frame_pushFrame_old hj']
      exact h.frames j hj'
    · obtain rfl : j = e.frames.size := by omega
      exact Frame.guarded_of_ownScope (frame_pushFrame_scope e (some parent) kind).1 hparams
  have hfield : ∀ {β : Type} (f : Frame → β), (∀ fr', f { fr' with
      ownScope := (g fr').ownScope
      returnId := (g fr').returnId
      breakId := (g fr').breakId
      methodName := (g fr').methodName } = f fr') → f (g fr) = f fr :=
    fun f hf => (congrArg f (hg fr)).trans (hf fr)
  refine h1.modifyFrame (hfield Frame.parent fun _ => rfl)
    (fun hs => hfield Frame.StatesOk (fun _ => rfl) ▸ hs) fun _ => ⟨fun ho => ?_, ?_, ?_⟩
  · rw [hfield Frame.isBlock fun _ => rfl, hfield Frame.neverAssignInParentScope fun _ => rfl,
      hfield Frame.parent fun _ => rfl, hnever, hpar, Frame.isBlock, hkind, hown ho]
    exact ⟨rfl, rfl, rfl⟩
  · rw [hfield Frame.parameters fun _ => rfl, hparams]
    simp [MethodParams.forwarded]
  · intro _ _ name hname
    rw [hfield Frame.locals fun _ => rfl, hlocals] at hname
    cases hname

namespace Extends

theorem refl (e : Env) : e.Extends e :=
  ⟨Grows.refl e, fun _ _ => rfl⟩

theorem trans {e e' e'' : Env} (h : e.Extends e') (h' : e'.Extends e'') : e.Extends e'' :=
  ⟨h.grows.trans h'.grows, fun j hj =>
    (h'.ownScope j (Nat.lt_of_lt_of_le hj h.grows.size)).trans (h.ownScope j hj)⟩

theorem of_frames_eq {e e' : Env} (hf : e'.frames = e.frames) : e.Extends e' :=
  ⟨Grows.of_frames_eq hf, fun j _ => by unfold Env.frame; rw [hf]⟩

theorem of_marks {e e' : Env} (hm : e.Marks e') : e.Extends e' :=
  ⟨hm.grows, fun j _ => by rw [hm.frame j]⟩

/-- A change to one frame that grows it and keeps whether it has a scope of its own. -/
theorem modifyFrame {e : Env} {i : Nat} {g : Frame → Frame} (hg : (e.frame i).Grows (g (e.frame i)))
    (hown : (g (e.frame i)).ownScope = (e.frame i).ownScope) : e.Extends (e.modifyFrame i g) := by
  refine ⟨Grows.modifyFrame hg, fun j _ => ?_⟩
  rw [frame_modifyFrame]
  split
  · next hij => exact hij.1 ▸ hown
  · rfl

theorem declareLocal (e : Env) (i : Nat) (name : String) : e.Extends (e.declareLocal i name).1 := by
  rw [declareLocal_eq]
  refine modifyFrame (frame_declare_grows _ name) ?_
  rw [Frame.declare_fst]

theorem allocTemp (e : Env) (i : Nat) (pfx : String) : e.Extends (e.allocTemp i pfx).1 :=
  allocTemp_eq e i pfx ▸ (of_frames_eq (frames_allocTempName e pfx)).trans (declareLocal _ i _)

theorem allocFlipFlop (e : Env) (i : Nat) : e.Extends (e.allocFlipFlop i).1 :=
  allocFlipFlop_eq e i ▸ (allocTemp e i _).trans
    (modifyFrame ⟨rfl, rfl, rfl, List.prefix_refl _, fun h => h, List.prefix_append _ _⟩ rfl)

/-- A new frame, set up as the caller likes: every frame seen before is as it was. -/
theorem pushFrame (e : Env) (parent : Option Nat) (kind : FrameKind) (g : Frame → Frame) :
    e.Extends ((e.pushFrame parent kind).1.modifyFrame e.frames.size g) := by
  refine ⟨Grows.modifyFrame_new (Grows.pushFrame e parent kind) (Nat.le_refl _), fun j hj => ?_⟩
  rw [frame_modifyFrame, if_neg fun h => Nat.ne_of_lt hj h.1.symm, frame_pushFrame_old hj]

/-- Whether a frame seen before has a scope of its own is as it was. -/
theorem ownScope_eq {e e' : Env} (h : e.Extends e') {j : Nat} (hj : j < e.frames.size) :
    (e'.frame j).ownScope = (e.frame j).ownScope :=
  h.ownScope j hj

theorem mem_locals {e e' : Env} (h : e.Extends e') {j : Nat} (hj : j < e.frames.size)
    {name : String} (hname : name ∈ (e.frame j).locals) : name ∈ (e'.frame j).locals :=
  (h.grows.frame j hj).locals.subset hname

end Extends

/-! ## Where a frame sees a name -/

/-- Resolving a local, from any frame, only marks frames. -/
theorem marks_resolveFrom (e : Env) (start : Nat) (name : String) :
    ∀ fuel cur depth, e.Marks (e.resolveFrom start name fuel cur depth).1 := by
  intro fuel
  induction fuel with
  | zero => intro _ _; exact Marks.refl e
  | succ fuel ih =>
    intro cur depth
    unfold Env.resolveFrom
    split
    · dsimp only
      split
      · exact Marks.markCrossed e cur _ start
      · exact Marks.refl e
    · split
      · split
        · exact ih _ _
        · exact Marks.refl e
      · exact Marks.refl e

theorem marks_resolveLocal (e : Env) (id : Nat) (name : String) :
    e.Marks (e.resolveLocal id name).1 :=
  marks_resolveFrom e id name _ id 0

/-- Frame `f` sees the name in some frame of its chain. -/
def Sees (e : Env) (f : Nat) (name : String) : Prop :=
  ∃ d index, e.FindsAt f name d index

/-- A frame sees a name that a frame of its chain declares, when the frames before are blocks. -/
theorem sees_of_mem {e : Env} {f d g : Nat} {name : String} (hg : (e.chain f)[d]? = some g)
    (hblocks : ∀ i < d, ∀ j ∈ (e.chain f)[i]?, (e.frame j).isBlock = true)
    (hname : name ∈ (e.frame g).locals) : e.Sees f name :=
  findsAt_of_declared hg hblocks (List.isSome_idxOf?.2 hname)

/-- What a frame sees it still sees later: the frame that declared the name still does, and the
frames before it are still blocks. -/
theorem Extends.sees {e e' : Env} (he : e.Extends e') {f : Nat} (hf : f < e.frames.size)
    {name : String} (h : e.Sees f name) : e'.Sees f name := by
  obtain ⟨d, index, hbefore, g, hg, hfind⟩ := h
  have hchain := he.grows.chain hf
  have hgs := mem_chain_lt_size hf (List.mem_of_getElem? hg)
  refine sees_of_mem (hchain ▸ hg) (fun i hi j hj => ?_)
    (he.mem_locals hgs (List.mem_of_getElem? (Frame.getElem?_of_find hfind)))
  rw [hchain] at hj
  simpa only [Frame.isBlock, (he.grows.frame j (mem_chain_lt_size hf (List.mem_of_getElem? hj))).kind]
    using (hbefore i hi j hj).1

/-- `g` is where the new locals of frame `f` go: the first frame of its chain with a scope of its
own, every frame before it having none. -/
def OwnScopeAt (e : Env) (f g : Nat) : Prop :=
  ∃ d : Nat, (e.chain f)[d]? = some g ∧ (∀ i < d, ∀ j ∈ (e.chain f)[i]?, (e.frame j).ownScope = false) ∧
    (e.frame g).ownScope = true

namespace OwnScopeAt

theorem ownScope {e : Env} {f g : Nat} (h : e.OwnScopeAt f g) : (e.frame g).ownScope = true := by
  obtain ⟨_, -, -, hown⟩ := h
  exact hown

theorem lt_size {e : Env} {f g : Nat} (h : e.OwnScopeAt f g) (hf : f < e.frames.size) :
    g < e.frames.size := by
  obtain ⟨_, hd, -, -⟩ := h
  exact mem_chain_lt_size hf (List.mem_of_getElem? hd)

theorem extend {e e' : Env} {f g : Nat} (h : e.OwnScopeAt f g) (he : e.Extends e')
    (hf : f < e.frames.size) : e'.OwnScopeAt f g := by
  obtain ⟨d, hd, hbefore, hown⟩ := h
  have hchain := he.grows.chain hf
  refine ⟨d, hchain ▸ hd, fun i hi j hj => ?_, ?_⟩
  · rw [hchain] at hj
    rw [he.ownScope j (mem_chain_lt_size hf (List.mem_of_getElem? hj))]
    exact hbefore i hi j hj
  · rw [he.ownScope g (mem_chain_lt_size hf (List.mem_of_getElem? hd))]
    exact hown

end OwnScopeAt

/-- In a guarded environment the nearest frame with a scope of its own has one: a frame without
one has a parent to go on to. -/
theorem Guarded.ownScopeAt {e : Env} (h : e.Guarded S k) {f : Nat} (hf : f < e.frames.size) :
    e.OwnScopeAt f (e.nearestOwnScope f) := by
  obtain ⟨d, hd, hbefore, hstop⟩ := nearestOwnScope_spec h.ok f
  refine ⟨d, hd, hbefore, ?_⟩
  cases hgo : (e.frame (e.nearestOwnScope f)).ownScope with
  | true => rfl
  | false =>
    obtain ⟨-, -, hparent⟩ :=
      h.forBodiesNested _ (mem_chain_lt_size hf (List.mem_of_getElem? hd)) hgo
    rcases hstop with hstop | hstop
    · rw [hstop] at hgo
      cases hgo
    · rw [hstop] at hparent
      cases hparent

/-- A frame sees every name declared where its new locals go: the frames before are for bodies,
which are blocks. -/
theorem Guarded.sees_of_ownScopeAt {e : Env} (h : e.Guarded S k) {f g : Nat}
    (hf : f < e.frames.size) (hg : e.OwnScopeAt f g) {name : String}
    (hname : name ∈ (e.frame g).locals) : e.Sees f name := by
  obtain ⟨d, hd, hbefore, -⟩ := hg
  exact sees_of_mem hd (fun i hi j hj =>
    (h.forBodiesNested j (mem_chain_lt_size hf (List.mem_of_getElem? hj)) (hbefore i hi j hj)).1)
    hname

/-- A frame sees every parameter its method frame records: the frames between are blocks. -/
theorem Guarded.sees_param {e : Env} (h : e.Guarded S k) {f : Nat} {name : String}
    (hname : name ∈ ((e.frame (e.methodFrame f)).parameters.getD {}).forwarded) :
    e.Sees f name := by
  obtain ⟨d, hd, hblocks, -⟩ := methodFrame_spec h.ok f
  exact sees_of_mem hd hblocks (h.paramsDeclared _ name hname)

end Env

/-! ## Steps that keep the invariant -/

/-- A place a lowering step may start from: its frame exists, it is not lowering the call of a
`for` loop, and the environment is guarded. -/
structure Place.Guarded (S : String → Prop) (k : Nat) (p : Place) (s : Progress) : Prop where
  frame : p.frame < s.env.frames.size
  notFor : p.modes.forStatement = false
  env : s.env.Guarded S k

theorem Place.Guarded.extend {S : String → Prop} {k : Nat} {p : Place} {s s' : Progress}
    (hp : p.Guarded S k s) (he : s.env.Extends s'.env) (hg : s'.env.Guarded S k) :
    p.Guarded S k s' :=
  ⟨Nat.lt_of_lt_of_le hp.frame he.grows.size, hp.notFor, hg⟩

namespace Lower

open Env

/-- Run at `p` from `s`, `x` stops, or gives a result with `Q` in a progress whose environment
extends that of `s` and is guarded. -/
def Guards {α : Type} (S : String → Prop) (k : Nat) (x : Lower α) (p : Place) (s : Progress)
    (Q : α → Progress → Prop) : Prop :=
  x.Post p s fun a s' => s.env.Extends s'.env ∧ s'.env.Guarded S k ∧ Q a s'

/-- From every place ready for it, `x` keeps the environment guarded and extends it. -/
def KeepsBodies {α : Type} (S : String → Prop) (k : Nat) (x : Lower α) : Prop :=
  ∀ p s, p.Guarded S k s → x.Guards S k p s fun _ _ => True

section Guards

variable {α β : Type} {S : String → Prop} {k : Nat} {p : Place} {s : Progress}

theorem Guards.bind {x : Lower α} {f : α → Lower β} {Q : α → Progress → Prop}
    {R : β → Progress → Prop} (hx : x.Guards S k p s Q)
    (hf : ∀ a s', s.env.Extends s'.env → s'.env.Guarded S k → Q a s' → (f a).Guards S k p s' R) :
    (x >>= f).Guards S k p s R :=
  Post.bind hx fun a s' ⟨he, hg, ha⟩ =>
    (hf a s' he hg ha).mono fun _ _ ⟨he', hb⟩ => ⟨he.trans he', hb⟩

theorem Guards.pure {a : α} {Q : α → Progress → Prop} (hg : s.env.Guarded S k) (h : Q a s) :
    (Pure.pure a : Lower α).Guards S k p s Q :=
  Post.pure ⟨Extends.refl s.env, hg, h⟩

theorem Guards.mono {x : Lower α} {Q Q' : α → Progress → Prop} (h : x.Guards S k p s Q)
    (hQ : ∀ a s', s.env.Extends s'.env → s'.env.Guarded S k → Q a s' → Q' a s') :
    x.Guards S k p s Q' :=
  Post.mono h fun a s' ⟨he, hg, ha⟩ => ⟨he, hg, hQ a s' he hg ha⟩

theorem Guards.withReader {x : Lower α} {g : Place → Place} {Q : α → Progress → Prop}
    (h : x.Guards S k (g p) s Q) : (withReader g x : Lower α).Guards S k p s Q :=
  Post.withReader h

theorem Guards.atSpan {o : Op} {sp : Span} {Q : Op → Progress → Prop} (hg : s.env.Guarded S k)
    (h : Q (o.withSpan sp) s) : (Lower.atSpan o sp).Guards S k p s Q :=
  Post.atSpan ⟨Extends.refl s.env, hg, h⟩

/-- A part followed by a restore that runs whether the part stops or not. -/
theorem Guards.restoring {restore : Lower Unit} {x : Lower α} {Q : α → Progress → Prop}
    (h : x.Guards S k p s fun a s' => restore.Guards S k p s' fun _ s'' => Q a s'') :
    (Lower.restoring restore x).Guards S k p s Q :=
  Post.restoring (Post.mono h fun _ _ ⟨he, _, hr⟩ => Post.mono hr fun _ _ ⟨he', hg, hq⟩ =>
    ⟨he.trans he', hg, hq⟩)

/-- A read that leaves the progress alone: the rest runs on what it reads. -/
theorem Guards.bind_read {x : Lower α} {f : α → Lower β} {R : β → Progress → Prop} {v : α}
    (hx : x.Post p s fun a s' => a = v ∧ s' = s) (hf : (f v).Guards S k p s R) :
    (x >>= f).Guards S k p s R :=
  Post.bind hx fun _ _ ⟨ha, hs⟩ => ha ▸ hs ▸ hf

theorem KeepsBodies.guards {x : Lower α} (hx : x.KeepsBodies S k) (hp : p.Guarded S k s) :
    x.Guards S k p s fun _ _ => True :=
  hx p s hp

/-- A step that keeps the invariant, then a rest that does, from where the step left. -/
theorem Guards.bind_keeps {x : Lower α} {f : α → Lower β} {R : β → Progress → Prop}
    (hx : x.KeepsBodies S k) (hp : p.Guarded S k s)
    (hf : ∀ a s', s.env.Extends s'.env → s'.env.Guarded S k → (f a).Guards S k p s' R) :
    (x >>= f).Guards S k p s R :=
  (hx.guards hp).bind fun a s' he hg _ => hf a s' he hg

/-- Each element's step, run where the loop has got to, gives a result with `Q` when the element
has `P` there; both last as the environment is extended. Then each result has `Q` with its element
at the end. -/
theorem Guards.mapM {f : α → Lower β} {P : α → Progress → Prop} {Q : α → β → Progress → Prop}
    (hP : ∀ x s s', p.Guarded S k s → P x s → s.env.Extends s'.env → P x s')
    (hQ : ∀ x b s s', p.Guarded S k s → Q x b s → s.env.Extends s'.env → Q x b s') :
    ∀ (xs : List α) {s : Progress}, p.Guarded S k s → (∀ x ∈ xs, P x s) →
      (∀ x ∈ xs, ∀ s, p.Guarded S k s → P x s → (f x).Guards S k p s (Q x)) →
      (xs.mapM f).Guards S k p s fun bs s' => List.Forall₂ (fun x b => Q x b s') xs bs
  | [], _, hp, _, _ => Guards.pure hp.env List.Forall₂.nil
  | x :: xs, s, hp, hxs, hf => by
    rw [List.mapM_cons]
    refine (hf x List.mem_cons_self s hp (hxs x List.mem_cons_self)).bind fun b s1 e1 g1 hb => ?_
    refine (Guards.mapM hP hQ xs (hp.extend e1 g1)
      (fun y hy => hP y s s1 hp (hxs y (List.mem_cons_of_mem _ hy)) e1)
      fun y hy => hf y (List.mem_cons_of_mem _ hy)).bind fun bs s2 e2 g2 hbs => ?_
    exact Guards.pure g2 (List.Forall₂.cons (hQ _ _ _ _ (hp.extend e1 g1) hb e2) hbs)

/-- A step that changes no frame keeps the environment as guarded as it was. -/
theorem Guards.of_frames {x : Lower α} (hx : x.Post p s fun _ s' => s'.env.frames = s.env.frames)
    (hg : s.env.Guarded S k) : x.Guards S k p s fun _ s' => s'.env.frames = s.env.frames :=
  hx.mono fun _ _ hf => ⟨Extends.of_frames_eq hf, hg.of_frames_eq hf, hf⟩

/-- A loop over a list whose every round keeps an invariant `I` of the progress. -/
theorem Guards.forIn_unit {g : α → PUnit → Lower (ForInStep PUnit)} {I : Progress → Prop} :
    ∀ (xs : List α) {s : Progress}, s.env.Guarded S k → I s →
      (∀ x ∈ xs, ∀ s', s'.env.Guarded S k → I s' →
        (g x PUnit.unit).Guards S k p s' fun _ s'' => I s'') →
      (forIn xs PUnit.unit g).Guards S k p s fun _ s' => I s'
  | [], _, hg, hi, _ => Guards.pure hg hi
  | x :: xs, s, hg, hi, hf => by
    rw [List.forIn_cons]
    refine (hf x List.mem_cons_self s hg hi).bind fun step s1 _ g1 hi1 => ?_
    cases step with
    | done => exact Guards.pure g1 hi1
    | yield => exact Guards.forIn_unit xs g1 hi1 fun y hy => hf y (List.mem_cons_of_mem _ hy)

end Guards

namespace KeepsBodies

variable {α β : Type} {S : String → Prop} {k : Nat}

theorem pure (a : α) : (Pure.pure a : Lower α).KeepsBodies S k :=
  fun _ _ hp => Guards.pure hp.env trivial

theorem bind {x : Lower α} {f : α → Lower β} (hx : x.KeepsBodies S k)
    (hf : ∀ a, (f a).KeepsBodies S k) : (x >>= f).KeepsBodies S k :=
  fun _ _ hp => Guards.bind_keeps hx hp fun a _ he hg => hf a _ _ (hp.extend he hg)

theorem map {x : Lower α} (hx : x.KeepsBodies S k) (f : α → β) : (f <$> x).KeepsBodies S k := by
  rw [map_eq_pure_bind]
  exact hx.bind fun _ => pure _

theorem throw (e : LowerError) : (MonadExcept.throw e : Lower α).KeepsBodies S k :=
  fun _ _ _ => trivial

theorem fail (kind : FaultKind) (message : Message) (args : List String) (span : Span) :
    (Lower.fail kind message args span : Lower α).KeepsBodies S k :=
  throw _

theorem atSpan (o : Op) (sp : Span) : (Lower.atSpan o sp).KeepsBodies S k :=
  fun _ _ hp => Guards.atSpan hp.env trivial

/-- A step that changes no frame keeps the invariant. -/
theorem of_frames {x : Lower α} (hx : ∀ p s, x.Post p s fun _ s' => s'.env.frames = s.env.frames) :
    x.KeepsBodies S k :=
  fun p s hp => (hx p s).mono fun _ _ hf => ⟨Extends.of_frames_eq hf, hp.env.of_frames_eq hf, trivial⟩

theorem withModes {x : Lower α} (hx : x.KeepsBodies S k) {f : Modes → Modes}
    (hf : ∀ m, (f m).forStatement = m.forStatement) : (Lower.withModes f x).KeepsBodies S k :=
  fun p _ hp => Guards.withReader (hx _ _ ⟨hp.frame, (hf p.modes).trans hp.notFor, hp.env⟩)

theorem withMarker {x : Lower α} (hx : x.KeepsBodies S k) (m : Option Slot) :
    (Lower.withMarker m x).KeepsBodies S k :=
  fun _ _ hp => Guards.withReader (hx _ _ ⟨hp.frame, hp.notFor, hp.env⟩)

/-- A part run over an existing frame, which starts with no modes. -/
theorem inFrame {x : Lower α} (hx : x.KeepsBodies S k) {p : Place} {s : Progress} {id : Nat}
    (hid : id < s.env.frames.size) (hg : s.env.Guarded S k) :
    (Lower.inFrame id x).Guards S k p s fun _ _ => True :=
  Guards.withReader (hx _ _ ⟨hid, rfl, hg⟩)

theorem mapM {f : α → Lower β} :
    ∀ {xs : List α}, (∀ a ∈ xs, (f a).KeepsBodies S k) → (xs.mapM f).KeepsBodies S k
  | [], _ => pure _
  | x :: xs, hf => by
    rw [List.mapM_cons]
    exact (hf x List.mem_cons_self).bind fun _ =>
      (mapM fun a ha => hf a (List.mem_cons_of_mem _ ha)).bind fun _ => pure _

theorem optionMapM {f : α → Lower β} :
    ∀ {o : Option α}, (∀ a ∈ o, (f a).KeepsBodies S k) → (o.mapM f).KeepsBodies S k
  | none, _ => pure _
  | some a, hf => (hf a rfl).map _

theorem foldlM {f : β → α → Lower β} :
    ∀ {xs : List α}, (∀ acc, ∀ a ∈ xs, (f acc a).KeepsBodies S k) →
      ∀ acc : β, (xs.foldlM f acc).KeepsBodies S k
  | [], _, _ => pure _
  | x :: xs, hf, acc => by
    rw [List.foldlM_cons]
    exact (hf acc x List.mem_cons_self).bind fun acc' =>
      foldlM (fun acc a ha => hf acc a (List.mem_cons_of_mem _ ha)) acc'

theorem forIn {g : α → β → Lower (ForInStep β)} :
    ∀ {xs : List α}, (∀ a ∈ xs, ∀ b, (g a b).KeepsBodies S k) →
      ∀ b : β, (ForIn.forIn xs b g).KeepsBodies S k
  | [], _, _ => pure _
  | x :: xs, hg, b => by
    rw [List.forIn_cons]
    refine (hg x List.mem_cons_self b).bind fun step => ?_
    cases step with
    | done => exact pure _
    | yield b' => exact forIn (fun a ha => hg a (List.mem_cons_of_mem _ ha)) b'

theorem restoring {restore : Lower Unit} {x : Lower α} (hr : restore.KeepsBodies S k)
    (hx : x.KeepsBodies S k) : (Lower.restoring restore x).KeepsBodies S k :=
  fun _ _ hp => Guards.restoring ((hx.guards hp).mono fun _ _ he hg _ => hr _ _ (hp.extend he hg))

end KeepsBodies

theorem Post.of_exec {α : Type} {x : Lower α} {p : Place} {s s' : Progress} {a : α}
    {Q : α → Progress → Prop} (h : x.exec p s = (.ok a, s')) (hq : Q a s') : x.Post p s Q := by
  unfold Post
  rw [h]
  exact hq

/-! ## The steps of the lowering -/

section Steps

variable {S : String → Prop} {k : Nat}

theorem frame_keepsBodies : (frame : Lower Nat).KeepsBodies S k :=
  KeepsBodies.of_frames fun _ _ => rfl

theorem modes_keepsBodies : (modes : Lower Modes).KeepsBodies S k :=
  KeepsBodies.of_frames fun _ _ => rfl

theorem options_keepsBodies : (options : Lower Options).KeepsBodies S k :=
  KeepsBodies.of_frames fun _ _ => rfl

theorem source_keepsBodies : (source : Lower SourceInfo).KeepsBodies S k :=
  KeepsBodies.of_frames fun _ _ => rfl

theorem env_keepsBodies : (env : Lower Env).KeepsBodies S k :=
  KeepsBodies.of_frames fun _ _ => rfl

theorem frameData_keepsBodies (id : Nat) : (frameData id).KeepsBodies S k :=
  KeepsBodies.of_frames fun _ _ => rfl

theorem isDynamic_keepsBodies : isDynamic.KeepsBodies S k :=
  KeepsBodies.of_frames fun _ _ => rfl

theorem lexicalScope_keepsBodies : lexicalScope.KeepsBodies S k :=
  KeepsBodies.of_frames fun _ _ => rfl

theorem allocBreak_keepsBodies : allocBreak.KeepsBodies S k :=
  KeepsBodies.of_frames fun _ _ => rfl

theorem registerLine_keepsBodies (line : Nat) : (registerLine line).KeepsBodies S k :=
  KeepsBodies.of_frames fun _ _ => rfl

theorem markLineStart_keepsBodies (o : Op) (lineSpan : Span) :
    (markLineStart o lineSpan).KeepsBodies S k := by
  refine options_keepsBodies.bind fun opts => ?_
  split
  · exact source_keepsBodies.bind fun _ => (registerLine_keepsBodies _).bind fun _ =>
      KeepsBodies.pure _
  · exact KeepsBodies.pure _

theorem addNewline_keepsBodies (n : Node) (o : Op) : (addNewline n o).KeepsBodies S k := by
  unfold addNewline
  split
  · split
    · exact markLineStart_keepsBodies _ _
    · exact KeepsBodies.pure _
    · exact KeepsBodies.throw _
  · exact KeepsBodies.pure _

theorem readConst_keepsBodies (name : String) (span : Span) : (readConst name span).KeepsBodies S k := by
  refine isDynamic_keepsBodies.bind fun dyn => ?_
  split
  · exact KeepsBodies.atSpan _ _
  · exact lexicalScope_keepsBodies.bind fun _ => KeepsBodies.atSpan _ _

theorem classVarScope_keepsBodies : classVarScope.KeepsBodies S k := by
  refine isDynamic_keepsBodies.bind fun dyn => ?_
  split
  · exact KeepsBodies.pure _
  · exact lexicalScope_keepsBodies.bind fun _ => KeepsBodies.pure _

/-- Declaring an internal name or a name of `S` keeps the invariant, in any frame. -/
theorem declare_keepsBodies (id : Nat) {name : String} (hname : Internal name ∨ S name) :
    (declare id name).KeepsBodies S k :=
  fun _ _ hp => ⟨Extends.declareLocal _ _ _, hp.env.declareLocal id name fun _ _ => hname, trivial⟩

theorem resolve_keepsBodies (id : Nat) (name : String) : (resolve id name).KeepsBodies S k :=
  fun _ _ hp => ⟨Extends.of_marks (marks_resolveLocal _ _ _), hp.env.marks (marks_resolveLocal _ _ _),
    trivial⟩

theorem temp_keepsBodies (pfx : String) : (temp pfx).KeepsBodies S k :=
  frame_keepsBodies.bind fun f _ _ hp => ⟨Extends.allocTemp _ _ _, hp.env.allocTemp f pfx, trivial⟩

theorem setBreak_keepsBodies (id : Nat) (b : Option Nat) :
    (modifyFrame id fun fr => { fr with breakId := b }).KeepsBodies S k :=
  fun _ _ hp => ⟨Extends.modifyFrame ⟨rfl, rfl, rfl, List.prefix_refl _, fun h => h,
    List.prefix_refl _⟩ rfl, hp.env.setBreak id b, trivial⟩

theorem resolveOrDeclare_keepsBodies {name : String} (hname : Internal name ∨ S name) :
    (resolveOrDeclare name).KeepsBodies S k := by
  refine frame_keepsBodies.bind fun f => (resolve_keepsBodies f name).bind fun slot => ?_
  cases slot with
  | some slot => exact KeepsBodies.pure slot
  | none => exact declare_keepsBodies f hname

/-- A read of a name the frame sees finds it, and only marks frames. -/
theorem resolveOrDeclare_guards {p : Place} {s : Progress} (hp : p.Guarded S k s) {name : String}
    (hseen : s.env.Sees p.frame name) : (resolveOrDeclare name).Guards S k p s fun _ _ => True := by
  obtain ⟨d, index, hat⟩ := hseen
  obtain ⟨e', hm, hexec⟩ := exec_resolveOrDeclare_of_findsAt hp.env.ok hp.frame hat
  exact Post.of_exec hexec ⟨Extends.of_marks hm, hp.env.marks hm, trivial⟩

/-- An assignment from a frame that never assigns into its parents declares there: that frame has
a scope of its own. -/
theorem exec_assignmentSlot_of_never {p : Place} {s : Progress} (name : String)
    (hnever : (s.env.frame p.frame).neverAssignInParentScope = true) :
    (assignmentSlot name).exec p s = (.ok (s.env.declareLocal p.frame name).2,
      { s with env := (s.env.declareLocal p.frame name).1 }) := by
  simp only [assignmentSlot, exec_bind, exec_frame, exec_frameData, hnever, ↓reduceIte, declare,
    exec_onEnv]

/-- An assignment declares only in a frame with a scope of its own. From a frame that assigns into
its parents and does not see the name, it declares it where the frame's new locals go, and then
sees it there, so its last resort of declaring the name in the frame itself never runs. -/
theorem assignmentSlot_keepsBodies (name : String) : (assignmentSlot name).KeepsBodies S k := by
  intro p s hp
  cases hnever : (s.env.frame p.frame).neverAssignInParentScope with
  | true =>
    -- a frame that never assigns into its parents is no for body
    have hown : (s.env.frame p.frame).ownScope = true := by
      cases ho : (s.env.frame p.frame).ownScope with
      | true => rfl
      | false =>
        rw [(hp.env.forBodiesNested _ hp.frame ho).2.1] at hnever
        cases hnever
    exact Post.of_exec (exec_assignmentSlot_of_never name hnever) ⟨Extends.declareLocal _ _ _,
      hp.env.declareLocal _ _ fun _ h => absurd (hown.symm.trans h) Bool.noConfusion, trivial⟩
  | false =>
    unfold Guards Post
    rw [exec_assignmentSlot name hnever]
    have hm1 := marks_resolveLocal s.env p.frame name
    have hnone := (resolveLocal_spec hp.env.ok p.frame name).2.2
    rcases hr : s.env.resolveLocal p.frame name with ⟨e1, _ | slot⟩
    · -- seen nowhere: nothing marked; declared where new locals go, and seen from there
      rw [hr] at hnone
      obtain rfl : e1 = s.env := hnone rfl
      dsimp only
      have hg := hp.env.ownScopeAt hp.frame
      set g := s.env.nearestOwnScope p.frame
      have he2 : s.env.Extends (s.env.declareLocal g name).1 := Extends.declareLocal _ _ _
      have hg2 : (s.env.declareLocal g name).1.Guarded S k :=
        hp.env.declareLocal g name fun _ h => absurd (hg.ownScope.symm.trans h) Bool.noConfusion
      have hmem : name ∈ ((s.env.declareLocal g name).1.frame g).locals := by
        rw [declareLocal_eq, frame_modifyFrame, if_pos ⟨rfl, hg.lt_size hp.frame⟩]
        exact List.mem_of_getElem? (Frame.getElem?_of_find (Frame.find_declare _ name))
      obtain ⟨d, index, hat⟩ := hg2.sees_of_ownScopeAt (Nat.lt_of_lt_of_le hp.frame he2.grows.size)
        (hg.extend he2 hp.frame) hmem
      have hfound := ((resolveLocal_spec hg2.ok p.frame name).1 d index).2 hat
      have hm3 := marks_resolveLocal (s.env.declareLocal g name).1 p.frame name
      rcases hr3 : (s.env.declareLocal g name).1.resolveLocal p.frame name with ⟨e3, r3⟩
      rw [hr3] at hfound hm3
      cases hfound
      exact ⟨he2.trans (Extends.of_marks hm3), hg2.marks hm3, trivial⟩
    · rw [hr] at hm1
      dsimp only
      exact ⟨Extends.of_marks hm1, hp.env.marks hm1, trivial⟩

theorem localRead_keepsBodies {name : String} (hname : S name) (span : Span) :
    (localRead name span).KeepsBodies S k :=
  (resolveOrDeclare_keepsBodies (.inr hname)).bind fun _ => KeepsBodies.atSpan _ _

theorem dvarRead_keepsBodies {name : String} (hname : S name) (depth : Nat) (span : Span) :
    (dvarRead name depth span).KeepsBodies S k := by
  refine frame_keepsBodies.bind fun f => (resolve_keepsBodies f name).bind fun found => ?_
  extract_lets afterSlot
  have hafterSlot : ∀ slot, (afterSlot slot).KeepsBodies S k := fun _ => KeepsBodies.atSpan _ _
  split
  · exact (KeepsBodies.pure _).bind hafterSlot
  · exact env_keepsBodies.bind fun _ => (declare_keepsBodies _ (.inr hname)).bind fun _ =>
      (resolveOrDeclare_keepsBodies (.inr hname)).bind hafterSlot

/-- The named groups of a regular expression are declared where the frame's new locals go, and
read from there. -/
theorem captureSetters_guards {p : Place} {s : Progress} (hp : p.Guarded S k s) {declareIn : Nat}
    (hin : s.env.OwnScopeAt p.frame declareIn) (matchData : Slot) (name : String) :
    (captureSetters matchData declareIn name).Guards S k p s fun _ _ => True := by
  have he1 : s.env.Extends (s.env.declareLocal declareIn name).1 := Extends.declareLocal _ _ _
  have hg1 : (s.env.declareLocal declareIn name).1.Guarded S k :=
    hp.env.declareLocal _ name fun _ h => absurd (hin.ownScope.symm.trans h) Bool.noConfusion
  have hmem : name ∈ ((s.env.declareLocal declareIn name).1.frame declareIn).locals := by
    rw [declareLocal_eq, frame_modifyFrame, if_pos ⟨rfl, hin.lt_size hp.frame⟩]
    exact List.mem_of_getElem? (Frame.getElem?_of_find (Frame.find_declare _ name))
  have hseen : (s.env.declareLocal declareIn name).1.Sees p.frame name :=
    hg1.sees_of_ownScopeAt (Nat.lt_of_lt_of_le hp.frame he1.grows.size) (hin.extend he1 hp.frame) hmem
  unfold captureSetters
  refine Guards.bind (Q := fun _ s1 => s1.env = (s.env.declareLocal declareIn name).1)
    (Post.onEnv ⟨he1, hg1, rfl⟩) fun _ s1 e1 g1 hs1 => ?_
  exact (resolveOrDeclare_guards (hp.extend e1 g1) (hs1 ▸ hseen)).bind fun _ _ _ g2 _ =>
    Guards.pure g2 trivial

/-- A read of a parameter the frame sees finds it, and only marks frames. -/
theorem readParam_guards {p : Place} {s : Progress} (hp : p.Guarded S k s) {name : String}
    (hseen : s.env.Sees p.frame name) : (readParam name).Guards S k p s fun _ _ => True :=
  (resolveOrDeclare_guards hp hseen).bind fun _ _ _ g1 _ => Guards.pure g1 trivial

end Steps

end Lower

/-! ## The recursive calls -/

/-- The recursive calls of a rule keep the invariant on trees that name only locals of `S`:
lowering such a node, and assigning any value to such a target. -/
structure Recur.KeepsBodies (S : String → Prop) (k : Nat) (r : Recur) : Prop where
  expr : ∀ n, n.UsesOnly S → (r.expr n).KeepsBodies S k
  target : ∀ n v, n.UsesOnly S → (r.target n v).KeepsBodies S k

namespace Lower

section Recur

variable {S : String → Prop} {k : Nat} {r : Recur} (hr : r.KeepsBodies S k)
include hr

theorem exprOrNil_keepsBodies {n : Option Node} (hn : ∀ c ∈ n, c.UsesOnly S) (span : Span) :
    (exprOrNil r n span).KeepsBodies S k := by
  cases n with
  | some n => exact hr.expr n (hn n rfl)
  | none => exact KeepsBodies.atSpan Op.nil span

theorem exprs_keepsBodies {ns : List Node} (hns : ∀ c ∈ ns, c.UsesOnly S) :
    (exprs r ns).KeepsBodies S k :=
  KeepsBodies.mapM fun n hn => hr.expr n (hns n hn)

theorem valueOrDead_keepsBodies {value : Option Node} (hv : ∀ c ∈ value, c.UsesOnly S)
    (what : String) : (valueOrDead r value what).KeepsBodies S k := by
  cases value with
  | some v => exact hr.expr v (hv v rfl)
  | none => exact KeepsBodies.pure _

theorem constPathModule_keepsBodies {path : ConstPath Node} (hpath : ∀ c ∈ path.nodes, c.UsesOnly S) :
    (constPathModule r path).KeepsBodies S k := by
  unfold constPathModule
  split
  · refine isDynamic_keepsBodies.bind fun dyn => ?_
    split
    · exact KeepsBodies.pure _
    · exact lexicalScope_keepsBodies.bind fun _ => KeepsBodies.pure _
  · exact hr.expr _ (hpath _ (List.mem_singleton_self _))
  · exact KeepsBodies.pure _

end Recur

end Lower

end RubyLower
