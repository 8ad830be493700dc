import RubyLower.Proofs.Frames

/-!
# Runs of the scope environment

A translation works on its scope environment through a handful of operations (`EnvOp`): a new
frame under an existing one, a local, a temporary or a flip-flop state declared in a frame, a
local resolved from a frame outwards, and a frame's own-scope mark set. `Env.run` applies them in
order; `Env.Valid` asks each to name a frame that exists when it is applied.

Every run from a fresh environment keeps `Env.Tracks`: the frame tree is a tree (each parent has a
smaller id), each frame's locals are distinct, and a block or lambda frame is one block level below
its parent while any other frame is at level zero (`Env.Tracks.run`). On such an environment:

* the three walks up the tree stop at the frame their loop would stop at: `Env.ancestor` after
  `depth` steps or at the root (`Env.ancestor_spec`), `Env.climbWhile`, and so `nearestOwnScope`
  and `methodFrame`, at the first frame failing its test or at the root (`Env.climbWhile_spec`);
* a frame's locals are the names declared in it, in first-declaration order with repeats dropped
  (`Env.locals_run`), a name's slot index being its position (`Env.find_getElem_locals`), and
  declaring twice changes nothing (`Env.declareLocal_declareLocal`);
* resolving a local finds the first frame declaring it on the frame's chain through blocks and
  lambdas, and marks exactly the frames passed on the way (`Env.resolveLocal_spec`).

`Env.scopeTracker_laws` gathers all of these for every run.
-/

namespace RubyLower

/-- An operation a translation performs on its scope environment. -/
inductive EnvOp where
  /-- A new frame of a kind under an existing frame. -/
  | pushFrame (parent : Nat) (kind : FrameKind)
  | declareLocal (frame : Nat) (name : String)
  | allocTemp (frame : Nat) (pfx : String)
  | allocFlipFlop (frame : Nat)
  | resolveLocal (frame : Nat) (name : String)
  /-- Whether new locals of the frame's body go to the frame itself (false for a `for` body). -/
  | setOwnScope (frame : Nat) (ownScope : Bool)

namespace EnvOp

/-- The frame an operation names: the parent of a new frame, else the frame it works on. -/
def frame : EnvOp → Nat
  | .pushFrame f _ | .declareLocal f _ | .allocTemp f _ | .allocFlipFlop f | .resolveLocal f _
  | .setOwnScope f _ => f

/-- The environment after an operation. -/
def apply : EnvOp → Env → Env
  | .pushFrame p kind, e => (e.pushFrame (some p) kind).1
  | .declareLocal f name, e => (e.declareLocal f name).1
  | .allocTemp f pfx, e => (e.allocTemp f pfx).1
  | .allocFlipFlop f, e => (e.allocFlipFlop f).1
  | .resolveLocal f name, e => (e.resolveLocal f name).1
  | .setOwnScope f own, e => e.modifyFrame f fun fr => { fr with ownScope := own }

/-- The names an operation applied to `e` declares in frame `g`, in order. -/
def declares : EnvOp → Env → Nat → List String
  | .declareLocal f name, _, g => if f = g then [name] else []
  | .allocTemp f pfx, e, g => if f = g then [(e.allocTempName pfx).2] else []
  | .allocFlipFlop f, e, g => if f = g then [(e.allocTempName "flipflop").2] else []
  | _, _, _ => []

end EnvOp

namespace Env

/-- The environment after operations applied in order. -/
def run : Env → List EnvOp → Env
  | e, [] => e
  | e, o :: os => (o.apply e).run os

/-- Each operation of a run names a frame that exists when it is applied. -/
def Valid : Env → List EnvOp → Prop
  | _, [] => True
  | e, o :: os => o.frame < e.frames.size ∧ (o.apply e).Valid os

/-- The names the operations of a run declare in frame `g`, in order, repeats included. -/
def declared (g : Nat) : Env → List EnvOp → List String
  | _, [] => []
  | e, o :: os => o.declares e g ++ (o.apply e).declared g os

/-- What every run from a fresh environment keeps: the frame tree is a tree, the locals of each
frame are distinct, and a block or lambda frame is one block level below its parent while any
other frame is at level zero. -/
structure Tracks (e : Env) : Prop where
  ok : e.Ok
  nodup : ∀ id, (e.frame id).locals.Nodup
  blockDepth : ∀ id q, (e.frame id).parent = some q → (e.frame id).isBlock = true →
    (e.frame id).blockDepth = (e.frame q).blockDepth + 1
  levelZero : ∀ id, (e.frame id).isBlock = false → (e.frame id).blockDepth = 0

/-! ## The fresh environment -/

/-- A fresh environment has frame 0 and, past it, default frames only. -/
theorem frame_initial (id : Nat) : initial.frame id = initial.frame 0 ∨ initial.frame id = default := by
  cases id with
  | zero => exact .inl rfl
  | succ id => exact .inr (frame_eq_default (show 1 ≤ id + 1 by omega))

theorem initial_ok : initial.Ok := by
  refine ⟨show 0 < 1 by decide, fun id q hq => ?_, fun id slot hslot => ?_⟩
  · rcases frame_initial id with h | h <;> rw [h] at hq <;> cases hq
  · rcases frame_initial id with h | h <;> rw [h] at hslot <;> cases hslot

theorem Tracks.initial : initial.Tracks := by
  refine ⟨initial_ok, fun id => ?_, fun id q hq _ => ?_, fun id _ => ?_⟩
  · rcases frame_initial id with h | h <;> rw [h] <;> exact List.nodup_nil
  · rcases frame_initial id with h | h <;> rw [h] at hq <;> cases hq
  · rcases frame_initial id with h | h <;> rw [h] <;> rfl

/-! ## Lists without repeats -/

section EraseDups

variable {α : Type} [BEq α] [LawfulBEq α]

theorem nodup_eraseDups : ∀ l : List α, l.eraseDups.Nodup
  | [] => List.nodup_nil
  | a :: as => by
    have := List.length_filter_le (fun b => !b == a) as
    rw [List.eraseDups_cons]
    refine List.nodup_cons.2 ⟨fun h => ?_, nodup_eraseDups _⟩
    simp at h
termination_by l => l.length

theorem eraseDups_eq_self : ∀ {l : List α}, l.Nodup → l.eraseDups = l
  | [], _ => rfl
  | a :: as, h => by
    obtain ⟨ha, has⟩ := List.nodup_cons.1 h
    -- nothing of the tail is `a`, so the filter keeps it whole
    have hkeep : as.filter (fun b => !b == a) = as := by
      refine List.filter_eq_self.2 fun b hb => ?_
      have hne : b ≠ a := fun hba => ha (hba ▸ hb)
      simpa using hne
    rw [List.eraseDups_cons, hkeep, eraseDups_eq_self has]

theorem eraseDups_eraseDups_append (l m : List α) :
    (l.eraseDups ++ m).eraseDups = (l ++ m).eraseDups := by
  rw [List.eraseDups_append, List.eraseDups_append, eraseDups_eq_self (nodup_eraseDups l)]
  congr 2
  simp [List.removeAll]

/-- Adding a name to a list without repeats: at the end, unless it is there. -/
theorem eraseDups_append_singleton {l : List α} (h : l.Nodup) (a : α) :
    (l ++ [a]).eraseDups = if a ∈ l then l else l ++ [a] := by
  rw [List.eraseDups_append, eraseDups_eq_self h]
  split
  · next ha => simp [List.removeAll, ha]
  · next ha => simp [List.removeAll, ha, List.eraseDups_cons]

end EraseDups

/-! ## Declaring in a frame -/

/-- Declaring a name adds it after the frame's locals unless the frame has it. -/
theorem Frame.declare_fst (fr : Frame) (name : String) :
    (fr.declare name).1 =
      { fr with locals := if name ∈ fr.locals then fr.locals else fr.locals ++ [name] } := by
  unfold Frame.declare Frame.find
  split
  · next i h => rw [if_pos (List.isSome_idxOf?.1 (by simp [h]))]
  · next h => rw [if_neg (List.idxOf?_eq_none_iff.1 h)]

theorem Frame.locals_declare {fr : Frame} (h : fr.locals.Nodup) (name : String) :
    (fr.declare name).1.locals = (fr.locals ++ [name]).eraseDups := by
  rw [declare_fst, eraseDups_append_singleton h]

theorem Frame.nodup_declare {fr : Frame} (h : fr.locals.Nodup) (name : String) :
    (fr.declare name).1.locals.Nodup := by
  rw [locals_declare h]
  exact nodup_eraseDups _

/-- The slot a name gets is its position among the locals. -/
theorem Frame.find_declare (fr : Frame) (name : String) :
    (fr.declare name).1.find name = some (fr.declare name).2 := by
  unfold Frame.declare
  split
  · next i h => exact h
  · next h =>
    rw [Frame.find, List.idxOf?_eq_some_iff]
    refine ⟨by simp, by simp, fun j hj heq => ?_⟩
    have hj' : j < fr.locals.length := hj
    rw [List.getElem_append_left hj'] at heq
    exact (List.idxOf?_eq_none_iff.1 h) (heq ▸ List.getElem_mem hj')

/-- In a frame without repeated locals, the local at position `i` has slot `i`. -/
theorem Frame.find_getElem {fr : Frame} (h : fr.locals.Nodup) {i : Nat} (hi : i < fr.locals.length) :
    fr.find fr.locals[i] = some i := by
  rw [Frame.find, List.idxOf?_eq_some_iff]
  exact ⟨hi, rfl, fun j hj heq => absurd ((List.getElem_inj h).1 heq) (by omega)⟩

/-! ## What each operation keeps -/

/-- An environment whose frames keep the parents, kinds and block levels of a tracked one and have
distinct locals is tracked, once its frame tree is a tree. -/
theorem Tracks.of_shape {e e' : Env} (h : e.Tracks) (hok : e'.Ok)
    (hshape : ∀ j, (e'.frame j).parent = (e.frame j).parent ∧ (e'.frame j).kind = (e.frame j).kind ∧
      (e'.frame j).blockDepth = (e.frame j).blockDepth)
    (hnodup : ∀ j, (e'.frame j).locals.Nodup) : e'.Tracks := by
  have hblock : ∀ j, (e'.frame j).isBlock = (e.frame j).isBlock := fun j => by
    simp only [Frame.isBlock, (hshape j).2.1]
  refine ⟨hok, hnodup, fun id q hq hb => ?_, fun id hb => ?_⟩
  · rw [(hshape id).1] at hq
    rw [hblock] at hb
    rw [(hshape id).2.2, (hshape q).2.2]
    exact h.blockDepth id q hq hb
  · rw [hblock] at hb
    rw [(hshape id).2.2]
    exact h.levelZero id hb

theorem Tracks.of_frames_eq {e e' : Env} (h : e.Tracks) (hf : e'.frames = e.frames) : e'.Tracks := by
  have hframe : ∀ j, e'.frame j = e.frame j := fun j => by unfold Env.frame; rw [hf]
  exact h.of_shape (h.ok.of_frames_eq hf) (fun j => by simp [hframe]) fun j => hframe j ▸ h.nodup j

/-- Changing one frame in a way that keeps its parent, kind and block level, its flip-flop
states' places and its locals distinct keeps the environment tracked. -/
theorem Tracks.modifyFrame {e : Env} (h : e.Tracks) {i : Nat} {g : Frame → Frame}
    (hparent : (g (e.frame i)).parent = (e.frame i).parent)
    (hkind : (g (e.frame i)).kind = (e.frame i).kind)
    (hdepth : (g (e.frame i)).blockDepth = (e.frame i).blockDepth)
    (hstates : (e.frame i).StatesOk → (g (e.frame i)).StatesOk)
    (hnodup : (e.frame i).locals.Nodup → (g (e.frame i)).locals.Nodup) :
    (e.modifyFrame i g).Tracks := by
  refine h.of_shape (h.ok.modifyFrame hparent hstates) (fun j => ?_) fun j => ?_
  · rw [frame_modifyFrame]
    split
    · next hij => obtain ⟨rfl, -⟩ := hij; exact ⟨hparent, hkind, hdepth⟩
    · exact ⟨rfl, rfl, rfl⟩
  · rw [frame_modifyFrame]
    split
    · next hij => obtain ⟨rfl, -⟩ := hij; exact hnodup (h.nodup i)
    · exact h.nodup j

theorem Tracks.declareLocal {e : Env} (h : e.Tracks) (i : Nat) (name : String) :
    (e.declareLocal i name).1.Tracks := by
  rw [declareLocal_eq]
  refine h.modifyFrame (by rw [Frame.declare_fst]) (by rw [Frame.declare_fst])
    (by rw [Frame.declare_fst]) (fun hs => ?_) fun hn => Frame.nodup_declare hn name
  exact hs.of_grows (frame_declare_grows _ name) (declare_fields _ name).2.2.2.2

theorem Tracks.allocTemp {e : Env} (h : e.Tracks) (i : Nat) (pfx : String) :
    (e.allocTemp i pfx).1.Tracks :=
  (h.of_frames_eq (frames_allocTempName e pfx)).declareLocal i _

theorem Tracks.allocFlipFlop {e : Env} (h : e.Tracks) {i : Nat} (hi : i < e.frames.size) :
    (e.allocFlipFlop i).1.Tracks := by
  have ht := h.allocTemp i "flipflop"
  refine ht.of_shape (h.ok.allocFlipFlop hi) (fun j => ?_) fun j => ?_
  · rw [allocFlipFlop_eq, frame_modifyFrame]
    split <;> exact ⟨rfl, rfl, rfl⟩
  · rw [allocFlipFlop_eq, frame_modifyFrame]
    split
    · next hij => obtain ⟨rfl, -⟩ := hij; exact ht.nodup i
    · exact ht.nodup j

theorem Tracks.resolveLocal {e : Env} (h : e.Tracks) {i : Nat} (hi : i < e.frames.size)
    (name : String) : (e.resolveLocal i name).1.Tracks := by
  have hm := (resolveLocal_resolves h.ok hi name).1
  refine h.of_shape (hm.ok h.ok) (fun j => ?_) fun j => hm.locals j ▸ h.nodup j
  rw [hm.frame j]
  exact ⟨rfl, rfl, rfl⟩

/-- The frames of an environment are the old ones and the new one after a push. -/
theorem frame_pushFrame (e : Env) (parent : Option Nat) (kind : FrameKind) (j : Nat) :
    (e.pushFrame parent kind).1.frame j = e.frame j ∨
      (j = e.frames.size ∧ (e.pushFrame parent kind).1.frame j =
        (e.pushFrame parent kind).1.frame e.frames.size) := by
  rcases Nat.lt_or_ge j e.frames.size with hj | hj
  · exact .inl (frame_pushFrame_old hj)
  · rcases Nat.eq_or_lt_of_le hj with rfl | hj
    · exact .inr ⟨rfl, rfl⟩
    · left
      rw [frame_eq_default (Nat.le_of_lt hj), frame_eq_default (by simp [frames_size_pushFrame]; omega)]

/-- A new frame under `p`: a block or lambda one block level below `p` with `p`'s method name,
any other frame at level zero with none. -/
theorem frame_pushFrame_level (e : Env) (p : Nat) (kind : FrameKind) :
    let fr := (e.pushFrame (some p) kind).1.frame e.frames.size
    fr.blockDepth = (if fr.isBlock then (e.frame p).blockDepth + 1 else 0) ∧
      fr.methodName = if fr.isBlock then (e.frame p).methodName else none := by
  dsimp only [pushFrame]
  split <;> simp_all [frame, Frame.fresh, Frame.isBlock]

theorem Tracks.pushFrame {e : Env} (h : e.Tracks) {p : Nat} (hp : p < e.frames.size)
    (kind : FrameKind) : (e.pushFrame (some p) kind).1.Tracks := by
  obtain ⟨hparent, -, hlocals, -⟩ := frame_pushFrame_new e (some p) kind
  obtain ⟨hdepth, -⟩ := frame_pushFrame_level e p kind
  refine ⟨h.ok.pushFrame hp kind, fun j => ?_, fun j q hq hb => ?_, fun j hb => ?_⟩
  · rcases frame_pushFrame e (some p) kind j with hj | ⟨rfl, -⟩
    · rw [hj]; exact h.nodup j
    · rw [hlocals]; exact List.nodup_nil
  · rcases frame_pushFrame e (some p) kind j with hj | ⟨rfl, -⟩
    · rw [hj] at hq hb ⊢
      have hq' : q < e.frames.size := Nat.lt_trans (h.ok.parent j q hq) (lt_size_of_parent hq)
      rw [h.blockDepth j q hq hb, frame_pushFrame_old hq']
    · rw [hparent] at hq
      cases hq
      rw [hdepth, if_pos hb, frame_pushFrame_old hp]
  · rcases frame_pushFrame e (some p) kind j with hj | ⟨rfl, -⟩
    · rw [hj] at hb ⊢; exact h.levelZero j hb
    · rw [hdepth, if_neg (by simpa using hb)]

/-- One operation on an existing frame keeps the environment tracked. -/
theorem Tracks.apply {e : Env} (h : e.Tracks) {o : EnvOp} (hv : o.frame < e.frames.size) :
    (o.apply e).Tracks := by
  cases o with
  | pushFrame p kind => exact h.pushFrame hv kind
  | declareLocal f name => exact h.declareLocal f name
  | allocTemp f pfx => exact h.allocTemp f pfx
  | allocFlipFlop f => exact h.allocFlipFlop hv
  | resolveLocal f name => exact h.resolveLocal hv name
  | setOwnScope f own => exact h.modifyFrame rfl rfl rfl id id

/-- A run keeps the environment tracked. -/
theorem Tracks.run {e : Env} (h : e.Tracks) : ∀ {ops : List EnvOp}, e.Valid ops → (e.run ops).Tracks
  | [], _ => h
  | _ :: _, ⟨hv, hvs⟩ => (h.apply hv).run hvs

/-! ## Locals in first-declaration order -/

theorem locals_pushFrame (e : Env) (parent : Option Nat) (kind : FrameKind) (j : Nat) :
    ((e.pushFrame parent kind).1.frame j).locals = (e.frame j).locals := by
  rcases frame_pushFrame e parent kind j with hj | ⟨rfl, -⟩
  · rw [hj]
  · rw [(frame_pushFrame_new e parent kind).2.2.1, frame_eq_default (Nat.le_refl _)]
    rfl

theorem locals_modifyFrame (e : Env) {i : Nat} {g : Frame → Frame}
    (hg : ∀ fr, (g fr).locals = fr.locals) (j : Nat) :
    ((e.modifyFrame i g).frame j).locals = (e.frame j).locals := by
  rw [frame_modifyFrame]
  split
  · next hij => obtain ⟨rfl, -⟩ := hij; exact hg _
  · rfl

theorem frame_allocTempName (e : Env) (pfx : String) (j : Nat) :
    (e.allocTempName pfx).1.frame j = e.frame j := rfl

theorem locals_declareLocal {e : Env} (h : e.Tracks) {f : Nat} (hf : f < e.frames.size)
    (name : String) (g : Nat) :
    ((e.declareLocal f name).1.frame g).locals =
      ((e.frame g).locals ++ if f = g then [name] else []).eraseDups := by
  rw [declareLocal_eq, frame_modifyFrame]
  split
  · next hfg =>
    obtain ⟨rfl, -⟩ := hfg
    rw [if_pos rfl, Frame.locals_declare (h.nodup f)]
  · next hfg =>
    rw [if_neg fun hfg' => hfg ⟨hfg', hfg' ▸ hf⟩, List.append_nil, eraseDups_eq_self (h.nodup g)]

/-- One operation on an existing frame adds to a frame's locals the names it declares there that
the frame does not have yet, in order. -/
theorem locals_apply {e : Env} (h : e.Tracks) {o : EnvOp} (hv : o.frame < e.frames.size) (g : Nat) :
    ((o.apply e).frame g).locals = ((e.frame g).locals ++ o.declares e g).eraseDups := by
  cases o with
  | pushFrame p kind =>
    simp only [EnvOp.apply, EnvOp.declares]
    rw [locals_pushFrame, List.append_nil, eraseDups_eq_self (h.nodup g)]
  | declareLocal f name => exact locals_declareLocal h hv name g
  | allocTemp f pfx =>
    have hf : f < e.frames.size := hv
    have ht := h.of_frames_eq (frames_allocTempName e pfx)
    simp only [EnvOp.apply, EnvOp.declares, allocTemp_eq]
    rw [locals_declareLocal ht (by simpa using hf), frame_allocTempName]
  | allocFlipFlop f =>
    have hf : f < e.frames.size := hv
    have ht := h.of_frames_eq (frames_allocTempName e "flipflop")
    simp only [EnvOp.apply, EnvOp.declares, allocFlipFlop_eq, allocTemp_eq]
    rw [locals_modifyFrame, locals_declareLocal ht (by simpa using hf), frame_allocTempName]
    intro fr
    rfl
  | resolveLocal f name =>
    have hf : f < e.frames.size := hv
    simp only [EnvOp.apply, EnvOp.declares]
    rw [(resolveLocal_resolves h.ok hf name).1.locals, List.append_nil, eraseDups_eq_self (h.nodup g)]
  | setOwnScope f own =>
    simp only [EnvOp.apply, EnvOp.declares]
    rw [locals_modifyFrame, List.append_nil, eraseDups_eq_self (h.nodup g)]
    intro fr
    rfl

/-- After a run, a frame's locals are its old ones followed by the names the run declared in it,
each kept at its first declaration. -/
theorem locals_run {e : Env} (h : e.Tracks) :
    ∀ {ops : List EnvOp}, e.Valid ops → ∀ g,
      ((e.run ops).frame g).locals = ((e.frame g).locals ++ e.declared g ops).eraseDups
  | [], _, g => by rw [run, declared, List.append_nil, eraseDups_eq_self (h.nodup g)]
  | o :: os, ⟨hv, hvs⟩, g => by
    rw [run, declared, locals_run (h.apply hv) hvs g, locals_apply h hv g,
      eraseDups_eraseDups_append, List.append_assoc]

/-! ## Declaring twice -/

theorem Frame.declare_of_find {fr : Frame} {name : String} {k : Nat} (h : fr.find name = some k) :
    fr.declare name = (fr, k) := by
  unfold Frame.declare
  rw [h]

theorem modifyFrame_self (e : Env) {i : Nat} (hi : i < e.frames.size) :
    e.modifyFrame i (fun _ => e.frame i) = e := by
  have hframes : e.frames.modify i (fun _ => e.frame i) = e.frames := by
    refine Array.ext (by simp) fun j hj _ => ?_
    rw [Array.getElem_modify]
    split
    · next hij => subst hij; simp [frame, hi]
    · rfl
  simp only [modifyFrame, hframes]

/-- Declaring a local that a frame already has gives its slot again and changes nothing. -/
theorem declareLocal_declareLocal (e : Env) {i : Nat} (hi : i < e.frames.size) (name : String) :
    (e.declareLocal i name).1.declareLocal i name = e.declareLocal i name := by
  have hframe : (e.declareLocal i name).1.frame i = ((e.frame i).declare name).1 := by
    rw [declareLocal_eq, frame_modifyFrame, if_pos ⟨rfl, hi⟩]
  have hsize : i < (e.declareLocal i name).1.frames.size := by
    simpa [declareLocal_eq] using hi
  -- the frame now has the name, at the slot the first declaration gave
  have hdecl : ((e.declareLocal i name).1.frame i).declare name =
      ((e.declareLocal i name).1.frame i, ((e.frame i).declare name).2) := by
    rw [hframe]
    exact Frame.declare_of_find (Frame.find_declare (e.frame i) name)
  rw [declareLocal_eq (e.declareLocal i name).1, hdecl]
  dsimp only
  rw [modifyFrame_self _ hsize]
  rfl

/-! ## Walks up the frame tree -/

/-- In a well-formed tree, a frame's chain is never longer than the number of frames. -/
theorem length_chain_le_size {e : Env} (hok : e.Ok) (id : Nat) : (e.chain id).length ≤ e.frames.size := by
  rcases Nat.lt_or_ge id e.frames.size with hid | hid
  · exact Nat.le_trans (length_chain_le e id) hid
  · -- a frame past the end is the default one, without parent
    rw [chain_of_ok hok, frame_eq_default hid]
    exact hok.root

/-- `climbWhile` stops where its loop does: at the first frame of the chain that fails the test,
or at the root, every frame before it passing the test. -/
theorem climbWhile_spec {e : Env} (hok : e.Ok) (keepGoing : Frame → Bool) :
    ∀ fuel id, (e.chain id).length ≤ fuel →
      ∃ k : Nat, (e.chain id)[k]? = some (e.climbWhile keepGoing fuel id) ∧
        (∀ i < k, ∀ j ∈ (e.chain id)[i]?, keepGoing (e.frame j) = true) ∧
        (keepGoing (e.frame (e.climbWhile keepGoing fuel id)) = true →
          (e.frame (e.climbWhile keepGoing fuel id)).parent = none) := by
  intro fuel
  induction fuel with
  | zero => intro id h; exact absurd h (by simpa using chain_ne_nil e id)
  | succ fuel ih =>
    intro id hlen
    unfold climbWhile
    split
    · next hkeep =>
      split
      · next p hp =>
        have hchain : e.chain id = id :: e.chain p := by rw [chain_of_ok hok, hp]
        obtain ⟨k, hk, hbefore, hstop⟩ := ih p (by rw [hchain] at hlen; simpa using hlen)
        refine ⟨k + 1, by rw [hchain]; simpa using hk, fun i hi j hj => ?_, hstop⟩
        rw [hchain] at hj
        cases i with
        | zero => simp only [List.getElem?_cons_zero, Option.mem_def, Option.some.injEq] at hj; exact hj ▸ hkeep
        | succ i => exact hbefore i (by omega) j (by simpa using hj)
      · next hp => exact ⟨0, getElem?_chain_zero e id, fun i hi => absurd hi (by omega), fun _ => hp⟩
    · next hkeep =>
      exact ⟨0, getElem?_chain_zero e id, fun i hi => absurd hi (by omega), fun h => absurd h hkeep⟩

/-- `ancestor` stops where its loop does: `depth` steps out, or at the root if that comes first. -/
theorem ancestor_spec {e : Env} (hok : e.Ok) :
    ∀ depth id, ∃ k ≤ depth, (e.chain id)[k]? = some (e.ancestor id depth) ∧
      (k < depth → (e.frame (e.ancestor id depth)).parent = none) := by
  intro depth
  induction depth with
  | zero => intro id; exact ⟨0, Nat.le_refl _, getElem?_chain_zero e id, fun h => absurd h (by omega)⟩
  | succ depth ih =>
    intro id
    unfold ancestor
    split
    · next p hp =>
      obtain ⟨k, hk, hget, hroot⟩ := ih p
      refine ⟨k + 1, by omega, ?_, fun h => hroot (by omega)⟩
      rw [chain_of_ok hok, hp]
      simpa using hget
    · next hp => exact ⟨0, by omega, getElem?_chain_zero e id, fun _ => hp⟩

/-- The frame where new locals of frame `id` go: the first frame of its chain with a scope of its
own, every frame before it having none, or the root. -/
theorem nearestOwnScope_spec {e : Env} (hok : e.Ok) (id : Nat) :
    ∃ k : Nat, (e.chain id)[k]? = some (e.nearestOwnScope id) ∧
      (∀ i < k, ∀ j ∈ (e.chain id)[i]?, (e.frame j).ownScope = false) ∧
      ((e.frame (e.nearestOwnScope id)).ownScope = true ∨
        (e.frame (e.nearestOwnScope id)).parent = none) := by
  obtain ⟨k, hk, hbefore, hstop⟩ :=
    climbWhile_spec hok (fun f => !f.ownScope) e.frames.size id (length_chain_le_size hok id)
  refine ⟨k, hk, fun i hi j hj => by simpa using hbefore i hi j hj, ?_⟩
  unfold nearestOwnScope
  cases hown : (e.frame (e.climbWhile (fun f => !f.ownScope) e.frames.size id)).ownScope with
  | true => exact .inl rfl
  | false => exact .inr (hstop (by simp [hown]))

/-- The method frame of frame `id`: the first frame of its chain that is not a block or lambda,
every frame before it being one, or the root. -/
theorem methodFrame_spec {e : Env} (hok : e.Ok) (id : Nat) :
    ∃ k : Nat, (e.chain id)[k]? = some (e.methodFrame id) ∧
      (∀ i < k, ∀ j ∈ (e.chain id)[i]?, (e.frame j).isBlock = true) ∧
      ((e.frame (e.methodFrame id)).isBlock = false ∨ (e.frame (e.methodFrame id)).parent = none) := by
  obtain ⟨k, hk, hbefore, hstop⟩ :=
    climbWhile_spec hok Frame.isBlock e.frames.size id (length_chain_le_size hok id)
  refine ⟨k, hk, hbefore, ?_⟩
  unfold methodFrame
  cases hblock : (e.frame (e.climbWhile Frame.isBlock e.frames.size id)).isBlock with
  | false => exact .inl rfl
  | true => exact .inr (hstop hblock)

/-! ## Resolving a local -/

/-- Frame `f` sees `name` in the frame `d` steps out along its chain, at slot `index`: the frames
before it are blocks or lambdas that do not declare the name, and that frame does. -/
def FindsAt (e : Env) (f : Nat) (name : String) (d index : Nat) : Prop :=
  (∀ k < d, ∀ j ∈ (e.chain f)[k]?, (e.frame j).isBlock = true ∧ (e.frame j).find name = none) ∧
    ∃ g ∈ (e.chain f)[d]?, (e.frame g).find name = some index

/-- A frame sees a name in at most one place. -/
theorem FindsAt.unique {e : Env} {f : Nat} {name : String} {d d' i i' : Nat}
    (h : e.FindsAt f name d i) (h' : e.FindsAt f name d' i') : d = d' ∧ i = i' := by
  obtain ⟨hb, g, hg, hi⟩ := h
  obtain ⟨hb', g', hg', hi'⟩ := h'
  have hd : d = d' := by
    rcases Nat.lt_trichotomy d d' with hlt | heq | hgt
    · rw [(hb' d hlt g hg).2] at hi; cases hi
    · exact heq
    · rw [(hb d' hgt g' hg').2] at hi'; cases hi'
  subst hd
  obtain rfl : g = g' := Option.some.inj (hg.symm.trans hg')
  exact ⟨rfl, Option.some.inj (hi.symm.trans hi')⟩

/-- `e'` is `e` with the frames `ids` marked as reaching into an enclosing frame, and nothing else
changed. -/
structure MarkedAt (e e' : Env) (ids : List Nat) : Prop where
  size : e'.frames.size = e.frames.size
  frame : ∀ j, e'.frame j =
    if j ∈ ids then { e.frame j with needsDeclarationFrame := true } else e.frame j
  rest : { e' with frames := e.frames } = e

namespace MarkedAt

theorem nil (e : Env) : e.MarkedAt e [] :=
  ⟨rfl, fun _ => rfl, rfl⟩

theorem mark {e : Env} {i : Nat} (hi : i < e.frames.size) :
    e.MarkedAt (e.modifyFrame i fun fr => { fr with needsDeclarationFrame := true }) [i] := by
  refine ⟨by simp, fun j => ?_, rfl⟩
  rw [frame_modifyFrame]
  by_cases hij : i = j
  · subst hij; simp [hi]
  · simp [hij, Ne.symm hij]

theorem trans {e e' e'' : Env} {ids ids' : List Nat} (h : e.MarkedAt e' ids)
    (h' : e'.MarkedAt e'' ids') : e.MarkedAt e'' (ids ++ ids') := by
  refine ⟨h'.size.trans h.size, fun j => ?_, ?_⟩
  · -- marking twice is marking once
    rw [h'.frame j, h.frame j]
    by_cases hj : j ∈ ids <;> by_cases hj' : j ∈ ids' <;> simp [hj, hj']
  · have hr : { e'' with frames := e.frames } = { e' with frames := e.frames } := by
      rw [← h'.rest]
    rw [hr, h.rest]

end MarkedAt

/-- A chain ends at a frame without parent. -/
theorem getElem?_chain_succ_none {e : Env} (hok : e.Ok) :
    ∀ {start depth cur : Nat}, (e.chain start)[depth]? = some cur →
      (e.frame cur).parent = none → (e.chain start)[depth + 1]? = none := by
  intro start depth
  induction depth generalizing start with
  | zero =>
    intro cur h hp
    rw [getElem?_chain_zero] at h
    cases h
    rw [chain_of_ok hok, hp]
    rfl
  | succ depth ih =>
    intro cur h hp
    rw [chain_of_ok hok] at h ⊢
    split at h
    · next q hq => simpa [hq] using ih (by simpa using h) hp
    · simp at h

/-- Marking from `id` up to the frame `d` steps out marks exactly the frames before it. -/
theorem markCrossed_marked {e : Env} (hok : e.Ok) {stop : Nat} :
    ∀ {fuel id d : Nat}, (e.chain id)[d]? = some stop → d ≤ fuel →
      e.MarkedAt (e.markCrossed stop fuel id) ((e.chain id).take d) := by
  intro fuel
  induction fuel generalizing e with
  | zero =>
    intro id d _ hd
    obtain rfl : d = 0 := by omega
    exact MarkedAt.nil e
  | succ fuel ih =>
    intro id d hstop hd
    unfold Env.markCrossed
    split
    · next hid =>
      -- the walk starts at the stop, which a chain holds only first
      subst hid
      obtain rfl : d = 0 := by
        by_contra hd0
        exact absurd (lt_of_getElem?_chain (Nat.pos_of_ne_zero hd0) hstop) (Nat.lt_irrefl _)
      exact MarkedAt.nil e
    · next hid =>
      obtain ⟨d, rfl⟩ : ∃ d', d = d' + 1 := by
        cases d with
        | zero => rw [getElem?_chain_zero] at hstop; exact absurd (Option.some.inj hstop) hid
        | succ d => exact ⟨d, rfl⟩
      split
      · next p hp =>
        have hchain : e.chain id = id :: e.chain p := by rw [chain_of_ok hok, hp]
        have hm := MarkedAt.mark (lt_size_of_parent hp)
        have hstop' : ((e.modifyFrame id fun fr => { fr with needsDeclarationFrame := true }).chain
            p)[d]? = some stop := by
          rw [(Marks.mark e id).chain p]; rw [hchain] at hstop; simpa using hstop
        have hrest := ih ((Marks.mark e id).ok hok) hstop' (by omega)
        rw [(Marks.mark e id).chain p] at hrest
        rw [hchain, List.take_succ_cons]
        exact hm.trans hrest
      · next hp =>
        rw [chain_of_ok hok, hp] at hstop
        simp at hstop

/-- Where the search stops without finding the name (a frame that is not a block, or one without
parent), no frame of the chain sees it. -/
theorem not_findsAt_of_stop {e : Env} (hok : e.Ok) {start cur depth : Nat} {name : String}
    (hcur : (e.chain start)[depth]? = some cur)
    (hbefore : ∀ k < depth, ∀ j ∈ (e.chain start)[k]?,
      (e.frame j).isBlock = true ∧ (e.frame j).find name = none)
    (hnone : (e.frame cur).find name = none)
    (hstop : (e.frame cur).isBlock = false ∨ (e.frame cur).parent = none) :
    ∀ d i, ¬ e.FindsAt start name d i := by
  rintro d i ⟨hb, g, hg, hi⟩
  rcases Nat.lt_trichotomy d depth with hlt | rfl | hgt
  · rw [(hbefore d hlt g hg).2] at hi; cases hi
  · obtain rfl : g = cur := Option.some.inj (hg.symm.trans hcur)
    rw [hnone] at hi; cases hi
  · rcases hstop with hstop | hstop
    · rw [(hb depth hgt cur hcur).1] at hstop; cases hstop
    · have hend := getElem?_chain_succ_none hok hcur hstop
      have hlen : (e.chain start).length ≤ depth + 1 := List.getElem?_eq_none_iff.1 hend
      rw [List.getElem?_eq_none (by omega)] at hg
      cases hg

/-- The search of `resolveFrom`, started at the frame `depth` steps out along the chain of
`start` past blocks and lambdas that do not declare the name, with fuel for the rest of the
chain: what it finds is where `start` sees the name, with the frames before marked; when it finds
nothing, `start` sees the name nowhere and nothing changed. -/
theorem resolveFrom_spec {e : Env} (hok : e.Ok) {start : Nat} (name : String) :
    ∀ fuel cur depth, (e.chain start)[depth]? = some cur → (e.chain start).length ≤ depth + fuel →
      (∀ k < depth, ∀ j ∈ (e.chain start)[k]?,
        (e.frame j).isBlock = true ∧ (e.frame j).find name = none) →
      (∀ slot ∈ (e.resolveFrom start name fuel cur depth).2, slot.name = name ∧
        e.FindsAt start name slot.depth slot.index ∧
        e.MarkedAt (e.resolveFrom start name fuel cur depth).1 ((e.chain start).take slot.depth)) ∧
      ((e.resolveFrom start name fuel cur depth).2 = none →
        (∀ d i, ¬ e.FindsAt start name d i) ∧ (e.resolveFrom start name fuel cur depth).1 = e) := by
  intro fuel
  induction fuel with
  | zero =>
    intro cur depth hcur hlen _
    have := (List.getElem?_eq_some_iff.1 hcur).1
    omega
  | succ fuel ih =>
    intro cur depth hcur hlen hbefore
    unfold Env.resolveFrom
    split
    · next i hfind =>
      refine ⟨fun slot hslot => ?_, fun h => by cases h⟩
      simp only [Option.mem_def, Option.some.injEq] at hslot
      subst hslot
      refine ⟨rfl, ⟨hbefore, cur, hcur, hfind⟩, ?_⟩
      dsimp only
      split
      · have hd : depth ≤ e.frames.size := by
          have := (List.getElem?_eq_some_iff.1 hcur).1
          have := length_chain_le_size hok start
          omega
        exact markCrossed_marked hok hcur hd
      · next hd =>
        obtain rfl : depth = 0 := by omega
        exact MarkedAt.nil e
    · next hfind =>
      split
      · next hblock =>
        split
        · next p hp =>
          refine ih p (depth + 1) (getElem?_chain_succ hok hcur hp) (by omega) fun k hk j hj => ?_
          rcases Nat.lt_or_ge k depth with hk' | hk'
          · exact hbefore k hk' j hj
          · obtain rfl : k = depth := by omega
            obtain rfl : j = cur := Option.some.inj (hj.symm.trans hcur)
            exact ⟨hblock, hfind⟩
        · next hp =>
          exact ⟨fun _ h => by simp at h, fun _ => ⟨not_findsAt_of_stop hok hcur hbefore hfind (.inr hp), rfl⟩⟩
      · next hblock =>
        exact ⟨fun _ h => by simp at h,
          fun _ => ⟨not_findsAt_of_stop hok hcur hbefore hfind (.inl (by simpa using hblock)), rfl⟩⟩

/-- Resolving `name` from frame `f` gives the slot where `f` sees it, at its depth along the chain,
and marks exactly the frames passed on the way; when `f` sees it nowhere, it gives nothing and
changes nothing. -/
theorem resolveLocal_spec {e : Env} (hok : e.Ok) (f : Nat) (name : String) :
    (∀ d index, (e.resolveLocal f name).2 = some ⟨name, index, d⟩ ↔ e.FindsAt f name d index) ∧
    (∀ slot ∈ (e.resolveLocal f name).2,
      e.MarkedAt (e.resolveLocal f name).1 ((e.chain f).take slot.depth)) ∧
    ((e.resolveLocal f name).2 = none → (e.resolveLocal f name).1 = e) := by
  have hlen : (e.chain f).length ≤ 0 + (e.frames.size + 1) := by
    have := length_chain_le_size hok f
    omega
  obtain ⟨hfound, hnone⟩ := resolveFrom_spec hok name _ f 0 (getElem?_chain_zero e f) hlen
    fun _ hk => absurd hk (Nat.not_lt_zero _)
  refine ⟨fun d index => ⟨fun h => (hfound _ h).2.1, fun h => ?_⟩,
    fun slot hslot => (hfound slot hslot).2.2, fun h => (hnone h).2⟩
  -- a slot is found, and where `f` sees the name is one place
  cases hres : (e.resolveLocal f name).2 with
  | none => exact absurd h ((hnone hres).1 d index)
  | some slot =>
    obtain ⟨hname, hat, -⟩ := hfound slot hres
    obtain ⟨hd, hi⟩ := hat.unique h
    obtain ⟨sname, sindex, sdepth⟩ := slot
    simp only at hname hd hi
    rw [hname, hd, hi]

/-! ## The laws of every run -/

/-- Whether each operation of a run names an existing frame can be computed. -/
instance decValid : (e : Env) → (ops : List EnvOp) → Decidable (e.Valid ops)
  | _, [] => isTrue trivial
  | e, o :: os =>
    have := decValid (o.apply e) os
    inferInstanceAs (Decidable (o.frame < e.frames.size ∧ (o.apply e).Valid os))

/-- The laws of the scope tracker that every environment a run reaches obeys. -/
structure ScopeLaws (e : Env) : Prop where
  /-- Every parent has a smaller id. -/
  parent_lt : ∀ id q, (e.frame id).parent = some q → q < id
  /-- `ancestor` goes `depth` steps out along the chain, or stops at the root. -/
  ancestor : ∀ id depth, ∃ k ≤ depth, (e.chain id)[k]? = some (e.ancestor id depth) ∧
    (k < depth → (e.frame (e.ancestor id depth)).parent = none)
  /-- `nearestOwnScope` is the first frame of the chain with a scope of its own, or the root. -/
  nearestOwnScope : ∀ id, ∃ k : Nat, (e.chain id)[k]? = some (e.nearestOwnScope id) ∧
    (∀ i < k, ∀ j ∈ (e.chain id)[i]?, (e.frame j).ownScope = false) ∧
    ((e.frame (e.nearestOwnScope id)).ownScope = true ∨ (e.frame (e.nearestOwnScope id)).parent = none)
  /-- `methodFrame` is the first frame of the chain that is not a block or lambda, or the root. -/
  methodFrame : ∀ id, ∃ k : Nat, (e.chain id)[k]? = some (e.methodFrame id) ∧
    (∀ i < k, ∀ j ∈ (e.chain id)[i]?, (e.frame j).isBlock = true) ∧
    ((e.frame (e.methodFrame id)).isBlock = false ∨ (e.frame (e.methodFrame id)).parent = none)
  /-- A block or lambda frame is one block level below its parent. -/
  blockDepth : ∀ id q, (e.frame id).parent = some q → (e.frame id).isBlock = true →
    (e.frame id).blockDepth = (e.frame q).blockDepth + 1
  /-- Any other frame is at block level zero. -/
  levelZero : ∀ id, (e.frame id).isBlock = false → (e.frame id).blockDepth = 0
  /-- A frame pushed now takes its block level and method name from its parent when it is a
  block or lambda, and has level zero and no method name otherwise. -/
  pushFrame : ∀ p kind, let fr := (e.pushFrame (some p) kind).1.frame e.frames.size
    fr.parent = some p ∧ fr.kind = kind ∧
    fr.blockDepth = (if fr.isBlock then (e.frame p).blockDepth + 1 else 0) ∧
    fr.methodName = if fr.isBlock then (e.frame p).methodName else none
  /-- The local at position `i` of a frame has slot `i`. -/
  slots : ∀ id i (hi : i < (e.frame id).locals.length), (e.frame id).find (e.frame id).locals[i] = some i
  /-- Declaring a local gives its slot, of depth zero, at its position among the frame's locals. -/
  declare : ∀ id < e.frames.size, ∀ name,
    (e.declareLocal id name).2.name = name ∧ (e.declareLocal id name).2.depth = 0 ∧
    ((e.declareLocal id name).1.frame id).find name = some (e.declareLocal id name).2.index
  /-- Declaring a local twice is declaring it once. -/
  declareTwice : ∀ id < e.frames.size, ∀ name,
    (e.declareLocal id name).1.declareLocal id name = e.declareLocal id name
  /-- Resolving a local gives where the frame sees it and marks exactly the frames passed on the
  way; finding nothing changes nothing. -/
  resolve : ∀ f name,
    (∀ d index, (e.resolveLocal f name).2 = some ⟨name, index, d⟩ ↔ e.FindsAt f name d index) ∧
    (∀ slot ∈ (e.resolveLocal f name).2,
      e.MarkedAt (e.resolveLocal f name).1 ((e.chain f).take slot.depth)) ∧
    ((e.resolveLocal f name).2 = none → (e.resolveLocal f name).1 = e)

/-- A tracked environment obeys the laws of the scope tracker. -/
theorem Tracks.scopeLaws {e : Env} (h : e.Tracks) : e.ScopeLaws := by
  refine ⟨h.ok.parent, fun id depth => ancestor_spec h.ok depth id, nearestOwnScope_spec h.ok,
    methodFrame_spec h.ok, h.blockDepth, h.levelZero, fun p kind => ?_,
    fun id i hi => Frame.find_getElem (h.nodup id) hi, fun id hid name => ⟨rfl, rfl, ?_⟩,
    fun id hid name => declareLocal_declareLocal e hid name, resolveLocal_spec h.ok⟩
  · obtain ⟨hparent, hkind, -⟩ := frame_pushFrame_new e (some p) kind
    exact ⟨hparent, hkind, frame_pushFrame_level e p kind⟩
  · rw [declareLocal_eq, frame_modifyFrame, if_pos ⟨rfl, hid⟩]
    exact Frame.find_declare _ name

/-- Every run of the scope tracker's operations from a fresh environment, each naming an
existing frame, reaches an environment that obeys the laws of the tracker, and whose frames hold
the names declared in them in first-declaration order, without repeats. -/
theorem scopeTracker_laws (ops : List EnvOp) (hv : initial.Valid ops) :
    (initial.run ops).ScopeLaws ∧
      ∀ id, ((initial.run ops).frame id).locals = (initial.declared id ops).eraseDups := by
  refine ⟨(Tracks.initial.run hv).scopeLaws, fun id => ?_⟩
  rw [locals_run Tracks.initial hv id]
  rcases frame_initial id with h | h <;> rw [h] <;> rfl

/-- A method frame declaring `x`, a block under it, and `x` resolved from the block. -/
theorem scopeTracker_laws_blockResolve :
    initial.Valid [.pushFrame 0 .method, .declareLocal 1 "x", .pushFrame 1 .block,
      .resolveLocal 2 "x"] ∧
    ((initial.run [.pushFrame 0 .method, .declareLocal 1 "x", .pushFrame 1 .block,
      .resolveLocal 2 "x"]).ScopeLaws ∧
      ∀ id, ((initial.run [.pushFrame 0 .method, .declareLocal 1 "x", .pushFrame 1 .block,
        .resolveLocal 2 "x"]).frame id).locals = (initial.declared id [.pushFrame 0 .method,
          .declareLocal 1 "x", .pushFrame 1 .block, .resolveLocal 2 "x"]).eraseDups) :=
  have hv : initial.Valid [.pushFrame 0 .method, .declareLocal 1 "x", .pushFrame 1 .block,
      .resolveLocal 2 "x"] := by decide
  ⟨hv, scopeTracker_laws _ hv⟩

end Env

end RubyLower
