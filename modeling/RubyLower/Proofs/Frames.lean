import RubyLower.Scope.Env
import RubyLower.Proofs.SlotScope

/-!
# The frame tree as a lowering grows it

A lowering only ever adds to the frame tree: new frames under existing ones, new locals after the
old ones, crossing marks, flip-flop states. `Env.Grows e e'` records that, frame by frame
(`Frame.Grows`), and `Env.Ok` that the tree is a tree: every parent has a smaller id. Then the
chain of frames around a frame (`Env.chain`) is fixed once the frame exists, and the scopes along
it (`Env.scopes`) only learn more (`Env.Grows.scopes`), which is what keeps a slot valid once it
points somewhere.

The second half takes the environment's operations one by one. The one with content is
`Env.resolveLocal`: the slot it finds points into the scopes of the frame it starts from, because
it walks that frame's chain through blocks and lambdas only, and marks each frame it passes
(`resolveLocal_resolves`).
-/

namespace RubyLower

/-- The kind of unit whose body a frame of this kind tracks. -/
def FrameKind.unitKind : FrameKind → UnitKind
  | .topLevel => .topLevel
  | .method => .method
  | .block => .proc
  | .lambda => .lambda
  | .moduleBody => .moduleBody

namespace Frame

/-- What the slots of a frame's unit know of it so far. -/
def scope (fr : Frame) : Scope :=
  { kind := fr.kind.unitKind, locals := fr.locals,
    needsDeclarationFrame := fr.needsDeclarationFrame, inits := fr.flipFlopStates }

/-- `fr'` is `fr` later in a lowering: the same parent, kind and return id, more locals and
flip-flop states after the old ones, and the crossing mark kept. -/
structure Grows (fr fr' : Frame) : Prop where
  parent : fr'.parent = fr.parent
  kind : fr'.kind = fr.kind
  returnId : fr'.returnId = fr.returnId
  locals : fr.locals <+: fr'.locals
  crossed : fr.needsDeclarationFrame = true → fr'.needsDeclarationFrame = true
  inits : fr.flipFlopStates <+: fr'.flipFlopStates

theorem Grows.refl (fr : Frame) : fr.Grows fr :=
  ⟨rfl, rfl, rfl, List.prefix_refl _, fun h => h, List.prefix_refl _⟩

theorem Grows.trans {fr fr' fr'' : Frame} (h : fr.Grows fr') (h' : fr'.Grows fr'') :
    fr.Grows fr'' :=
  ⟨h'.parent.trans h.parent, h'.kind.trans h.kind, h'.returnId.trans h.returnId,
    h.locals.trans h'.locals, h'.crossed ∘ h.crossed, h.inits.trans h'.inits⟩

theorem Grows.scope {fr fr' : Frame} (h : fr.Grows fr') : fr.scope.Le fr'.scope :=
  ⟨by simp [Frame.scope, h.kind], h.locals, fun ⟨hk, hc⟩ => ⟨by simpa [Frame.scope, h.kind] using hk,
    h.crossed hc⟩, h.inits.subset⟩

/-- Every flip-flop state of a frame is a local of the frame itself. -/
def StatesOk (fr : Frame) : Prop :=
  ∀ slot ∈ fr.flipFlopStates, slot.depth = 0 ∧ fr.locals[slot.index]? = some slot.name

theorem StatesOk.of_grows {fr fr' : Frame} (h : fr.StatesOk) (hg : fr.Grows fr')
    (hs : fr'.flipFlopStates = fr.flipFlopStates) : fr'.StatesOk := by
  intro slot hslot
  obtain ⟨hd, hl⟩ := h slot (hs ▸ hslot)
  exact ⟨hd, getElem?_of_prefix hg.locals hl⟩

/-- The slot found for a name is a local of that name. -/
theorem getElem?_of_find {fr : Frame} {name : String} {i : Nat} (h : fr.find name = some i) :
    fr.locals[i]? = some name := by
  obtain ⟨hlt, heq, -⟩ := List.idxOf?_eq_some_iff.1 h
  simp [List.getElem?_eq_getElem hlt, heq]

end Frame

namespace Env

theorem frame_eq_default {e : Env} {id : Nat} (h : e.frames.size ≤ id) : e.frame id = default := by
  simp [frame, Array.getElem?_eq_none h]

/-- The ids of a frame and of the frames around it, innermost first; a parent that is not below
its child ends the chain. -/
def chain (e : Env) (id : Nat) : List Nat :=
  id :: match (e.frame id).parent with
    | some p => if p < id then e.chain p else []
    | none => []
termination_by id

/-- The scopes of a frame and of the frames around it, innermost first. -/
def scopes (e : Env) (id : Nat) : List Scope :=
  (e.chain id).map fun j => (e.frame j).scope

/-- The frame tree is a tree: the program's frame exists, and every parent has a smaller id. Each
frame's flip-flop states are its own locals. -/
structure Ok (e : Env) : Prop where
  root : 0 < e.frames.size
  parent : ∀ id q, (e.frame id).parent = some q → q < id
  states : ∀ id, (e.frame id).StatesOk

/-- `e'` is `e` later in a lowering: no frame is lost and each frame grows. -/
structure Grows (e e' : Env) : Prop where
  size : e.frames.size ≤ e'.frames.size
  frame : ∀ id < e.frames.size, (e.frame id).Grows (e'.frame id)

/-- No frame of `e` has a different break id in `e'`. -/
def SameBreaks (e e' : Env) : Prop :=
  ∀ id < e.frames.size, (e'.frame id).breakId = (e.frame id).breakId

theorem Grows.refl (e : Env) : e.Grows e :=
  ⟨Nat.le_refl _, fun _ _ => Frame.Grows.refl _⟩

theorem Grows.trans {e e' e'' : Env} (h : e.Grows e') (h' : e'.Grows e'') : e.Grows e'' :=
  ⟨Nat.le_trans h.size h'.size, fun id hid => (h.frame id hid).trans (h'.frame id (by have := h.size; omega))⟩

theorem SameBreaks.refl (e : Env) : e.SameBreaks e := fun _ _ => rfl

theorem SameBreaks.trans {e e' e'' : Env} (hg : e.Grows e') (h : e.SameBreaks e')
    (h' : e'.SameBreaks e'') : e.SameBreaks e'' :=
  fun id hid => (h' id (by have := hg.size; omega)).trans (h id hid)

theorem Grows.of_frames_eq {e e' : Env} (h : e'.frames = e.frames) : e.Grows e' := by
  have hf : ∀ id, e'.frame id = e.frame id := fun id => by unfold Env.frame; rw [h]
  exact ⟨h ▸ Nat.le_refl _, fun id _ => hf id ▸ Frame.Grows.refl _⟩

theorem SameBreaks.of_frames_eq {e e' : Env} (h : e'.frames = e.frames) : e.SameBreaks e' :=
  fun id _ => by unfold Env.frame; rw [h]

theorem Ok.of_frames_eq {e e' : Env} (h : e'.frames = e.frames) (hok : e.Ok) : e'.Ok := by
  have hf : ∀ id, e'.frame id = e.frame id := fun id => by unfold Env.frame; rw [h]
  exact ⟨h ▸ hok.root, fun id q hq => hok.parent id q (hf id ▸ hq), fun id => hf id ▸ hok.states id⟩

/-! ## Chains -/

theorem chain_of_ok {e : Env} (hok : e.Ok) (id : Nat) :
    e.chain id = id :: match (e.frame id).parent with
      | some p => e.chain p
      | none => [] := by
  rw [chain]
  split
  · next p hp => rw [if_pos (hok.parent id p hp)]
  · rfl

theorem chain_ne_nil (e : Env) (id : Nat) : e.chain id ≠ [] := by
  rw [chain]; simp

theorem getElem?_chain_zero (e : Env) (id : Nat) : (e.chain id)[0]? = some id := by
  rw [chain]; rfl

/-- Every frame of a chain is at most its first. -/
theorem le_of_mem_chain {e : Env} : ∀ {id j : Nat}, j ∈ e.chain id → j ≤ id := by
  intro id
  induction id using Nat.strongRecOn with
  | ind id ih =>
    intro j hj
    rw [chain] at hj
    rcases List.mem_cons.1 hj with rfl | hj
    · exact Nat.le_refl _
    · split at hj
      · next p _ =>
        split at hj
        · next hp => exact Nat.le_trans (ih p hp hj) (Nat.le_of_lt hp)
        · simp at hj
      · simp at hj

/-- Past its first frame, a chain holds only smaller ids. -/
theorem lt_of_getElem?_chain {e : Env} {id j k : Nat} (hk : 0 < k) (h : (e.chain id)[k]? = some j) :
    j < id := by
  rw [chain] at h
  obtain ⟨k, rfl⟩ : ∃ k', k = k' + 1 := ⟨k - 1, by omega⟩
  simp only [List.getElem?_cons_succ] at h
  split at h
  · next p _ =>
    split at h
    · next hp => exact Nat.lt_of_le_of_lt (le_of_mem_chain (List.mem_of_getElem? h)) hp
    · simp at h
  · simp at h

/-- A chain grows no longer than its first id allows. -/
theorem length_chain_le (e : Env) (id : Nat) : (e.chain id).length ≤ id + 1 := by
  induction id using Nat.strongRecOn with
  | ind id ih =>
    rw [chain]
    split
    · next p _ =>
      split
      · next hp => simpa using Nat.le_trans (ih p hp) (by omega)
      · simp
    · simp

/-- Frames that keep their parents keep their chains. -/
theorem Grows.chain {e e' : Env} (hg : e.Grows e') :
    ∀ {id : Nat}, id < e.frames.size → e'.chain id = e.chain id := by
  intro id
  induction id using Nat.strongRecOn with
  | ind id ih =>
    intro hid
    unfold Env.chain
    rw [(hg.frame id hid).parent]
    split
    · next p _ =>
      split
      · next hp => rw [ih p hp (by omega)]
      · rfl
    · rfl

theorem mem_chain_lt_size {e : Env} {id j : Nat} (hid : id < e.frames.size) (hj : j ∈ e.chain id) :
    j < e.frames.size :=
  Nat.lt_of_le_of_lt (le_of_mem_chain hj) hid

/-- The scopes around an existing frame only learn more. -/
theorem Grows.scopes {e e' : Env} (hg : e.Grows e') {id : Nat} (hid : id < e.frames.size) :
    List.Forall₂ Scope.Le (e.scopes id) (e'.scopes id) := by
  unfold Env.scopes
  rw [hg.chain hid, List.forall₂_map_left_iff, List.forall₂_map_right_iff]
  refine List.forall₂_same.2 fun j hj => ?_
  exact (hg.frame j (mem_chain_lt_size hid hj)).scope

theorem getElem?_scopes {e : Env} {id k : Nat} :
    (e.scopes id)[k]? = ((e.chain id)[k]?).map fun j => (e.frame j).scope := by
  simp [scopes]

theorem head?_scopes (e : Env) (id : Nat) : (e.scopes id).head? = some (e.frame id).scope := by
  rw [List.head?_eq_getElem?, getElem?_scopes, getElem?_chain_zero]
  rfl

/-- A local of a frame itself is a slot of depth zero there. -/
theorem resolvesIn_of_local {e : Env} {id index : Nat} {name : String}
    (h : (e.frame id).locals[index]? = some name) : Slot.ResolvesIn ⟨name, index, 0⟩ (e.scopes id) :=
  ⟨⟨(e.frame id).scope, by simp [getElem?_scopes, getElem?_chain_zero], h⟩,
    fun _ hk => absurd hk (Nat.not_lt_zero _)⟩

/-! ## Changing one frame -/

theorem frame_modifyFrame (e : Env) (i j : Nat) (f : Frame → Frame) :
    (e.modifyFrame i f).frame j = if i = j ∧ j < e.frames.size then f (e.frame j) else e.frame j := by
  simp only [frame, modifyFrame, Array.getElem?_modify]
  by_cases hij : i = j
  · subst hij
    by_cases hj : i < e.frames.size
    · simp [hj]
    · simp [hj]
  · simp [hij]

@[simp] theorem frames_size_modifyFrame (e : Env) (i : Nat) (f : Frame → Frame) :
    (e.modifyFrame i f).frames.size = e.frames.size := by
  simp [modifyFrame]

theorem Grows.modifyFrame {e : Env} {i : Nat} {f : Frame → Frame}
    (hf : (e.frame i).Grows (f (e.frame i))) : e.Grows (e.modifyFrame i f) := by
  refine ⟨by simp, fun j _ => ?_⟩
  rw [frame_modifyFrame]
  split
  · next h => exact h.1 ▸ hf
  · exact Frame.Grows.refl _

theorem SameBreaks.modifyFrame {e : Env} {i : Nat} {f : Frame → Frame}
    (hf : (f (e.frame i)).breakId = (e.frame i).breakId) : e.SameBreaks (e.modifyFrame i f) := by
  intro j _
  rw [frame_modifyFrame]
  split
  · next h => exact h.1 ▸ hf
  · rfl

theorem Ok.modifyFrame {e : Env} {i : Nat} {f : Frame → Frame}
    (hf : (f (e.frame i)).parent = (e.frame i).parent)
    (hs : (e.frame i).StatesOk → (f (e.frame i)).StatesOk) (hok : e.Ok) : (e.modifyFrame i f).Ok := by
  refine ⟨by simpa using hok.root, fun j q hq => ?_, fun j => ?_⟩
  · rw [frame_modifyFrame] at hq
    split at hq
    · next h =>
      obtain ⟨rfl, -⟩ := h
      rw [hf] at hq
      exact hok.parent _ q hq
    · exact hok.parent j q hq
  · rw [frame_modifyFrame]
    split
    · next h => exact h.1 ▸ hs (hok.states i)
    · exact hok.states j

/-- A change to a frame made after `e0` leaves what grew from `e0` grown, when the frame is new
or the change keeps what grows. -/
theorem Grows.modifyFrame_new {e0 e : Env} {i : Nat} {f : Frame → Frame} (hg : e0.Grows e)
    (hi : e0.frames.size ≤ i) : e0.Grows (e.modifyFrame i f) := by
  refine ⟨by simpa using hg.size, fun j hj => ?_⟩
  rw [frame_modifyFrame]
  split
  · next h => omega
  · exact hg.frame j hj

theorem SameBreaks.modifyFrame_new {e0 e : Env} {i : Nat} {f : Frame → Frame}
    (h : e0.SameBreaks e) (hi : e0.frames.size ≤ i) : e0.SameBreaks (e.modifyFrame i f) := by
  intro j hj
  rw [frame_modifyFrame]
  split
  · next h => omega
  · exact h j hj

/-! ## New frames -/

theorem pushFrame_id (e : Env) (parent : Option Nat) (kind : FrameKind) :
    (e.pushFrame parent kind).2 = e.frames.size := rfl

theorem frames_size_pushFrame (e : Env) (parent : Option Nat) (kind : FrameKind) :
    (e.pushFrame parent kind).1.frames.size = e.frames.size + 1 := by
  dsimp only [pushFrame]; split <;> (try split) <;> simp

theorem frame_pushFrame_old {e : Env} {parent : Option Nat} {kind : FrameKind} {j : Nat}
    (hj : j < e.frames.size) : (e.pushFrame parent kind).1.frame j = e.frame j := by
  dsimp only [pushFrame]
  split <;> (try split) <;> simp [frame, Array.getElem?_push, Nat.ne_of_lt hj]

/-- The new frame: its parent and kind as asked, no locals, no flip-flop states, no crossing
mark, no return or break id yet. -/
theorem frame_pushFrame_new (e : Env) (parent : Option Nat) (kind : FrameKind) :
    let fr := (e.pushFrame parent kind).1.frame e.frames.size
    fr.parent = parent ∧ fr.kind = kind ∧ fr.locals = [] ∧ fr.flipFlopStates = [] ∧
      fr.needsDeclarationFrame = false ∧ fr.returnId = none ∧ fr.breakId = none := by
  dsimp only [pushFrame]
  split <;> (try split) <;> simp [frame, Frame.fresh]

theorem Grows.pushFrame (e : Env) (parent : Option Nat) (kind : FrameKind) :
    e.Grows (e.pushFrame parent kind).1 :=
  ⟨by simp [frames_size_pushFrame], fun _ hj => frame_pushFrame_old hj ▸ Frame.Grows.refl _⟩

theorem SameBreaks.pushFrame (e : Env) (parent : Option Nat) (kind : FrameKind) :
    e.SameBreaks (e.pushFrame parent kind).1 :=
  fun _ hj => by rw [frame_pushFrame_old hj]

theorem Ok.pushFrame {e : Env} {p : Nat} (hok : e.Ok) (hp : p < e.frames.size) (kind : FrameKind) :
    (e.pushFrame (some p) kind).1.Ok := by
  refine ⟨by simp [frames_size_pushFrame], fun j q hq => ?_, fun j => ?_⟩
  · rcases Nat.lt_or_ge j e.frames.size with hj | hj
    · exact hok.parent j q (frame_pushFrame_old hj ▸ hq)
    · rcases Nat.eq_or_lt_of_le hj with rfl | hj
      · rw [(frame_pushFrame_new e (some p) kind).1] at hq
        exact Option.some.inj hq ▸ hp
      · rw [frame_eq_default (by simp [frames_size_pushFrame]; omega)] at hq
        cases hq
  · rcases Nat.lt_or_ge j e.frames.size with hj | hj
    · exact frame_pushFrame_old hj ▸ hok.states j
    · rcases Nat.eq_or_lt_of_le hj with rfl | hj
      · intro slot hslot
        rw [(frame_pushFrame_new e (some p) kind).2.2.2.1] at hslot
        cases hslot
      · rw [frame_eq_default (by simp [frames_size_pushFrame]; omega)]
        intro slot hslot
        cases hslot

/-! ## Locals -/

theorem declareLocal_eq (e : Env) (i : Nat) (name : String) :
    e.declareLocal i name =
      (e.modifyFrame i fun _ => ((e.frame i).declare name).1,
        ⟨name, ((e.frame i).declare name).2, 0⟩) := rfl

theorem declare_fields (fr : Frame) (name : String) :
    ((fr.declare name).1.parent = fr.parent ∧ (fr.declare name).1.kind = fr.kind ∧
      (fr.declare name).1.breakId = fr.breakId ∧ (fr.declare name).1.returnId = fr.returnId ∧
      (fr.declare name).1.flipFlopStates = fr.flipFlopStates) := by
  unfold Frame.declare
  split <;> exact ⟨rfl, rfl, rfl, rfl, rfl⟩

/-- Declaring a local gives its slot, of depth zero, in the frame it is declared in. -/
theorem declareLocal_slot (e : Env) {i : Nat} (name : String) (hi : i < e.frames.size) :
    ∃ index, (e.declareLocal i name).2 = ⟨name, index, 0⟩ ∧
      ((e.declareLocal i name).1.frame i).locals[index]? = some name := by
  refine ⟨_, rfl, ?_⟩
  rw [declareLocal_eq, frame_modifyFrame, if_pos ⟨rfl, hi⟩]
  unfold Frame.declare
  split
  · next h => exact Frame.getElem?_of_find h
  · simp

theorem frame_declare_grows (fr : Frame) (name : String) : fr.Grows (fr.declare name).1 := by
  unfold Frame.declare
  split
  · exact Frame.Grows.refl _
  · exact ⟨rfl, rfl, rfl, List.prefix_append _ _, fun h => h, List.prefix_refl _⟩

theorem Grows.declareLocal (e : Env) (i : Nat) (name : String) : e.Grows (e.declareLocal i name).1 :=
  declareLocal_eq e i name ▸ Grows.modifyFrame (frame_declare_grows _ name)

theorem SameBreaks.declareLocal (e : Env) (i : Nat) (name : String) :
    e.SameBreaks (e.declareLocal i name).1 :=
  declareLocal_eq e i name ▸ SameBreaks.modifyFrame (declare_fields _ name).2.2.1

theorem Ok.declareLocal {e : Env} (hok : e.Ok) (i : Nat) (name : String) :
    (e.declareLocal i name).1.Ok :=
  declareLocal_eq e i name ▸ hok.modifyFrame (declare_fields _ name).1
    fun h => h.of_grows (frame_declare_grows _ name) (declare_fields _ name).2.2.2.2

/-! ## Crossing marks -/

/-- `e'` is `e` with some frames marked as reaching into an enclosing frame, and nothing else
changed. -/
structure Marks (e e' : Env) : Prop where
  size : e'.frames.size = e.frames.size
  frame : ∀ j, e'.frame j =
    { e.frame j with needsDeclarationFrame := (e'.frame j).needsDeclarationFrame }
  crossed : ∀ j, (e.frame j).needsDeclarationFrame = true → (e'.frame j).needsDeclarationFrame = true

namespace Marks

theorem refl (e : Env) : e.Marks e :=
  ⟨rfl, fun _ => rfl, fun _ h => h⟩

theorem trans {e e' e'' : Env} (h : e.Marks e') (h' : e'.Marks e'') : e.Marks e'' :=
  ⟨h'.size.trans h.size, fun j => by rw [h'.frame j, h.frame j], fun j hj => h'.crossed j (h.crossed j hj)⟩

theorem mark (e : Env) (i : Nat) :
    e.Marks (e.modifyFrame i fun f => { f with needsDeclarationFrame := true }) := by
  refine ⟨by simp, fun j => ?_, fun j hj => ?_⟩
  · rw [frame_modifyFrame]; split <;> rfl
  · rw [frame_modifyFrame]; split
    · rfl
    · exact hj

theorem grows {e e' : Env} (h : e.Marks e') : e.Grows e' := by
  refine ⟨Nat.le_of_eq h.size.symm, fun j _ => ?_⟩
  rw [h.frame j]
  exact ⟨rfl, rfl, rfl, List.prefix_refl _, h.crossed j, List.prefix_refl _⟩

theorem sameBreaks {e e' : Env} (h : e.Marks e') : e.SameBreaks e' :=
  fun j _ => by rw [h.frame j]

theorem ok {e e' : Env} (h : e.Marks e') (hok : e.Ok) : e'.Ok :=
  ⟨h.size ▸ hok.root, fun j q hq => hok.parent j q (by rw [h.frame j] at hq; exact hq),
    fun j => by rw [h.frame j]; exact hok.states j⟩

theorem locals {e e' : Env} (h : e.Marks e') (j : Nat) : (e'.frame j).locals = (e.frame j).locals := by
  rw [h.frame j]

theorem kind {e e' : Env} (h : e.Marks e') (j : Nat) : (e'.frame j).kind = (e.frame j).kind := by
  rw [h.frame j]

theorem chain {e e' : Env} (h : e.Marks e') : ∀ id, e'.chain id = e.chain id := by
  intro id
  induction id using Nat.strongRecOn with
  | ind id ih =>
    have hparent : (e'.frame id).parent = (e.frame id).parent := by rw [h.frame id]
    unfold Env.chain
    rw [hparent]
    split
    · next p _ =>
      split
      · next hp => rw [ih p hp]
      · rfl
    · rfl

end Marks

theorem lt_size_of_parent {e : Env} {id p : Nat} (hp : (e.frame id).parent = some p) :
    id < e.frames.size := by
  by_contra h
  rw [frame_eq_default (by omega)] at hp
  cases hp

theorem Marks.markCrossed (e : Env) (stop : Nat) :
    ∀ fuel id, e.Marks (e.markCrossed stop fuel id) := by
  intro fuel
  induction fuel generalizing e with
  | zero => intro id; exact Marks.refl e
  | succ fuel ih =>
    intro id
    unfold Env.markCrossed
    split
    · exact Marks.refl e
    · split
      · exact (Marks.mark e id).trans (ih _ _)
      · exact Marks.mark e id

/-- The next frame of a chain is the parent of the one before. -/
theorem getElem?_chain_succ {e : Env} (hok : e.Ok) :
    ∀ {start depth cur p : Nat}, (e.chain start)[depth]? = some cur →
      (e.frame cur).parent = some p → (e.chain start)[depth + 1]? = some p := by
  intro start depth
  induction depth generalizing start with
  | zero =>
    intro cur p h hp
    rw [getElem?_chain_zero] at h
    cases h
    rw [chain_of_ok hok, hp]
    simp [getElem?_chain_zero]
  | succ depth ih =>
    intro cur p h hp
    rw [chain_of_ok hok] at h ⊢
    split at h
    · next q hq => simpa [hq] using ih (by simpa using h) hp
    · simp at h

/-- Marking from `id` up to the frame `d` steps out marks every frame before it. -/
theorem markCrossed_crossed {e : Env} (hok : e.Ok) {stop : Nat} :
    ∀ {fuel id d : Nat}, (e.chain id)[d]? = some stop → d ≤ fuel →
      ∀ k < d, ∀ j ∈ (e.chain id)[k]?,
        ((e.markCrossed stop fuel id).frame j).needsDeclarationFrame = true := by
  intro fuel
  induction fuel generalizing e with
  | zero => intro id d _ hd k hk; omega
  | succ fuel ih =>
    intro id d hstop hd k hk j hj
    unfold Env.markCrossed
    split
    · next hid =>
      subst hid
      have := lt_of_getElem?_chain (by omega) hstop
      omega
    · next hid =>
      have hm := Marks.mark e id
      split
      · next p hp =>
        have hchain : e.chain id = id :: e.chain p := by rw [chain_of_ok hok, hp]
        obtain ⟨d, rfl⟩ : ∃ d', d = d' + 1 := by
          cases d with
          | zero => rw [getElem?_chain_zero] at hstop; exact absurd (Option.some.inj hstop) hid
          | succ d => exact ⟨d, rfl⟩
        rw [hchain] at hstop hj
        have hchain' := hm.chain p
        cases k with
        | zero =>
          simp only [List.getElem?_cons_zero, Option.mem_def, Option.some.injEq] at hj
          subst hj
          apply (Marks.markCrossed _ stop fuel p).crossed
          simp [frame_modifyFrame, lt_size_of_parent hp]
        | succ k =>
          exact ih (hm.ok hok) (by rw [hchain']; simpa using hstop) (by omega) k (by omega) j
            (by rw [hchain']; simpa using hj)
      · next hp =>
        -- a frame without a parent ends the chain, so only `d = 0` is left, with nothing to mark
        rw [chain_of_ok hok, hp] at hstop
        cases d with
        | zero => omega
        | succ d => simp at hstop


/-! ## Resolving a local -/

theorem Frame.crossable_scope {fr : Frame} (hb : fr.isBlock = true)
    (hn : fr.needsDeclarationFrame = true) : fr.scope.Crossable := by
  refine ⟨?_, hn⟩
  simp only [Frame.isBlock, Bool.or_eq_true, beq_iff_eq] at hb
  rcases hb with h | h <;> simp [Frame.scope, FrameKind.unitKind, h]

theorem Marks.isBlock {e e' : Env} (h : e.Marks e') (j : Nat) :
    (e'.frame j).isBlock = (e.frame j).isBlock := by
  simp only [Frame.isBlock, h.kind j]

/-- The search of `resolveFrom`: started from frame `cur`, `depth` steps out along the chain of
`start` past blocks and lambdas only, it only marks frames, and what it finds is a slot of the
name that points into the scopes of `start`. -/
theorem resolveFrom_resolves {e : Env} (hok : e.Ok) {start : Nat} (hstart : start < e.frames.size)
    (name : String) :
    ∀ fuel cur depth, (e.chain start)[depth]? = some cur →
      (∀ k < depth, ∀ j ∈ (e.chain start)[k]?, (e.frame j).isBlock = true) →
      e.Marks (e.resolveFrom start name fuel cur depth).1 ∧
        ∀ s ∈ (e.resolveFrom start name fuel cur depth).2,
          s.name = name ∧ s.ResolvesIn ((e.resolveFrom start name fuel cur depth).1.scopes start) := by
  intro fuel
  induction fuel with
  | zero => intro _ _ _ _; exact ⟨Marks.refl e, by simp [resolveFrom]⟩
  | succ fuel ih =>
    intro cur depth hcur hblocks
    unfold Env.resolveFrom
    split
    · next i hfind =>
      -- found in `cur`: the frames passed on the way are marked, unless there are none
      set e' := if 0 < depth then e.markCrossed cur e.frames.size start else e with he'
      have hm : e.Marks e' := by
        rw [he']
        split
        · exact Marks.markCrossed e cur _ start
        · exact Marks.refl e
      refine ⟨hm, fun s hs => ?_⟩
      simp only [Option.mem_def, Option.some.injEq] at hs
      subst hs
      refine ⟨rfl, ⟨(e'.frame cur).scope, by simp [getElem?_scopes, hm.chain, hcur], ?_⟩,
        fun k hk u hu => ?_⟩
      · simpa [Frame.scope, hm.locals] using Frame.getElem?_of_find hfind
      · rw [getElem?_scopes, hm.chain, Option.mem_def, Option.map_eq_some_iff] at hu
        obtain ⟨j, hj, rfl⟩ := hu
        have hdepth : depth ≤ e.frames.size := by
          have := (List.getElem?_eq_some_iff.1 hcur).1
          have := length_chain_le e start
          omega
        refine Frame.crossable_scope (by rw [hm.isBlock]; exact hblocks k hk j hj) ?_
        rw [he', if_pos (Nat.zero_lt_of_lt hk)]
        exact markCrossed_crossed hok hcur hdepth k hk j hj
    · next hfind =>
      split
      · next hblock =>
        split
        · next p hp =>
          refine ih p (depth + 1) (getElem?_chain_succ hok hcur hp) fun k hk j hj => ?_
          rcases Nat.lt_or_ge k depth with hk' | hk'
          · exact hblocks k hk' j hj
          · obtain rfl : k = depth := by omega
            rw [hcur, Option.mem_def, Option.some.injEq] at hj
            exact hj ▸ hblock
        · exact ⟨Marks.refl e, by simp⟩
      · exact ⟨Marks.refl e, by simp⟩

/-- Resolving a local from an existing frame only marks frames, and what it finds is a slot of
that name pointing into the frame's scopes. -/
theorem resolveLocal_resolves {e : Env} (hok : e.Ok) {id : Nat} (hid : id < e.frames.size)
    (name : String) :
    e.Marks (e.resolveLocal id name).1 ∧
      ∀ s ∈ (e.resolveLocal id name).2,
        s.name = name ∧ s.ResolvesIn ((e.resolveLocal id name).1.scopes id) :=
  resolveFrom_resolves hok hid name _ id 0 (getElem?_chain_zero e id)
    fun _ hk => absurd hk (Nat.not_lt_zero _)

/-! ## Temporaries, flip-flop states and counters -/

@[simp] theorem frames_allocTempName (e : Env) (pfx : String) :
    (e.allocTempName pfx).1.frames = e.frames := rfl

@[simp] theorem frames_allocReturn (e : Env) : e.allocReturn.1.frames = e.frames := rfl

@[simp] theorem frames_allocBreak (e : Env) : e.allocBreak.1.frames = e.frames := rfl

@[simp] theorem frames_pushLexical (e : Env) : e.pushLexical.1.frames = e.frames := rfl

@[simp] theorem frames_popLexical (e : Env) (previous : Nat) :
    (e.popLexical previous).frames = e.frames := rfl

@[simp] theorem frames_setDynamic (e : Env) (on : Bool) : (e.setDynamic on).1.frames = e.frames := rfl

theorem allocTemp_eq (e : Env) (id : Nat) (pfx : String) :
    e.allocTemp id pfx = (e.allocTempName pfx).1.declareLocal id (e.allocTempName pfx).2 := rfl

theorem allocFlipFlop_eq (e : Env) (id : Nat) :
    e.allocFlipFlop id = ((e.allocTemp id "flipflop").1.modifyFrame id
      fun f => { f with flipFlopStates := f.flipFlopStates ++ [(e.allocTemp id "flipflop").2] },
      (e.allocTemp id "flipflop").2) := rfl

/-- A new temporary is a local of depth zero of the frame it is declared in. -/
theorem allocTemp_slot (e : Env) {id : Nat} (pfx : String) (hid : id < e.frames.size) :
    ∃ index, ((e.allocTemp id pfx).1.frame id).locals[index]? = some (e.allocTemp id pfx).2.name ∧
      (e.allocTemp id pfx).2 = ⟨(e.allocTemp id pfx).2.name, index, 0⟩ := by
  obtain ⟨index, hs, hl⟩ := declareLocal_slot (e.allocTempName pfx).1 (e.allocTempName pfx).2
    (by simpa using hid)
  exact ⟨index, by rw [allocTemp_eq, hs]; exact hl, by rw [allocTemp_eq, hs]⟩

theorem Grows.allocTemp (e : Env) (id : Nat) (pfx : String) : e.Grows (e.allocTemp id pfx).1 :=
  (Grows.of_frames_eq (frames_allocTempName e pfx)).trans (Grows.declareLocal _ id _)

theorem SameBreaks.allocTemp (e : Env) (id : Nat) (pfx : String) :
    e.SameBreaks (e.allocTemp id pfx).1 :=
  (SameBreaks.of_frames_eq (frames_allocTempName e pfx)).trans
    (Grows.of_frames_eq (frames_allocTempName e pfx)) (SameBreaks.declareLocal _ id _)

theorem Ok.allocTemp {e : Env} (hok : e.Ok) (id : Nat) (pfx : String) : (e.allocTemp id pfx).1.Ok :=
  (hok.of_frames_eq (frames_allocTempName e pfx)).declareLocal id _

theorem frame_allocFlipFlop (e : Env) {id : Nat} (hid : id < e.frames.size) :
    (e.allocFlipFlop id).1.frame id = { (e.allocTemp id "flipflop").1.frame id with
      flipFlopStates := ((e.allocTemp id "flipflop").1.frame id).flipFlopStates ++
        [(e.allocFlipFlop id).2] } := by
  have hsize : id < (e.allocTemp id "flipflop").1.frames.size :=
    Nat.lt_of_lt_of_le hid (Grows.allocTemp e id _).size
  rw [allocFlipFlop_eq, frame_modifyFrame, if_pos ⟨rfl, hsize⟩]

/-- A flip-flop state is a local of depth zero of its frame, recorded among the frame's states. -/
theorem allocFlipFlop_state (e : Env) {id : Nat} (hid : id < e.frames.size) :
    (e.allocFlipFlop id).2.depth = 0 ∧
      (e.allocFlipFlop id).2 ∈ ((e.allocFlipFlop id).1.frame id).flipFlopStates ∧
      (e.allocFlipFlop id).2.ResolvesIn ((e.allocFlipFlop id).1.scopes id) := by
  obtain ⟨index, hl, hs⟩ := allocTemp_slot e "flipflop" hid
  have hslot : (e.allocFlipFlop id).2 = (e.allocTemp id "flipflop").2 := rfl
  refine ⟨by rw [hslot, hs], by simp [frame_allocFlipFlop e hid], ?_⟩
  rw [hslot, hs]
  apply resolvesIn_of_local
  rw [frame_allocFlipFlop e hid, ← hslot]
  exact hs ▸ hl

theorem Grows.allocFlipFlop (e : Env) (id : Nat) : e.Grows (e.allocFlipFlop id).1 :=
  allocFlipFlop_eq e id ▸ (Grows.allocTemp e id _).trans
    (Grows.modifyFrame ⟨rfl, rfl, rfl, List.prefix_refl _, fun h => h, List.prefix_append _ _⟩)

theorem SameBreaks.allocFlipFlop (e : Env) (id : Nat) : e.SameBreaks (e.allocFlipFlop id).1 :=
  allocFlipFlop_eq e id ▸ (SameBreaks.allocTemp e id _).trans (Grows.allocTemp e id _) (SameBreaks.modifyFrame rfl)

theorem Ok.allocFlipFlop {e : Env} (hok : e.Ok) {id : Nat} (hid : id < e.frames.size) :
    (e.allocFlipFlop id).1.Ok := by
  obtain ⟨index, hl, hs⟩ := allocTemp_slot e "flipflop" hid
  rw [allocFlipFlop_eq]
  refine (hok.allocTemp id _).modifyFrame rfl fun h slot hslot => ?_
  rcases List.mem_append.1 hslot with hslot | hslot
  · exact h slot hslot
  · rw [List.mem_singleton] at hslot
    rw [hslot, hs]
    exact ⟨rfl, hl⟩

end Env

end RubyLower
