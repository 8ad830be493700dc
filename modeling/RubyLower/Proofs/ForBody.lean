import RubyLower.Proofs.Program

/-!
# Assignments in the body of a `for` loop

A `for` loop runs its body as a block whose frame has no scope of its own: an assignment there
goes through `Lower.assignmentSlot`, which writes a local the body already sees, or else declares
the name in the nearest frame around with a scope of its own (`Env.nearestOwnScope`) and looks it
up again. So an assignment in a for body never adds a local to the body's frame, and the body sees
what it writes at least one frame out (`Lower.assignmentSlot_inForBody`).

That is all the loop promises: a read goes through `Lower.resolveOrDeclare`, which declares a name
it cannot see in the frame it reads from. In `for i in list; x ||= 1; end` the read of `x` comes
first, so `x` lands among the body's own locals (`compileUnit_forBody_declaresRead`).

The lookups are `Env.resolveLocal`'s, through blocks only; the second lookup finds the new local
because every frame without a scope of its own is a block inside another frame
(`Env.ForBodiesNested`), so the frames between the body and where the name went are blocks that
do not declare it (`Env.find_eq_none_of_unseen`, `Env.findsAt_declareLocal`).
-/

namespace RubyLower

namespace Op

/-! ## Nodes along a path -/

/-- The node reached from `o` by taking the children at the given positions in turn. -/
def atPath : Op → List Nat → Option Op
  | o, [] => some o
  | o, i :: path => o.children[i]? >>= fun c => c.atPath path

theorem mem_nodes_of_mem_nodes_child {f : Form Op} {sp : Option Span} {fl : OpFlags} {c x : Op}
    (hc : c ∈ f.children) (hx : x ∈ c.nodes) : x ∈ (Op.mk f sp fl).nodes := by
  rw [nodes]
  exact List.mem_cons_of_mem _ (List.mem_flatMap.2 ⟨⟨c, hc⟩, List.mem_attach _ _, hx⟩)

/-- A node reached along a path is a node of the tree. -/
theorem mem_nodes_of_atPath : ∀ {o x : Op} {path : List Nat}, o.atPath path = some x → x ∈ o.nodes
  | o, x, [], h => by
    obtain rfl : o = x := Option.some.inj h
    exact self_mem_nodes o
  | .mk f sp fl, x, i :: path, h => by
    obtain ⟨c, hc, hx⟩ := Option.bind_eq_some_iff.1 h
    exact mem_nodes_of_mem_nodes_child (List.mem_of_getElem? hc) (mem_nodes_of_atPath hx)

/-- The unit a node along a path defines is a unit of the tree. -/
theorem mem_units_of_atPath {o x : Op} (path : List Nat) {w : ExecUnit}
    (h : o.atPath path = some x) (hw : x.ownUnit = some w) : w ∈ o.units :=
  List.mem_filterMap.2 ⟨x, mem_nodes_of_atPath h, hw⟩

end Op

/-- Whether a run gives a result with a decidable property is decided by running it; with the
nodes reached along paths, this lets the kernel check facts about one whole compile. -/
instance decidableExistsOk {ε α : Type} {p : α → Prop} [DecidablePred p] :
    ∀ x : Except ε α, Decidable (∃ a, x = .ok a ∧ p a)
  | .error _ => isFalse fun ⟨_, h, _⟩ => nomatch h
  | .ok a =>
    if h : p a then isTrue ⟨a, rfl, h⟩
    else isFalse fun ⟨_, he, hp⟩ => h (Except.ok.inj he ▸ hp)

/-! ## Where a frame sees a name -/

namespace Env

/-- Only the body of a `for` loop lacks a scope of its own, and such a frame is a block inside
another frame that assigns into the frames around it. -/
def ForBodiesNested (e : Env) : Prop :=
  ∀ j < e.frames.size, (e.frame j).ownScope = false →
    (e.frame j).isBlock = true ∧ (e.frame j).neverAssignInParentScope = false ∧
      (e.frame j).parent.isSome = true

instance (e : Env) : Decidable e.ForBodiesNested :=
  inferInstanceAs (Decidable (∀ j < e.frames.size, _))

/-- Marking frames changes nowhere a frame sees a name. -/
theorem Marks.findsAt {e e' : Env} (h : e.Marks e') {f d index : Nat} {name : String} :
    e'.FindsAt f name d index ↔ e.FindsAt f name d index := by
  have hblock : ∀ j, (e'.frame j).isBlock = (e.frame j).isBlock := fun j => by
    simp only [Frame.isBlock, h.kind j]
  have hfind : ∀ j, (e'.frame j).find name = (e.frame j).find name := fun j => by
    simp only [Frame.find, h.locals j]
  simp only [FindsAt, h.chain, hblock, hfind]

/-- Where a frame sees a name nowhere, no frame of its chain declares it up to the first one
that is not a block. -/
theorem find_eq_none_of_unseen {e : Env} {f k : Nat} {name : String}
    (hunseen : ∀ d index, ¬ e.FindsAt f name d index)
    (hblocks : ∀ i < k, ∀ j ∈ (e.chain f)[i]?, (e.frame j).isBlock = true) :
    ∀ i ≤ k, ∀ j ∈ (e.chain f)[i]?, (e.frame j).find name = none := by
  intro i
  induction i using Nat.strongRecOn with
  | ind i ih =>
    intro hi j hj
    cases hfind : (e.frame j).find name with
    | none => rfl
    | some index =>
      -- the first frame that declares the name is where the chain's first frame sees it
      refine absurd ⟨fun m hm j' hj' => ⟨hblocks m (by omega) j' hj', ?_⟩, j, hj, hfind⟩
        (hunseen i index)
      exact ih m hm (by omega) j' hj'

/-- Declaring a name in the frame `k` steps out along a chain, past blocks that neither are that
frame nor declare the name, makes the chain's first frame see the name there. -/
theorem findsAt_declareLocal {e : Env} {f k g : Nat} (name : String) (hf : f < e.frames.size)
    (hg : (e.chain f)[k]? = some g)
    (hbefore : ∀ i < k, ∀ j ∈ (e.chain f)[i]?,
      j ≠ g ∧ (e.frame j).isBlock = true ∧ (e.frame j).find name = none) :
    (e.declareLocal g name).1.FindsAt f name k (e.declareLocal g name).2.index := by
  have hchain : (e.declareLocal g name).1.chain f = e.chain f := (Grows.declareLocal e g name).chain hf
  have hgs : g < e.frames.size := mem_chain_lt_size hf (List.mem_of_getElem? hg)
  rw [declareLocal_eq] at hchain ⊢
  refine ⟨fun i hi j hj => ?_, g, hchain ▸ hg, ?_⟩
  · rw [hchain] at hj
    obtain ⟨hne, hblock, hfind⟩ := hbefore i hi j hj
    rw [frame_modifyFrame, if_neg fun h => hne h.1.symm]
    exact ⟨hblock, hfind⟩
  · rw [frame_modifyFrame, if_pos ⟨rfl, hgs⟩]
    exact Frame.find_declare _ name

/-- A frame that does not declare a name itself sees it, if anywhere, at least one frame out. -/
theorem FindsAt.pos_depth {e : Env} {f d index : Nat} {name : String}
    (hfresh : (e.frame f).find name = none) (h : e.FindsAt f name d index) : 0 < d := by
  refine Nat.pos_of_ne_zero fun hd => ?_
  obtain ⟨-, g, hg, hfind⟩ := h
  rw [hd, getElem?_chain_zero, Option.mem_def, Option.some.injEq] at hg
  rw [← hg, hfresh] at hfind
  cases hfind

end Env

namespace Lower

/-! ## The lookups of an assignment -/

section Exec

variable {α : Type} {p : Place} {s : Progress}

theorem exec_frame : frame.exec p s = (.ok p.frame, s) := rfl

theorem exec_env : env.exec p s = (.ok s.env, s) := rfl

theorem exec_frameData (id : Nat) : (frameData id).exec p s = (.ok (s.env.frame id), s) := rfl

theorem exec_onEnv (f : Env → Env × α) :
    (onEnv f).exec p s = (.ok (f s.env).2, { s with env := (f s.env).1 }) := rfl

end Exec

/-- From a frame that assigns into its parents, an assignment looks the name up; finding nothing,
it declares the name in the nearest frame with a scope of its own and looks again; finding
nothing again, it declares the name in the frame itself. -/
theorem exec_assignmentSlot {p : Place} {s : Progress} (name : String)
    (hnever : (s.env.frame p.frame).neverAssignInParentScope = false) :
    (assignmentSlot name).exec p s =
      match s.env.resolveLocal p.frame name with
      | (e1, some slot) => (.ok slot, { s with env := e1 })
      | (e1, none) =>
        match (e1.declareLocal (e1.nearestOwnScope p.frame) name).1.resolveLocal p.frame name with
        | (e3, some slot) => (.ok slot, { s with env := e3 })
        | (e3, none) => (.ok (e3.declareLocal p.frame name).2, { s with env := (e3.declareLocal p.frame name).1 }) := by
  simp only [assignmentSlot, exec_bind, exec_frame, exec_frameData, hnever, Bool.false_eq_true,
    ↓reduceIte, resolve, declare, exec_onEnv]
  rcases s.env.resolveLocal p.frame name with ⟨e1, _ | slot⟩
  · simp only [exec_bind, exec_env, exec_onEnv]
    rcases (e1.declareLocal (e1.nearestOwnScope p.frame) name).1.resolveLocal p.frame name with ⟨e3, _ | slot⟩
    · rfl
    · rfl
  · rfl

theorem assignmentSlot_of_seen {p : Place} {s : Progress} {name : String} {d index : Nat}
    (hok : s.env.Ok) (hf : p.frame < s.env.frames.size)
    (hnever : (s.env.frame p.frame).neverAssignInParentScope = false)
    (hseen : s.env.FindsAt p.frame name d index) :
    ∃ e', s.env.Marks e' ∧
      (assignmentSlot name).exec p s = (.ok ⟨name, index, d⟩, { s with env := e' }) := by
  have hres := ((Env.resolveLocal_spec hok p.frame name).1 d index).2 hseen
  refine ⟨_, (Env.resolveLocal_resolves hok hf name).1, ?_⟩
  rw [exec_assignmentSlot name hnever]
  rcases hr : s.env.resolveLocal p.frame name with ⟨e1, r⟩
  rw [hr] at hres
  cases hres
  rfl

/-- An assignment from a frame that assigns into its parents and sees the name nowhere declares it
in the nearest frame with a scope of its own, and writes the local wherever the frame then sees
it, marking the frames it reaches across. -/
theorem assignmentSlot_of_unseen {p : Place} {s : Progress} {name : String} {d index : Nat}
    (hok : s.env.Ok) (hf : p.frame < s.env.frames.size)
    (hnever : (s.env.frame p.frame).neverAssignInParentScope = false)
    (hunseen : ∀ d index, ¬ s.env.FindsAt p.frame name d index)
    (hthere : (s.env.declareLocal (s.env.nearestOwnScope p.frame) name).1.FindsAt p.frame name
      d index) :
    ∃ e', (s.env.declareLocal (s.env.nearestOwnScope p.frame) name).1.Marks e' ∧
      (assignmentSlot name).exec p s = (.ok ⟨name, index, d⟩, { s with env := e' }) := by
  -- the first search finds nothing and changes nothing
  have hnone : (s.env.resolveLocal p.frame name).2 = none := by
    cases hr : (s.env.resolveLocal p.frame name).2 with
    | none => rfl
    | some slot =>
      obtain ⟨sname, sindex, sdepth⟩ := slot
      obtain rfl : name = sname := ((Env.resolveLocal_resolves hok hf name).2 _ hr).1.symm
      exact absurd (((Env.resolveLocal_spec hok p.frame name).1 sdepth sindex).1 hr)
        (hunseen sdepth sindex)
  have hsame := (Env.resolveLocal_spec hok p.frame name).2.2 hnone
  -- the second search, after the declaration, finds it
  have hok2 := hok.declareLocal (s.env.nearestOwnScope p.frame) name
  have hf2 : p.frame < (s.env.declareLocal (s.env.nearestOwnScope p.frame) name).1.frames.size :=
    Nat.lt_of_lt_of_le hf (Env.Grows.declareLocal _ _ name).size
  have hres := ((Env.resolveLocal_spec hok2 p.frame name).1 d index).2 hthere
  refine ⟨_, (Env.resolveLocal_resolves hok2 hf2 name).1, ?_⟩
  rw [exec_assignmentSlot name hnever]
  rcases hr : s.env.resolveLocal p.frame name with ⟨e1, r⟩
  rw [hr] at hnone hsame
  cases hnone
  cases hsame
  dsimp only
  rcases hr2 : (s.env.declareLocal (s.env.nearestOwnScope p.frame) name).1.resolveLocal p.frame name
    with ⟨e3, r3⟩
  rw [hr2] at hres
  cases hres
  rfl


/-- An assignment in the body of a `for` loop never declares a local in that body. A name the body
does not declare itself is written where the body sees it, at least one frame out: in a frame that
already declared it, or, when the body saw it nowhere, in the nearest frame with a scope of its
own, where the new local is declared. -/
theorem assignmentSlot_inForBody {p : Place} {s : Progress} (name : String)
    (hok : s.env.Ok) (hnested : s.env.ForBodiesNested) (hf : p.frame < s.env.frames.size)
    (hown : (s.env.frame p.frame).ownScope = false)
    (hfresh : (s.env.frame p.frame).find name = none) :
    ∃ slot s', (assignmentSlot name).exec p s = (.ok slot, s') ∧ slot.name = name ∧
      0 < slot.depth ∧ s'.env.FindsAt p.frame name slot.depth slot.index ∧
      (s'.env.frame p.frame).locals = (s.env.frame p.frame).locals ∧
      (s.env.FindsAt p.frame name slot.depth slot.index ∨
        (s'.env.chain p.frame)[slot.depth]? = some (s.env.nearestOwnScope p.frame)) := by
  obtain ⟨-, hnever, -⟩ := hnested p.frame hf hown
  by_cases hseen : ∃ d index, s.env.FindsAt p.frame name d index
  · obtain ⟨d, index, hat⟩ := hseen
    obtain ⟨e', hm, hexec⟩ := assignmentSlot_of_seen hok hf hnever hat
    exact ⟨_, _, hexec, rfl, hat.pos_depth hfresh, hm.findsAt.2 hat, hm.locals _, .inl hat⟩
  · have hunseen : ∀ d index, ¬ s.env.FindsAt p.frame name d index :=
      fun d index hat => hseen ⟨d, index, hat⟩
    obtain ⟨k, hk, hbefore, hstop⟩ := Env.nearestOwnScope_spec hok p.frame
    -- the frame new locals go to has a scope of its own: a for body would have a parent
    have hgown : (s.env.frame (s.env.nearestOwnScope p.frame)).ownScope = true := by
      cases hgo : (s.env.frame (s.env.nearestOwnScope p.frame)).ownScope with
      | true => rfl
      | false =>
        have hgs := Env.mem_chain_lt_size hf (List.mem_of_getElem? hk)
        obtain ⟨-, -, hparent⟩ := hnested _ hgs hgo
        rcases hstop with hstop | hstop
        · rw [hstop] at hgo; cases hgo
        · rw [hstop] at hparent; cases hparent
    have hne : ∀ j, (s.env.frame j).ownScope = false → j ≠ s.env.nearestOwnScope p.frame :=
      fun j hj h => by rw [h, hgown] at hj; cases hj
    have hblocks : ∀ i < k, ∀ j ∈ (s.env.chain p.frame)[i]?, (s.env.frame j).isBlock = true :=
      fun i hi j hj => (hnested j (Env.mem_chain_lt_size hf (List.mem_of_getElem? hj))
        (hbefore i hi j hj)).1
    have hnone := Env.find_eq_none_of_unseen hunseen hblocks
    have hthere := Env.findsAt_declareLocal name hf hk fun i hi j hj =>
      ⟨hne j (hbefore i hi j hj), hblocks i hi j hj, hnone i (Nat.le_of_lt hi) j hj⟩
    obtain ⟨e', hm, hexec⟩ := assignmentSlot_of_unseen hok hf hnever hunseen hthere
    have hk0 : 0 < k := Nat.pos_of_ne_zero fun h0 => by
      rw [h0, Env.getElem?_chain_zero, Option.some.injEq] at hk
      exact hne _ hown hk
    have hlocals : ((s.env.declareLocal (s.env.nearestOwnScope p.frame) name).1.frame p.frame).locals =
        (s.env.frame p.frame).locals := by
      rw [Env.declareLocal_eq, Env.frame_modifyFrame, if_neg fun h => hne _ hown h.1.symm]
    have hchain : e'.chain p.frame = s.env.chain p.frame := by
      rw [hm.chain, (Env.Grows.declareLocal _ _ name).chain hf]
    exact ⟨_, _, hexec, rfl, hk0, hm.findsAt.2 hthere, (hm.locals _).trans hlocals,
      .inr (hchain ▸ hk)⟩

end Lower

/-- In `for i in list; x ||= 1; end` the read of `x` is lowered first and declares `x` in the
body's own frame, so the loop's unit, the one without a scope of its own, lists `x` among its
locals and the program's unit does not. -/
theorem compileUnit_forBody_declaresRead :
    ∃ c, compileUnit {} { file := "t.rb", root := some (.mk ⟨0, 0⟩ false (.forLoop
      (.mk ⟨0, 0⟩ false (.localAsgn "i" 0 none)) (.mk ⟨0, 0⟩ false (.vcall "list"))
      (some (.mk ⟨0, 0⟩ false (.opAsgnOr (.mk ⟨0, 0⟩ false (.localVar "x" 0))
        (.mk ⟨0, 0⟩ false (.localAsgn "x" 0 (some (.mk ⟨0, 0⟩ false (.fixnum 1)))))))))) } = .ok c ∧
      ∃ w ∈ c.root.body.units, w.head.ownScope = false ∧ "x" ∈ w.head.locals ∧
        "x" ∉ c.root.head.locals := by
  refine ⟨_, rfl, ?_⟩
  -- the loop's unit is defined by the block handed to each, under the catches and the frame mark
  exact ⟨_, Op.mem_units_of_atPath [0, 0, 0, 1] rfl rfl, rfl, by decide, by decide⟩

end RubyLower
