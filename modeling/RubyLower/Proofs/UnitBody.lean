import RubyLower.Lower.Block
import RubyLower.Proofs.Steps

/-!
# Unit bodies

A unit's body sets up its frame's flip-flop states, runs its parameter prelude, and ends with the
translated body: `Op.withInits` is that node, built the way `Lower.withPrelude` builds it
(`Lower.withPrelude_post`). Through `Op.sequence` it is the translated body alone, when there is
nothing before it, or a sequence node of the set-up, the prelude's items that have an effect, and
the translated body (`Op.withInits_cases`). So its leading items set up every state
(`Op.subset_leadingInits_withInits`) and the translated body is one of its nodes
(`Op.mem_nodes_withInits`).

Only returns tell the parts apart: the items before the translated body are the prelude of the
unit, and only the translated body sits in the unit's catch (`Op.returnsIn_withInits`). For
slots and breaks the body is one good node (`Op.Good.withInits`).
-/

namespace RubyLower

namespace Op

/-! ## Nodes of a tree -/

theorem self_mem_nodes (o : Op) : o ∈ o.nodes := by
  cases o
  rw [nodes]
  exact List.mem_cons_self

theorem mem_nodes_of_mem_children {f : Form Op} {sp : Option Span} {fl : OpFlags} {x : Op}
    (h : x ∈ f.children) : x ∈ (Op.mk f sp fl).nodes := by
  rw [nodes]
  exact List.mem_cons_of_mem _
    (List.mem_flatMap.2 ⟨⟨x, h⟩, List.mem_attach _ _, self_mem_nodes x⟩)

/-! ## Sequences that end with a body -/

/-- A sequence of nodes that ends with one that is no spliceable sequence is that node when
nothing before it has an effect, and otherwise a sequence node of what has, then that node. -/
theorem sequence_append_singleton {xs : List Op} {b : Op} (hb : spliceable b = none) :
    sequence (xs ++ [b]) =
      if (splice xs).filter (fun o => !o.isDroppable) = [] then b
      else Op.ofForm (.seq ((splice xs).filter (fun o => !o.isDroppable) ++ [b])) := by
  have hs : splice (xs ++ [b]) = splice xs ++ [b] := by
    simp [splice, List.flatMap_append, hb]
  unfold sequence
  rw [hs, dropIdle_append_singleton]
  generalize (splice xs).filter (fun o => !o.isDroppable) = items
  cases items with
  | nil => rfl
  | cons x rest =>
    obtain ⟨y, ys, hy⟩ := List.exists_cons_of_ne_nil (List.append_ne_nil_of_right_ne_nil rest
      (List.cons_ne_nil b []))
    simp [hy]

/-! ## The set-up of flip-flop states -/

/-- The set-up of flip-flop states, one node each. -/
def initFlipFlops (states : List Slot) : List Op :=
  states.map fun s => Op.ofForm (.initFlipFlop s)

theorem splice_initFlipFlops (states : List Slot) :
    splice (initFlipFlops states) = initFlipFlops states :=
  splice_of_forall fun _ h => by
    obtain ⟨_, _, rfl⟩ := List.mem_map.1 h
    rfl

theorem filter_initFlipFlops (states : List Slot) :
    (initFlipFlops states).filter (fun o => !o.isDroppable) = initFlipFlops states :=
  List.filter_eq_self.2 fun _ h => by
    obtain ⟨_, _, rfl⟩ := List.mem_map.1 h
    rfl

theorem initPrefix_initFlipFlops_append (states : List Slot) (l : List Op) :
    initPrefix (initFlipFlops states ++ l) = states ++ initPrefix l := by
  induction states with
  | nil => rfl
  | cons s states ih => exact congrArg (s :: ·) ih

/-- A unit body: the set-up of the states, then the prelude, then the translated body. -/
def withInits (states : List Slot) (prelude : List Op) (body : Op) : Op :=
  if states.isEmpty && prelude.isEmpty then body
  else sequence (initFlipFlops states ++ prelude ++ [body])

/-- A unit body is the translated body alone, with no states to set up, or a sequence node of
the set-up, items of the prelude, and the translated body. -/
theorem withInits_cases (states : List Slot) (prelude : List Op) {body : Op}
    (hb : spliceable body = none) :
    (states = [] ∧ withInits states prelude body = body) ∨
      ∃ rest, (∀ x ∈ rest, x ∈ splice prelude) ∧
        withInits states prelude body = Op.ofForm (.seq (initFlipFlops states ++ rest ++ [body])) := by
  unfold withInits
  split
  · next h =>
    simp only [Bool.and_eq_true, List.isEmpty_iff] at h
    exact .inl ⟨h.1, rfl⟩
  · have hitems : (splice (initFlipFlops states ++ prelude)).filter (fun o => !o.isDroppable) =
        initFlipFlops states ++ (splice prelude).filter (fun o => !o.isDroppable) := by
      rw [splice, List.flatMap_append, ← splice, ← splice, splice_initFlipFlops, List.filter_append,
        filter_initFlipFlops]
    rw [sequence_append_singleton hb, hitems]
    split
    · next h =>
      have hs : states = [] := by simpa [initFlipFlops] using (List.append_eq_nil_iff.1 h).1
      exact .inl ⟨hs, rfl⟩
    · exact .inr ⟨_, fun x hx => (List.mem_filter.1 hx).1, by rw [List.append_assoc]⟩

/-- The leading items of a unit body set up all the states. -/
theorem subset_leadingInits_withInits {states : List Slot} {prelude : List Op} {body : Op}
    (hb : spliceable body = none) : states ⊆ (withInits states prelude body).leadingInits := by
  rcases withInits_cases states prelude hb with ⟨rfl, -⟩ | ⟨rest, -, h⟩
  · exact List.nil_subset _
  · rw [h]
    show states ⊆ initPrefix (initFlipFlops states ++ rest ++ [body])
    rw [List.append_assoc, initPrefix_initFlipFlops_append]
    exact List.subset_append_left _ _

/-- The translated body is a node of the unit body. -/
theorem mem_nodes_withInits {states : List Slot} {prelude : List Op} {body : Op}
    (hb : spliceable body = none) : body ∈ (withInits states prelude body).nodes := by
  rcases withInits_cases states prelude hb with ⟨-, h⟩ | ⟨rest, -, h⟩
  · rw [h]
    exact self_mem_nodes body
  · rw [h, ofForm]
    exact mem_nodes_of_mem_children (by simp [Form.children])

/-! ## Returns in a unit body -/

/-- The items of a spliced list hold where the items of the list hold, when a sequence node hands
its items its own context. -/
theorem holds_of_mem_splice {C : Type} {node : C → Form Op → Prop} {step : C → Form Op → Nat → C}
    {c : C} (hstep : ∀ items i, step c (.seq items) i = c) {xs : List Op}
    (h : ∀ x ∈ xs, Holds node step c x) : ∀ x ∈ splice xs, Holds node step c x := by
  intro x hx
  rcases mem_splice hx with hx | ⟨o, ho, items, hs, hx⟩
  · exact h x hx
  · have := h o ho
    rw [spliceable_eq_some hs, holds_mk_of_step (hstep items)] at this
    exact this.2 x hx

/-- In a sequence node that ends with `b`, the items before `b` are in the prelude when the node
is a body's root, and `b` is where the node is. -/
theorem returnsIn_seq_append_singleton {c : ReturnScope} {items : List Op} {b : Op}
    (hitems : ∀ x ∈ items, x.ReturnsIn { c with prelude := c.prelude ∨ c.root = true, root := false })
    (hb : b.ReturnsIn { c with root := false }) : (Op.ofForm (.seq (items ++ [b]))).ReturnsIn c := by
  rw [ReturnsIn, ofForm, holds_mk]
  refine ⟨trivial, fun i hi => ?_⟩
  simp only [Form.children, returnStep, List.length_append, List.length_singleton] at hi ⊢
  rcases Nat.lt_or_ge i items.length with hlt | hge
  · -- an item before `b`: in the prelude when the node is the root
    have hle : ReturnScope.Le { c with prelude := c.prelude ∨ c.root = true, root := false }
        { c with prelude := c.prelude ∨ (c.root = true ∧ i + 1 < items.length + 1), root := false } :=
      ⟨rfl, rfl, fun _ => ⟨id, Or.imp_right fun h => ⟨h, by omega⟩, id⟩⟩
    rw [List.getElem_append_left hlt]
    exact (hitems _ (List.getElem_mem hlt)).mono hle
  · -- `b` itself, after which nothing is left
    obtain rfl : i = items.length := by omega
    rw [List.getElem_append_right (Nat.le_refl _)]
    simp only [Nat.sub_self, List.getElem_cons_zero, Nat.lt_irrefl, and_false, or_false]
    exact hb

/-- The set-up and the prelude of a unit body are its prelude; the translated body is where the
unit body is. -/
theorem returnsIn_withInits {c : ReturnScope} {states : List Slot} {prelude : List Op} {body : Op}
    (hb : spliceable body = none)
    (hitems : ∀ x ∈ initFlipFlops states ++ prelude,
      x.ReturnsIn { c with prelude := c.prelude ∨ c.root = true, root := false })
    (hbody : body.ReturnsIn { c with root := false }) :
    (withInits states prelude body).ReturnsIn c := by
  rcases withInits_cases states prelude hb with ⟨-, h⟩ | ⟨rest, hrest, h⟩
  · rw [h]
    exact hbody.mono (ReturnScope.Le.ofRoot c)
  · rw [h]
    refine returnsIn_seq_append_singleton (fun x hx => ?_) hbody
    have hsplice := holds_of_mem_splice (fun _ i => returnStep_of_not_scoping rfl rfl i)
      fun y hy => hitems y (List.mem_append_right _ hy)
    rcases List.mem_append.1 hx with hx | hx
    · exact hitems x (List.mem_append_left _ hx)
    · exact hsplice x (hrest x hx)

end Op

/-! ## Good unit bodies -/

namespace Op.Good

variable {p : Place} {s : Progress}

theorem initFlipFlop {slot : Slot} (h : slot.ResolvesIn (s.env.scopes p.frame)) :
    (Op.ofForm (.initFlipFlop slot)).Good p s :=
  node rfl h trivial (fun _ _ => trivial) (by simp [Form.children])

theorem initFlipFlops {states : List Slot}
    (h : ∀ slot ∈ states, slot.ResolvesIn (s.env.scopes p.frame)) :
    ∀ o ∈ Op.initFlipFlops states, o.Good p s := by
  intro o ho
  obtain ⟨slot, hslot, rfl⟩ := List.mem_map.1 ho
  exact initFlipFlop (h slot hslot)

/-- A unit body of good parts is good. -/
theorem withInits {states : List Slot} {prelude : List Op} {body : Op}
    (hstates : ∀ slot ∈ states, slot.ResolvesIn (s.env.scopes p.frame))
    (hprelude : ∀ o ∈ prelude, o.Good p s) (hbody : body.Good p s) :
    (Op.withInits states prelude body).Good p s := by
  unfold Op.withInits
  split
  · exact hbody
  · refine sequence fun x hx => ?_
    rcases List.mem_append.1 hx with hx | hx
    · rcases List.mem_append.1 hx with hx | hx
      · exact initFlipFlops hstates x hx
      · exact hprelude x hx
    · exact List.mem_singleton.1 hx ▸ hbody

end Op.Good

/-- The flip-flop states of a frame are locals of the frame. -/
theorem Env.Ok.states_resolve {e : Env} (hok : e.Ok) (id : Nat) :
    ∀ slot ∈ (e.frame id).flipFlopStates, slot.ResolvesIn (e.scopes id) := by
  rintro ⟨name, index, depth⟩ hslot
  obtain ⟨hd, hl⟩ := hok.states id _ hslot
  dsimp only at hd hl
  subst hd
  exact Env.resolvesIn_of_local hl

/-- The body of a unit that is not a proc, lowered at `p` over the unit's frame: its set-up and
prelude are good there and so in the unit's prelude, and its translated body is where the unit's
entry is when it is good in the unit's catch. -/
theorem Op.returnsIn_enter_withInits {p : Place} {s : Progress} {h : UnitHead} {states : List Slot}
    {prelude : List Op} {body : Op} (hb : spliceable body = none)
    (hid : h.returnId = (s.env.frame p.frame).returnId)
    (hk : ((s.env.frame p.frame).kind == .block) = false)
    (hstates : ∀ slot ∈ states, slot.ResolvesIn (s.env.scopes p.frame))
    (hprelude : ∀ o ∈ prelude, o.Good p s)
    (hbody : body.ReturnsIn { ReturnScope.enter h with root := false }) :
    (withInits states prelude body).ReturnsIn (.enter h) := by
  have ht : ∀ t ∈ (ReturnScope.enter h).target, t = (s.env.frame p.frame).returnId := by
    intro t htm
    unfold ReturnScope.enter at htm
    split at htm
    · exact (Option.some.inj (Option.mem_def.1 htm)).symm.trans hid
    · cases htm
  have hfit : p.ReturnFits s
      { ReturnScope.enter h with prelude := (ReturnScope.enter h).prelude ∨
          (ReturnScope.enter h).root = true, root := false } :=
    ⟨ht, hk.symm, .inr (.inr rfl), rfl⟩
  refine returnsIn_withInits hb (fun x hx => ?_) hbody
  rcases List.mem_append.1 hx with hx | hx
  · exact (Op.Good.initFlipFlops hstates x hx).returns _ hfit
  · exact (hprelude x hx).returns _ hfit

/-- A catch for a return id catches the returns to it in its body. -/
theorem Op.returnsIn_catchReturn {c : ReturnScope} {rid : Nat} {b : Op} {sp : Option Span}
    {fl : OpFlags}
    (hb : b.ReturnsIn { c with caught := c.caught ∨ c.target = some (some rid), root := false }) :
    (Op.mk (.catchReturn rid b) sp fl).ReturnsIn c := by
  rw [ReturnsIn, holds_mk]
  refine ⟨trivial, fun i hi => ?_⟩
  simp only [Form.children, List.length_singleton, Nat.lt_one_iff] at hi
  subst hi
  exact hb

/-! ## Catches around a translated body -/

namespace Op.Good

variable {p : Place} {s : Progress}

/-- A catch for returns around a good node is good: what is caught stays caught. -/
theorem catchReturn {rid : Nat} {b : Op} (hb : b.Good p s) :
    (Op.ofForm (.catchReturn rid b)).Good p s := by
  refine ⟨?_, ?_, fun c hc => Op.returnsIn_catchReturn (hb.returns _ ?_)⟩
  · rw [Op.SlotsIn, ofForm, Op.holds_mk_of_step fun _ => rfl]
    exact ⟨trivial, List.forall_mem_singleton.2 hb.slots⟩
  · rw [Op.BreaksIn, ofForm, Op.holds_mk_of_step fun _ => rfl]
    exact ⟨trivial, List.forall_mem_singleton.2 hb.breaks⟩
  · exact ⟨hc.target, hc.inProc, hc.guarded.imp_left .inl, rfl⟩

/-- A lambda's translated body is good when the body inside its catches is. -/
theorem lambdaBody {bid rid : Nat} {b : Op} (hb : b.Good p s) :
    (Op.ofForm (.catchBreak bid false (Op.ofForm (.catchReturn rid b)))).Good p s := by
  have hc : (Op.ofForm (.catchReturn rid b)).Good p s := catchReturn hb
  refine ⟨?_, ?_, fun c hfit => ?_⟩
  · rw [Op.SlotsIn, ofForm, Op.holds_mk_of_step fun _ => rfl]
    exact ⟨trivial, List.forall_mem_singleton.2 hc.slots⟩
  · -- the catch marks its body as the start of a path to a call's block, which the catch for
    -- returns inside ends at once
    rw [Op.BreaksIn, ofForm, Op.holds_mk]
    refine ⟨trivial, fun i hi => ?_⟩
    simp only [Form.children, List.length_singleton, Nat.lt_one_iff] at hi
    subst hi
    simp only [Form.children, List.getElem_cons_zero]
    rw [ofForm, Op.holds_mk]
    refine ⟨trivial, fun j hj => ?_⟩
    simp only [Form.children, List.length_singleton, Nat.lt_one_iff] at hj
    subst hj
    exact hb.breaks
  · rw [Op.ReturnsIn, ofForm, Op.holds_mk]
    refine ⟨trivial, fun i hi => ?_⟩
    simp only [Form.children, List.length_singleton, Nat.lt_one_iff] at hi
    subst hi
    exact hc.returns _ ⟨hfit.target, hfit.inProc, hfit.guarded, rfl⟩

/-- The translated body of a unit that is not a proc, in the catch for the unit's return id, has
every return caught there. -/
theorem returnsIn_catchReturn {h : UnitHead} {rid : Nat} {b : Op} (hb : b.Good p s)
    (hid : h.returnId = some rid) (hframe : (s.env.frame p.frame).returnId = some rid)
    (hk : ((s.env.frame p.frame).kind == .block) = false)
    (htarget : h.kind = .method ∨ h.kind = .lambda ∨ h.kind = .topLevel) :
    (Op.ofForm (.catchReturn rid b)).ReturnsIn { ReturnScope.enter h with root := false } := by
  have ht : (ReturnScope.enter h).target = some (some rid) := by
    rw [ReturnScope.enter, if_pos htarget, hid]
  refine Op.returnsIn_catchReturn (hb.returns _ ⟨fun t htm => ?_, hk.symm, .inl (.inr ht), rfl⟩)
  rw [ht] at htm
  obtain rfl := Option.some.inj (Option.mem_def.1 htm)
  exact hframe.symm

/-- A lambda's translated body has its returns caught by its own catch. -/
theorem returnsIn_lambdaBody {h : UnitHead} {bid rid : Nat} {b : Op} (hb : b.Good p s)
    (hid : h.returnId = some rid) (hframe : (s.env.frame p.frame).returnId = some rid)
    (hk : ((s.env.frame p.frame).kind == .block) = false) (hl : h.kind = .lambda) :
    (Op.ofForm (.catchBreak bid false (Op.ofForm (.catchReturn rid b)))).ReturnsIn
      { ReturnScope.enter h with root := false } := by
  rw [Op.ReturnsIn, ofForm, Op.holds_mk]
  refine ⟨trivial, fun i hi => ?_⟩
  simp only [Form.children, List.length_singleton, Nat.lt_one_iff] at hi
  subst hi
  exact returnsIn_catchReturn hb hid hframe hk (.inr (.inl hl))

end Op.Good

namespace Lower

/-- `withPrelude` builds the unit body of the current frame's states. -/
theorem withPrelude_post {p : Place} {s : Progress} (prelude : List Op) (body : Op) :
    (withPrelude prelude body).Post p s fun o s' =>
      o = Op.withInits (s.env.frame p.frame).flipFlopStates prelude body ∧ s' = s := by
  unfold withPrelude
  refine Post.bind frame_post fun f s1 ⟨hf, hs1⟩ => ?_
  subst hf hs1
  refine Post.bind (frameData_post _) fun fr s2 ⟨hfr, hs2⟩ => ?_
  subst hfr hs2
  dsimp only
  split
  · next h => exact Post.pure ⟨by rw [Op.withInits, if_pos h], rfl⟩
  · next h => exact Post.pure ⟨by rw [Op.withInits, if_neg h]; rfl, rfl⟩

end Lower

end RubyLower
