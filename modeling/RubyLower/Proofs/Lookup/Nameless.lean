import RubyLower.Proofs.Annotate.Plain

/-!
# Trees and environments with their names erased

Renaming the constants of a parse tree changes, in what the lowering gives, only names: the names
of the constants and class variables it looks up or defines, and the names of units
(`<class:Foo>` and the blocks inside it). `Op.nameless` erases them all: the name of every
constant read or write, class variable access, class or module definition and unit head. Two trees
that differ only in such names have the same erasure. While it lowers, the lowering keeps names in
one place of the environment, the method name of each frame, which only goes into the names of
units; `Env.nameless` erases it.

Whatever the lowering reads off a node it has lowered (its span, the span it covers, its form up to
names, whether it is a sequence to splice or a value to drop) it reads the same off the node's
erasure, so building a sequence commutes with erasure (`Op.nameless_sequence`). Every step on the
environment is blind to method names (`Env.Blind`): run on two environments with the same erasure,
it gives the same value and again two environments with the same erasure.
-/

namespace RubyLower

/-! ## Operation trees -/

/-- The form with its own names erased: the name of a constant read or written, of a class
variable, of a class or module defined, and of a unit defined. -/
def Form.unnamed {α : Type} : Form α → Form α
  | .readCvar s _ => .readCvar s ""
  | .writeCvar s _ v => .writeCvar s "" v
  | .readConst m _ => .readConst m ""
  | .readConstLexical scope _ => .readConstLexical scope ""
  | .readConstDynamic _ => .readConstDynamic ""
  | .writeConst m _ v => .writeConst m "" v
  | .defineClass p _ sup => .defineClass p "" sup
  | .defineModule p _ => .defineModule p ""
  | .blockDef k h b id m => .blockDef k { h with name := "" } b id m
  | .methodDef d h b => .methodDef d { h with name := "" } b
  | .runModuleBody d h b => .runModuleBody d { h with name := "" } b
  | f => f

@[simp] theorem Form.children_unnamed {α : Type} (f : Form α) : f.unnamed.children = f.children := by
  cases f <;> rfl

namespace Op

/-- The tree with every name of a constant, class variable, class, module or unit erased. -/
def nameless : Op → Op
  | .mk f s fl =>
    .mk (f.map fun c =>
        if _ : c.nodes.length < (Op.mk f s fl).nodes.length then nameless c else c).unnamed s fl
termination_by o => o.nodes.length

end Op

/-- The form with its own names erased, and those of its children. -/
def Form.nameless (f : Form Op) : Form Op :=
  (f.map Op.nameless).unnamed

namespace Op

theorem nameless_mk (f : Form Op) (s : Option Span) (fl : OpFlags) :
    (Op.mk f s fl).nameless = .mk f.nameless s fl := by
  rw [nameless, Form.nameless,
    Form.map_congr fun c hc => dif_pos (length_nodes_lt_of_mem_children hc)]

/-- Erasing names keeps the children, each erased. -/
theorem children_nameless (f : Form Op) : f.nameless.children = f.children.map nameless := by
  rw [Form.nameless, Form.children_unnamed, Form.children_map]

@[simp] theorem span_nameless (o : Op) : o.nameless.span = o.span := by
  obtain ⟨f, s, fl⟩ := o
  rw [nameless_mk]
  rfl

@[simp] theorem flags_nameless (o : Op) : o.nameless.flags = o.flags := by
  obtain ⟨f, s, fl⟩ := o
  rw [nameless_mk]
  rfl

@[simp] theorem form_nameless (o : Op) : o.nameless.form = o.form.nameless := by
  obtain ⟨f, s, fl⟩ := o
  rw [nameless_mk]
  rfl

@[simp] theorem nameless_ofForm (f : Form Op) : (ofForm f).nameless = ofForm f.nameless := by
  rw [ofForm, nameless_mk]
  rfl

@[simp] theorem nameless_withSpan (o : Op) (sp : Span) :
    (o.withSpan sp).nameless = o.nameless.withSpan sp := by
  obtain ⟨f, s, fl⟩ := o
  rw [withSpan, nameless_mk, nameless_mk]
  rfl

@[simp] theorem nameless_markNewline (o : Op) : o.markNewline.nameless = o.nameless.markNewline := by
  obtain ⟨f, s, fl⟩ := o
  rw [markNewline, nameless_mk, nameless_mk]
  rfl

@[simp] theorem nameless_markCoverage (o : Op) :
    o.markCoverage.nameless = o.nameless.markCoverage := by
  obtain ⟨f, s, fl⟩ := o
  rw [markCoverage, nameless_mk, nameless_mk]
  rfl

@[simp] theorem nameless_ensureSpan (o : Op) (sp : Span) :
    (o.ensureSpan sp).nameless = o.nameless.ensureSpan sp := by
  unfold ensureSpan
  rw [span_nameless]
  split
  · rfl
  · exact nameless_withSpan o sp

theorem mapM_encapsulatingSpan_nameless {xs : List Op}
    (h : ∀ c ∈ xs, c.nameless.encapsulatingSpan = c.encapsulatingSpan) :
    (xs.map nameless).mapM encapsulatingSpan = xs.mapM encapsulatingSpan := by
  induction xs with
  | nil => rfl
  | cons x xs ih =>
    rw [List.map_cons, List.mapM_cons, List.mapM_cons, h x List.mem_cons_self,
      ih fun c hc => h c (List.mem_cons_of_mem _ hc)]

/-- The span a node covers does not depend on names. -/
@[simp] theorem encapsulatingSpan_nameless : ∀ o : Op, o.nameless.encapsulatingSpan = o.encapsulatingSpan
  | .mk f none fl => by
    have ih : ∀ c ∈ f.children, c.nameless.encapsulatingSpan = c.encapsulatingSpan :=
      fun c _ => encapsulatingSpan_nameless c
    rw [nameless_mk, encapsulatingSpan, encapsulatingSpan]
    dsimp only
    rw [List.mapM_subtype (fun _ _ => rfl), List.unattach_attach, List.mapM_subtype (fun _ _ => rfl),
      List.unattach_attach, children_nameless, mapM_encapsulatingSpan_nameless ih]
  | .mk f (some s) fl => by
    rw [nameless_mk, encapsulatingSpan, encapsulatingSpan]
termination_by o => sizeOf o
decreasing_by exact sizeOf_lt_of_mem_children (by assumption)

@[simp] theorem isDroppable_nameless (o : Op) : o.nameless.isDroppable = o.isDroppable := by
  obtain ⟨f, s, fl⟩ := o
  rw [nameless_mk]
  cases f <;> rfl

/-! ## Sequences -/

theorem eq_seq_of_nameless {f : Form Op} {zs : List Op} (h : f.nameless = .seq zs) :
    ∃ xs, f = .seq xs ∧ xs.map nameless = zs := by
  cases f <;> simp_all [Form.nameless, Form.map, Form.unnamed]

/-- A node is a sequence to splice exactly when its erasure is, with the erased items. -/
theorem spliceable_nameless (o : Op) : o.nameless.spliceable = o.spliceable.map (List.map nameless) := by
  obtain ⟨f, s, fl⟩ := o
  by_cases hseq : ∃ xs, f = .seq xs
  · obtain ⟨xs, rfl⟩ := hseq
    rw [nameless_mk]
    cases s with
    | none =>
      by_cases h0 : fl = {}
      · simp [Op.spliceable, Form.nameless, Form.map, Form.unnamed, h0]
      · simp [Op.spliceable, Form.nameless, Form.map, Form.unnamed, h0]
    | some sp => simp [Op.spliceable]
  · have hne : ∀ zs, f.nameless ≠ .seq zs := by
      intro zs hz
      obtain ⟨xs, hx, _⟩ := eq_seq_of_nameless hz
      exact hseq ⟨xs, hx⟩
    rw [nameless_mk, spliceable_mk_of_ne hne, spliceable_mk_of_ne fun xs hx => hseq ⟨xs, hx⟩]
    rfl

theorem splice_nameless (xs : List Op) : splice (xs.map nameless) = (splice xs).map nameless := by
  induction xs with
  | nil => rfl
  | cons x xs ih =>
    have hcons : ∀ o l, splice (o :: l) = (Op.spliceable o).getD [o] ++ splice l :=
      fun _ _ => List.flatMap_cons
    rw [List.map_cons, hcons, hcons, ih, List.map_append, spliceable_nameless]
    cases x.spliceable <;> rfl

theorem dropIdle_nameless : ∀ xs : List Op, dropIdle (xs.map nameless) = (dropIdle xs).map nameless
  | [] => rfl
  | [_] => rfl
  | x :: y :: rest => by
    have hne : (y :: rest).map nameless ≠ [] := by simp
    rw [List.map_cons, dropIdle_cons hne, dropIdle_cons (List.cons_ne_nil _ _), isDroppable_nameless,
      dropIdle_nameless (y :: rest)]
    split <;> rfl

/-- Building a sequence and erasing names can go in either order. -/
theorem nameless_sequence (xs : List Op) : (sequence xs).nameless = sequence (xs.map nameless) := by
  unfold sequence
  rw [splice_nameless, dropIdle_nameless]
  generalize dropIdle (splice xs) = l
  rcases l with _ | ⟨a, _ | ⟨b, l⟩⟩
  · show nil.nameless = nil
    rw [nil, nameless_ofForm]
    rfl
  · rfl
  · rw [List.map_cons, List.map_cons, nameless_ofForm]
    rfl

end Op

/-! ## Environments -/

/-- The frame with its method name erased. -/
def Frame.nameless (fr : Frame) : Frame :=
  { fr with methodName := none }

/-- The environment with the method name of every frame erased. -/
def Env.nameless (e : Env) : Env :=
  { e with frames := e.frames.map Frame.nameless }

/-- The progress with the method names of its environment erased. -/
def Progress.nameless (s : Progress) : Progress :=
  { s with env := s.env.nameless }

namespace Frame

@[simp] theorem nameless_nameless (fr : Frame) : fr.nameless.nameless = fr.nameless := rfl

@[simp] theorem nameless_default : (default : Frame).nameless = default := rfl

@[simp] theorem parent_nameless (fr : Frame) : fr.nameless.parent = fr.parent := rfl
@[simp] theorem kind_nameless (fr : Frame) : fr.nameless.kind = fr.kind := rfl
@[simp] theorem locals_nameless (fr : Frame) : fr.nameless.locals = fr.locals := rfl
@[simp] theorem ownScope_nameless (fr : Frame) : fr.nameless.ownScope = fr.ownScope := rfl
@[simp] theorem isBlock_nameless (fr : Frame) : fr.nameless.isBlock = fr.isBlock := rfl
@[simp] theorem find_nameless (fr : Frame) (name : String) : fr.nameless.find name = fr.find name := rfl
@[simp] theorem isModuleBody_nameless (fr : Frame) : fr.nameless.isModuleBody = fr.isModuleBody := rfl
@[simp] theorem neverAssignInParentScope_nameless (fr : Frame) :
    fr.nameless.neverAssignInParentScope = fr.neverAssignInParentScope := rfl
@[simp] theorem breakId_nameless (fr : Frame) : fr.nameless.breakId = fr.breakId := rfl
@[simp] theorem returnId_nameless (fr : Frame) : fr.nameless.returnId = fr.returnId := rfl
@[simp] theorem flipFlopStates_nameless (fr : Frame) :
    fr.nameless.flipFlopStates = fr.flipFlopStates := rfl
@[simp] theorem blockDepth_nameless (fr : Frame) : fr.nameless.blockDepth = fr.blockDepth := rfl
@[simp] theorem needsDeclarationFrame_nameless (fr : Frame) :
    fr.nameless.needsDeclarationFrame = fr.needsDeclarationFrame := rfl
@[simp] theorem parameters_nameless (fr : Frame) : fr.nameless.parameters = fr.parameters := rfl

/-- Declaring a local only looks at the locals. -/
theorem declare_nameless (fr : Frame) (name : String) :
    fr.nameless.declare name = ((fr.declare name).1.nameless, (fr.declare name).2) := by
  unfold declare
  rw [show fr.nameless.find name = fr.find name from rfl]
  cases fr.find name <;> rfl

end Frame

namespace Env

@[simp] theorem nameless_nameless (e : Env) : e.nameless.nameless = e.nameless := by
  simp only [nameless, Array.map_map]
  rfl

@[simp] theorem dynamicConstants_nameless (e : Env) :
    e.nameless.dynamicConstants = e.dynamicConstants := rfl
@[simp] theorem currentLexical_nameless (e : Env) : e.nameless.currentLexical = e.currentLexical := rfl
@[simp] theorem lexicalParents_nameless (e : Env) : e.nameless.lexicalParents = e.lexicalParents := rfl

@[simp] theorem frames_size_nameless (e : Env) : e.nameless.frames.size = e.frames.size :=
  Array.size_map ..

theorem frame_nameless (e : Env) (id : Nat) : e.nameless.frame id = (e.frame id).nameless := by
  simp only [frame, nameless, Array.getElem?_map]
  cases e.frames[id]? <;> rfl

/-- Environments with one erasure have frames with one erasure. -/
theorem frame_eq_of_nameless {e e' : Env} (he : e.nameless = e'.nameless) (id : Nat) :
    (e.frame id).nameless = (e'.frame id).nameless := by
  rw [← frame_nameless, ← frame_nameless, he]

/-- A step on the environment blind to method names: from two environments with the same
erasure it gives the same value and two environments with the same erasure. -/
def Blind {α : Type} (f : Env → Env × α) : Prop :=
  ∀ e e', e.nameless = e'.nameless → (f e).1.nameless = (f e').1.nameless ∧ (f e).2 = (f e').2

/-- A step is blind when it sees of an environment only its erasure. -/
theorem Blind.of_nameless {α : Type} {f : Env → Env × α}
    (h : ∀ e, (f e).1.nameless = (f e.nameless).1.nameless ∧ (f e).2 = (f e.nameless).2) :
    Blind f := by
  intro e e' he
  rw [(h e).1, (h e').1, (h e).2, (h e').2, he]
  exact ⟨rfl, rfl⟩

/-- A step is blind when running it on the erasure gives the erasure of what it gives. -/
theorem Blind.of_commute {α : Type} {f : Env → Env × α}
    (h : ∀ e, (f e.nameless).1 = (f e).1.nameless ∧ (f e.nameless).2 = (f e).2) : Blind f :=
  Blind.of_nameless fun e => by rw [(h e).1, (h e).2, nameless_nameless]; exact ⟨rfl, rfl⟩

/-- One blind step after another is blind. -/
theorem Blind.bind {α β : Type} {f : Env → Env × α} {g : α → Env → Env × β} (hf : Blind f)
    (hg : ∀ a, Blind (g a)) : Blind fun e => g (f e).2 (f e).1 := by
  intro e e' he
  obtain ⟨h1, h2⟩ := hf e e' he
  dsimp only
  rw [h2]
  exact hg _ _ _ h1

theorem nameless_modifyFrame (e : Env) (i : Nat) {g g' : Frame → Frame}
    (hg : ∀ fr, (g fr).nameless = (g' fr.nameless).nameless) :
    (e.modifyFrame i g).nameless = (e.nameless.modifyFrame i g').nameless := by
  simp only [nameless, modifyFrame]
  congr 1
  apply Array.ext
  · simp
  · intro j h1 h2
    simp only [Array.getElem_map, Array.getElem_modify]
    split
    · exact hg _
    · rfl

/-- Changing a frame by a change blind to method names is blind. -/
theorem Blind.modifyFrame (i : Nat) {g : Frame → Frame}
    (hg : ∀ fr, (g fr).nameless = (g fr.nameless).nameless) :
    Blind fun e => (e.modifyFrame i g, ()) :=
  Blind.of_nameless fun e => ⟨nameless_modifyFrame e i hg, rfl⟩

theorem Blind.pushFrame (parent : Option Nat) (kind : FrameKind) :
    Blind fun e => e.pushFrame parent kind := by
  refine Blind.of_commute fun e => ⟨?_, by simp [Env.pushFrame]⟩
  -- a block frame copies its parent's method name, which the erasure blanks on both sides
  simp only [Env.pushFrame, frames_size_nameless, frame_nameless]
  cases parent with
  | none => simp only [nameless, Array.map_push]; rfl
  | some q =>
    by_cases hb : (Frame.fresh e.frames.size (some q) kind).isBlock = true
    · simp only [hb, if_true, nameless, Array.map_push]
      rfl
    · simp only [hb, Bool.false_eq_true, if_false, nameless, Array.map_push]
      rfl

theorem Blind.declareLocal (i : Nat) (name : String) :
    Blind fun e => e.declareLocal i name := by
  refine Blind.of_nameless fun e => ?_
  rw [declareLocal_eq, declareLocal_eq, frame_nameless, Frame.declare_nameless]
  exact ⟨nameless_modifyFrame e i fun _ => rfl, rfl⟩

/-! The steps on counters, lexical scopes and the lookup mode leave the frames alone. -/

theorem Blind.allocTempName (pfx : String) : Blind fun e => e.allocTempName pfx :=
  Blind.of_commute fun _ => ⟨rfl, rfl⟩

theorem Blind.allocReturn : Blind Env.allocReturn :=
  Blind.of_commute fun _ => ⟨rfl, rfl⟩

theorem Blind.allocBreak : Blind Env.allocBreak :=
  Blind.of_commute fun _ => ⟨rfl, rfl⟩

theorem Blind.pushLexical : Blind Env.pushLexical :=
  Blind.of_commute fun _ => ⟨rfl, rfl⟩

theorem Blind.popLexical (previous : Nat) : Blind fun e => (e.popLexical previous, ()) :=
  Blind.of_commute fun _ => ⟨rfl, rfl⟩

theorem Blind.setDynamic (on : Bool) : Blind fun e => e.setDynamic on :=
  Blind.of_commute fun _ => ⟨rfl, rfl⟩

theorem Blind.allocTemp (i : Nat) (pfx : String) : Blind fun e => e.allocTemp i pfx := by
  intro e e' he
  simp only [allocTemp_eq]
  exact (Blind.allocTempName pfx).bind (fun name => Blind.declareLocal i name) e e' he

theorem Blind.allocFlipFlop (i : Nat) : Blind fun e => e.allocFlipFlop i := by
  intro e e' he
  obtain ⟨h1, h2⟩ := Blind.allocTemp i "flipflop" e e' he
  simp only [allocFlipFlop_eq]
  refine ⟨?_, h2⟩
  rw [h2]
  exact (Blind.modifyFrame i (fun _ => rfl) _ _ h1).1

/-! The search for a local and the walks up the frame tree read parents, kinds and locals, never
method names. -/

/-- A change of a frame that commutes with erasure commutes with it on the environment. -/
theorem nameless_modifyFrame_comm (e : Env) (i : Nat) {g : Frame → Frame}
    (hg : ∀ fr, g fr.nameless = (g fr).nameless) :
    e.nameless.modifyFrame i g = (e.modifyFrame i g).nameless := by
  simp only [nameless, modifyFrame]
  congr 1
  apply Array.ext
  · simp
  · intro j h1 h2
    simp only [Array.getElem_map, Array.getElem_modify]
    split
    · exact hg _
    · rfl

theorem markCrossed_nameless (e : Env) (stop : Nat) :
    ∀ fuel id, e.nameless.markCrossed stop fuel id = (e.markCrossed stop fuel id).nameless := by
  intro fuel
  induction fuel generalizing e with
  | zero => intro id; rfl
  | succ fuel ih =>
    intro id
    unfold Env.markCrossed
    rw [frame_nameless, Frame.parent_nameless,
      nameless_modifyFrame_comm e id (g := fun f => { f with needsDeclarationFrame := true }) fun _ => rfl]
    by_cases hid : id = stop
    · simp only [hid, if_true]
    · simp only [hid, if_false]
      cases (e.frame id).parent with
      | none => rfl
      | some q => exact ih _ q

theorem resolveFrom_nameless (e : Env) (start : Nat) (name : String) :
    ∀ fuel cur depth, e.nameless.resolveFrom start name fuel cur depth =
      ((e.resolveFrom start name fuel cur depth).1.nameless,
        (e.resolveFrom start name fuel cur depth).2) := by
  intro fuel
  induction fuel with
  | zero => intro _ _; rfl
  | succ fuel ih =>
    intro cur depth
    unfold Env.resolveFrom
    rw [frame_nameless, Frame.find_nameless, Frame.isBlock_nameless, Frame.parent_nameless]
    cases (e.frame cur).find name with
    | some i =>
      by_cases hd : 0 < depth
      · simp only [hd, if_true, frames_size_nameless, markCrossed_nameless]
      · simp only [hd, if_false]
    | none =>
      cases (e.frame cur).isBlock with
      | false => rfl
      | true =>
        cases (e.frame cur).parent with
        | none => rfl
        | some q => exact ih q (depth + 1)

theorem Blind.resolveLocal (id : Nat) (name : String) : Blind fun e => e.resolveLocal id name := by
  refine Blind.of_commute fun e => ?_
  unfold Env.resolveLocal
  rw [frames_size_nameless, resolveFrom_nameless]
  exact ⟨rfl, rfl⟩

theorem ancestor_nameless (e : Env) : ∀ id depth, e.nameless.ancestor id depth = e.ancestor id depth
  | _, 0 => rfl
  | id, depth + 1 => by
    unfold Env.ancestor
    rw [frame_nameless, Frame.parent_nameless]
    cases (e.frame id).parent with
    | none => rfl
    | some q => exact ancestor_nameless e q depth

theorem climbWhile_nameless (e : Env) {keepGoing : Frame → Bool}
    (hk : ∀ fr, keepGoing fr.nameless = keepGoing fr) :
    ∀ fuel id, e.nameless.climbWhile keepGoing fuel id = e.climbWhile keepGoing fuel id
  | 0, _ => rfl
  | fuel + 1, id => by
    unfold Env.climbWhile
    rw [frame_nameless, hk, Frame.parent_nameless]
    cases keepGoing (e.frame id) with
    | false => rfl
    | true =>
      cases (e.frame id).parent with
      | none => rfl
      | some q => exact climbWhile_nameless e hk fuel q

theorem methodFrame_nameless (e : Env) (id : Nat) : e.nameless.methodFrame id = e.methodFrame id := by
  unfold Env.methodFrame
  rw [frames_size_nameless]
  exact climbWhile_nameless e (fun _ => rfl) _ _

theorem nearestOwnScope_nameless (e : Env) (id : Nat) :
    e.nameless.nearestOwnScope id = e.nearestOwnScope id := by
  unfold Env.nearestOwnScope
  rw [frames_size_nameless]
  exact climbWhile_nameless e (fun _ => rfl) _ _

end Env

end RubyLower
