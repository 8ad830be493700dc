import RubyLower.Proofs.Lookup.Nameless
import RubyLower.Proofs.Lookup.Rename
import RubyLower.Proofs.Annotate.Steps

/-!
# Two runs on trees that differ in their looked-up names: the steps

A parse tree and its renaming (`Node.renameLookups σ`) lower to trees that differ at most in
names (`Op.Renamed`). A run on one side is matched with the run on the other
(`Lower.Renamed R x y`): both run at the same place, from progresses that differ at most in the
method names of their frames, and they end so too, with the same error or with results related by
`R`. A chain of matched steps is matched (`Lower.Renamed.bind`), each step given the results of
the steps before it on each side.

The steps of the monad are blind to method names and are matched with themselves. A constant
read is matched with a read of any other constant (`Lower.readConst_renamed`): the lookup it
builds is the same but for the name.
-/

namespace RubyLower

/-- Two lowered trees that differ at most in names: the same tree once names are erased. -/
def Op.Renamed (a b : Op) : Prop :=
  a.nameless = b.nameless

namespace Op.Renamed

variable {a b : Op}

theorem eq (h : a.Renamed b) : a.nameless = b.nameless := h

theorem refl (a : Op) : a.Renamed a := rfl

theorem symm (h : a.Renamed b) : b.Renamed a := h.eq.symm

theorem span (h : a.Renamed b) : a.span = b.span := by
  rw [← Op.span_nameless a, ← Op.span_nameless b, h.eq]

theorem flags (h : a.Renamed b) : a.flags = b.flags := by
  rw [← Op.flags_nameless a, ← Op.flags_nameless b, h.eq]

theorem form (h : a.Renamed b) : a.form.nameless = b.form.nameless := by
  rw [← Op.form_nameless, ← Op.form_nameless, h.eq]

theorem encapsulatingSpan (h : a.Renamed b) : a.encapsulatingSpan = b.encapsulatingSpan := by
  rw [← Op.encapsulatingSpan_nameless a, ← Op.encapsulatingSpan_nameless b, h.eq]

theorem isDroppable (h : a.Renamed b) : a.isDroppable = b.isDroppable := by
  rw [← Op.isDroppable_nameless a, ← Op.isDroppable_nameless b, h.eq]

theorem withSpan (h : a.Renamed b) (sp : Span) : (a.withSpan sp).Renamed (b.withSpan sp) := by
  unfold Op.Renamed
  rw [nameless_withSpan, nameless_withSpan, h.eq]

theorem ensureSpan (h : a.Renamed b) (sp : Span) : (a.ensureSpan sp).Renamed (b.ensureSpan sp) := by
  unfold Op.Renamed
  rw [nameless_ensureSpan, nameless_ensureSpan, h.eq]

theorem markNewline (h : a.Renamed b) : a.markNewline.Renamed b.markNewline := by
  unfold Op.Renamed
  rw [nameless_markNewline, nameless_markNewline, h.eq]

theorem markCoverage (h : a.Renamed b) : a.markCoverage.Renamed b.markCoverage := by
  unfold Op.Renamed
  rw [nameless_markCoverage, nameless_markCoverage, h.eq]

/-- Forms that erase alike build trees that differ in names. -/
theorem ofForm {f g : Form Op} (h : f.nameless = g.nameless) : (Op.ofForm f).Renamed (Op.ofForm g) := by
  unfold Op.Renamed
  rw [nameless_ofForm, nameless_ofForm, h]

/-- A form over pairs of trees that differ in names builds, on each side, trees that differ in
names. -/
theorem ofPairs (h : Form (Op × Op)) (hc : ∀ p ∈ h.children, p.1.Renamed p.2) :
    (Op.ofForm (h.map Prod.fst)).Renamed (Op.ofForm (h.map Prod.snd)) := by
  refine ofForm ?_
  have hmap : ∀ p ∈ h.children, (Op.nameless ∘ Prod.fst) p = (Op.nameless ∘ Prod.snd) p :=
    fun p hp => (hc p hp).eq
  rw [Form.nameless, Form.nameless, Form.map_map, Form.map_map, Form.map_congr hmap]

/-- Lists related item by item are the lists with the same erasure. -/
theorem forall₂_iff {xs ys : List Op} :
    List.Forall₂ Op.Renamed xs ys ↔ xs.map Op.nameless = ys.map Op.nameless := by
  constructor
  · intro h
    induction h with
    | nil => rfl
    | cons hxy _ ih => rw [List.map_cons, List.map_cons, hxy.eq, ih]
  · induction xs generalizing ys with
    | nil =>
      intro h
      rw [List.map_nil, eq_comm, List.map_eq_nil_iff] at h
      rw [h]
      exact .nil
    | cons x xs ih =>
      intro h
      rcases ys with _ | ⟨y, ys⟩
      · exact absurd h (List.cons_ne_nil _ _)
      · rw [List.map_cons, List.map_cons, List.cons.injEq] at h
        exact .cons h.1 (ih h.2)

theorem sequence {xs ys : List Op} (h : List.Forall₂ Op.Renamed xs ys) :
    (Op.sequence xs).Renamed (Op.sequence ys) := by
  unfold Op.Renamed
  rw [nameless_sequence, nameless_sequence, forall₂_iff.1 h]

end Op.Renamed

/-- Progresses with one erasure have the same coverage lines and environments with one
erasure. -/
theorem Progress.nameless_eq_iff {s s' : Progress} :
    s'.nameless = s.nameless ↔ s'.env.nameless = s.env.nameless ∧ s'.coverage = s.coverage := by
  obtain ⟨e, c⟩ := s
  obtain ⟨e', c'⟩ := s'
  simp [Progress.nameless]

namespace Lower

/-- Run at the same place from progresses that differ at most in method names, `x` and `y` end
so too: with the same error, or with results related by `R`. -/
def Renamed {α β : Type} (R : α → β → Prop) (x : Lower α) (y : Lower β) : Prop :=
  ∀ (p : Place) (s s' : Progress), s'.nameless = s.nameless →
    (y.exec p s').2.nameless = (x.exec p s).2.nameless ∧ ResultsAlike R (x.exec p s).1 (y.exec p s').1

variable {α β γ δ : Type} {R : α → β → Prop} {S : γ → δ → Prop}

namespace Renamed

theorem pure {a : α} {b : β} (h : R a b) : Renamed R (Pure.pure a) (Pure.pure b) :=
  fun _ _ _ hs => ⟨hs, h⟩

theorem throw (e : LowerError) :
    Renamed R (MonadExcept.throw e : Lower α) (MonadExcept.throw e : Lower β) :=
  fun _ _ _ hs => ⟨hs, rfl⟩

theorem fail (kind : FaultKind) (message : Message) (args : List String) (span : Span) :
    Renamed R (Lower.fail kind message args span : Lower α) (Lower.fail kind message args span) :=
  throw _

/-- A step, then a rest given the step's results on each side, are matched when each is. -/
theorem bind {x : Lower α} {y : Lower β} {k : α → Lower γ} {k' : β → Lower δ}
    (hx : Renamed R x y) (hk : ∀ a b, R a b → Renamed S (k a) (k' b)) :
    Renamed S (x >>= k) (y >>= k') := by
  intro p s s' hs
  have h := hx p s s' hs
  rw [exec_bind, exec_bind]
  revert h
  rcases x.exec p s with ⟨e | a, t⟩ <;> rcases y.exec p s' with ⟨e' | b, t'⟩ <;> intro h
  · exact h
  · exact h.2.elim
  · exact h.2.elim
  · exact hk a b h.2 p t t' h.1

/-- A step that gives equal results on both sides, then the same rest on each. -/
theorem bind_eq {x y : Lower α} {k : α → Lower γ} {k' : α → Lower δ} (hx : Renamed Eq x y)
    (hk : ∀ a, Renamed S (k a) (k' a)) : Renamed S (x >>= k) (y >>= k') :=
  hx.bind fun a _ hab => hab ▸ hk a

theorem map {x : Lower α} {y : Lower β} {f : α → γ} {g : β → δ} (hx : Renamed R x y)
    (hfg : ∀ a b, R a b → S (f a) (g b)) : Renamed S (f <$> x) (g <$> y) := by
  rw [map_eq_pure_bind, map_eq_pure_bind]
  exact hx.bind fun a b hab => pure (hfg a b hab)

theorem mono {x : Lower α} {y : Lower β} {R' : α → β → Prop} (hx : Renamed R x y)
    (hR : ∀ a b, R a b → R' a b) : Renamed R' x y := by
  intro p s s' hs
  obtain ⟨henv, hres⟩ := hx p s s' hs
  refine ⟨henv, ?_⟩
  revert hres
  rcases (x.exec p s).1 with _ | a <;> rcases (y.exec p s').1 with _ | b
  · exact id
  · exact False.elim
  · exact False.elim
  · exact hR a b

/-- The same change of place on both sides keeps two runs matched. -/
theorem withReader {x : Lower α} {y : Lower β} (hx : Renamed R x y) (g : Place → Place) :
    Renamed R (MonadWithReaderOf.withReader g x) (MonadWithReaderOf.withReader g y) :=
  fun p s s' hs => hx (g p) s s' hs

theorem withModes {x : Lower α} {y : Lower β} (hx : Renamed R x y) (f : Modes → Modes) :
    Renamed R (Lower.withModes f x) (Lower.withModes f y) :=
  hx.withReader _

theorem withMarker {x : Lower α} {y : Lower β} (hx : Renamed R x y) (m : Option Slot) :
    Renamed R (Lower.withMarker m x) (Lower.withMarker m y) :=
  hx.withReader _

theorem inFrame {x : Lower α} {y : Lower β} (hx : Renamed R x y) (frame : Nat) :
    Renamed R (Lower.inFrame frame x) (Lower.inFrame frame y) :=
  hx.withReader _

/-- A part and then a restore, whether the part stops or not, are matched when both are. -/
theorem restoring {x : Lower α} {y : Lower β} {restore restore' : Lower Unit}
    (hx : Renamed R x y) (hr : Renamed (fun _ _ => True) restore restore') :
    Renamed R (Lower.restoring restore x) (Lower.restoring restore' y) := by
  intro p s s' hs
  obtain ⟨henv, hres⟩ := hx p s s' hs
  have h2 := hr p (x.exec p s).2 (y.exec p s').2 henv
  rw [exec_restoring, exec_restoring]
  revert h2
  rcases restore.exec p (x.exec p s).2 with ⟨_ | u, t⟩ <;>
    rcases restore'.exec p (y.exec p s').2 with ⟨_ | u', t'⟩ <;> intro h2
  · exact h2
  · exact h2.2.elim
  · exact h2.2.elim
  · -- the restore went through on both sides: the part's outcome stands
    exact ⟨h2.1, hres⟩

/-- Mapping related lists through steps matched on related items. -/
theorem mapM {P : α → β → Prop} {f : α → Lower γ} {g : β → Lower δ}
    (hf : ∀ a b, P a b → Renamed S (f a) (g b)) :
    ∀ {xs : List α} {ys : List β}, List.Forall₂ P xs ys →
      Renamed (List.Forall₂ S) (xs.mapM f) (ys.mapM g)
  | [], [], .nil => pure .nil
  | a :: xs, b :: ys, .cons hab hrest => by
    rw [List.mapM_cons, List.mapM_cons]
    exact (hf a b hab).bind fun u v huv => (mapM hf hrest).bind fun us vs hus =>
      pure (.cons huv hus)

/-- Mapping a list, and its image under `φ`, through steps matched on each item and its image. -/
theorem mapM_map {f : α → Lower γ} {g : β → Lower δ} {φ : α → β}
    (hf : ∀ a, Renamed S (f a) (g (φ a))) (xs : List α) :
    Renamed (List.Forall₂ S) (xs.mapM f) ((xs.map φ).mapM g) :=
  mapM (P := fun a b => b = φ a) (fun a _ hab => hab ▸ hf a)
    (List.forall₂_map_right_iff.2 (List.forall₂_same.2 fun _ _ => rfl))

theorem mapM_same {f : α → Lower γ} {g : α → Lower δ} (hf : ∀ a, Renamed S (f a) (g a))
    (xs : List α) : Renamed (List.Forall₂ S) (xs.mapM f) (xs.mapM g) :=
  mapM (P := Eq) (fun a _ hab => hab ▸ hf a) (List.forall₂_refl xs)

theorem optionMapM {f : α → Lower γ} {g : β → Lower δ} {φ : α → β}
    (hf : ∀ a, Renamed S (f a) (g (φ a))) :
    ∀ o : Option α, Renamed (Option.Rel S) (o.mapM f) ((o.map φ).mapM g)
  | none => pure .none
  | some a => (hf a).map fun _ _ h => .some h

/-- Folding a list, and its image under `φ`, through steps matched on each item and its image
that keep the accumulators related. -/
theorem foldlM_map {I : γ → δ → Prop} {f : γ → α → Lower γ} {g : δ → β → Lower δ} {φ : α → β}
    (hf : ∀ acc acc' a, I acc acc' → Renamed I (f acc a) (g acc' (φ a))) :
    ∀ (xs : List α) {acc : γ} {acc' : δ}, I acc acc' →
      Renamed I (xs.foldlM f acc) ((xs.map φ).foldlM g acc')
  | [], _, _, h => pure h
  | x :: xs, _, _, h => by
    rw [List.map_cons, List.foldlM_cons, List.foldlM_cons]
    exact (hf _ _ x h).bind fun _ _ h' => foldlM_map hf xs h'

theorem forIn {f : α → γ → Lower (ForInStep γ)} {g : α → γ → Lower (ForInStep γ)}
    (hf : ∀ a b, Renamed Eq (f a b) (g a b)) :
    ∀ (xs : List α) (b : γ), Renamed Eq (ForIn.forIn xs b f) (ForIn.forIn xs b g)
  | [], _ => pure rfl
  | x :: xs, b => by
    rw [List.forIn_cons, List.forIn_cons]
    refine (hf x b).bind_eq fun step => ?_
    cases step with
    | done => exact pure rfl
    | yield b' => exact forIn hf xs b'

end Renamed

/-! ## The steps of the lowering -/

section Steps

/-- A step on the environment blind to method names. -/
theorem onEnv_renamed {f : Env → Env × α} (hf : Env.Blind f) : Renamed Eq (onEnv f) (onEnv f) := by
  intro p s s' hs
  obtain ⟨he, hc⟩ := Progress.nameless_eq_iff.1 hs
  obtain ⟨h1, h2⟩ := hf s'.env s.env he
  refine ⟨Progress.nameless_eq_iff.2 ⟨h1, hc⟩, ?_⟩
  show (f s.env).2 = (f s'.env).2
  exact h2.symm

theorem modifyEnv_renamed {f : Env → Env} (hf : Env.Blind fun e => (f e, ())) :
    Renamed Eq (modifyEnv f) (modifyEnv f) := by
  intro p s s' hs
  obtain ⟨he, hc⟩ := Progress.nameless_eq_iff.1 hs
  exact ⟨Progress.nameless_eq_iff.2 ⟨(hf s'.env s.env he).1, hc⟩, rfl⟩

/-- Reading the environment gives environments with the same erasure. -/
theorem env_renamed : Renamed (fun e e' : Env => e.nameless = e'.nameless) env env :=
  fun _ _ _ hs => ⟨hs, (Progress.nameless_eq_iff.1 hs).1.symm⟩

theorem frame_renamed : Renamed Eq frame frame :=
  fun _ _ _ hs => ⟨hs, rfl⟩

theorem modes_renamed : Renamed Eq modes modes :=
  fun _ _ _ hs => ⟨hs, rfl⟩

theorem currentMarker_renamed : Renamed Eq currentMarker currentMarker :=
  fun _ _ _ hs => ⟨hs, rfl⟩

theorem source_renamed : Renamed Eq source source :=
  fun _ _ _ hs => ⟨hs, rfl⟩

theorem options_renamed : Renamed Eq options options :=
  fun _ _ _ hs => ⟨hs, rfl⟩

/-- Reading a frame gives frames with the same erasure. -/
theorem frameData_renamed (id : Nat) :
    Renamed (fun fr fr' : Frame => fr.nameless = fr'.nameless) (frameData id) (frameData id) :=
  env_renamed.bind fun _ _ he => Renamed.pure (Env.frame_eq_of_nameless he id)

theorem modifyFrame_renamed (id : Nat) {g : Frame → Frame}
    (hg : ∀ fr, (g fr).nameless = (g fr.nameless).nameless) :
    Renamed Eq (modifyFrame id g) (modifyFrame id g) :=
  modifyEnv_renamed (Env.Blind.modifyFrame id hg)

theorem isDynamic_renamed : Renamed Eq isDynamic isDynamic :=
  env_renamed.bind fun _ _ he => Renamed.pure (by simpa using congrArg Env.dynamicConstants he)

theorem lexicalScope_renamed : Renamed Eq lexicalScope lexicalScope :=
  env_renamed.bind fun _ _ he => Renamed.pure (by simpa using congrArg Env.currentLexical he)

theorem declare_renamed (id : Nat) (name : String) : Renamed Eq (declare id name) (declare id name) :=
  onEnv_renamed (Env.Blind.declareLocal id name)

theorem resolve_renamed (id : Nat) (name : String) : Renamed Eq (resolve id name) (resolve id name) :=
  onEnv_renamed (Env.Blind.resolveLocal id name)

theorem temp_renamed (pfx : String) : Renamed Eq (temp pfx) (temp pfx) :=
  frame_renamed.bind_eq fun f => onEnv_renamed (Env.Blind.allocTemp f pfx)

theorem allocReturn_renamed : Renamed Eq allocReturn allocReturn :=
  onEnv_renamed Env.Blind.allocReturn

theorem allocBreak_renamed : Renamed Eq allocBreak allocBreak :=
  onEnv_renamed Env.Blind.allocBreak

theorem resolveOrDeclare_renamed (name : String) :
    Renamed Eq (resolveOrDeclare name) (resolveOrDeclare name) := by
  refine frame_renamed.bind_eq fun f => (resolve_renamed f name).bind_eq fun slot => ?_
  cases slot with
  | some slot => exact Renamed.pure rfl
  | none => exact declare_renamed f name

/-- Where an assignment declares a new local is read off the frames, blind to method names. -/
theorem assignmentSlot_renamed (name : String) :
    Renamed Eq (assignmentSlot name) (assignmentSlot name) := by
  refine frame_renamed.bind_eq fun f => (frameData_renamed f).bind fun fr fr' hfr => ?_
  have hnever : fr'.neverAssignInParentScope = fr.neverAssignInParentScope := by
    simpa using congrArg Frame.neverAssignInParentScope hfr.symm
  rw [hnever]
  split
  · exact declare_renamed f name
  · refine (resolve_renamed f name).bind_eq fun slot => ?_
    cases slot with
    | some slot => exact Renamed.pure rfl
    | none =>
      refine env_renamed.bind fun e e' he => ?_
      rw [← Env.nearestOwnScope_nameless e, ← Env.nearestOwnScope_nameless e', he]
      refine (declare_renamed _ name).bind_eq fun _ => (resolve_renamed f name).bind_eq fun slot => ?_
      cases slot with
      | some slot => exact Renamed.pure rfl
      | none => exact declare_renamed f name

/-- Giving nodes that differ in names a span: both take it or both stop. -/
theorem atSpan_renamed {o o' : Op} (h : o.Renamed o') (sp : Span) :
    Renamed Op.Renamed (atSpan o sp) (atSpan o' sp) := by
  unfold atSpan
  rw [h.span]
  split
  · exact Renamed.pure (h.withSpan sp)
  · split
    · exact Renamed.pure (h.withSpan sp)
    · exact Renamed.throw _

/-- Flagging nodes that differ in names as line starts registers the same line. -/
theorem markLineStart_renamed {o o' : Op} (h : o.Renamed o') (sp : Span) :
    Renamed Op.Renamed (markLineStart o sp) (markLineStart o' sp) := by
  intro p s s' hs
  obtain ⟨he, hc⟩ := Progress.nameless_eq_iff.1 hs
  rw [exec_markLineStart, exec_markLineStart]
  split
  · exact ⟨Progress.nameless_eq_iff.2 ⟨he, by rw [hc]⟩, h.markNewline.markCoverage⟩
  · exact ⟨hs, h.markNewline⟩

/-- Flagging the lowering of a node and of its renaming as a line start. -/
theorem addNewline_renamed (σ : String → String) (n : Node) {o o' : Op} (h : o.Renamed o') :
    Renamed Op.Renamed (addNewline n o) (addNewline (n.renameLookups σ) o') := by
  unfold addNewline
  rw [Node.newline_renameLookups, h.encapsulatingSpan]
  split
  · split
    · exact markLineStart_renamed h _
    · exact Renamed.pure h
    · exact Renamed.throw _
  · exact Renamed.pure h

/-- A read of one constant is matched with a read of any other: the same lookup but for the
name. -/
theorem readConst_renamed (name name' : String) (span : Span) :
    Renamed Op.Renamed (readConst name span) (readConst name' span) := by
  refine isDynamic_renamed.bind_eq fun dyn => ?_
  split
  · exact atSpan_renamed
      (Op.Renamed.ofForm (f := .readConstDynamic name) (g := .readConstDynamic name') rfl) span
  · exact lexicalScope_renamed.bind_eq fun L => atSpan_renamed
      (Op.Renamed.ofForm (f := .readConstLexical L name) (g := .readConstLexical L name') rfl) span

theorem classVarScope_renamed : Renamed Op.Renamed classVarScope classVarScope := by
  refine isDynamic_renamed.bind_eq fun dyn => ?_
  split
  · exact Renamed.pure (Op.Renamed.refl _)
  · exact lexicalScope_renamed.bind_eq fun _ => Renamed.pure (Op.Renamed.refl _)

end Steps

end Lower

/-! ## The recursive calls -/

/-- Recursive calls matched on every tree and each of its renamings: lowering it, and assigning
to it values that differ in names. -/
structure Recur.Renames (r : Recur) : Prop where
  expr : ∀ σ n, Lower.Renamed Op.Renamed (r.expr n) (r.expr (n.renameLookups σ))
  target : ∀ σ n v v', v.Renamed v' →
    Lower.Renamed Op.Renamed (r.target n v) (r.target (n.renameLookups σ) v')

namespace Lower

section Recur

variable {r : Recur} (hr : r.Renames) (σ : String → String)
include hr

theorem exprOrNil_renamed (n : Option Node) (span : Span) :
    Renamed Op.Renamed (exprOrNil r n span) (exprOrNil r (n.map (Node.renameLookups σ)) span) := by
  cases n with
  | some n => exact hr.expr σ n
  | none => exact atSpan_renamed (Op.Renamed.refl _) span

theorem exprs_renamed (ns : List Node) :
    Renamed (List.Forall₂ Op.Renamed) (exprs r ns) (exprs r (ns.map (Node.renameLookups σ))) :=
  Renamed.mapM_map (hr.expr σ) ns

theorem valueOrDead_renamed (value : Option Node) (what : String) :
    Renamed Op.Renamed (valueOrDead r value what)
      (valueOrDead r (value.map (Node.renameLookups σ)) what) := by
  cases value with
  | some v => exact hr.expr σ v
  | none => exact Renamed.pure (Op.Renamed.refl _)

theorem constPathModule_renamed (path : ConstPath Node) :
    Renamed Op.Renamed (constPathModule r path) (constPathModule r (path.renameLookups σ)) := by
  rcases path with name | ⟨left, name⟩ | name
  · refine isDynamic_renamed.bind_eq fun dyn => ?_
    split
    · exact Renamed.pure (Op.Renamed.refl _)
    · exact lexicalScope_renamed.bind_eq fun _ => Renamed.pure (Op.Renamed.refl _)
  · exact hr.expr σ left
  · exact Renamed.pure (Op.Renamed.refl _)

end Recur

end Lower

end RubyLower
