import RubyLower.Proofs.Annotate.Plain

/-!
# Two runs whose options differ only in annotations: the steps

Two places are alike (`Place.Alike`) when they differ at most in the options that only annotate:
coverage, the backtrace option and the logging of dynamic lookups. `Lower.Alike c c' R x y`
runs `x` at one place, with coverage `c`, and `y` at an alike one, with coverage `c'`, from two
progresses with the same environment, and asks that they end alike: in the same environment,
with the same error or with results related by `R`, and each having registered the same lines,
in the same order, if its coverage is on (`registerAll`), and none if it is off.

The steps of the monad run alike, and so does a chain of them (`Lower.Alike.bind`), where each
step may be given the results of the steps before it on each side, related as those steps
promise. Reading the options is the one step that gives the two runs different values; flagging
a line start (`Lower.markLineStart_alike`) is the one that registers a line, on the side whose
coverage is on.
-/

namespace RubyLower

/-- Two option sets that differ at most in the options that only annotate. -/
structure Options.Alike (o o' : Options) : Prop where
  corePath : o'.corePath = o.corePath
  frozen : o'.frozenStringLiterals = o.frozenStringLiterals

/-- Two source descriptions that differ at most in the options that only annotate. -/
structure SourceInfo.Alike (i i' : SourceInfo) : Prop where
  options : i.options.Alike i'.options
  file : i'.file = i.file
  lines : i'.lines = i.lines
  isCore : i'.isCore = i.isCore

/-- Two places that differ at most in the options that only annotate. -/
structure Place.Alike (p p' : Place) : Prop where
  source : p.source.Alike p'.source
  frame : p'.frame = p.frame
  modes : p'.modes = p.modes
  markers : p'.markers = p.markers

/-- The coverage lines after `lines` are registered in order, when coverage is on: each is added
at the end unless it is there already. With coverage off nothing is registered. -/
def registerAll (on : Bool) (lines : List Nat) (cov : Array Nat) : Array Nat :=
  if on then lines.foldl addCoverageLine cov else cov

@[simp] theorem registerAll_nil (on : Bool) (cov : Array Nat) : registerAll on [] cov = cov := by
  cases on <;> rfl

theorem registerAll_append (on : Bool) (l l' : List Nat) (cov : Array Nat) :
    registerAll on (l ++ l') cov = registerAll on l' (registerAll on l cov) := by
  cases on <;> simp [registerAll, List.foldl_append]

/-- Two results alike: the same error, or values related by `R`. -/
def ResultsAlike {α β : Type} (R : α → β → Prop) : Except LowerError α → Except LowerError β → Prop
  | .ok a, .ok b => R a b
  | .error e, .error e' => e = e'
  | _, _ => False

namespace Lower

variable (c c' : Bool)

/-- Run at alike places with coverage `c` and `c'`, from progresses with the same environment,
`x` and `y` end alike: in the same environment, with the same error or results related by `R`,
each having registered the same lines in the same order if its coverage is on. -/
def Alike {α β : Type} (R : α → β → Prop) (x : Lower α) (y : Lower β) : Prop :=
  ∀ (p p' : Place) (s s' : Progress), p.Alike p' → p.source.options.coverage = c →
    p'.source.options.coverage = c' → s'.env = s.env →
    (y.exec p' s').2.env = (x.exec p s).2.env ∧
    (∃ lines, (x.exec p s).2.coverage = registerAll c lines s.coverage ∧
      (y.exec p' s').2.coverage = registerAll c' lines s'.coverage) ∧
    ResultsAlike R (x.exec p s).1 (y.exec p' s').1

variable {c c'} {α β γ δ : Type} {R : α → β → Prop} {S : γ → δ → Prop}

namespace Alike

/-- Two steps that leave the coverage lines alone and give alike outcomes run alike. -/
theorem of_exec {x : Lower α} {y : Lower β}
    (h : ∀ (p p' : Place) (s s' : Progress), p.Alike p' → p.source.options.coverage = c →
      p'.source.options.coverage = c' → s'.env = s.env →
      (y.exec p' s').2.env = (x.exec p s).2.env ∧ (x.exec p s).2.coverage = s.coverage ∧
        (y.exec p' s').2.coverage = s'.coverage ∧ ResultsAlike R (x.exec p s).1 (y.exec p' s').1) :
    Alike c c' R x y := by
  intro p p' s s' hp hc hc' hs
  obtain ⟨henv, hcov, hcov', hres⟩ := h p p' s s' hp hc hc' hs
  exact ⟨henv, ⟨[], by rw [hcov, registerAll_nil], by rw [hcov', registerAll_nil]⟩, hres⟩

theorem pure {a : α} {b : β} (h : R a b) : Alike c c' R (Pure.pure a) (Pure.pure b) :=
  of_exec fun _ _ _ _ _ _ _ hs => ⟨hs, rfl, rfl, h⟩

theorem throw (e : LowerError) :
    Alike c c' R (MonadExcept.throw e : Lower α) (MonadExcept.throw e : Lower β) :=
  of_exec fun _ _ _ _ _ _ _ hs => ⟨hs, rfl, rfl, rfl⟩

theorem fail (kind : FaultKind) (message : Message) (args : List String) (span : Span) :
    Alike c c' R (Lower.fail kind message args span : Lower α) (Lower.fail kind message args span) :=
  throw _

/-- A step, then a rest given the step's results on each side, run alike when each does. -/
theorem bind {x : Lower α} {y : Lower β} {k : α → Lower γ} {k' : β → Lower δ}
    (hx : Alike c c' R x y) (hk : ∀ a b, R a b → Alike c c' S (k a) (k' b)) :
    Alike c c' S (x >>= k) (y >>= k') := by
  intro p p' s s' hp hc hc' hs
  have h := hx p p' s s' hp hc hc' hs
  rw [exec_bind, exec_bind]
  revert h
  rcases x.exec p s with ⟨e | a, t⟩ <;> rcases y.exec p' s' with ⟨e' | b, t'⟩ <;> intro h
  · exact h
  · exact h.2.2.elim
  · exact h.2.2.elim
  · -- both steps gave results: the rest runs from where they left the progress
    obtain ⟨henv, ⟨l, hcov, hcov'⟩, hres⟩ := h
    obtain ⟨henv', ⟨l', hcov2, hcov2'⟩, hres'⟩ := hk a b hres p p' t t' hp hc hc' henv
    refine ⟨henv', ⟨l ++ l', ?_, ?_⟩, hres'⟩
    · rw [hcov2, registerAll_append, ← hcov]
    · rw [hcov2', registerAll_append, ← hcov']

/-- A step that gives equal results on both sides, then the same rest on each. -/
theorem bind_eq {x y : Lower α} {k : α → Lower γ} {k' : α → Lower δ} (hx : Alike c c' Eq x y)
    (hk : ∀ a, Alike c c' S (k a) (k' a)) : Alike c c' S (x >>= k) (y >>= k') :=
  hx.bind fun a _ hab => hab ▸ hk a

theorem map {x : Lower α} {y : Lower β} {f : α → γ} {g : β → δ} (hx : Alike c c' R x y)
    (hfg : ∀ a b, R a b → S (f a) (g b)) : Alike c c' S (f <$> x) (g <$> y) := by
  rw [map_eq_pure_bind, map_eq_pure_bind]
  exact hx.bind fun a b hab => pure (hfg a b hab)

theorem mono {x : Lower α} {y : Lower β} {R' : α → β → Prop} (hx : Alike c c' R x y)
    (hR : ∀ a b, R a b → R' a b) : Alike c c' R' x y := by
  intro p p' s s' hp hc hc' hs
  obtain ⟨henv, hcov, hres⟩ := hx p p' s s' hp hc hc' hs
  refine ⟨henv, hcov, ?_⟩
  revert hres
  rcases (x.exec p s).1 with _ | a <;> rcases (y.exec p' s').1 with _ | b
  · exact id
  · exact False.elim
  · exact False.elim
  · exact hR a b

/-- Changing the place alike on both sides keeps two runs alike. -/
theorem withReader {x : Lower α} {y : Lower β} {g : Place → Place} (hx : Alike c c' R x y)
    (hg : ∀ p p', p.Alike p' → (g p).Alike (g p')) (hsrc : ∀ p, (g p).source = p.source) :
    Alike c c' R (MonadWithReaderOf.withReader g x) (MonadWithReaderOf.withReader g y) :=
  fun p p' s s' hp hc hc' hs => hx (g p) (g p') s s' (hg p p' hp) (by rw [hsrc, hc])
    (by rw [hsrc, hc']) hs

theorem withModes {x : Lower α} {y : Lower β} (hx : Alike c c' R x y) (f : Modes → Modes) :
    Alike c c' R (Lower.withModes f x) (Lower.withModes f y) :=
  hx.withReader (fun _ _ hp => ⟨hp.source, hp.frame, by rw [hp.modes], hp.markers⟩) fun _ => rfl

theorem withMarker {x : Lower α} {y : Lower β} (hx : Alike c c' R x y) (m : Option Slot) :
    Alike c c' R (Lower.withMarker m x) (Lower.withMarker m y) :=
  hx.withReader (fun _ _ hp => ⟨hp.source, hp.frame, hp.modes, by rw [hp.markers]⟩) fun _ => rfl

theorem inFrame {x : Lower α} {y : Lower β} (hx : Alike c c' R x y) (frame : Nat) :
    Alike c c' R (Lower.inFrame frame x) (Lower.inFrame frame y) :=
  hx.withReader (fun _ _ hp => ⟨hp.source, rfl, rfl, rfl⟩) fun _ => rfl

/-- A part and then a restore, whether the part stops or not, run alike when both do. -/
theorem restoring {x : Lower α} {y : Lower β} {restore restore' : Lower Unit}
    (hx : Alike c c' R x y) (hr : Alike c c' (fun _ _ => True) restore restore') :
    Alike c c' R (Lower.restoring restore x) (Lower.restoring restore' y) := by
  intro p p' s s' hp hc hc' hs
  obtain ⟨henv, ⟨l, hcov, hcov'⟩, hres⟩ := hx p p' s s' hp hc hc' hs
  have h2 := hr p p' (x.exec p s).2 (y.exec p' s').2 hp hc hc' henv
  rw [exec_restoring, exec_restoring]
  revert h2
  rcases restore.exec p (x.exec p s).2 with ⟨_ | u, t⟩ <;>
    rcases restore'.exec p' (y.exec p' s').2 with ⟨_ | u', t'⟩ <;> intro h2 <;>
    obtain ⟨henv', ⟨l', hcov2, hcov2'⟩, hres'⟩ := h2
  · exact ⟨henv', ⟨l ++ l', by rw [hcov2, registerAll_append, hcov], by
      rw [hcov2', registerAll_append, hcov']⟩, hres'⟩
  · exact hres'.elim
  · exact hres'.elim
  · -- the restore went through on both sides: the part's outcome stands
    exact ⟨henv', ⟨l ++ l', by rw [hcov2, registerAll_append, hcov], by
      rw [hcov2', registerAll_append, hcov']⟩, hres⟩

/-- Mapping related lists through steps that run alike on related items. -/
theorem mapM {P : α → β → Prop} {f : α → Lower γ} {g : β → Lower δ}
    (hf : ∀ a b, P a b → Alike c c' S (f a) (g b)) :
    ∀ {xs : List α} {ys : List β}, List.Forall₂ P xs ys →
      Alike c c' (List.Forall₂ S) (xs.mapM f) (ys.mapM g)
  | [], [], .nil => pure .nil
  | a :: xs, b :: ys, .cons hab hrest => by
    rw [List.mapM_cons, List.mapM_cons]
    exact (hf a b hab).bind fun u v huv => (mapM hf hrest).bind fun us vs hus =>
      pure (.cons huv hus)

/-- Mapping one list through two steps that run alike on each item. -/
theorem mapM_same {f : α → Lower γ} {g : α → Lower δ} (hf : ∀ a, Alike c c' S (f a) (g a))
    (xs : List α) : Alike c c' (List.Forall₂ S) (xs.mapM f) (xs.mapM g) :=
  mapM (P := Eq) (fun a _ hab => hab ▸ hf a) (List.forall₂_refl xs)

theorem optionMapM {f : α → Lower γ} {g : α → Lower δ} (hf : ∀ a, Alike c c' S (f a) (g a)) :
    ∀ o : Option α, Alike c c' (Option.Rel S) (o.mapM f) (o.mapM g)
  | none => pure .none
  | some a => (hf a).map fun _ _ h => .some h

theorem foldlM {I : γ → δ → Prop} {f : γ → α → Lower γ} {g : δ → α → Lower δ}
    (hf : ∀ acc acc' a, I acc acc' → Alike c c' I (f acc a) (g acc' a)) :
    ∀ (xs : List α) {acc : γ} {acc' : δ}, I acc acc' → Alike c c' I (xs.foldlM f acc) (xs.foldlM g acc')
  | [], _, _, h => pure h
  | x :: xs, _, _, h => by
    rw [List.foldlM_cons, List.foldlM_cons]
    exact (hf _ _ x h).bind fun _ _ h' => foldlM hf xs h'

theorem forIn {f : α → γ → Lower (ForInStep γ)} {g : α → γ → Lower (ForInStep γ)}
    (hf : ∀ a b, Alike c c' Eq (f a b) (g a b)) :
    ∀ (xs : List α) (b : γ), Alike c c' Eq (ForIn.forIn xs b f) (ForIn.forIn xs b g)
  | [], _ => pure rfl
  | x :: xs, b => by
    rw [List.forIn_cons, List.forIn_cons]
    refine (hf x b).bind_eq fun step => ?_
    cases step with
    | done => exact pure rfl
    | yield b' => exact forIn hf xs b'

end Alike

/-! ## The steps of the lowering -/

section Steps

/-- A step that reads the environment, changes it, and gives what it read. -/
theorem onEnv_alike (f : Env → Env × α) : Alike c c' Eq (onEnv f) (onEnv f) :=
  Alike.of_exec fun p p' s s' _ _ _ hs => by
    rw [exec_onEnv, exec_onEnv, hs]
    exact ⟨rfl, rfl, rfl, rfl⟩

theorem modifyEnv_alike (f : Env → Env) : Alike c c' Eq (modifyEnv f) (modifyEnv f) :=
  Alike.of_exec fun p p' s s' _ _ _ hs => by
    show f s'.env = f s.env ∧ _
    rw [hs]
    exact ⟨rfl, rfl, rfl, rfl⟩

theorem env_alike : Alike c c' Eq env env :=
  Alike.of_exec fun _ _ _ _ _ _ _ hs => ⟨hs, rfl, rfl, hs.symm⟩

theorem frame_alike : Alike c c' Eq frame frame :=
  Alike.of_exec fun _ _ _ _ hp _ _ hs => ⟨hs, rfl, rfl, hp.frame.symm⟩

theorem modes_alike : Alike c c' Eq modes modes :=
  Alike.of_exec fun _ _ _ _ hp _ _ hs => ⟨hs, rfl, rfl, hp.modes.symm⟩

theorem currentMarker_alike : Alike c c' Eq currentMarker currentMarker :=
  Alike.of_exec fun _ _ _ _ hp _ _ hs => ⟨hs, rfl, rfl, by
    show ((_ : Place).markers.head?).bind id = ((_ : Place).markers.head?).bind id
    rw [hp.markers]⟩

theorem source_alike : Alike c c' SourceInfo.Alike source source :=
  Alike.of_exec fun _ _ _ _ hp _ _ hs => ⟨hs, rfl, rfl, hp.source⟩

theorem options_alike : Alike c c' Options.Alike options options :=
  Alike.of_exec fun _ _ _ _ hp _ _ hs => ⟨hs, rfl, rfl, hp.source.options⟩

theorem frameData_alike (id : Nat) : Alike c c' Eq (frameData id) (frameData id) :=
  env_alike.bind_eq fun _ => Alike.pure rfl

theorem modifyFrame_alike (id : Nat) (f : Frame → Frame) :
    Alike c c' Eq (modifyFrame id f) (modifyFrame id f) :=
  modifyEnv_alike _

theorem isDynamic_alike : Alike c c' Eq isDynamic isDynamic :=
  env_alike.bind_eq fun _ => Alike.pure rfl

theorem lexicalScope_alike : Alike c c' Eq lexicalScope lexicalScope :=
  env_alike.bind_eq fun _ => Alike.pure rfl

theorem declare_alike (id : Nat) (name : String) : Alike c c' Eq (declare id name) (declare id name) :=
  onEnv_alike _

theorem resolve_alike (id : Nat) (name : String) : Alike c c' Eq (resolve id name) (resolve id name) :=
  onEnv_alike _

theorem temp_alike (pfx : String) : Alike c c' Eq (temp pfx) (temp pfx) :=
  frame_alike.bind_eq fun _ => onEnv_alike _

theorem allocReturn_alike : Alike c c' Eq allocReturn allocReturn := onEnv_alike _

theorem allocBreak_alike : Alike c c' Eq allocBreak allocBreak := onEnv_alike _

theorem resolveOrDeclare_alike (name : String) :
    Alike c c' Eq (resolveOrDeclare name) (resolveOrDeclare name) := by
  refine frame_alike.bind_eq fun f => (resolve_alike f name).bind_eq fun slot => ?_
  cases slot with
  | some slot => exact Alike.pure rfl
  | none => exact declare_alike f name

theorem assignmentSlot_alike (name : String) :
    Alike c c' Eq (assignmentSlot name) (assignmentSlot name) := by
  refine frame_alike.bind_eq fun f => (frameData_alike f).bind_eq fun fr => ?_
  split
  · exact declare_alike f name
  · refine (resolve_alike f name).bind_eq fun slot => ?_
    cases slot with
    | some slot => exact Alike.pure rfl
    | none =>
      refine env_alike.bind_eq fun e => (declare_alike _ name).bind_eq fun _ =>
        (resolve_alike f name).bind_eq fun slot => ?_
      cases slot with
      | some slot => exact Alike.pure rfl
      | none => exact declare_alike f name

/-- Giving alike nodes a span runs alike: both take it or both stop. -/
theorem atSpan_alike {o o' : Op} (h : Op.Alike c c' o o') (sp : Span) :
    Alike c c' (Op.Alike c c') (atSpan o sp) (atSpan o' sp) := by
  unfold atSpan
  rw [h.span]
  split
  · exact Alike.pure (h.withSpan sp)
  · split
    · exact Alike.pure (h.withSpan sp)
    · exact Alike.throw _

theorem exec_markLineStart (o : Op) (sp : Span) (p : Place) (s : Progress) :
    (markLineStart o sp).exec p s = if p.source.options.coverage then
      (.ok o.markNewline.markCoverage,
        { s with coverage := addCoverageLine s.coverage (p.source.lines.lineOf sp.start) })
    else (.ok o.markNewline, s) := by
  unfold markLineStart
  rw [exec_bind]
  cases h : p.source.options.coverage
  · show (if p.source.options.coverage = true then _ else _ : Lower Op).exec p s = _
    rw [h]; rfl
  · show (if p.source.options.coverage = true then _ else _ : Lower Op).exec p s = _
    rw [h]; rfl

/-- Flagging alike nodes as line starts runs alike: each side registers the line when its
coverage is on, and flags the node for coverage then. -/
theorem markLineStart_alike {o o' : Op} (h : Op.Alike c c' o o') (sp : Span) :
    Alike c c' (Op.Alike c c') (markLineStart o sp) (markLineStart o' sp) := by
  intro p p' s s' hp hc hc' hs
  have hline : p'.source.lines.lineOf sp.start = p.source.lines.lineOf sp.start := by
    rw [hp.source.lines]
  rw [exec_markLineStart, exec_markLineStart, hc, hc', hline]
  refine ⟨?_, ⟨[p.source.lines.lineOf sp.start], ?_, ?_⟩, ?_⟩
  · cases c <;> cases c' <;> exact hs
  · cases c <;> rfl
  · cases c' <;> rfl
  · have hl := h.lineStart
    cases c <;> cases c' <;> exact hl

/-- Flagging the lowering of a node as a line start runs alike on alike nodes. -/
theorem addNewline_alike (n : Node) {o o' : Op} (h : Op.Alike c c' o o') :
    Alike c c' (Op.Alike c c') (addNewline n o) (addNewline n o') := by
  unfold addNewline
  rw [h.encapsulatingSpan]
  split
  · split
    · exact markLineStart_alike h _
    · exact Alike.pure h
    · exact Alike.throw _
  · exact Alike.pure h

theorem readConst_alike (name : String) (span : Span) :
    Alike c c' (Op.Alike c c') (readConst name span) (readConst name span) := by
  refine isDynamic_alike.bind_eq fun dyn => ?_
  split
  · exact atSpan_alike (.ofForm rfl (by simp [Form.children]) (by simp [Form.children])) span
  · exact lexicalScope_alike.bind_eq fun _ =>
      atSpan_alike (.ofForm rfl (by simp [Form.children]) (by simp [Form.children])) span

theorem classVarScope_alike : Alike c c' (Op.Alike c c') classVarScope classVarScope := by
  refine isDynamic_alike.bind_eq fun dyn => ?_
  split
  · exact Alike.pure (.ofForm rfl (by simp [Form.children]) (by simp [Form.children]))
  · exact lexicalScope_alike.bind_eq fun _ =>
      Alike.pure (.ofForm rfl (by simp [Form.children]) (by simp [Form.children]))

end Steps

end Lower

/-! ## The recursive calls -/

/-- Recursive calls that run alike: lowering any node, and assigning alike values to any
target. -/
structure Recur.Alike (c c' : Bool) (r : Recur) : Prop where
  expr : ∀ n, Lower.Alike c c' (Op.Alike c c') (r.expr n) (r.expr n)
  target : ∀ n v v', Op.Alike c c' v v' →
    Lower.Alike c c' (Op.Alike c c') (r.target n v) (r.target n v')

namespace Lower

section Recur

variable {c c' : Bool} {r : Recur} (hr : r.Alike c c')
include hr

theorem exprOrNil_alike (n : Option Node) (span : Span) :
    Alike c c' (Op.Alike c c') (exprOrNil r n span) (exprOrNil r n span) := by
  cases n with
  | some n => exact hr.expr n
  | none => exact atSpan_alike Op.Alike.refl_nil span

theorem exprs_alike (ns : List Node) :
    Alike c c' (List.Forall₂ (Op.Alike c c')) (exprs r ns) (exprs r ns) :=
  Alike.mapM_same hr.expr ns

theorem valueOrDead_alike (value : Option Node) (what : String) :
    Alike c c' (Op.Alike c c') (valueOrDead r value what) (valueOrDead r value what) := by
  cases value with
  | some v => exact hr.expr v
  | none => exact Alike.pure (.ofForm rfl (by simp [Form.children]) (by simp [Form.children]))

theorem constPathModule_alike (path : ConstPath Node) :
    Alike c c' (Op.Alike c c') (constPathModule r path) (constPathModule r path) := by
  unfold constPathModule
  split
  · refine isDynamic_alike.bind_eq fun dyn => ?_
    split
    · exact Alike.pure (.ofForm rfl (by simp [Form.children]) (by simp [Form.children]))
    · exact lexicalScope_alike.bind_eq fun _ =>
        Alike.pure (.ofForm rfl (by simp [Form.children]) (by simp [Form.children]))
  · exact hr.expr _
  · exact Alike.pure (.ofForm rfl (by simp [Form.children]) (by simp [Form.children]))

end Recur

end Lower

end RubyLower
