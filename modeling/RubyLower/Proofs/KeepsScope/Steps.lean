import RubyLower.Proofs.Run
import RubyLower.Proofs.Frames

/-!
# Lowering keeps the scope: the steps

The place a lowering runs at (the frame, the modes, the frame markers) is read-only, so no step
can leave a change to it behind. What a step can leave behind lives in the environment, and of
that the scope of the body being lowered is the break id of each frame, the current lexical
scope and the constant lookup mode. `Env.KeepsScope e e'` says that `e'` has all three as `e`
had them, and no fewer frames; locals, crossing marks, new frames, the counters and the table of
lexical scopes may change.

`Lower.KeepsScope x` asks this of every run of `x`, from any place and progress, whether the run
gives a result or stops: a stop is caught by `Lower.restoring` and by nothing else, so what is
left behind on that path counts too. The steps of the monad keep the scope, and so does a chain
of them (`KeepsScope.bind`). Three steps change the scope for a part and put it back after the
part on every outcome, and keep it as a whole: a loop's break id (`KeepsScope.breakFor`), a
module's lexical scope (`KeepsScope.lexicalFor`) and dynamic constant lookup
(`KeepsScope.dynamicFor`). A new frame may be set up as the rule likes (`KeepsScope.pushFrame`),
since no frame seen before is touched.
-/

namespace RubyLower

namespace Env

/-- `e'` keeps the scope of `e`: no frame is lost, no frame of `e` has another break id, and the
lexical scope and the constant lookup mode are those of `e`. -/
structure KeepsScope (e e' : Env) : Prop where
  size : e.frames.size ≤ e'.frames.size
  breaks : e.SameBreaks e'
  lexical : e'.currentLexical = e.currentLexical
  dynamic : e'.dynamicConstants = e.dynamicConstants

namespace KeepsScope

theorem refl (e : Env) : e.KeepsScope e :=
  ⟨Nat.le_refl _, SameBreaks.refl e, rfl, rfl⟩

theorem trans {e e' e'' : Env} (h : e.KeepsScope e') (h' : e'.KeepsScope e'') : e.KeepsScope e'' :=
  ⟨Nat.le_trans h.size h'.size,
    fun id hid => (h'.breaks id (Nat.lt_of_lt_of_le hid h.size)).trans (h.breaks id hid),
    h'.lexical.trans h.lexical, h'.dynamic.trans h.dynamic⟩

/-- Same frames, same lexical scope, same lookup mode: the counters alone changed. -/
theorem of_eq {e e' : Env} (hf : e'.frames = e.frames) (hl : e'.currentLexical = e.currentLexical)
    (hd : e'.dynamicConstants = e.dynamicConstants) : e.KeepsScope e' :=
  ⟨hf ▸ Nat.le_refl _, SameBreaks.of_frames_eq hf, hl, hd⟩

theorem modifyFrame {e : Env} {i : Nat} {f : Frame → Frame}
    (hf : (f (e.frame i)).breakId = (e.frame i).breakId) : e.KeepsScope (e.modifyFrame i f) :=
  ⟨by simp, SameBreaks.modifyFrame hf, rfl, rfl⟩

theorem declareLocal (e : Env) (i : Nat) (name : String) : e.KeepsScope (e.declareLocal i name).1 :=
  declareLocal_eq e i name ▸ modifyFrame (declare_fields _ name).2.2.1

theorem markCrossed (e : Env) (stop : Nat) : ∀ fuel id, e.KeepsScope (e.markCrossed stop fuel id) := by
  intro fuel
  induction fuel generalizing e with
  | zero => intro id; exact refl e
  | succ fuel ih =>
    intro id
    unfold Env.markCrossed
    split
    · exact refl e
    · split
      · exact (modifyFrame rfl).trans (ih _ _)
      · exact modifyFrame rfl

/-- The search for a local only marks frames, from any frame and on any environment. -/
theorem resolveFrom (e : Env) (start : Nat) (name : String) :
    ∀ fuel cur depth, e.KeepsScope (e.resolveFrom start name fuel cur depth).1 := by
  intro fuel
  induction fuel with
  | zero => intro _ _; exact refl e
  | succ fuel ih =>
    intro cur depth
    unfold Env.resolveFrom
    split
    · dsimp only
      split
      · exact markCrossed e cur _ start
      · exact refl e
    · split
      · split
        · exact ih _ _
        · exact refl e
      · exact refl e

theorem resolveLocal (e : Env) (id : Nat) (name : String) : e.KeepsScope (e.resolveLocal id name).1 :=
  resolveFrom e id name _ id 0

theorem allocTempName (e : Env) (pfx : String) : e.KeepsScope (e.allocTempName pfx).1 :=
  of_eq rfl rfl rfl

theorem allocTemp (e : Env) (id : Nat) (pfx : String) : e.KeepsScope (e.allocTemp id pfx).1 :=
  allocTemp_eq e id pfx ▸ (allocTempName e pfx).trans (declareLocal _ id _)

theorem allocFlipFlop (e : Env) (id : Nat) : e.KeepsScope (e.allocFlipFlop id).1 :=
  allocFlipFlop_eq e id ▸ (allocTemp e id _).trans (modifyFrame rfl)

/-- A new frame, set up as the caller likes: every frame seen before is as it was. -/
theorem pushFrame (e : Env) (parent : Option Nat) (kind : FrameKind) (g : Frame → Frame) :
    e.KeepsScope ((e.pushFrame parent kind).1.modifyFrame e.frames.size g) :=
  ⟨by simp [frames_size_pushFrame],
    SameBreaks.modifyFrame_new (SameBreaks.pushFrame e parent kind) (Nat.le_refl _), rfl, rfl⟩

/-- A frame's break id set, and after a part that keeps the scope put back to what it was: the
scope is as before the change. -/
theorem restoreBreak {e e' : Env} {i : Nat} {id : Option Nat}
    (h : (e.modifyFrame i fun fr => { fr with breakId := id }).KeepsScope e') :
    e.KeepsScope (e'.modifyFrame i fun fr => { fr with breakId := (e.frame i).breakId }) := by
  have hsize : e.frames.size ≤ e'.frames.size := by simpa using h.size
  refine ⟨by simpa using hsize, fun j hj => ?_, h.lexical, h.dynamic⟩
  rw [frame_modifyFrame]
  split
  · next hij =>
    obtain ⟨rfl, -⟩ := hij
    rfl
  · next hij =>
    -- the other frames kept their break ids through the change and the part
    rw [h.breaks j (by simpa using hj), frame_modifyFrame, if_neg]
    rintro ⟨rfl, -⟩
    exact hij ⟨rfl, Nat.lt_of_lt_of_le hj hsize⟩

/-- A lexical scope entered, and after a part that keeps the scope left for the one before: the
scope is as before. -/
theorem popLexical {e e' : Env} (h : e.pushLexical.1.KeepsScope e') :
    e.KeepsScope (e'.popLexical e.currentLexical) :=
  ⟨h.size, h.breaks, rfl, h.dynamic⟩

/-- The lookup mode switched, and after a part that keeps the scope put back to what it was: the
scope is as before. -/
theorem resetDynamic {e e' : Env} {on : Bool} (h : (e.setDynamic on).1.KeepsScope e') :
    e.KeepsScope (e'.setDynamic e.dynamicConstants).1 :=
  ⟨h.size, h.breaks, h.lexical, rfl⟩

end KeepsScope

end Env

namespace Lower

/-- Run from any place and any progress, `x` keeps the scope of the environment, whether it
gives a result or stops. -/
def KeepsScope {α : Type} (x : Lower α) : Prop :=
  ∀ (p : Place) (s : Progress), s.env.KeepsScope (x.exec p s).2.env

section Steps

variable {α β : Type} {p : Place} {s s0 : Progress}

theorem exec_bind_of_ok {x : Lower α} {k : α → Lower β} {a : α} {s' : Progress}
    (hx : x.exec p s = (.ok a, s')) : (x >>= k).exec p s = (k a).exec p s' := by
  rw [exec_bind, hx]

/-- Whatever `restoring` gives, it leaves what the restore leaves after the part. -/
theorem exec_restoring_snd (restore : Lower Unit) (x : Lower α) :
    ((Lower.restoring restore x).exec p s).2 = (restore.exec p (x.exec p s).2).2 := by
  rw [exec_restoring]
  split <;> next h => rw [h]

/-- A step followed by a rest that keeps the scope keeps what the step keeps, from any progress
`s0` before it. -/
theorem keepsScope_bind_at {x : Lower α} {k : α → Lower β}
    (hx : s0.env.KeepsScope (x.exec p s).2.env) (hk : ∀ a, (k a).KeepsScope) :
    s0.env.KeepsScope ((x >>= k).exec p s).2.env := by
  rw [exec_bind]
  rcases h : x.exec p s with ⟨_ | a, s'⟩
  · rw [h] at hx
    exact hx
  · rw [h] at hx
    exact hx.trans (hk a p s')

namespace KeepsScope

/-- A run from a progress whose environment is `e` keeps the scope of `e`. -/
theorem from_env {x : Lower α} (hx : x.KeepsScope) (p : Place) {s : Progress} {e : Env}
    (he : s.env = e) : e.KeepsScope (x.exec p s).2.env :=
  he ▸ hx p s

theorem pure (a : α) : (Pure.pure a : Lower α).KeepsScope :=
  fun _ s => Env.KeepsScope.refl s.env

theorem bind {x : Lower α} {k : α → Lower β} (hx : x.KeepsScope) (hk : ∀ a, (k a).KeepsScope) :
    (x >>= k).KeepsScope :=
  fun p s => keepsScope_bind_at (hx p s) hk

theorem map {x : Lower α} (hx : x.KeepsScope) (f : α → β) : (f <$> x).KeepsScope := by
  rw [map_eq_pure_bind]
  exact hx.bind fun _ => pure _

theorem throw (e : LowerError) : (MonadExcept.throw e : Lower α).KeepsScope :=
  fun _ s => Env.KeepsScope.refl s.env

theorem fail (kind : FaultKind) (message : Message) (args : List String) (span : Span) :
    (Lower.fail kind message args span : Lower α).KeepsScope :=
  throw _

theorem atSpan (o : Op) (sp : Span) : (Lower.atSpan o sp).KeepsScope := by
  unfold Lower.atSpan
  split
  · exact pure _
  · split
    · exact pure _
    · exact throw _

theorem withReader {x : Lower α} (hx : x.KeepsScope) (g : Place → Place) :
    (MonadWithReaderOf.withReader g x : Lower α).KeepsScope :=
  fun p s => hx (g p) s

theorem withModes {x : Lower α} (hx : x.KeepsScope) (f : Modes → Modes) :
    (Lower.withModes f x).KeepsScope :=
  hx.withReader _

theorem withMarker {x : Lower α} (hx : x.KeepsScope) (m : Option Slot) :
    (Lower.withMarker m x).KeepsScope :=
  hx.withReader _

theorem inFrame {x : Lower α} (hx : x.KeepsScope) (frame : Nat) : (Lower.inFrame frame x).KeepsScope :=
  hx.withReader _

theorem onEnv {f : Env → Env × α} (hf : ∀ e : Env, e.KeepsScope (f e).1) : (Lower.onEnv f).KeepsScope :=
  fun _ s => hf s.env

theorem modifyEnv {f : Env → Env} (hf : ∀ e : Env, e.KeepsScope (f e)) : (Lower.modifyEnv f).KeepsScope :=
  fun _ s => hf s.env

theorem modifyFrame {id : Nat} {g : Frame → Frame} (hg : ∀ fr, (g fr).breakId = fr.breakId) :
    (Lower.modifyFrame id g).KeepsScope :=
  modifyEnv fun _ => Env.KeepsScope.modifyFrame (hg _)

theorem mapM {f : α → Lower β} (hf : ∀ a, (f a).KeepsScope) : ∀ xs : List α, (xs.mapM f).KeepsScope
  | [] => pure _
  | x :: xs => by
    rw [List.mapM_cons]
    exact (hf x).bind fun _ => (mapM hf xs).bind fun _ => pure _

theorem optionMapM {f : α → Lower β} (hf : ∀ a, (f a).KeepsScope) :
    ∀ o : Option α, (o.mapM f).KeepsScope
  | none => pure _
  | some a => (hf a).map _

theorem foldlM {f : β → α → Lower β} (hf : ∀ acc a, (f acc a).KeepsScope) :
    ∀ (xs : List α) (acc : β), (xs.foldlM f acc).KeepsScope
  | [], _ => pure _
  | x :: xs, acc => by
    rw [List.foldlM_cons]
    exact (hf acc x).bind fun acc' => foldlM hf xs acc'

theorem forIn {g : α → β → Lower (ForInStep β)} (hg : ∀ a b, (g a b).KeepsScope) :
    ∀ (xs : List α) (b : β), (ForIn.forIn xs b g).KeepsScope
  | [], _ => pure _
  | x :: xs, b => by
    rw [List.forIn_cons]
    refine (hg x b).bind fun step => ?_
    cases step with
    | done => exact pure _
    | yield b' => exact forIn hg xs b'

/-- A new frame under `parent`, set up by `g`, then a rest that keeps the scope. -/
theorem pushFrame {parent : Option Nat} {kind : FrameKind} {g : Frame → Frame} {k : Nat → Lower β}
    (hk : ∀ bf, (k bf).KeepsScope) :
    (Lower.onEnv (·.pushFrame parent kind) >>= fun bf => Lower.modifyFrame bf g >>= fun _ => k bf).KeepsScope := by
  intro p s
  rw [exec_bind_of_ok rfl, exec_bind_of_ok rfl]
  exact (Env.KeepsScope.pushFrame s.env parent kind g).trans ((hk _).from_env p rfl)

/-- A frame's break id set to a loop's for a part, and put back to what it was after the part
whether it stops or not. -/
theorem breakFor {f bid : Nat} {x : Lower α} {k : α → Lower β} (hx : x.KeepsScope)
    (hk : ∀ a, (k a).KeepsScope) :
    (frameData f >>= fun fr => Lower.modifyFrame f (fun g => { g with breakId := some bid }) >>=
      fun _ => Lower.restoring (Lower.modifyFrame f fun g => { g with breakId := fr.breakId }) x >>= k).KeepsScope := by
  intro p s
  rw [exec_bind_of_ok rfl, exec_bind_of_ok rfl]
  refine keepsScope_bind_at ?_ hk
  rw [exec_restoring_snd]
  exact Env.KeepsScope.restoreBreak (hx.from_env p rfl)

/-- A new lexical scope entered for a part, and left for the one before after the part whether
it stops or not. -/
theorem lexicalFor {x : Lower α} (hx : x.KeepsScope) :
    (Lower.onEnv Env.pushLexical >>= fun previous =>
      Lower.restoring (Lower.modifyEnv (·.popLexical previous)) x).KeepsScope := by
  intro p s
  rw [exec_bind_of_ok rfl, exec_restoring_snd]
  exact Env.KeepsScope.popLexical (hx.from_env p rfl)

/-- Constant lookup switched before a part, or left as it is, and put back to what it was after
the part whether the part stops or not. -/
theorem dynamicFor {x : Lower α} {g : Bool → Lower α}
    (hg : ∀ was p s, ∃ on, (g was).exec p s =
      (Lower.restoring (do let _ ← Lower.onEnv (·.setDynamic was)) x).exec p
        { s with env := (s.env.setDynamic on).1 })
    (hx : x.KeepsScope) : (isDynamic >>= g).KeepsScope := by
  intro p s
  obtain ⟨on, hon⟩ := hg s.env.dynamicConstants p s
  rw [exec_bind_of_ok rfl, hon, exec_restoring_snd]
  exact Env.KeepsScope.resetDynamic (hx.from_env p rfl)

end KeepsScope

/-! ## The steps of the lowering -/

theorem frame_keepsScope : (frame : Lower Nat).KeepsScope := fun _ s => Env.KeepsScope.refl s.env

theorem modes_keepsScope : (modes : Lower Modes).KeepsScope := fun _ s => Env.KeepsScope.refl s.env

theorem options_keepsScope : (options : Lower Options).KeepsScope :=
  fun _ s => Env.KeepsScope.refl s.env

theorem source_keepsScope : (source : Lower SourceInfo).KeepsScope :=
  fun _ s => Env.KeepsScope.refl s.env

theorem env_keepsScope : (env : Lower Env).KeepsScope := fun _ s => Env.KeepsScope.refl s.env

theorem frameData_keepsScope (id : Nat) : (frameData id).KeepsScope :=
  fun _ s => Env.KeepsScope.refl s.env

theorem isDynamic_keepsScope : isDynamic.KeepsScope := fun _ s => Env.KeepsScope.refl s.env

theorem lexicalScope_keepsScope : lexicalScope.KeepsScope := fun _ s => Env.KeepsScope.refl s.env

theorem currentMarker_keepsScope : currentMarker.KeepsScope := fun _ s => Env.KeepsScope.refl s.env

theorem declare_keepsScope (id : Nat) (name : String) : (declare id name).KeepsScope :=
  KeepsScope.onEnv fun e => Env.KeepsScope.declareLocal e id name

theorem resolve_keepsScope (id : Nat) (name : String) : (resolve id name).KeepsScope :=
  KeepsScope.onEnv fun e => Env.KeepsScope.resolveLocal e id name

theorem temp_keepsScope (pfx : String) : (temp pfx).KeepsScope :=
  frame_keepsScope.bind fun f => KeepsScope.onEnv fun e => Env.KeepsScope.allocTemp e f pfx

theorem allocTempName_keepsScope (pfx : String) : (onEnv (·.allocTempName pfx)).KeepsScope :=
  KeepsScope.onEnv fun e => Env.KeepsScope.allocTempName e pfx

theorem allocFlipFlop_keepsScope (id : Nat) : (onEnv (·.allocFlipFlop id)).KeepsScope :=
  KeepsScope.onEnv fun e => Env.KeepsScope.allocFlipFlop e id

theorem allocReturn_keepsScope : allocReturn.KeepsScope :=
  KeepsScope.onEnv fun _ => Env.KeepsScope.of_eq rfl rfl rfl

theorem allocBreak_keepsScope : allocBreak.KeepsScope :=
  KeepsScope.onEnv fun _ => Env.KeepsScope.of_eq rfl rfl rfl

theorem resolveOrDeclare_keepsScope (name : String) : (resolveOrDeclare name).KeepsScope := by
  refine frame_keepsScope.bind fun f => (resolve_keepsScope f name).bind fun slot => ?_
  cases slot with
  | some slot => exact KeepsScope.pure slot
  | none => exact declare_keepsScope f name

theorem assignmentSlot_keepsScope (name : String) : (assignmentSlot name).KeepsScope := by
  refine frame_keepsScope.bind fun f => (frameData_keepsScope f).bind fun fr => ?_
  split
  · exact declare_keepsScope f name
  · refine (resolve_keepsScope f name).bind fun slot => ?_
    cases slot with
    | some slot => exact KeepsScope.pure slot
    | none =>
      refine env_keepsScope.bind fun e => (declare_keepsScope _ name).bind fun _ =>
        (resolve_keepsScope f name).bind fun slot => ?_
      cases slot with
      | some slot => exact KeepsScope.pure slot
      | none => exact declare_keepsScope f name

theorem registerLine_keepsScope (line : Nat) : (registerLine line).KeepsScope :=
  fun _ s => Env.KeepsScope.refl s.env

theorem markLineStart_keepsScope (o : Op) (lineSpan : Span) : (markLineStart o lineSpan).KeepsScope := by
  refine options_keepsScope.bind fun opts => ?_
  split
  · exact source_keepsScope.bind fun _ => (registerLine_keepsScope _).bind fun _ => KeepsScope.pure _
  · exact KeepsScope.pure _

theorem addNewline_keepsScope (n : Node) (o : Op) : (addNewline n o).KeepsScope := by
  unfold addNewline
  split
  · split
    · exact markLineStart_keepsScope _ _
    · exact KeepsScope.pure _
    · exact KeepsScope.throw _
  · exact KeepsScope.pure _

theorem readConst_keepsScope (name : String) (span : Span) : (readConst name span).KeepsScope := by
  refine isDynamic_keepsScope.bind fun dyn => ?_
  split
  · exact KeepsScope.pure _
  · exact lexicalScope_keepsScope.bind fun _ => KeepsScope.pure _

theorem classVarScope_keepsScope : classVarScope.KeepsScope := by
  refine isDynamic_keepsScope.bind fun dyn => ?_
  split
  · exact KeepsScope.pure _
  · exact lexicalScope_keepsScope.bind fun _ => KeepsScope.pure _

end Steps

end Lower

/-! ## The recursive calls -/

/-- The recursive calls of a rule keep the scope: lowering any node, and assigning any value to
any target. -/
structure Recur.KeepsScope (r : Recur) : Prop where
  expr : ∀ n, (r.expr n).KeepsScope
  target : ∀ n v, (r.target n v).KeepsScope

namespace Lower

section Recur

variable {r : Recur} (hr : r.KeepsScope)
include hr

theorem exprOrNil_keepsScope (n : Option Node) (span : Span) : (exprOrNil r n span).KeepsScope := by
  cases n with
  | some n => exact hr.expr n
  | none => exact KeepsScope.pure _

theorem exprs_keepsScope (ns : List Node) : (exprs r ns).KeepsScope :=
  KeepsScope.mapM hr.expr ns

theorem valueOrDead_keepsScope (value : Option Node) (what : String) :
    (valueOrDead r value what).KeepsScope := by
  cases value with
  | some v => exact hr.expr v
  | none => exact KeepsScope.pure _

theorem constPathModule_keepsScope (path : ConstPath Node) : (constPathModule r path).KeepsScope := by
  unfold constPathModule
  split
  · refine isDynamic_keepsScope.bind fun dyn => ?_
    split
    · exact KeepsScope.pure _
    · exact lexicalScope_keepsScope.bind fun _ => KeepsScope.pure _
  · exact hr.expr _
  · exact KeepsScope.pure _

end Recur

end Lower

end RubyLower
