import RubyLower.Proofs.Invariant

/-!
# The small steps of a lowering

Each helper of the lowering monad with its promise: the steps on locals give slots that point into
the scopes of the place's frame (`Lower.resolveOrDeclare_yields`, `Lower.assignmentSlot_yields`,
`Lower.temp_yields`), the steps on counters and lexical scopes leave the frames alone, and the
steps that lower or flag a node keep it good (`Lower.exprOrNil_yields`, `Lower.addNewline_yields`).
The rules of the lowering are proved from these and never look inside them.
-/

namespace RubyLower

/-! ## Nodes on slots -/

namespace Op.Good

variable {p : Place} {s : Progress}

theorem readLocal {slot : Slot} (h : slot.ResolvesIn (s.env.scopes p.frame)) :
    (Op.readLocal slot).Good p s :=
  node rfl h trivial (fun _ _ => trivial) (by simp [Form.children])

theorem writeLocal {slot : Slot} {v : Op} (h : slot.ResolvesIn (s.env.scopes p.frame))
    (hv : v.Good p s) : (Op.writeLocal slot v).Good p s :=
  node rfl h trivial (fun _ _ => trivial) (by simpa [Form.children] using hv)

/-- A node of a bare form without children is good. -/
theorem leaf {f : Form Op} {sp : Option Span} {fl : OpFlags} (hf : f.Bare = true)
    (hc : f.children = []) : (Op.mk f sp fl).Good p s :=
  bare hf (by simp [hc])

theorem nil : Op.nil.Good p s :=
  leaf rfl rfl

theorem selfValue : Op.selfValue.Good p s :=
  leaf rfl rfl

theorem object (l : Literal) : (Op.object l).Good p s :=
  leaf rfl rfl

theorem symbol (name : String) : (Op.symbol name).Good p s :=
  object _

theorem call {recv : Op} {args : List Op} (hrecv : recv.Good p s) (hargs : ∀ a ∈ args, a.Good p s)
    (name : String) (flags : CallFlags) : (Op.call recv name args flags).Good p s :=
  bare rfl (by simpa [Form.children] using ⟨hrecv, hargs⟩)

theorem not {o : Op} (h : o.Good p s) : (Op.not o).Good p s :=
  bare rfl (by simpa [Form.children] using h)

theorem ifElse {c t e : Op} (hc : c.Good p s) (ht : t.Good p s) (he : e.Good p s) :
    (Op.ifElse c t e).Good p s :=
  bare rfl (by simpa [Form.children] using ⟨hc, ht, he⟩)

end Op.Good

/-! ## Steps on the environment -/

namespace Progress.Evolves

variable {s : Progress} {e : Env}

theorem declareLocal (s : Progress) (i : Nat) (name : String) :
    s.Evolves { s with env := (s.env.declareLocal i name).1 } :=
  ⟨Env.Grows.declareLocal _ i name, Env.SameBreaks.declareLocal _ i name, fun h => h.declareLocal i name⟩

theorem marks (h : s.env.Marks e) : s.Evolves { s with env := e } :=
  ⟨h.grows, h.sameBreaks, h.ok⟩

theorem allocTemp (s : Progress) (i : Nat) (pfx : String) :
    s.Evolves { s with env := (s.env.allocTemp i pfx).1 } :=
  ⟨Env.Grows.allocTemp _ i pfx, Env.SameBreaks.allocTemp _ i pfx, fun h => h.allocTemp i pfx⟩

end Progress.Evolves

namespace Lower

section Steps

variable {p : Place} {s : Progress}

theorem declare_yields (hp : p.Fits s) (name : String) :
    (declare p.frame name).Yields p s fun slot s' => slot.ResolvesIn (s'.env.scopes p.frame) := by
  refine Post.onEnv ⟨Progress.Evolves.declareLocal s _ name, ?_⟩
  obtain ⟨index, hslot, hl⟩ := s.env.declareLocal_slot name hp.frame
  rw [hslot]
  exact Env.resolvesIn_of_local hl

/-- Declaring a local in any frame, whatever it gives, lets the progress evolve. -/
theorem declare_yields_any (id : Nat) (name : String) :
    (declare id name).Yields p s fun _ _ => True :=
  Post.onEnv ⟨Progress.Evolves.declareLocal s _ name, trivial⟩

theorem resolve_yields (hp : p.Fits s) (name : String) :
    (resolve p.frame name).Yields p s fun r s' => ∀ slot ∈ r, slot.ResolvesIn (s'.env.scopes p.frame) :=
  have h := Env.resolveLocal_resolves hp.ok hp.frame name
  Post.onEnv ⟨Progress.Evolves.marks h.1, fun slot hs => (h.2 slot hs).2⟩

theorem temp_yields (hp : p.Fits s) (pfx : String) :
    (temp pfx).Yields p s fun slot s' => slot.ResolvesIn (s'.env.scopes p.frame) := by
  refine Yields.bind_read frame_post (Post.onEnv ⟨Progress.Evolves.allocTemp s _ pfx, ?_⟩)
  obtain ⟨index, hl, hslot⟩ := s.env.allocTemp_slot pfx hp.frame
  rw [hslot]
  exact Env.resolvesIn_of_local hl

/-- A flip-flop state is a slot of the place's frame, among the states its unit sets up. -/
theorem allocFlipFlop_yields (hp : p.Fits s) :
    (onEnv (·.allocFlipFlop p.frame)).Yields p s fun slot s' =>
      slot.ResolvesIn (s'.env.scopes p.frame) ∧ slot.depth = 0 ∧
        ∃ u ∈ (s'.env.scopes p.frame).head?, slot ∈ u.inits := by
  obtain ⟨hd, hmem, hres⟩ := s.env.allocFlipFlop_state hp.frame
  refine Post.onEnv ⟨⟨Env.Grows.allocFlipFlop _ _, Env.SameBreaks.allocFlipFlop _ _,
    fun h => h.allocFlipFlop hp.frame⟩, hres, hd, ((s.env.allocFlipFlop p.frame).1.frame p.frame).scope,
    ?_, hmem⟩
  rw [Option.mem_def, Env.head?_scopes]

/-- An operation of the environment that leaves the frames alone lets the progress evolve. -/
theorem onEnv_yields_of_frames {α : Type} {f : Env → Env × α}
    (hf : (f s.env).1.frames = s.env.frames) : (onEnv f).Yields p s fun _ _ => True :=
  Post.onEnv ⟨Progress.Evolves.of_frames_eq hf, trivial⟩

theorem allocReturn_yields : allocReturn.Yields p s fun _ _ => True :=
  onEnv_yields_of_frames (Env.frames_allocReturn _)

theorem allocBreak_yields : allocBreak.Yields p s fun _ _ => True :=
  onEnv_yields_of_frames (Env.frames_allocBreak _)

theorem resolveOrDeclare_yields (hp : p.Fits s) (name : String) :
    (resolveOrDeclare name).Yields p s fun slot s' => slot.ResolvesIn (s'.env.scopes p.frame) := by
  refine Yields.bind_read frame_post ((resolve_yields hp name).bind fun r s1 e1 hr => ?_)
  cases r with
  | some slot => exact Yields.pure (hr slot rfl)
  | none => exact declare_yields (hp.evolve e1) name

/-- The slot an assignment writes points into the scopes of the place's frame: it is found from
there, or declared in the frame itself. -/
theorem assignmentSlot_yields (hp : p.Fits s) (name : String) :
    (assignmentSlot name).Yields p s fun slot s' => slot.ResolvesIn (s'.env.scopes p.frame) := by
  refine Yields.bind_read frame_post (Yields.bind_read (frameData_post _) ?_)
  split
  · exact declare_yields hp name
  · refine (resolve_yields hp name).bind fun r s1 e1 hr => ?_
    cases r with
    | some slot => exact Yields.pure (hr slot rfl)
    | none =>
      refine Yields.bind_read env_post ((declare_yields_any _ name).bind fun _ s2 e2 _ => ?_)
      have hp2 := (hp.evolve e1).evolve e2
      refine (resolve_yields hp2 name).bind fun r s3 e3 hr => ?_
      cases r with
      | some slot => exact Yields.pure (hr slot rfl)
      | none => exact declare_yields (hp2.evolve e3) name

/-- Changing a frame in a way that keeps what grows, its break id and its flip-flop states lets
the progress evolve. -/
theorem modifyFrame_yields {id : Nat} {g : Frame → Frame} (hg : ∀ fr : Frame, fr.Grows (g fr))
    (hb : ∀ fr : Frame, (g fr).breakId = fr.breakId)
    (hs : ∀ fr : Frame, (g fr).flipFlopStates = fr.flipFlopStates) :
    (modifyFrame id g).Yields p s fun _ _ => True :=
  Post.modifyEnv ⟨⟨Env.Grows.modifyFrame (hg _), Env.SameBreaks.modifyFrame (hb _),
    fun h => h.modifyFrame (hg _).parent fun hst => hst.of_grows (hg _) (hs _)⟩, trivial⟩

theorem modifyEnv_yields {f : Env → Env} (hf : s.Evolves { s with env := f s.env }) :
    (modifyEnv f).Yields p s fun _ _ => True :=
  Post.modifyEnv ⟨hf, trivial⟩

/-- Steps each of which gives a good node give good nodes, one after the other. -/
theorem Yields.mapM_good {α : Type} {f : α → Lower Op} (hp : p.Fits s) (xs : List α)
    (hf : ∀ x ∈ xs, ∀ s', p.Fits s' → s.Evolves s' → (f x).Yields p s' fun o s'' => o.Good p s'') :
    (xs.mapM f).Yields p s fun os s' => ∀ o ∈ os, o.Good p s' :=
  Yields.mapM (fun _ _ _ hp he h => h.evolve hp he) xs hp hf

/-! ## Steps on nodes -/

theorem registerLine_yields (line : Nat) : (registerLine line).Yields p s fun _ s' => s'.env = s.env :=
  Post.modify ⟨Progress.Evolves.of_frames_eq rfl, rfl⟩

theorem markLineStart_yields {o : Op} (hp : p.Fits s) (ho : o.Good p s) (span : Span) :
    (markLineStart o span).Yields p s fun o' s' => o'.Good p s' := by
  refine Yields.bind_read options_post ?_
  split
  · refine Yields.bind_read source_post ((registerLine_yields _).bind fun _ s1 e1 _ => ?_)
    exact Yields.pure (ho.markNewline.markCoverage.evolve hp e1)
  · exact Yields.pure ho.markNewline

/-- Flagging a node as a line start keeps it good. -/
theorem addNewline_yields {o : Op} (hp : p.Fits s) (ho : o.Good p s) (n : Node) :
    (addNewline n o).Yields p s fun o' s' => o'.Good p s' := by
  unfold addNewline
  split
  · split
    · exact markLineStart_yields hp ho _
    · exact Yields.pure ho
    · exact Yields.throw
  · exact Yields.pure ho

section Recur

variable {r : Recur} (hr : r.Sound)
include hr

theorem exprOrNil_yields (hp : p.Fits s) (n : Option Node) (span : Span) :
    (exprOrNil r n span).Yields p s fun o s' => o.Good p s' := by
  cases n with
  | some n => exact hr.expr n p s hp
  | none => exact Yields.pure (Op.Good.leaf rfl rfl).withSpan

theorem exprs_yields (hp : p.Fits s) (ns : List Node) :
    (exprs r ns).Yields p s fun os s' => ∀ o ∈ os, o.Good p s' :=
  Yields.mapM_good hp ns fun n _ s' hp' _ => hr.expr n p s' hp'

theorem optionMapM_yields (hp : p.Fits s) (n : Option Node) :
    (n.mapM r.expr).Yields p s fun o s' => ∀ x ∈ o, x.Good p s' := by
  cases n with
  | none => exact Yields.pure (by simp)
  | some n =>
    rw [Option.mapM_some]
    exact Yields.map ((hr.expr n p s hp).mono fun _ _ _ h x hx => Option.some.inj hx ▸ h)

theorem valueOrDead_yields (hp : p.Fits s) (value : Option Node) (what : String) :
    (valueOrDead r value what).Yields p s fun o s' => o.Good p s' := by
  cases value with
  | some v => exact hr.expr v p s hp
  | none => exact Yields.pure (Op.Good.leaf rfl rfl)

theorem constPathModule_yields (hp : p.Fits s) (path : ConstPath Node) :
    (constPathModule r path).Yields p s fun o s' => o.Good p s' := by
  unfold constPathModule
  split
  · refine Yields.bind_read isDynamic_post ?_
    split
    · exact Yields.pure (Op.Good.leaf rfl rfl)
    · exact Yields.bind_read lexicalScope_post
        (Yields.pure (Op.Good.leaf rfl rfl))
  · exact hr.expr _ p s hp
  · exact Yields.pure (Op.Good.leaf rfl rfl)

end Recur

theorem readConst_yields (name : String) (span : Span) :
    (readConst name span).Yields p s fun o s' => o.Good p s' := by
  refine Yields.bind_read isDynamic_post ?_
  split
  · exact Yields.pure (Op.Good.leaf rfl rfl).withSpan
  · exact Yields.bind_read lexicalScope_post
      (Yields.pure (Op.Good.leaf rfl rfl).withSpan)

theorem classVarScope_yields : classVarScope.Yields p s fun o s' => o.Good p s' := by
  refine Yields.bind_read isDynamic_post ?_
  split
  · exact Yields.pure (Op.Good.leaf rfl rfl)
  · exact Yields.bind_read lexicalScope_post (Yields.pure (Op.Good.leaf rfl rfl))

end Steps

end Lower

end RubyLower
