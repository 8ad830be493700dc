import RubyLower.Proofs.Jumps.Parts
import RubyLower.Proofs.Steps

/-!
# Runs of the lowering against the parts they visit

A run of a lowering at a place is checked against a list of visits (`Lower.Visits`): it either
succeeds, having let the progress evolve, with none of the visits misplaced, or it stops with an
error that the visits account for (`LowerError.Blamed`): a control-flow fault only when one of
them is misplaced, an overflow or running out of fuel only when one of them is out of range, and
never a span given twice. A fault of another kind is owed nothing.

The jump scope of a place (`Place.jumpScope`) is read off the frame's kind and the modes; a place
is ready at a scope (`Place.Ready`) when the frame tree is well formed, holds the frame, gives
the scope, and a frame in a block or a loop has a break id, as the lowering arranges for every
place it creates. Being ready survives any evolution of the progress, so the steps of a rule are
checked one after the other (`Visits.bind`), each against its own visits.

A rule is checked against the parts of its node; `Visits.toNode` then puts the whole down to the
node itself, one level up, since the parts lie below it. A lowered node comes back with a span
that can be computed (`Op.Spanned`), so flagging it as a line start never overflows.
-/

namespace RubyLower

/-! ## The scope of a place -/

/-- The jump scope at a place: the source's kind, whether the frame is a block's, whether the
body is a loop body, whether it is a rescue clause. -/
def Place.jumpScope (p : Place) (s : Progress) : JumpScope :=
  { core := p.source.isCore, block := (s.env.frame p.frame).isBlock, loop := p.modes.whileLoop,
    rescue := p.modes.inRescue }

/-- A place is ready to lower at scope `c`: the frame tree is well formed and holds the place's
frame, the place has scope `c`, and in a block or a loop body the frame has a break id. -/
structure Place.Ready (p : Place) (s : Progress) (c : JumpScope) : Prop where
  ok : s.env.Ok
  frame : p.frame < s.env.frames.size
  scope : p.jumpScope s = c
  breakId : c.block = true ∨ c.loop = true → (s.env.frame p.frame).breakId.isSome = true

namespace Place.Ready

variable {p : Place} {s s' : Progress} {c : JumpScope}

theorem evolve (hp : p.Ready s c) (he : s.Evolves s') : p.Ready s' c := by
  have hk := (he.grows.frame _ hp.frame).kind
  have hb := he.breaks _ hp.frame
  refine ⟨he.ok hp.ok, Nat.lt_of_lt_of_le hp.frame he.grows.size, ?_, ?_⟩
  · rw [← hp.scope]
    simp only [Place.jumpScope, Frame.isBlock, hk]
  · rw [hb]
    exact hp.breakId

theorem core (hp : p.Ready s c) : c.core = p.source.isCore := by
  rw [← hp.scope]; rfl

theorem block (hp : p.Ready s c) : c.block = (s.env.frame p.frame).isBlock := by
  rw [← hp.scope]; rfl

theorem loop (hp : p.Ready s c) : c.loop = p.modes.whileLoop := by
  rw [← hp.scope]; rfl

theorem rescue (hp : p.Ready s c) : c.rescue = p.modes.inRescue := by
  rw [← hp.scope]; rfl

/-- Changing modes that decide no jump keeps a place ready at its scope. -/
theorem withModes (hp : p.Ready s c) {f : Modes → Modes}
    (hf : (f p.modes).whileLoop = p.modes.whileLoop ∧ (f p.modes).inRescue = p.modes.inRescue) :
    ({ p with modes := f p.modes } : Place).Ready s c := by
  refine ⟨hp.ok, hp.frame, ?_, hp.breakId⟩
  rw [← hp.scope]
  simp only [Place.jumpScope, hf.1, hf.2]

/-- A rescue clause's body is ready at the clause's scope. -/
theorem enterRescue (hp : p.Ready s c) :
    ({ p with modes := { p.modes with inRescue := true } } : Place).Ready s c.enterRescue := by
  refine ⟨hp.ok, hp.frame, ?_, hp.breakId⟩
  rw [← hp.scope]
  rfl

theorem withMarker (hp : p.Ready s c) (m : Option Slot) :
    ({ p with markers := m :: p.markers } : Place).Ready s c :=
  ⟨hp.ok, hp.frame, hp.scope, hp.breakId⟩

end Place.Ready

/-! ## Errors and the visits that account for them -/

/-- An error accounted for: a control-flow fault by `jump`, an overflow or running out of fuel
by `out`; a fault of another kind needs nothing, and a span given twice is never accounted for. -/
def LowerError.Blamed (jump out : Prop) : LowerError → Prop
  | .fault f => f.kind = .controlFlow → jump
  | .overflow _ | .exhausted => out
  | .spanTwice _ _ => False

theorem LowerError.Blamed.mono {e : LowerError} {jump out jump' out' : Prop} (h : e.Blamed jump out)
    (hj : jump → jump') (ho : out → out') : e.Blamed jump' out' := by
  cases e with
  | fault f => exact fun hk => hj (h hk)
  | overflow _ => exact ho h
  | exhausted => exact ho h
  | spanTwice _ _ => exact h.elim

theorem Node.OutOf.mono {n : Node} {h h' : Nat} (hle : h' ≤ h) (ho : n.OutOf h) : n.OutOf h' :=
  ho.imp_left (Nat.le_trans hle)

/-! ## Spans of lowered nodes -/

/-- The span a node covers can be computed: joining the spans below it never overflows. -/
def Op.Spanned (o : Op) : Prop :=
  ∃ sp, o.encapsulatingSpan = .ok sp

namespace Op

theorem encapsulatingSpan_mk_some (f : Form Op) (sp : Span) (fl : OpFlags) :
    (Op.mk f (some sp) fl).encapsulatingSpan = .ok (some sp) := by
  rw [encapsulatingSpan]

theorem mapM_encapsulatingSpan_of_spanless {xs : List Op}
    (h : ∀ x ∈ xs, x.encapsulatingSpan = .ok none) :
    xs.mapM encapsulatingSpan = .ok (xs.map fun _ => none) := by
  induction xs with
  | nil => rfl
  | cons x xs ih =>
    rw [List.mapM_cons, h x List.mem_cons_self, ih fun y hy => h y (List.mem_cons_of_mem _ hy)]
    rfl

theorem filterMap_id_map_none {ys : List Op} :
    (ys.map fun _ => (none : Option Span)).filterMap id = [] := by
  simp [List.filterMap_map]

/-- A node without a span whose first child covers `sp` and whose other children cover nothing
covers `sp`. -/
theorem encapsulatingSpan_ofForm_head {f : Form Op} {x : Op} {ys : List Op}
    (hf : f.children = x :: ys) {sp : Option Span} (hx : x.encapsulatingSpan = .ok sp)
    (hys : ∀ y ∈ ys, y.encapsulatingSpan = .ok none) :
    (Op.ofForm f).encapsulatingSpan = .ok sp := by
  rw [ofForm, encapsulatingSpan]
  dsimp only
  rw [List.mapM_subtype (fun _ _ => rfl), List.unattach_attach, hf, List.mapM_cons, hx,
    mapM_encapsulatingSpan_of_spanless hys]
  cases sp with
  | none =>
    show joinAll ((ys.map fun _ => none).filterMap id) = _
    rw [filterMap_id_map_none]
    rfl
  | some sp =>
    show joinAll (sp :: (ys.map fun _ => none).filterMap id) = _
    rw [filterMap_id_map_none]
    rfl

/-- A node without a span whose children cover nothing covers nothing. -/
theorem encapsulatingSpan_ofForm_of_spanless {f : Form Op}
    (h : ∀ x ∈ f.children, x.encapsulatingSpan = .ok none) :
    (Op.ofForm f).encapsulatingSpan = .ok none := by
  rw [ofForm, encapsulatingSpan]
  dsimp only
  rw [List.mapM_subtype (fun _ _ => rfl), List.unattach_attach,
    mapM_encapsulatingSpan_of_spanless h]
  show joinAll ((f.children.map fun _ => none).filterMap id) = _
  rw [filterMap_id_map_none]
  rfl

theorem spanned_withSpan (o : Op) (sp : Span) : (o.withSpan sp).Spanned :=
  ⟨_, encapsulatingSpan_mk_some _ _ _⟩

theorem spanned_ensureSpan (o : Op) (sp : Span) : (o.ensureSpan sp).Spanned := by
  unfold ensureSpan
  split
  · next sp' hsp =>
    obtain ⟨f, s, fl⟩ := o
    cases hsp
    exact ⟨_, encapsulatingSpan_mk_some _ _ _⟩
  · exact spanned_withSpan o sp

theorem encapsulatingSpan_markNewline (o : Op) :
    o.markNewline.encapsulatingSpan = o.encapsulatingSpan := by
  obtain ⟨f, s, fl⟩ := o
  show (Op.mk f s _).encapsulatingSpan = (Op.mk f s fl).encapsulatingSpan
  cases s <;> rw [encapsulatingSpan, encapsulatingSpan]

theorem encapsulatingSpan_markCoverage (o : Op) :
    o.markCoverage.encapsulatingSpan = o.encapsulatingSpan := by
  obtain ⟨f, s, fl⟩ := o
  show (Op.mk f s _).encapsulatingSpan = (Op.mk f s fl).encapsulatingSpan
  cases s <;> rw [encapsulatingSpan, encapsulatingSpan]

theorem Spanned.markNewline {o : Op} (h : o.Spanned) : o.markNewline.Spanned := by
  rw [Spanned, encapsulatingSpan_markNewline]; exact h

theorem Spanned.markCoverage {o : Op} (h : o.Spanned) : o.markCoverage.Spanned := by
  rw [Spanned, encapsulatingSpan_markCoverage]; exact h

end Op

/-! ## Runs checked against visits -/

namespace Lower

/-- Run at `p` from `s`, at scope `c` with `h` levels of lowering left, `x` either gives a
result with `Q` in a progress that evolves from `s`, none of the visits `L` misplaced, or stops
with an error that `L` accounts for. -/
def Visits {α : Type} (x : Lower α) (p : Place) (s : Progress) (c : JumpScope) (h : Nat)
    (L : List Visit) (Q : α → Prop) : Prop :=
  p.Ready s c → match x.exec p s with
    | (.ok a, s') => s.Evolves s' ∧ (∀ v ∈ L, ¬ v.Misplaced) ∧ Q a
    | (.error e, _) => e.Blamed (∃ v ∈ L, v.Misplaced) (∃ v ∈ L, v.OutOf h)

section Visits

variable {α β : Type} {p : Place} {s : Progress} {c : JumpScope} {h : Nat}

/-- More visits, among which the misplaced ones are misplaced ones of the old, still account for
the run. -/
theorem Visits.congr {x : Lower α} {L L' : List Visit} {Q Q' : α → Prop} (hx : x.Visits p s c h L Q)
    (hsub : ∀ v ∈ L, v ∈ L') (hmis : ∀ v ∈ L', v.Misplaced → ∃ w ∈ L, w.Misplaced)
    (hQ : ∀ a, Q a → Q' a) : x.Visits p s c h L' Q' := by
  intro hp
  have hx := hx hp
  revert hx
  rcases x.exec p s with ⟨e | a, s'⟩
  · intro hx
    exact hx.mono (fun ⟨v, hv, hm⟩ => ⟨v, hsub v hv, hm⟩) (fun ⟨v, hv, ho⟩ => ⟨v, hsub v hv, ho⟩)
  · rintro ⟨he, hm, hq⟩
    refine ⟨he, fun v hv hmv => ?_, hQ a hq⟩
    obtain ⟨w, hw, hmw⟩ := hmis v hv hmv
    exact hm w hw hmw

/-- The same visits, in any order and with any repeats. -/
theorem Visits.congr_mem {x : Lower α} {L L' : List Visit} {Q Q' : α → Prop}
    (hx : x.Visits p s c h L Q) (hL : ∀ v, v ∈ L ↔ v ∈ L') (hQ : ∀ a, Q a → Q' a) :
    x.Visits p s c h L' Q' :=
  hx.congr (fun v hv => (hL v).1 hv) (fun v hv hm => ⟨v, (hL v).2 hv, hm⟩) hQ

theorem Visits.mono {x : Lower α} {L : List Visit} {Q Q' : α → Prop} (hx : x.Visits p s c h L Q)
    (hQ : ∀ a, Q a → Q' a) : x.Visits p s c h L Q' :=
  hx.congr (fun _ hv => hv) (fun v hv hm => ⟨v, hv, hm⟩) hQ

theorem Visits.of_eq {x : Lower α} {L L' : List Visit} {Q : α → Prop} (hx : x.Visits p s c h L Q)
    (hL : L = L') : x.Visits p s c h L' Q :=
  hL ▸ hx

/-- A visit that is never misplaced may be added. -/
theorem Visits.cons_quiet {x : Lower α} {L : List Visit} {Q : α → Prop} {v : Visit}
    (hx : x.Visits p s c h L Q) (hv : ¬ v.Misplaced) : x.Visits p s c h (v :: L) Q :=
  hx.congr (fun _ hw => List.mem_cons_of_mem _ hw) (fun w hw hm => by
    rcases List.mem_cons.1 hw with rfl | hw
    · exact absurd hm hv
    · exact ⟨w, hw, hm⟩) fun _ hq => hq

theorem Visits.pure {a : α} {Q : α → Prop} (hq : Q a) : (Pure.pure a : Lower α).Visits p s c h [] Q :=
  fun _ => ⟨Progress.Evolves.refl s, fun _ hv => absurd hv List.not_mem_nil, hq⟩

/-- Giving a node that has no span, or already that one, its span goes through. -/
theorem Visits.atSpan {o : Op} {sp : Span} {Q : Op → Prop} (hfree : o.span = none ∨ o.span = some sp)
    (hq : Q (o.withSpan sp)) : (atSpan o sp).Visits p s c h [] Q := by
  rw [atSpan_eq_pure hfree]
  exact Visits.pure hq

/-- A step, then the rest: the visits of both account for the run. -/
theorem Visits.bind {x : Lower α} {f : α → Lower β} {L₁ L₂ : List Visit} {Q : α → Prop}
    {R : β → Prop} (hx : x.Visits p s c h L₁ Q)
    (hf : ∀ a s', s.Evolves s' → Q a → (f a).Visits p s' c h L₂ R) :
    (x >>= f).Visits p s c h (L₁ ++ L₂) R := by
  intro hp
  have hx := hx hp
  rw [exec_bind]
  revert hx
  rcases x.exec p s with ⟨e | a, s'⟩
  · intro hx
    exact hx.mono (fun ⟨v, hv, hm⟩ => ⟨v, List.mem_append_left _ hv, hm⟩)
      (fun ⟨v, hv, ho⟩ => ⟨v, List.mem_append_left _ hv, ho⟩)
  · rintro ⟨he, hm, hq⟩
    have hf := hf a s' he hq (hp.evolve he)
    revert hf
    dsimp only
    rcases (f a).exec p s' with ⟨e | b, s''⟩
    · intro hf
      exact hf.mono (fun ⟨v, hv, hm⟩ => ⟨v, List.mem_append_right _ hv, hm⟩)
        (fun ⟨v, hv, ho⟩ => ⟨v, List.mem_append_right _ hv, ho⟩)
    · rintro ⟨he', hm', hr⟩
      exact ⟨he.trans he', fun v hv => (List.mem_append.1 hv).elim (hm v) (hm' v), hr⟩

/-- A step, then a rest that visits nothing. -/
theorem Visits.bind_quiet {x : Lower α} {f : α → Lower β} {L : List Visit} {Q : α → Prop}
    {R : β → Prop} (hx : x.Visits p s c h L Q)
    (hf : ∀ a s', s.Evolves s' → Q a → (f a).Visits p s' c h [] R) :
    (x >>= f).Visits p s c h L R :=
  (hx.bind hf).of_eq (List.append_nil L)

/-- A step that visits nothing, then the rest. -/
theorem Visits.quiet_bind {x : Lower α} {f : α → Lower β} {L : List Visit} {Q : α → Prop}
    {R : β → Prop} (hx : x.Visits p s c h [] Q)
    (hf : ∀ a s', s.Evolves s' → Q a → (f a).Visits p s' c h L R) : (x >>= f).Visits p s c h L R :=
  hx.bind hf

/-- A run that is another run from a progress the first evolves to. -/
theorem Visits.of_exec {x y : Lower α} {L : List Visit} {Q : α → Prop} {s' : Progress}
    (hxy : x.exec p s = y.exec p s') (he : p.Ready s c → s.Evolves s')
    (hy : s.Evolves s' → y.Visits p s' c h L Q) : x.Visits p s c h L Q := by
  intro hp
  have he := he hp
  have hy := hy he (hp.evolve he)
  rw [hxy]
  revert hy
  rcases y.exec p s' with ⟨e | a, s''⟩
  · exact id
  · rintro ⟨he', hm, hq⟩
    exact ⟨he.trans he', hm, hq⟩

/-- A run checked under the assumption that the place is ready. -/
theorem Visits.of_ready {x : Lower α} {L : List Visit} {Q : α → Prop}
    (hx : p.Ready s c → x.Visits p s c h L Q) : x.Visits p s c h L Q :=
  fun hp => hx hp hp

/-- A step that gives its result at once and lets the progress evolve, then the rest. -/
theorem Visits.bind_step {x : Lower α} {f : α → Lower β} {L : List Visit} {R : β → Prop} {a : α}
    {s' : Progress} (hx : x.exec p s = (.ok a, s')) (he : p.Ready s c → s.Evolves s')
    (hf : (f a).Visits p s' c h L R) : (x >>= f).Visits p s c h L R :=
  Visits.of_exec (by rw [exec_bind, hx]) he fun _ => hf

/-- A read of the place or the progress, then the rest. -/
theorem Visits.bind_read {x : Lower α} {f : α → Lower β} {L : List Visit} {R : β → Prop} {a : α}
    (hx : x.exec p s = (.ok a, s)) (hf : (f a).Visits p s c h L R) : (x >>= f).Visits p s c h L R :=
  Visits.bind_step hx (fun _ => Progress.Evolves.refl s) hf

/-- A step whose result the rest makes into its own. -/
theorem Visits.map {x : Lower α} {g : α → β} {L : List Visit} {Q : α → Prop} {R : β → Prop}
    (hx : x.Visits p s c h L Q) (hg : ∀ a, Q a → R (g a)) : (g <$> x).Visits p s c h L R := by
  rw [map_eq_pure_bind]
  exact (hx.bind fun a _ _ ha => Visits.pure (hg a ha)).of_eq (List.append_nil L)

theorem Visits.bind_pure {x : Lower α} {g : α → β} {L : List Visit} {Q : α → Prop} {R : β → Prop}
    (hx : x.Visits p s c h L Q) (hg : ∀ a, Q a → R (g a)) :
    (x >>= fun a => Pure.pure (g a)).Visits p s c h L R :=
  (hx.bind fun a _ _ ha => Visits.pure (hg a ha)).of_eq (List.append_nil L)

theorem Visits.withReader {x : Lower α} {g : Place → Place} {c' : JumpScope} {L : List Visit}
    {Q : α → Prop} (hx : x.Visits (g p) s c' h L Q) (hr : p.Ready s c → (g p).Ready s c') :
    (withTheReader Place g x : Lower α).Visits p s c h L Q :=
  fun hp => hx (hr hp)

theorem Visits.withMarker {x : Lower α} {m : Option Slot} {L : List Visit} {Q : α → Prop}
    (hx : x.Visits { p with markers := m :: p.markers } s c h L Q) :
    (Lower.withMarker m x).Visits p s c h L Q :=
  fun hp => hx (hp.withMarker m)

/-- A part run with modes changed that decide no jump is checked at the same scope. -/
theorem Visits.withModes {x : Lower α} {f : Modes → Modes} {L : List Visit} {Q : α → Prop}
    (hf : (f p.modes).whileLoop = p.modes.whileLoop ∧ (f p.modes).inRescue = p.modes.inRescue)
    (hx : x.Visits { p with modes := f p.modes } s c h L Q) :
    (Lower.withModes f x).Visits p s c h L Q :=
  fun hp => hx (hp.withModes hf)

/-- A fault of a kind other than control flow is owed nothing. -/
theorem Visits.fail {kind : FaultKind} {message : Message} {args : List String} {span : Span}
    {L : List Visit} {Q : α → Prop} (hk : kind ≠ .controlFlow) :
    (Lower.fail kind message args span : Lower α).Visits p s c h L Q :=
  fun _ hk' => absurd hk' hk

theorem Visits.fail_bind {kind : FaultKind} {message : Message} {args : List String} {span : Span}
    {f : α → Lower β} {L : List Visit} {Q : β → Prop} (hk : kind ≠ .controlFlow) :
    (Lower.fail kind message args span >>= f).Visits p s c h L Q :=
  fun _ hk' => absurd hk' hk

/-- A control-flow fault is accounted for by a misplaced visit. -/
theorem Visits.fail_jump {message : Message} {args : List String} {span : Span} {L : List Visit}
    {Q : α → Prop} (hm : ∃ v ∈ L, v.Misplaced) :
    (Lower.fail .controlFlow message args span : Lower α).Visits p s c h L Q :=
  fun _ _ => hm

theorem Visits.throw_overflow {e : OffsetOverflow} {L : List Visit} {Q : α → Prop}
    (ho : ∃ v ∈ L, v.OutOf h) : (throw (LowerError.overflow e) : Lower α).Visits p s c h L Q :=
  fun _ => ho

theorem Visits.throw_exhausted {L : List Visit} {Q : α → Prop} (ho : ∃ v ∈ L, v.OutOf h) :
    (throw LowerError.exhausted : Lower α).Visits p s c h L Q :=
  fun _ => ho

/-! ### Putting parts down to their node -/

/-- A run checked against the parts of a node and more is checked against the node and the
rest, at the same level. -/
theorem Visits.gather {x : Lower α} {n : Node} {ρ : Role} {E : List Visit} {Q : α → Prop}
    (hx : x.Visits p s c h (n.parts c ρ ++ E) Q) : x.Visits p s c h (.node c ρ n :: E) Q := by
  intro hp
  have hx := hx hp
  revert hx
  rcases x.exec p s with ⟨e | a, s'⟩
  · intro hx
    refine hx.mono (fun ⟨v, hv, hm⟩ => ?_) (fun ⟨v, hv, ho⟩ => ?_)
    · rcases List.mem_append.1 hv with hv | hv
      · exact ⟨_, List.mem_cons_self, .part hv hm⟩
      · exact ⟨v, List.mem_cons_of_mem _ hv, hm⟩
    · rcases List.mem_append.1 hv with hv | hv
      · -- a part out of range puts the node out of range, a fortiori at the same level
        exact ⟨_, List.mem_cons_self,
          Node.OutOf.mono (Nat.le_succ h) (Visit.Under.outOf (Node.parts_under v hv) ho)⟩
      · exact ⟨v, List.mem_cons_of_mem _ hv, ho⟩
  · rintro ⟨he, hm, hq⟩
    refine ⟨he, fun v hv hmv => ?_, hq⟩
    rcases List.mem_cons.1 hv with rfl | hv
    · obtain ⟨w, hw, hmw⟩ := Visit.misplaced_node_iff.1 hmv
      exact hm w (List.mem_append_left _ hw) hmw
    · exact hm v (List.mem_append_right _ hv) hmv

/-- A run checked against the parts of a node is checked against the node, one level up. -/
theorem Visits.toNode {x : Lower α} {n : Node} {ρ : Role} {Q : α → Prop}
    (hx : x.Visits p s c h (n.parts c ρ) Q) : x.Visits p s c (h + 1) [.node c ρ n] Q := by
  intro hp
  have hx := hx hp
  revert hx
  rcases x.exec p s with ⟨e | a, s'⟩
  · intro hx
    refine hx.mono (fun ⟨v, hv, hm⟩ => ⟨_, List.mem_singleton_self _, .part hv hm⟩)
      (fun ⟨v, hv, ho⟩ => ⟨_, List.mem_singleton_self _, ?_⟩)
    exact Visit.Under.outOf (Node.parts_under v hv) ho
  · rintro ⟨he, hm, hq⟩
    refine ⟨he, fun v hv hmv => ?_, hq⟩
    rw [List.mem_singleton.1 hv, Visit.misplaced_node_iff] at hmv
    obtain ⟨w, hw, hmw⟩ := hmv
    exact hm w hw hmw

/-! ### Loops of steps -/

/-- Each element's step checked against its own visits: the loop is checked against all of them,
and each result has `Q`. -/
theorem Visits.mapM {f : α → Lower β} {V : α → List Visit} {Q : β → Prop} :
    ∀ (xs : List α) {s : Progress}, (∀ x ∈ xs, ∀ s', (f x).Visits p s' c h (V x) Q) →
      (xs.mapM f).Visits p s c h (xs.flatMap V) fun bs => ∀ b ∈ bs, Q b
  | [], _, _ => Visits.pure fun _ hb => absurd hb List.not_mem_nil
  | x :: xs, s, hf => by
    rw [List.mapM_cons, List.flatMap_cons]
    refine (hf x List.mem_cons_self s).bind fun b _ _ hb => ?_
    refine (Visits.mapM xs fun y hy => hf y (List.mem_cons_of_mem _ hy)).bind_pure fun bs hbs => ?_
    intro b' hb'
    rcases List.mem_cons.1 hb' with rfl | hb'
    · exact hb
    · exact hbs b' hb'

theorem Visits.mapM_quiet {f : α → Lower β} {Q : β → Prop} (xs : List α) {s : Progress}
    (hf : ∀ x ∈ xs, ∀ s', (f x).Visits p s' c h [] Q) :
    (xs.mapM f).Visits p s c h [] fun bs => ∀ b ∈ bs, Q b :=
  (Visits.mapM xs hf).of_eq (by simp)

/-- A loop of steps that visit nothing gives as many results as it has elements. -/
theorem Visits.mapM_length {f : α → Lower β} :
    ∀ (xs : List α) {s : Progress}, (∀ x ∈ xs, ∀ s', (f x).Visits p s' c h [] fun _ => True) →
      (xs.mapM f).Visits p s c h [] fun bs => bs.length = xs.length
  | [], _, _ => Visits.pure rfl
  | x :: xs, s, hf => by
    rw [List.mapM_cons]
    refine (hf x List.mem_cons_self s).quiet_bind fun b _ _ _ => ?_
    exact (Visits.mapM_length xs fun y hy => hf y (List.mem_cons_of_mem _ hy)).bind_pure
      fun bs hbs => by rw [List.length_cons, hbs, List.length_cons]

theorem Visits.foldlM {γ : Type} {f : γ → α → Lower γ} {V : α → List Visit} {I : γ → Prop} :
    ∀ (xs : List α) {acc : γ} {s : Progress}, I acc →
      (∀ x ∈ xs, ∀ acc s', I acc → (f acc x).Visits p s' c h (V x) I) →
      (xs.foldlM f acc).Visits p s c h (xs.flatMap V) I
  | [], _, _, hi, _ => Visits.pure hi
  | x :: xs, acc, s, hi, hf => by
    rw [List.foldlM_cons, List.flatMap_cons]
    exact (hf x List.mem_cons_self acc s hi).bind fun acc' _ _ hi' =>
      Visits.foldlM xs hi' fun y hy => hf y (List.mem_cons_of_mem _ hy)

/-- A loop of steps that visit nothing visits nothing. -/
theorem Visits.forIn_quiet {g : α → PUnit → Lower (ForInStep PUnit)} :
    ∀ (xs : List α) {s : Progress},
      (∀ x ∈ xs, ∀ s', (g x PUnit.unit).Visits p s' c h [] fun _ => True) →
      (forIn xs PUnit.unit g).Visits p s c h [] fun _ => True
  | [], _, _ => Visits.pure trivial
  | x :: xs, s, hf => by
    rw [List.forIn_cons]
    refine (hf x List.mem_cons_self s).bind fun step _ _ _ => ?_
    cases step with
    | done => exact Visits.pure trivial
    | yield => exact Visits.forIn_quiet xs fun y hy => hf y (List.mem_cons_of_mem _ hy)

theorem Visits.optionMapM {f : α → Lower β} {V : α → List Visit} {Q : β → Prop} :
    ∀ (o : Option α), (∀ x ∈ o, (f x).Visits p s c h (V x) Q) →
      (o.mapM f).Visits p s c h (o.toList.flatMap V) fun b => ∀ y ∈ b, Q y
  | none, _ => Visits.pure fun _ hy => by cases hy
  | some x, hf => by
    rw [Option.mapM_some]
    refine ((hf x rfl).map fun b hb y hy => ?_).of_eq (by simp)
    cases hy
    exact hb

/-- A part, then a restore that always goes through and lets the progress evolve: the part's
visits account for the whole, whether the part gives a result or stops. -/
theorem Visits.restoring {restore : Lower Unit} {x : Lower α} {L : List Visit} {Q : α → Prop}
    (hrestore : ∀ s', ∃ s'', restore.exec p s' = (.ok (), s'') ∧ s'.Evolves s'')
    (hx : x.Visits p s c h L Q) : (Lower.restoring restore x).Visits p s c h L Q := by
  intro hp
  have hx := hx hp
  rw [exec_restoring]
  revert hx
  rcases x.exec p s with ⟨e | a, s'⟩
  · obtain ⟨s'', hres, -⟩ := hrestore s'
    intro hx
    rw [hres]
    exact hx
  · obtain ⟨s'', hres, he'⟩ := hrestore s'
    rintro ⟨he, hm, hq⟩
    rw [hres]
    exact ⟨he.trans he', hm, hq⟩

end Visits

/-! ## The steps of the lowering -/

section Steps

variable {α : Type} {p : Place} {s : Progress} {c : JumpScope} {h : Nat}

theorem Visits.onEnv {f : Env → Env × α} {Q : α → Prop}
    (he : p.Ready s c → s.Evolves { s with env := (f s.env).1 }) (hq : Q (f s.env).2) :
    (Lower.onEnv f).Visits p s c h [] Q :=
  fun hp => ⟨he hp, fun _ hv => absurd hv List.not_mem_nil, hq⟩

theorem Visits.modifyEnv {f : Env → Env} (he : p.Ready s c → s.Evolves { s with env := f s.env }) :
    (Lower.modifyEnv f).Visits p s c h [] fun _ => True :=
  fun hp => ⟨he hp, fun _ hv => absurd hv List.not_mem_nil, trivial⟩

/-- Changing a frame in a way that keeps what grows, its break id and its flip-flop states. -/
theorem Visits.modifyFrame {id : Nat} {g : Frame → Frame} (hg : ∀ fr : Frame, fr.Grows (g fr))
    (hb : ∀ fr : Frame, (g fr).breakId = fr.breakId)
    (hs : ∀ fr : Frame, (g fr).flipFlopStates = fr.flipFlopStates) :
    (Lower.modifyFrame id g).Visits p s c h [] fun _ => True :=
  Visits.modifyEnv fun _ => ⟨Env.Grows.modifyFrame (hg _), Env.SameBreaks.modifyFrame (hb _),
    fun hok => hok.modifyFrame (hg _).parent fun hst => hst.of_grows (hg _) (hs _)⟩

theorem declare_visits (id : Nat) (name : String) :
    (declare id name).Visits p s c h [] fun _ => True :=
  Visits.onEnv (fun _ => Progress.Evolves.declareLocal s id name) trivial

theorem resolve_visits (name : String) : (resolve p.frame name).Visits p s c h [] fun _ => True :=
  Visits.onEnv (fun hp => Progress.Evolves.marks (Env.resolveLocal_resolves hp.ok hp.frame name).1)
    trivial

theorem temp_visits (pfx : String) : (temp pfx).Visits p s c h [] fun _ => True :=
  Visits.bind_read rfl (Visits.onEnv (fun _ => Progress.Evolves.allocTemp s _ pfx) trivial)

theorem allocFlipFlop_visits : (onEnv (·.allocFlipFlop p.frame)).Visits p s c h [] fun _ => True :=
  Visits.onEnv (fun hp => ⟨Env.Grows.allocFlipFlop _ _, Env.SameBreaks.allocFlipFlop _ _,
    fun hok => hok.allocFlipFlop hp.frame⟩) trivial

theorem allocTempName_visits (pfx : String) :
    (onEnv (·.allocTempName pfx)).Visits p s c h [] fun _ => True :=
  Visits.onEnv (fun _ => Progress.Evolves.of_frames_eq (Env.frames_allocTempName _ pfx)) trivial

theorem allocReturn_visits : allocReturn.Visits p s c h [] fun _ => True :=
  Visits.onEnv (fun _ => Progress.Evolves.of_frames_eq (Env.frames_allocReturn _)) trivial

theorem allocBreak_visits : allocBreak.Visits p s c h [] fun _ => True :=
  Visits.onEnv (fun _ => Progress.Evolves.of_frames_eq (Env.frames_allocBreak _)) trivial

theorem resolveOrDeclare_visits (name : String) :
    (resolveOrDeclare name).Visits p s c h [] fun _ => True := by
  refine Visits.bind_read rfl ((resolve_visits name).bind fun found _ _ _ => ?_)
  cases found with
  | some slot => exact Visits.pure trivial
  | none => exact declare_visits _ name

theorem assignmentSlot_visits (name : String) :
    (assignmentSlot name).Visits p s c h [] fun _ => True := by
  refine Visits.bind_read rfl (Visits.bind_read rfl ?_)
  split
  · exact declare_visits _ name
  · refine (resolve_visits name).bind fun found _ _ _ => ?_
    cases found with
    | some slot => exact Visits.pure trivial
    | none =>
      refine Visits.bind_read rfl ((declare_visits _ name).bind fun _ _ _ _ => ?_)
      refine (resolve_visits name).bind fun found _ _ _ => ?_
      cases found with
      | some slot => exact Visits.pure trivial
      | none => exact declare_visits _ name

theorem registerLine_visits (line : Nat) : (registerLine line).Visits p s c h [] fun _ => True :=
  fun _ => ⟨Progress.Evolves.of_frames_eq rfl, fun _ hv => absurd hv List.not_mem_nil, trivial⟩

theorem markLineStart_visits {o : Op} (ho : o.Spanned) (lineSpan : Span) :
    (markLineStart o lineSpan).Visits p s c h [] Op.Spanned := by
  refine Visits.bind_read rfl ?_
  split
  · exact Visits.bind_read rfl ((registerLine_visits _).bind fun _ _ _ _ =>
      Visits.pure ho.markNewline.markCoverage)
  · exact Visits.pure ho.markNewline

/-- Flagging a node whose span can be computed as a line start never stops. -/
theorem addNewline_visits {o : Op} (ho : o.Spanned) (n : Node) :
    (addNewline n o).Visits p s c h [] Op.Spanned := by
  unfold addNewline
  split
  · split
    · exact markLineStart_visits ho _
    · exact Visits.pure ho
    · next e he =>
      obtain ⟨sp, hsp⟩ := ho
      rw [hsp] at he
      cases he
  · exact Visits.pure ho

theorem readConst_visits (name : String) (span : Span) :
    (readConst name span).Visits p s c h [] Op.Spanned := by
  refine Visits.bind_read rfl ?_
  split
  · exact Visits.pure (Op.spanned_withSpan _ _)
  · exact Visits.bind_read rfl (Visits.pure (Op.spanned_withSpan _ _))

theorem classVarScope_visits : classVarScope.Visits p s c h [] fun _ => True := by
  refine Visits.bind_read rfl ?_
  split
  · exact Visits.pure trivial
  · exact Visits.bind_read rfl (Visits.pure trivial)

end Steps

end Lower

/-! ## The recursive calls -/

/-- The recursive calls with `h` levels of lowering left are checked against the node they
lower: lowering a node as an expression gives a node whose span can be computed, and assigning to
a target gives whatever it gives. -/
structure Recur.Visits (h : Nat) (r : Recur) : Prop where
  expr : ∀ n p s c, (r.expr n).Visits p s c h [.node c .expr n] Op.Spanned
  target : ∀ n v p s c, (r.target n v).Visits p s c h [.node c .target n] fun _ => True

namespace Lower

section Recur

variable {p : Place} {s : Progress} {c : JumpScope} {h : Nat} {r : Recur} (hr : r.Visits h)
include hr

theorem exprOrNil_visits (n : Option Node) (span : Span) :
    (exprOrNil r n span).Visits p s c h (Visit.exprs c n.toList) Op.Spanned := by
  cases n with
  | some n => exact hr.expr n p s c
  | none => exact Visits.pure (Op.spanned_withSpan _ _)

theorem exprs_visits (ns : List Node) :
    (exprs r ns).Visits p s c h (Visit.exprs c ns) fun os => ∀ o ∈ os, o.Spanned :=
  (Visits.mapM ns fun n _ s' => hr.expr n p s' c).of_eq (by rw [Visit.exprs, List.map_eq_flatMap])

theorem optionExprs_visits (n : Option Node) :
    (n.mapM r.expr).Visits p s c h (Visit.exprs c n.toList) fun o => ∀ x ∈ o, x.Spanned := by
  cases n with
  | none => exact Visits.pure fun _ hx => by cases hx
  | some n =>
    rw [Option.mapM_some]
    exact (hr.expr n p s c).map fun o ho x hx => by cases hx; exact ho

theorem valueOrDead_visits (value : Option Node) (what : String) :
    (valueOrDead r value what).Visits p s c h (Visit.exprs c value.toList) fun _ => True := by
  cases value with
  | some v => exact (hr.expr v p s c).mono fun _ _ => trivial
  | none => exact Visits.pure trivial

theorem constPathModule_visits (path : ConstPath Node) :
    (constPathModule r path).Visits p s c h (Visit.ofPath c path) fun _ => True := by
  unfold constPathModule
  split
  · refine Visits.bind_read rfl ?_
    split
    · exact Visits.pure trivial
    · exact Visits.bind_read rfl (Visits.pure trivial)
  · exact (hr.expr _ p s c).mono fun _ _ => trivial
  · exact Visits.pure trivial

end Recur

end Lower

end RubyLower
