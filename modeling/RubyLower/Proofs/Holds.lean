import RubyLower.Op.Walk
import RubyLower.Proofs.SequenceNesting

/-!
# Properties of every node of an operation tree

Most facts about a lowered tree say that each node is fine where it stands: a slot is declared in
one of the units around it, a `break` sits in the loop it leaves, a `return` inside the catch of
its unit. "Where it stands" is a context handed down from the root, and `Op.Holds node step c`
packages the pattern once: `node c f` is asked of every form `f`, and the child at index `i` of a
form `f` seen in context `c` is seen in context `step c f i`.

The lemmas here are the ones every such property shares: unfolding one node (`holds_mk`),
weakening the context (`Holds.mono`), the children of a node whose context passes unchanged
(`holds_mk_of_step`), and the nodes `Op.sequence` builds (`holds_sequence`).
-/

namespace RubyLower

namespace Op

/-- `o.Holds node step c`: `node` holds of every form of `o`, each in the context handed down from
`c`; the child at index `i` of a form `f` seen in `c` is seen in `step c f i`. -/
def Holds {C : Type} (node : C → Form Op → Prop) (step : C → Form Op → Nat → C) : C → Op → Prop
  | c, .mk f _ _ =>
    node c f ∧ ∀ i (h : i < f.children.length), Holds node step (step c f i) f.children[i]
decreasing_by exact sizeOf_lt_of_mem_children (List.getElem_mem h)

section Holds

variable {C : Type} {node : C → Form Op → Prop} {step : C → Form Op → Nat → C}

theorem holds_mk {c : C} {f : Form Op} {s : Option Span} {fl : OpFlags} :
    Holds node step c (.mk f s fl) ↔
      node c f ∧ ∀ i (h : i < f.children.length), Holds node step (step c f i) f.children[i] := by
  rw [Holds]

/-- Spans and flags are not looked at. -/
theorem holds_mk_iff {c : C} {f : Form Op} {s s' : Option Span} {fl fl' : OpFlags} :
    Holds node step c (.mk f s fl) ↔ Holds node step c (.mk f s' fl') := by
  rw [holds_mk, holds_mk]

theorem holds_withSpan {c : C} {o : Op} {s : Span} :
    Holds node step c (o.withSpan s) ↔ Holds node step c o := by
  cases o
  exact holds_mk_iff

theorem holds_ensureSpan {c : C} {o : Op} {s : Span} :
    Holds node step c (o.ensureSpan s) ↔ Holds node step c o := by
  unfold ensureSpan
  split
  · rfl
  · exact holds_withSpan

theorem holds_markNewline {c : C} {o : Op} :
    Holds node step c o.markNewline ↔ Holds node step c o := by
  cases o
  exact holds_mk_iff

theorem holds_markCoverage {c : C} {o : Op} :
    Holds node step c o.markCoverage ↔ Holds node step c o := by
  cases o
  exact holds_mk_iff

/-- A node whose children all see its own context holds when it is fine itself and its children
hold. -/
theorem holds_mk_of_step {c : C} {f : Form Op} {s : Option Span} {fl : OpFlags}
    (hstep : ∀ i, step c f i = c) :
    Holds node step c (.mk f s fl) ↔ node c f ∧ ∀ x ∈ f.children, Holds node step c x := by
  rw [holds_mk]
  constructor
  · rintro ⟨hn, hc⟩
    refine ⟨hn, fun x hx => ?_⟩
    obtain ⟨i, hi, rfl⟩ := List.getElem_of_mem hx
    simpa [hstep] using hc i hi
  · rintro ⟨hn, hc⟩
    exact ⟨hn, fun i hi => by simpa [hstep] using hc _ (List.getElem_mem hi)⟩

/-- A node with two children holds when it is fine itself and each child holds in the context
the node hands it. -/
theorem holds_two {c : C} {f : Form Op} {s : Option Span} {fl : OpFlags} {a b : Op}
    (hchildren : f.children = [a, b]) (hn : node c f) (ha : Holds node step (step c f 0) a)
    (hb : Holds node step (step c f 1) b) : Holds node step c (.mk f s fl) := by
  rw [holds_mk]
  refine ⟨hn, fun i hi => ?_⟩
  simp only [hchildren, List.length_cons, List.length_nil] at hi
  rcases i with _ | _ | i
  · simpa [hchildren] using ha
  · simpa [hchildren] using hb
  · omega

/-- A property holds in every context that is related to one where it holds, when the relation is
kept by `node` and by `step`. -/
theorem Holds.mono {R : C → C → Prop} (hnode : ∀ c c' f, R c c' → node c f → node c' f)
    (hstep : ∀ c c' f i, R c c' → R (step c f i) (step c' f i)) :
    ∀ (o : Op) {c c' : C}, R c c' → Holds node step c o → Holds node step c' o
  | .mk f s fl, c, c', hR, h => by
    rw [holds_mk] at h ⊢
    exact ⟨hnode _ _ _ hR h.1, fun i hi =>
      Holds.mono hnode hstep f.children[i] (hstep _ _ _ _ hR) (h.2 i hi)⟩
decreasing_by exact sizeOf_lt_of_mem_children (List.getElem_mem hi)

/-- Two properties over their own contexts hold together as one over the pairs. -/
theorem holds_and {D : Type} {node' : D → Form Op → Prop} {step' : D → Form Op → Nat → D} :
    ∀ (o : Op) {c : C} {d : D},
      Holds (fun (p : C × D) f => node p.1 f ∧ node' p.2 f)
        (fun p f i => (step p.1 f i, step' p.2 f i)) (c, d) o ↔
      Holds node step c o ∧ Holds node' step' d o
  | .mk f s fl, c, d => by
    simp only [holds_mk]
    constructor
    · rintro ⟨⟨h1, h2⟩, hc⟩
      exact ⟨⟨h1, fun i hi => ((holds_and _).1 (hc i hi)).1⟩,
        ⟨h2, fun i hi => ((holds_and _).1 (hc i hi)).2⟩⟩
    · rintro ⟨⟨h1, hc⟩, ⟨h2, hd⟩⟩
      exact ⟨⟨h1, h2⟩, fun i hi => (holds_and _).2 ⟨hc i hi, hd i hi⟩⟩
decreasing_by all_goals exact sizeOf_lt_of_mem_children (List.getElem_mem hi)

end Holds

/-! ## Sequences -/

section Sequence

variable {C : Type} {node : C → Form Op → Prop} {step : C → Form Op → Nat → C}

/-- A sequence of nodes that hold holds, where a sequence node and `nil` are fine and pass their
context to their items unchanged. -/
theorem holds_sequence {c : C} {xs : List Op} (hseq : ∀ items, node c (.seq items))
    (hnil : node c .nil) (hstep : ∀ items i, step c (.seq items) i = c)
    (h : ∀ x ∈ xs, Holds node step c x) : Holds node step c (sequence xs) := by
  have hitem : ∀ x ∈ dropIdle (splice xs), Holds node step c x := by
    intro x hx
    rcases mem_splice (mem_of_mem_dropIdle hx) with hx | ⟨o, ho, items, hs, hx⟩
    · exact h x hx
    · have := h o ho
      rw [spliceable_eq_some hs, holds_mk_of_step (hstep items)] at this
      exact this.2 x hx
  unfold sequence
  split
  · rw [nil, ofForm, holds_mk]
    exact ⟨hnil, fun i hi => by simp [Form.children] at hi⟩
  · next o hl => exact hitem o (by simp [hl])
  · next items _ _ =>
    rw [ofForm, holds_mk_of_step (hstep _)]
    exact ⟨hseq _, fun x hx => hitem x (by simpa [Form.children, *] using hx)⟩

end Sequence

end Op

end RubyLower
