import RubyLower.Op.Basic

/-!
# Walking operation trees

`Op.nodes` lists a node and all nodes below it in pre-order, children in `Form.children` order,
so the bodies of nested units are included. `Op.encapsulatingSpan` is a node's own span, or the
least span covering its children's encapsulating spans when it has none; joining two spans
computes their stops, so it fails when one of them is past the largest offset. `Op.units` lists
the units defined in a tree, in pre-order.
-/

namespace RubyLower

namespace Op

/-- A child is smaller than its parent. -/
theorem sizeOf_lt_of_mem_children {f : Form Op} {s : Option Span} {fl : OpFlags} {c : Op}
    (h : c ∈ f.children) : sizeOf c < sizeOf (Op.mk f s fl) := by
  have := Form.sizeOf_lt_of_mem_children h
  simp only [Op.mk.sizeOf_spec]
  omega

/-- The children of a node, in evaluation order. -/
def children (o : Op) : List Op :=
  o.form.children

/-- The node and every node below it, in pre-order. -/
def nodes : Op → List Op
  | .mk f s fl => .mk f s fl :: f.children.attach.flatMap fun ⟨c, _⟩ => c.nodes
decreasing_by exact sizeOf_lt_of_mem_children (by assumption)

/-- The least span covering all spans of a list, joined from the first; `none` for an empty
list. A single span is taken as it is, without computing its stop. -/
def joinAll : List Span → Except OffsetOverflow (Option Span)
  | [] => .ok none
  | s :: rest => some <$> rest.foldlM Span.join s

/-- The node's own span, or else the least span covering the encapsulating spans of its
children. -/
def encapsulatingSpan : Op → Except OffsetOverflow (Option Span)
  | .mk f s _ =>
    match s with
    | some s => .ok (some s)
    | none => do
      let spans ← f.children.attach.mapM fun ⟨c, _⟩ => c.encapsulatingSpan
      joinAll (spans.filterMap id)
decreasing_by exact sizeOf_lt_of_mem_children (by assumption)

/-- The units defined at a node itself: a block, method or module body. -/
def ownUnit : Op → Option ExecUnit
  | .mk (.blockDef _ h b _ _) _ _ => some ⟨h, b⟩
  | .mk (.methodDef _ h b) _ _ => some ⟨h, b⟩
  | .mk (.runModuleBody _ h b) _ _ => some ⟨h, b⟩
  | _ => none

/-- The units defined in a tree, in pre-order. -/
def units (o : Op) : List ExecUnit :=
  o.nodes.filterMap ownUnit

end Op

end RubyLower
