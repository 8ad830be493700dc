import Mathlib.Data.List.Forall2
import RubyLower.Proofs.Holds

/-!
# Where a local slot points

A slot `name@index^depth` used in a unit means: go `depth` units outwards, along the chain of units
each of which defines the one before, and read local `index` there, which must be `name`. Every
unit passed on the way is a block or lambda that knows it reaches into an enclosing frame. A
flip-flop keeps its state in a slot of its own unit, set up at the very start of the unit's body.

`Scope` is what a slot needs to know of a unit. `Op.SlotsIn us o` says that every slot in `o` points
into the chain of scopes `us`, innermost first, the scope of each nested unit being pushed on
entering its body; `ExecUnit.SlotsWellFormed` asks it of a whole unit. Scopes only learn more as a
lowering goes on (`Scope.Le`), and `SlotsIn.mono` says nothing is lost by that.
-/

namespace RubyLower

/-- What a slot needs to know of a unit: its kind, its locals in slot order, whether it reaches
into an enclosing frame, and the flip-flop states its body sets up first. -/
structure Scope where
  kind : UnitKind
  locals : List String
  needsDeclarationFrame : Bool
  inits : List Slot

namespace Scope

/-- A unit a slot may look through: a block or lambda that reaches into an enclosing frame. -/
def Crossable (u : Scope) : Prop :=
  (u.kind = .proc ∨ u.kind = .lambda) ∧ u.needsDeclarationFrame = true

/-- `u'` knows at least what `u` knows: the same kind, more locals after the same ones, and more
states set up. -/
structure Le (u u' : Scope) : Prop where
  kind : u.kind = u'.kind
  locals : u.locals <+: u'.locals
  crossable : u.Crossable → u'.Crossable
  inits : u.inits ⊆ u'.inits

theorem Le.refl (u : Scope) : u.Le u :=
  ⟨rfl, List.prefix_refl _, id, List.Subset.refl _⟩

theorem Le.trans {u u' u'' : Scope} (h : u.Le u') (h' : u'.Le u'') : u.Le u'' :=
  ⟨h.kind.trans h'.kind, h.locals.trans h'.locals, h'.crossable ∘ h.crossable,
    List.Subset.trans h.inits h'.inits⟩

end Scope

/-- The states set up by the leading `initFlipFlop` items of a list of nodes. -/
def Op.initPrefix : List Op → List Slot
  | .mk (.initFlipFlop s) _ _ :: rest => s :: initPrefix rest
  | _ => []

/-- The flip-flop states a body sets up before anything else. -/
def Op.leadingInits (o : Op) : List Slot :=
  match o.form with
  | .seq items => initPrefix items
  | _ => []

/-- The scope of a unit, from its description and the start of its body. -/
def ExecUnit.scope (x : ExecUnit) : Scope :=
  { kind := x.head.kind, locals := x.head.locals,
    needsDeclarationFrame := x.head.needsDeclarationFrame, inits := x.body.leadingInits }

/-- A slot points into the scopes `us`, innermost first: the unit `depth` out holds `name` at
`index`, and the units before it may be looked through. -/
def Slot.ResolvesIn (s : Slot) (us : List Scope) : Prop :=
  (∃ w ∈ us[s.depth]?, w.locals[s.index]? = some s.name) ∧
    ∀ k < s.depth, ∀ u ∈ us[k]?, u.Crossable

/-- The slots a form carries point into the scopes around it; a flip-flop's state is its own
unit's, set up at the start of the unit. -/
def slotNode (us : List Scope) : Form Op → Prop
  | .readLocal s | .writeLocal s _ | .initFlipFlop s | .frameOnStack s _ => s.ResolvesIn us
  | .flipFlop _ _ _ s => s.ResolvesIn us ∧ s.depth = 0 ∧ ∃ u ∈ us.head?, s ∈ u.inits
  | .blockDef _ _ _ _ m => ∀ s ∈ m, s.ResolvesIn us
  | _ => True

/-- The body of a nested unit sees that unit's scope in front of the ones around it. -/
def slotStep (us : List Scope) : Form Op → Nat → List Scope
  | .blockDef _ h b _ _, _ => (ExecUnit.mk h b).scope :: us
  | .methodDef _ h b, 1 | .runModuleBody _ h b, 1 => (ExecUnit.mk h b).scope :: us
  | _, _ => us

/-- Every slot of `o` points into the scopes `us` around it. -/
def Op.SlotsIn (us : List Scope) (o : Op) : Prop :=
  o.Holds slotNode slotStep us

/-- Every slot carried by a node of the unit points into the units around that node. -/
def ExecUnit.SlotsWellFormed (x : ExecUnit) : Prop :=
  x.body.SlotsIn [x.scope]

/-! ## Scopes that know more -/

theorem forall₂_getElem? {α β : Type} {R : α → β → Prop} {l : List α} {l' : List β}
    (hl : List.Forall₂ R l l') : ∀ {k : Nat} {a : α}, l[k]? = some a →
      ∃ b, l'[k]? = some b ∧ R a b := by
  induction hl with
  | nil => simp
  | cons hab _ ih =>
    intro k a h
    cases k with
    | zero => exact ⟨_, rfl, by simpa using (Option.some.inj h) ▸ hab⟩
    | succ k => simpa using ih (by simpa using h)

theorem getElem?_of_prefix {α : Type} {l l' : List α} {k : Nat} {a : α} (hp : l <+: l')
    (h : l[k]? = some a) : l'[k]? = some a := by
  obtain ⟨t, rfl⟩ := hp
  rw [List.getElem?_append_left (List.getElem?_eq_some_iff.1 h).1, h]

theorem Slot.ResolvesIn.mono {s : Slot} {us us' : List Scope} (hle : List.Forall₂ Scope.Le us us')
    (h : s.ResolvesIn us) : s.ResolvesIn us' := by
  obtain ⟨⟨w, hw, hname⟩, hcross⟩ := h
  obtain ⟨w', hw', hle'⟩ := forall₂_getElem? hle hw
  refine ⟨⟨w', hw', getElem?_of_prefix hle'.locals hname⟩, fun k hk u' hu' => ?_⟩
  obtain ⟨u, hu⟩ : ∃ u, us[k]? = some u := by
    have := (List.getElem?_eq_some_iff.1 hw).1
    exact ⟨_, List.getElem?_eq_getElem (by omega)⟩
  obtain ⟨u'', hu'', hleu⟩ := forall₂_getElem? hle hu
  rw [Option.mem_def, hu''] at hu'
  exact Option.some.inj hu' ▸ hleu.crossable (hcross k hk u hu)

theorem slotNode_mono {us us' : List Scope} {f : Form Op} (hle : List.Forall₂ Scope.Le us us')
    (h : slotNode us f) : slotNode us' f := by
  cases f <;> simp only [slotNode] at h ⊢
  case flipFlop =>
    obtain ⟨hs, hd, u, hu, hin⟩ := h
    refine ⟨hs.mono hle, hd, ?_⟩
    cases hle with
    | nil => simp at hu
    | cons hab _ => exact ⟨_, rfl, hab.inits (by simpa using (Option.some.inj hu) ▸ hin)⟩
  case blockDef => exact fun s hs => (h s hs).mono hle
  all_goals first | trivial | exact h.mono hle

theorem slotStep_mono {us us' : List Scope} (f : Form Op) (i : Nat)
    (hle : List.Forall₂ Scope.Le us us') :
    List.Forall₂ Scope.Le (slotStep us f i) (slotStep us' f i) := by
  unfold slotStep
  split <;> first | exact hle | exact .cons (Scope.Le.refl _) hle

/-- Slots that point into some scopes point into scopes that know more. -/
theorem Op.SlotsIn.mono {us us' : List Scope} {o : Op} (hle : List.Forall₂ Scope.Le us us')
    (h : o.SlotsIn us) : o.SlotsIn us' :=
  @Holds.mono (List Scope) slotNode slotStep (List.Forall₂ Scope.Le)
    (fun _ _ _ hle h => slotNode_mono hle h) (fun _ _ f i => slotStep_mono f i) o _ _ hle h

end RubyLower
