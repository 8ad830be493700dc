import RubyLower.Proofs.Holds

/-!
# Where a `return` goes

A `return` leaves the nearest unit around it that is not a proc: a block shares the return id of
the unit it is written in, so a `return` in it leaves that unit. When that unit is a method, a
lambda or the top level, the `return` carries the unit's return id, says whether it is written
in the unit's own body or in a block nested in it, and is caught by the catch for that id that
wraps the unit's body. The catch wraps the body after the parameter prelude only: a `return` in
the prelude, in a default of a parameter, is left uncaught.

`Op.ReturnsIn c o` says this of every `return` in `o`, where `ReturnScope` is what a node knows
of its place: the return id of its target unit, whether it is inside that unit's catch, inside
a nested proc, or inside the prelude. `ExecUnit.ReturnsBound` asks it of a whole unit.
-/

namespace RubyLower

/-- What a node knows of its place for the returns in it. -/
structure ReturnScope where
  /-- The return id of the nearest unit around that is not a proc, when that unit is a method,
  a lambda or the top level. -/
  target : Option (Option Nat)
  /-- Inside a catch for the target's return id, in the target's body. -/
  caught : Prop
  /-- Inside a proc nested in the target. -/
  inProc : Bool
  /-- Inside one of the statements before the last of the target's body: its prelude. -/
  prelude : Prop
  /-- The node is the target's body itself. -/
  root : Bool

namespace ReturnScope

/-- The place of the body of a unit that is not a proc. -/
def enter (h : UnitHead) : ReturnScope :=
  { target := if h.kind = .method ∨ h.kind = .lambda ∨ h.kind = .topLevel then some h.returnId
      else none,
    caught := False, inProc := false, prelude := False, root := true }

end ReturnScope

/-- A return carries its target's id, is local unless it is written in a nested proc, and is
caught unless it is in the prelude. -/
def returnNode (c : ReturnScope) : Form Op → Prop
  | .returnJump id loc _ => ∀ t ∈ c.target, t = some id ∧ loc = !c.inProc ∧ (c.caught ∨ c.prelude)
  | _ => True

/-- The place of each child: a catch for the target's id catches, the statements before the last
of the target's body are its prelude, a proc keeps the target, and any other unit is a new one. -/
def returnStep (c : ReturnScope) : Form Op → Nat → ReturnScope
  | .catchReturn id _, _ => { c with caught := c.caught ∨ c.target = some (some id), root := false }
  | .seq items, i =>
    { c with prelude := c.prelude ∨ (c.root = true ∧ i + 1 < items.length), root := false }
  | .blockDef _ h _ _ _, _ => if h.kind = .proc then { c with inProc := true, root := false }
      else .enter h
  | .methodDef _ h _, 1 | .runModuleBody _ h _, 1 => .enter h
  | _, _ => { c with root := false }

/-- Every return of `o` goes where its place allows. -/
def Op.ReturnsIn (c : ReturnScope) (o : Op) : Prop :=
  o.Holds returnNode returnStep c

/-- Every return in the unit, nested units included, carries the return id of its target unit,
is local exactly outside nested procs, and lies in a catch for that id unless it lies in the
target's prelude. -/
def ExecUnit.ReturnsBound (x : ExecUnit) : Prop :=
  x.body.ReturnsIn (.enter x.head)

/-- A return carries its target's id, is local unless it is written in a nested proc, and is
caught, in the prelude too. -/
def returnCaughtNode (c : ReturnScope) : Form Op → Prop
  | .returnJump id loc _ => ∀ t ∈ c.target, t = some id ∧ loc = !c.inProc ∧ c.caught
  | _ => True

/-- Every return in the unit, nested units included, is bound as in `ExecUnit.ReturnsBound` and
lies in a catch for its target's id even in the target's prelude. -/
def ExecUnit.ReturnsCaught (x : ExecUnit) : Prop :=
  x.body.Holds returnCaughtNode returnStep (.enter x.head)

/-! ## Places that allow more -/

/-- `c'` allows every return `c` allows: the same target and proc nesting, and where there is a
target, at least as much catching, prelude and root. -/
structure ReturnScope.Le (c c' : ReturnScope) : Prop where
  target : c.target = c'.target
  inProc : c.inProc = c'.inProc
  guard : c.target.isSome → (c.caught → c'.caught) ∧ (c.prelude → c'.prelude) ∧
    (c.root = true → c'.root = true)

namespace ReturnScope.Le

theorem refl (c : ReturnScope) : c.Le c :=
  ⟨rfl, rfl, fun _ => ⟨id, id, id⟩⟩

/-- Leaving the root of a body keeps the order. -/
theorem leaveRoot {c c' : ReturnScope} (h : c.Le c') :
    ({ c with root := false } : ReturnScope).Le { c' with root := false } :=
  ⟨h.target, h.inProc, fun hs => ⟨(h.guard hs).1, (h.guard hs).2.1, id⟩⟩

/-- A place left from its root allows no more than the place itself. -/
theorem ofRoot (c : ReturnScope) : ({ c with root := false } : ReturnScope).Le c :=
  ⟨rfl, rfl, fun _ => ⟨id, id, fun h => Bool.noConfusion h⟩⟩

/-- Each child of a form sees a place that allows more when its parent does. -/
theorem step {c c' : ReturnScope} (h : c.Le c') (f : Form Op) (i : Nat) :
    (returnStep c f i).Le (returnStep c' f i) := by
  obtain ⟨ht, hp, hg⟩ := h
  unfold returnStep
  split
  · exact ⟨ht, hp, fun hs => ⟨Or.imp (hg hs).1 fun e => ht ▸ e, (hg hs).2.1, id⟩⟩
  · exact ⟨ht, hp, fun hs => ⟨(hg hs).1, Or.imp (hg hs).2.1 (And.imp_left (hg hs).2.2), id⟩⟩
  · split
    · exact ⟨ht, rfl, fun hs => ⟨(hg hs).1, (hg hs).2.1, id⟩⟩
    · exact refl _
  · exact refl _
  · exact refl _
  · exact leaveRoot ⟨ht, hp, hg⟩

end ReturnScope.Le

theorem returnNode_mono {c c' : ReturnScope} (h : c.Le c') {f : Form Op} (hn : returnNode c f) :
    returnNode c' f := by
  cases f
  case returnJump id loc _ =>
    intro t ht
    rw [← h.target] at ht
    obtain ⟨hid, hloc, hg⟩ := hn t ht
    obtain ⟨hc, hp, -⟩ := h.guard (Option.isSome_of_mem ht)
    exact ⟨hid, h.inProc ▸ hloc, hg.imp hc hp⟩
  all_goals trivial

/-- Returns that go where one place allows go where a place allowing more allows. -/
theorem Op.ReturnsIn.mono {c c' : ReturnScope} {o : Op} (h : c.Le c') (ho : o.ReturnsIn c) :
    o.ReturnsIn c' :=
  @Holds.mono ReturnScope returnNode returnStep ReturnScope.Le (fun _ _ _ h hn => returnNode_mono h hn) (fun _ _ f i h => h.step f i)
    o _ _ h ho

end RubyLower
