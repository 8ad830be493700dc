import RubyLower.Proofs.Holds

/-!
# Where a `break` goes

A `break` leaves one of two things. Inside a loop body it leaves the innermost loop of its unit,
and then it needs no frame check: the loop sits in a catch for loop breaks with the same id. Outside
every loop body it leaves its unit, which is then a block or a lambda with that break id: a lambda
catches the break around its own body, and a block's definition is the block of a call that
catches the break while the block's frame is marked on the stack.

`Op.BreaksIn c o` says this of every `break` in `o`, where `BreakScope` is what a node knows of its
place: the innermost loop body of its unit, the ids a break outside loop bodies may leave with,
and, on the path from a catch to the literal block of a call, how far along that path it is.
`ExecUnit.BreaksBound` asks it of a whole unit.
-/

namespace RubyLower

/-- How far a node is along the path from a catch to the block of a call. -/
inductive BreakSite where
  | none
  /-- The body of a catch for loop breaks with this id. -/
  | loopCatch (id : Nat)
  /-- The body of a catch for the breaks of a block with this id. -/
  | blockCatch (id : Nat)
  /-- The body of a frame mark, itself the body of such a catch. -/
  | marked (id : Nat) (marker : Slot)
  /-- The block of a call or `super` that is the body of such a frame mark. -/
  | callBlock (id : Nat) (marker : Slot)

namespace BreakSite

/-- The site of the block of a call standing at this site. -/
def toBlock : BreakSite → BreakSite
  | .marked id m => .callBlock id m
  | _ => .none

/-- The id of the catch that wraps a loop standing at this site. -/
def loopId : BreakSite → Option Nat
  | .loopCatch id => some id
  | _ => Option.none

end BreakSite

/-- What a node knows of its place for the breaks in it. -/
structure BreakScope where
  /-- The innermost loop body of the unit around the node: none outside every loop body; else
  the id of the catch for loop breaks that wraps that loop, if one does. -/
  loop : Option (Option Nat)
  /-- The ids with which a break outside every loop body may leave the unit. -/
  exits : Nat → Prop
  site : BreakSite

/-- A lambda's catch around its translated body: a catch for the breaks with `bid` whose body
catches the lambda's returns around the catch of its `next`s. -/
def Form.CatchesLambdaBody (bid : Nat) : Form Op → Prop
  | .catchBreak id false (.mk (.catchReturn _ (.mk (.catchNext _) _ _)) _ _) => id = bid
  | _ => False

/-- A unit defined by a block definition with break id `bid`, standing at `site`, is one that a
break outside its loop bodies may leave with `bid`: its own break id is `bid`, and it is a lambda
whose body catches `bid` around the translated block body, or a proc whose definition is the
block of a call marked with the definition's marker inside a catch for `bid`. -/
def UnitExit (site : BreakSite) (h : UnitHead) (b : Op) (bid : Nat) (marker : Option Slot) :
    Prop :=
  h.breakId = some bid ∧
    ((h.kind = .lambda ∧ ∃ x ∈ b.nodes, x.form.CatchesLambdaBody bid) ∨
      (h.kind = .proc ∧ ∃ m, marker = some m ∧ site = .callBlock bid m))

/-- A break in a loop body leaves by the catch around the innermost loop; any other break leaves
its unit with an id it may leave with. -/
def breakNode (c : BreakScope) : Form Op → Prop
  | .breakJump id ignore _ =>
    (ignore = true → c.loop = some (some id)) ∧ (ignore = false → c.loop = none ∧ c.exits id)
  | _ => True

/-- The place of each child: catches and frame marks move along the path to a call's block, a
loop body is a new innermost loop, and a nested unit starts afresh. -/
def breakStep (c : BreakScope) : Form Op → Nat → BreakScope
  | .catchBreak id true _, _ => { c with site := .loopCatch id }
  | .catchBreak id false _, _ => { c with site := .blockCatch id }
  | .frameOnStack m _, _ =>
    { c with site := match c.site with
      | .blockCatch id => .marked id m
      | _ => .none }
  | .call _ _ args _ _, i => { c with site := if i = args.length + 1 then c.site.toBlock else .none }
  | .superCall args _ _ _, i => { c with site := if i = args.length then c.site.toBlock else .none }
  | .whileLoop _ _ _, 0 => { c with site := .none }
  | .whileLoop _ _ _, _ => { c with loop := some c.site.loopId, site := .none }
  | .blockDef _ h b bid m, _ =>
    { loop := none, exits := fun id => id = bid ∧ UnitExit c.site h b bid m, site := .none }
  | .methodDef _ _ _, 1 | .runModuleBody _ _ _, 1 =>
    { loop := none, exits := fun _ => False, site := .none }
  | _, _ => { c with site := .none }

/-- Every break of `o` leaves by what its place allows. -/
def Op.BreaksIn (c : BreakScope) (o : Op) : Prop :=
  o.Holds breakNode breakStep c

/-- The place of a unit's body seen on its own: no loop, no exits. -/
def BreakScope.root : BreakScope :=
  { loop := none, exits := fun _ => False, site := .none }

/-- Every break in the unit, nested units included, leaves by its loop's catch or its unit's. -/
def ExecUnit.BreaksBound (x : ExecUnit) : Prop :=
  x.body.BreaksIn .root

/-! ## Places that allow more -/

/-- `c'` allows every break `c` allows: the same loop and site, and more exits. -/
structure BreakScope.Le (c c' : BreakScope) : Prop where
  loop : c.loop = c'.loop
  exits : ∀ id, c.exits id → c'.exits id
  site : c.site = c'.site

theorem BreakScope.Le.refl (c : BreakScope) : c.Le c :=
  ⟨rfl, fun _ h => h, rfl⟩

/-- Each child of a form sees a place that allows more when its parent does. -/
theorem BreakScope.Le.step {c c' : BreakScope} (h : c.Le c') (f : Form Op) (i : Nat) :
    (breakStep c f i).Le (breakStep c' f i) := by
  obtain ⟨loop, exits, site⟩ := c
  obtain ⟨loop', exits', site'⟩ := c'
  obtain ⟨hl, he, hs⟩ := h
  dsimp only at hl hs
  subst hl hs
  unfold breakStep
  split <;> first | exact ⟨rfl, he, rfl⟩ | exact Le.refl _

theorem breakNode_mono {c c' : BreakScope} (h : c.Le c') {f : Form Op} (hn : breakNode c f) :
    breakNode c' f := by
  cases f
  case breakJump id ignore _ =>
    obtain ⟨hloop, hexit⟩ := hn
    refine ⟨fun hi => h.loop ▸ hloop hi, fun hi => ?_⟩
    obtain ⟨hnone, hid⟩ := hexit hi
    exact ⟨h.loop ▸ hnone, h.exits id hid⟩
  all_goals trivial

/-- Breaks that leave by what one place allows leave by what a place allowing more allows. -/
theorem Op.BreaksIn.mono {c c' : BreakScope} {o : Op} (h : c.Le c') (ho : o.BreaksIn c) :
    o.BreaksIn c' :=
  @Holds.mono BreakScope breakNode breakStep BreakScope.Le (fun _ _ _ h hn => breakNode_mono h hn) (fun _ _ f i h => h.step f i)
    o _ _ h ho

end RubyLower
