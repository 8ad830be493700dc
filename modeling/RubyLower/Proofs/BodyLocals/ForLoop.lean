import RubyLower.Proofs.BodyLocals.Rules

/-!
# The locals of `for` bodies: the loop

The rules make `Env.Guarded` an invariant of the whole lowering (`Lower.recurAt_keepsBodies`).
With no names to restrict, it says that lowering a node keeps the environment consistent: well
formed, every frame without a scope of its own a block nested in another frame, and every method
frame declaring the parameters it records (`Lower.lower_keepsConsistent`). The first environment
is consistent (`Env.initial_consistent`), so every environment the lowering builds is, and these
are the conditions under which an assignment in a for body writes out of the body
(`Lower.assignmentSlot_inForBody`).

Started after the collection of a `for` loop, with the names the loop variable and the body read,
the invariant says what the body's unit holds (`Lower.lower_forLoop_bodyLocals`). The body's frame
is pushed after every frame there is, so it is one of the frames the invariant restricts: the
unit's head has no scope of its own, and each of its locals is a name the lowering makes itself or
one that the loop variable or the body reads. A name the loop only assigns is never among them.
-/

namespace RubyLower

namespace Node

/-- A node of the tree reads, or binds as a parameter, the local `name`. -/
def ReadsLocal (n : Node) (name : String) : Prop :=
  ∃ m : Node, m.Within n ∧ m.kind.localUse = some name

end Node

namespace Op

theorem atPath_cons_markNewline (o : Op) (i : Nat) (path : List Nat) :
    o.markNewline.atPath (i :: path) = o.atPath (i :: path) := rfl

theorem atPath_cons_markCoverage (o : Op) (i : Nat) (path : List Nat) :
    o.markCoverage.atPath (i :: path) = o.atPath (i :: path) := rfl

end Op

namespace Env

/-- The first environment is consistent: its one frame, the program's, has a scope of its own and
records no parameters. -/
theorem initial_consistent : initial.Ok ∧ initial.ForBodiesNested ∧ initial.ParamsDeclared := by
  have g : initial.Guarded (fun _ => True) 0 := by
    refine ⟨initial_ok, fun j hj => ?_⟩
    obtain rfl : j = 0 := by
      have h1 : initial.frames.size = 1 := rfl
      omega
    exact Frame.guarded_of_ownScope rfl rfl
  exact ⟨g.ok, g.forBodiesNested, g.paramsDeclared⟩

end Env

namespace Lower

open Env

variable {p : Place} {s : Progress}

/-- Flagging a line start changes only the flags of the node, never what lies below it. -/
theorem addNewline_atPath (n : Node) (o : Op) (i : Nat) (path : List Nat) :
    (addNewline n o).Post p s fun o' _ => o'.atPath (i :: path) = o.atPath (i :: path) := by
  unfold addNewline
  split
  · split
    · unfold markLineStart
      refine Post.bind (Post.true _) fun opts _ _ => ?_
      split
      · exact Post.bind (Post.true _) fun _ _ _ => Post.bind (Post.true _) fun _ _ _ =>
          Post.pure ((o.markNewline.atPath_cons_markCoverage i path).trans
            (o.atPath_cons_markNewline i path))
      · exact Post.pure (o.atPath_cons_markNewline i path)
    · exact Post.pure rfl
    · exact Post.throw
  · exact Post.pure rfl

/-- Lowering a node from a consistent environment, at a place whose frame exists and that is not
lowering the call of a `for` loop, leaves the environment consistent. -/
theorem lower_keepsConsistent (n : Node) (hf : p.frame < s.env.frames.size)
    (hnotFor : p.modes.forStatement = false) (hok : s.env.Ok) (hnested : s.env.ForBodiesNested)
    (hparams : s.env.ParamsDeclared) :
    (lower n).Post p s fun _ s' => s'.env.Ok ∧ s'.env.ForBodiesNested ∧ s'.env.ParamsDeclared :=
  Post.mono ((recurAt_keepsBodies (n.height + 1)).expr n (Node.usesOnly_true n) p s
    ⟨hf, hnotFor, Guarded.of_consistent (S := fun _ => True) hok hnested hparams⟩)
    fun _ _ h => ⟨h.2.1.ok, h.2.1.forBodiesNested, h.2.1.paramsDeclared⟩

theorem lower_eq_dispatch (n : Node) : lower n = dispatch (recurAt n.height) n := rfl

theorem dispatch_forLoop (r : Recur) (sp : Span) (nl : Bool) (var iter : Node) (body : Option Node) :
    dispatch r (.mk sp nl (.forLoop var iter body)) =
      forLoop r var iter body sp >>= addNewline (.mk sp nl (.forLoop var iter body)) := rfl

/-- The body of a `for` loop becomes a block whose unit has no scope of its own and holds, besides
the names the lowering makes itself, only locals that the loop variable or the body reads. A local
the loop only assigns goes to the frames around the body, never into the body's unit. The block is
the one handed to `each`, under the catch of the loop's break and the mark of its frame. -/
theorem lower_forLoop_bodyLocals (sp : Span) (nl : Bool) (var iter : Node) (body : Option Node)
    (hf : p.frame < s.env.frames.size) (hnotFor : p.modes.forStatement = false) (hok : s.env.Ok)
    (hnested : s.env.ForBodiesNested) (hparams : s.env.ParamsDeclared) :
    (lower (.mk sp nl (.forLoop var iter body))).Post p s fun o _ =>
      ∃ d w, o.atPath [0, 0, 1] = some d ∧ d.ownUnit = some w ∧ w.head.ownScope = false ∧
        ∀ name ∈ w.head.locals, Internal name ∨ var.ReadsLocal name ∨ ∃ b ∈ body, b.ReadsLocal name := by
  let S : String → Prop := fun name => var.ReadsLocal name ∨ ∃ b ∈ body, b.ReadsLocal name
  have hvar : var.UsesOnly S := fun m hm name h => .inl ⟨m, hm, h⟩
  have hbody : ∀ c ∈ body, c.UsesOnly S := fun c hc m hm name h => .inr ⟨c, hc, m, hm, h⟩
  rw [lower_eq_dispatch, dispatch_forLoop]
  refine Post.bind (Q := fun o _ => ∃ d bid, o.atPath [0, 0, 1] = some d ∧
    d.BlockOf S .proc false bid) ?loop fun o s' ⟨d, bid, hd, hblock⟩ =>
      (addNewline_atPath _ o 0 [0, 1]).mono fun o' _ h => ?_
  case loop =>
    -- the collection is lowered with no names restricted, from the frames there are
    refine Post.bind ((recurAt_keepsBodies (S := fun _ => True) (k := s.env.frames.size) _).expr
      iter (Node.usesOnly_true iter) p s ⟨hf, hnotFor, Guarded.of_consistent hok hnested hparams⟩)
      fun recv s1 ⟨he1, g1, _⟩ => ?_
    -- the body's frame comes after every frame there is then
    have g1' : s1.env.Guarded S s1.env.frames.size :=
      Guarded.of_consistent g1.ok g1.forBodiesNested g1.paramsDeclared
    refine Post.withReader (Post.mono (forCall_guards (recurAt_keepsBodies _)
      (p := { p with modes := { p.modes with forStatement := true } })
      (Nat.lt_of_lt_of_le hf he1.grows.size) g1' rfl hvar hbody recv sp) fun o _ h => ?_)
    exact h.2.2 (Nat.le_refl _)
  obtain ⟨head, ubody, marker, sp', fl, rfl, hown, hlocals⟩ := hblock
  exact ⟨_, ⟨head, ubody⟩, h.trans hd, rfl, hown, hlocals rfl⟩

/-- At the top of a program, `for i in list; x ||= 1; end` lowers, and its body's unit holds only
internal names and names the loop reads: `x` may be there, since `x ||= 1` reads `x` first. -/
theorem lower_forLoop_bodyLocals_orAssign :
    let var : Node := .mk ⟨0, 0⟩ false (.localAsgn "i" 0 none)
    let iter : Node := .mk ⟨0, 0⟩ false (.vcall "list")
    let body : Node := .mk ⟨0, 0⟩ false (.opAsgnOr (.mk ⟨0, 0⟩ false (.localVar "x" 0))
      (.mk ⟨0, 0⟩ false (.localAsgn "x" 0 (some (.mk ⟨0, 0⟩ false (.fixnum 1))))))
    let place : Place := { source := SourceInfo.ofUnit {} "t.rb" "", frame := 0 }
    let start : Progress := { env := Env.initial }
    (∃ o, ((lower (.mk ⟨0, 0⟩ false (.forLoop var iter (some body)))).exec place start).1 = .ok o) ∧
      (lower (.mk ⟨0, 0⟩ false (.forLoop var iter (some body)))).Post place start fun o _ =>
        ∃ d w, o.atPath [0, 0, 1] = some d ∧ d.ownUnit = some w ∧ w.head.ownScope = false ∧
          ∀ name ∈ w.head.locals, Internal name ∨ var.ReadsLocal name ∨ ∃ b ∈ some body, b.ReadsLocal name :=
  ⟨⟨_, rfl⟩, lower_forLoop_bodyLocals (p := { source := SourceInfo.ofUnit {} "t.rb" "", frame := 0 })
    (s := { env := Env.initial }) _ _ _ _ _ (by decide) rfl initial_consistent.1
    initial_consistent.2.1 initial_consistent.2.2⟩

end Lower

end RubyLower
