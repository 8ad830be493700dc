import RubyLower.Compile
import RubyLower.Proofs.Rules.Dispatch
import RubyLower.Proofs.EnvRun

/-!
# The top-level unit of a compiled program

A program is lowered at the place over frame 0 of a fresh environment: the frame of the top
level, with return id 0 and no parent. Every node the lowering gives is good there
(`lower_yields`), and the unit `program` wraps it in the catch for frame 0's returns and the
set-up of frame 0's flip-flop states. What good means over frame 0 is exactly what the unit's own
invariants ask of its body, so every unit a compilation produces has

* its slots well formed (`compileUnit_slotsWellFormed`): each points into the units around it;
* its breaks bound (`compileUnit_breaksBound`): each leaves by its loop's catch or its unit's;
* its returns bound (`compileUnit_returnsBound`): each carries its target's return id, is local
  exactly outside nested procs, and lies in the target's catch unless it lies in the target's
  prelude, which the set-up and the parameter defaults of a unit are.
-/

namespace RubyLower

/-! ## The fresh environment -/

/-- The place of a program, over frame 0 of a fresh environment. -/
theorem Place.fits_initial (source : SourceInfo) :
    ({ source, frame := 0 } : Place).Fits { env := Env.initial } :=
  ⟨Env.initial_ok, show 0 < 1 by decide, rfl, fun _ hm => by cases hm⟩

/-- The scopes of a frame without parent are its own. -/
theorem Env.scopes_of_root {e : Env} (hok : e.Ok) {id : Nat} (h : (e.frame id).parent = none) :
    e.scopes id = [(e.frame id).scope] := by
  rw [scopes, chain_of_ok hok, h]
  rfl

namespace Lower

variable {source : SourceInfo} {s : Progress}

/-- The top-level unit of a program lowered over a root frame of the top level is well formed:
its slots, breaks and returns are bound. -/
theorem program_yields (hp : ({ source, frame := 0 } : Place).Fits s)
    (hroot : (s.env.frame 0).parent = none) (hkind : (s.env.frame 0).kind = .topLevel)
    (root : Option Node) :
    (program root).Yields { source, frame := 0 } s fun x _ =>
      x.SlotsWellFormed ∧ x.BreaksBound ∧ x.ReturnsBound := by
  unfold program
  refine (modifyFrame_yields (g := fun fr => { fr with methodName := some "<main>" })
    (fun _ => ⟨rfl, rfl, rfl, List.prefix_refl _, id, List.prefix_refl _⟩) (fun _ => rfl)
    (fun _ => rfl)).bind fun _ s1 e1 _ => ?_
  have hp1 := hp.evolve e1
  refine Yields.bind_read (frameData_post _) ?_
  extract_lets returnId span
  refine Yields.bind_read lexicalScope_post ?_
  extract_lets finish
  suffices hfinish : ∀ b s2, s1.Evolves s2 → b.Good { source, frame := 0 } s2 →
      (finish b).Yields { source, frame := 0 } s2 fun x _ =>
        x.SlotsWellFormed ∧ x.BreaksBound ∧ x.ReturnsBound by
    split
    · exact (lower_yields hp1 _).bind hfinish
    · exact (Yields.pure (Op.Good.leaf rfl rfl).withSpan).bind hfinish
  intro b s2 e2 hb
  dsimp -zeta only [finish]
  have hp2 := hp1.evolve e2
  refine Post.bind (withPrelude_post _ _) fun body s3 ⟨hbody, hs3⟩ => ?_
  subst body s3
  refine Yields.bind_read (frameData_post _) (Yields.pure ?_)
  -- frame 0 keeps its kind, parent and return id through the lowering
  have hg := (e1.trans e2).grows.frame 0 hp.frame
  have hkind2 : (s2.env.frame 0).kind = .topLevel := hg.kind.trans hkind
  have hroot2 : (s2.env.frame 0).parent = none := hg.parent.trans hroot
  have hrid : (s2.env.frame 0).returnId = some returnId := by
    have h1 := hp1.returnId
    have h2 := (e2.grows.frame 0 hp1.frame).returnId
    dsimp only at h1
    rw [h2]
    dsimp only [returnId]
    cases hr : (s1.env.frame 0).returnId with
    | none => rw [hr] at h1; cases h1
    | some id => rfl
  have hnb : ((s2.env.frame 0).kind == .block) = false := by rw [hkind2]; rfl
  have hcatch : (Op.ofForm (.catchReturn returnId b)).Good { source, frame := 0 } s2 :=
    Op.Good.catchReturn hb
  have hstates := hp2.ok.states_resolve 0
  have hunit : (Op.withInits (s2.env.frame 0).flipFlopStates [] (.ofForm (.catchReturn returnId b))).Good
      { source, frame := 0 } s2 :=
    Op.Good.withInits hstates (fun _ h => by cases h) hcatch
  refine ⟨?_, ?_, ?_⟩
  · -- the unit knows what frame 0 knows, and frame 0's scope is all the place sees
    have hle : (s2.env.frame 0).scope.Le
        { kind := .topLevel, locals := (s2.env.frame 0).locals, needsDeclarationFrame := false,
          inits := (Op.withInits (s2.env.frame 0).flipFlopStates []
            (.ofForm (.catchReturn returnId b))).leadingInits } :=
      ⟨by simp [Frame.scope, hkind2, FrameKind.unitKind], List.prefix_refl _,
        fun h => by simp [Scope.Crossable, Frame.scope, hkind2, FrameKind.unitKind] at h,
        Op.subset_leadingInits_withInits rfl⟩
    have hslots := hunit.slots
    rw [Env.scopes_of_root hp2.ok hroot2] at hslots
    exact hslots.mono (.cons hle .nil)
  · -- frame 0 is no block and the place no loop body: no break may leave
    have hle : (({ source, frame := 0 } : Place).breakScope s2).Le .root :=
      ⟨by simp [Place.breakScope, BreakScope.root], fun _ h => by
        simp [Place.breakScope, Frame.isBlock, hkind2] at h, rfl⟩
    exact hunit.breaks.mono hle
  · exact Op.returnsIn_enter_withInits (p := { source, frame := 0 }) rfl hrid.symm hnb hstates
      (fun _ h => by cases h) (Op.Good.returnsIn_catchReturn hb rfl hrid hnb (.inr (.inr rfl)))

end Lower

/-! ## Compiled units -/

/-- A compiled unit is the top-level unit `program` gives over a fresh environment. -/
theorem compileUnit_eq_ok {options : Options} {u : SourceUnit} {c : Compiled}
    (h : compileUnit options u = .ok c) :
    ∃ s, (Lower.program u.root).exec { source := SourceInfo.ofUnit options u.file u.source, frame := 0 }
      { env := Env.initial } = (.ok c.root, s) := by
  unfold compileUnit at h
  dsimp only at h
  split at h
  · next root s hrun =>
    cases h
    exact ⟨s, hrun⟩
  · cases h

/-- Every unit a compilation gives has its slots well formed, its breaks bound and its returns
bound. -/
theorem compileUnit_wellFormed {options : Options} {u : SourceUnit} {c : Compiled}
    (h : compileUnit options u = .ok c) :
    c.root.SlotsWellFormed ∧ c.root.BreaksBound ∧ c.root.ReturnsBound := by
  obtain ⟨s, hrun⟩ := compileUnit_eq_ok h
  have hy := Lower.program_yields (Place.fits_initial (SourceInfo.ofUnit options u.file u.source))
    rfl rfl u.root
  unfold Lower.Yields Lower.Post at hy
  rw [hrun] at hy
  exact hy.2

/-- Every slot of a compiled program points into the units around it: the unit `depth` out holds
its name at its index, the units crossed on the way reach into their enclosing frames, and a
flip-flop's state is set up at the start of its own unit. -/
theorem compileUnit_slotsWellFormed {options : Options} {u : SourceUnit} {c : Compiled}
    (h : compileUnit options u = .ok c) : c.root.SlotsWellFormed :=
  (compileUnit_wellFormed h).1

/-- `a = 1; a` compiles, with its slots well formed. -/
theorem slotsWellFormed_localWrite :
    ∃ c, compileUnit {} { file := "t.rb", root := some (.mk ⟨0, 0⟩ false (.block
      [.mk ⟨0, 0⟩ false (.localAsgn "a" 0 (some (.mk ⟨0, 0⟩ false (.fixnum 1)))),
       .mk ⟨0, 0⟩ false (.localVar "a" 0)])) } = .ok c ∧ c.root.SlotsWellFormed :=
  Exists.imp (fun _ hc => ⟨hc, compileUnit_slotsWellFormed hc⟩) ⟨_, rfl⟩

/-- Every break of a compiled program leaves by the catch around its innermost loop, or, outside
loop bodies, leaves a block or lambda unit with that unit's break id. -/
theorem compileUnit_breaksBound {options : Options} {u : SourceUnit} {c : Compiled}
    (h : compileUnit options u = .ok c) : c.root.BreaksBound :=
  (compileUnit_wellFormed h).2.1

/-- `while true; break; end` compiles, with its breaks bound. -/
theorem breaksBound_whileBreak :
    ∃ c, compileUnit {} { file := "t.rb", root := some (.mk ⟨0, 0⟩ false (.whileLoop
      (.mk ⟨0, 0⟩ false .trueLit) (some (.mk ⟨0, 0⟩ false (.breakJump none))) true)) } = .ok c ∧
      c.root.BreaksBound :=
  Exists.imp (fun _ hc => ⟨hc, compileUnit_breaksBound hc⟩) ⟨_, rfl⟩

/-- Every return of a compiled program carries the return id of its target unit, is local
exactly outside nested procs, and lies in the target's catch for returns unless it lies in the
target's prelude. -/
theorem compileUnit_returnsBound {options : Options} {u : SourceUnit} {c : Compiled}
    (h : compileUnit options u = .ok c) : c.root.ReturnsBound :=
  (compileUnit_wellFormed h).2.2

/-- `return 1` at the top level compiles, with its returns bound. -/
theorem returnsBound_topLevelReturn :
    ∃ c, compileUnit {} { file := "t.rb", root := some (.mk ⟨0, 0⟩ false
      (.returnJump (some (.mk ⟨0, 0⟩ false (.fixnum 1))))) } = .ok c ∧ c.root.ReturnsBound :=
  Exists.imp (fun _ hc => ⟨hc, compileUnit_returnsBound hc⟩) ⟨_, rfl⟩

/-- The prelude is outside the catch: `def m(a = return 1); end` compiles, and the return in the
default of its parameter is not caught. -/
theorem returnsCaught_fails_optionalDefault :
    ∃ c, compileUnit {} { file := "t.rb", root := some (.mk ⟨0, 0⟩ false (.defn "m"
      { optional := [.mk ⟨0, 0⟩ false (.localAsgn "a" 0 (some (.mk ⟨0, 0⟩ false
        (.returnJump (some (.mk ⟨0, 0⟩ false (.fixnum 1)))))))] } none)) } = .ok c ∧
      ¬ c.root.ReturnsCaught := by
  refine ⟨_, rfl, fun h => ?_⟩
  -- down from the top-level catch: the definition, the method's body, the prelude's write of the
  -- parameter, its default, and the return in it
  have hdef := (Op.holds_mk.1 h).2 0 (by decide)
  have hbody := (Op.holds_mk.1 hdef).2 1 (by decide)
  have hwrite := (Op.holds_mk.1 hbody).2 2 (by decide)
  have hdefault := (Op.holds_mk.1 hwrite).2 0 (by decide)
  have hreturn := (Op.holds_mk.1 hdefault).2 0 (by decide)
  -- the return targets the method, return id 1, and no catch stands above it in the method
  exact ((Op.holds_mk.1 hreturn).1 (some 1) rfl).2.2

end RubyLower
