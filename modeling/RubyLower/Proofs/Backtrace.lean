import RubyLower.Proofs.SuperArgs
import RubyLower.Proofs.Invariant

/-!
# When a try skips the backtrace

A `rescue` may let its try skip building the backtrace of the exception it catches. The flag is
set exactly when the options allow it and the rescue has one clause whose body, if it has one,
is free of effects and no read of `$!` (`Lower.rescue_omitsBacktrace_iff`); with the option off
it is never set.

Whether a body is free of effects is read off its node kind alone, and every read of a global
counts as one; only `$!` is looked for by name. A clause whose body reads `$@`, the backtrace
itself, therefore lets the try skip building it (`compileUnit_omitsBacktrace_readingTrace`).
-/

namespace RubyLower

namespace Lower

/-- A rescue ignores the backtrace when it has one clause and that clause's body, if it has one,
is free of effects and no read of `$!`. -/
theorem ignoresBacktrace_iff (arms : List (RescueArm Node)) :
    ignoresBacktrace arms = true ↔
      ∃ c, arms = [c] ∧ ∀ n ∈ c.body, n.isSideEffectFree = true ∧ n.isGlobalRead "$!" = false := by
  rcases arms with _ | ⟨c, _ | ⟨c', arms⟩⟩
  · simp [ignoresBacktrace]
  · cases hb : c.body <;> simp [ignoresBacktrace, hb]
  · simp [ignoresBacktrace]

variable {p : Place} {s : Progress}

/-- **A try skips the backtrace exactly when allowed.** Lowering `begin ... rescue ... end` gives
a try whose flag is set exactly when the options allow skipping backtraces and the rescue has
one clause whose body, if any, is free of effects and no read of `$!`. -/
theorem rescue_omitsBacktrace_iff (r : Recur) (body : Option Node) (arms : List (RescueArm Node))
    (elseBody : Option Node) (span : Span) :
    (rescue r body arms elseBody span).Post p s fun o _ =>
      ∃ b clauses e skip, o.form = .tryRescue b clauses e skip ∧
        (skip = true ↔ p.source.options.backtracesOmitUnused = true ∧
          ∃ c, arms = [c] ∧
            ∀ n ∈ c.body, n.isSideEffectFree = true ∧ n.isGlobalRead "$!" = false) := by
  unfold rescue
  -- the body, the clauses and the else part are lowered around the flag and leave it as it is
  refine (Post.true _).bind fun b s1 _ => ?_
  refine Post.bind_read options_post ?_
  refine (Post.true _).bind fun clauses s2 _ => ?_
  refine (Post.true _).bind fun e s3 _ => Post.atSpan ⟨_, _, _, _, rfl, ?_⟩
  rw [Bool.and_eq_true, ignoresBacktrace_iff]

end Lower

/-- `begin risky rescue $@ end`, under the default options: the one clause reads the backtrace,
yet the try skips building it. -/
theorem compileUnit_omitsBacktrace_readingTrace :
    ∃ c, compileUnit {} { file := "t.rb", root := some (.mk ⟨0, 0⟩ false (.rescue
        (some (.mk ⟨0, 0⟩ false (.vcall "risky")))
        [⟨⟨0, 0⟩, none, some (.mk ⟨0, 0⟩ false (.globalVar "$@"))⟩] none)) } = .ok c ∧
      ∃ o ∈ c.root.body.atPath [0], ∃ b clause, o.form = .tryRescue b [clause] none true ∧
        clause.body.form = .readGlobal "$@" := by
  -- the try stands under the program's catch for its return id
  exact ⟨_, rfl, _, rfl, _, _, rfl, rfl⟩

end RubyLower
