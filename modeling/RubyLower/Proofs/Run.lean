import RubyLower.Lower.Monad

/-!
# Running a lowering step by step

`Lower.exec x p s` runs a lowering at place `p` from progress `s`. Facts about the lowering are
facts about what a run gives when it succeeds: `x.Post p s Q` says that a run either fails or
gives a result `a` in a state `s'` with `Q a s'`. A failed run stops the whole lowering, so it owes
nothing.

`Post` follows the program: `Post.bind` passes from a step to the rest, and the primitives of the
monad (reading the place, changing the progress, running with another place) each have their own
rule.
-/

namespace RubyLower

namespace Lower

/-- A run of a lowering at a place, from a state. -/
def exec {α : Type} (x : Lower α) (p : Place) (s : Progress) : Except LowerError α × Progress :=
  ((x.run p).run).run s

/-- Run at `p` from `s`, `x` fails or gives a result `a` in a state `s'` with `Q a s'`. -/
def Post {α : Type} (x : Lower α) (p : Place) (s : Progress) (Q : α → Progress → Prop) : Prop :=
  match x.exec p s with
  | (.ok a, s') => Q a s'
  | (.error _, _) => True

theorem exec_bind {α β : Type} (x : Lower α) (f : α → Lower β) (p : Place) (s : Progress) :
    (x >>= f).exec p s = match x.exec p s with
      | (.ok a, s') => (f a).exec p s'
      | (.error e, s') => (.error e, s') := by
  simp only [exec, ReaderT.run_bind, ExceptT.run_bind, StateT.run_bind]
  rcases h : ((x.run p).run).run s with ⟨_ | a, s'⟩ <;> rfl

/-- A fault stops the lowering: nothing after it runs. -/
theorem fail_bind {α β : Type} (kind : FaultKind) (message : Message) (args : List String)
    (span : Span) (f : α → Lower β) :
    fail kind message args span >>= f = fail kind message args span :=
  rfl

section Post

variable {α β : Type} {p : Place} {s : Progress}

theorem Post.mono {x : Lower α} {Q Q' : α → Progress → Prop} (h : x.Post p s Q)
    (hQ : ∀ a s', Q a s' → Q' a s') : x.Post p s Q' := by
  unfold Post at *
  split at h <;> simp_all

theorem Post.bind {x : Lower α} {f : α → Lower β} {Q : α → Progress → Prop}
    {R : β → Progress → Prop} (hx : x.Post p s Q) (hf : ∀ a s', Q a s' → (f a).Post p s' R) :
    (x >>= f).Post p s R := by
  unfold Post at hx ⊢
  rw [exec_bind]
  split at hx
  · next a s' _ => exact hf a s' hx
  · trivial

theorem Post.pure {a : α} {Q : α → Progress → Prop} (h : Q a s) : (pure a : Lower α).Post p s Q :=
  h

theorem Post.map {x : Lower α} {f : α → β} {Q : β → Progress → Prop}
    (h : x.Post p s fun a s' => Q (f a) s') : (f <$> x).Post p s Q := by
  rw [map_eq_pure_bind]
  exact h.bind fun _ _ h => Post.pure h

theorem Post.read {Q : Place → Progress → Prop} (h : Q p s) : (read : Lower Place).Post p s Q :=
  h

theorem Post.get {Q : Progress → Progress → Prop} (h : Q s s) : (get : Lower Progress).Post p s Q :=
  h

theorem Post.modify {f : Progress → Progress} {Q : Unit → Progress → Prop} (h : Q () (f s)) :
    (modify f : Lower Unit).Post p s Q :=
  h

theorem Post.modifyGet {f : Progress → α × Progress} {Q : α → Progress → Prop}
    (h : Q (f s).1 (f s).2) : (modifyGet f : Lower α).Post p s Q :=
  h

theorem Post.throw {e : LowerError} {Q : α → Progress → Prop} : (throw e : Lower α).Post p s Q :=
  trivial

theorem Post.withReader {x : Lower α} {g : Place → Place} {Q : α → Progress → Prop}
    (h : x.Post (g p) s Q) : (withReader g x : Lower α).Post p s Q :=
  h

theorem Post.fail {kind : FaultKind} {message : Message} {args : List String} {span : Span}
    {Q : α → Progress → Prop} : (fail kind message args span : Lower α).Post p s Q :=
  trivial

/-- Giving a node that has no span, or already that one, its span cannot stop. -/
theorem atSpan_eq_pure {o : Op} {sp : Span} (hfree : o.span = none ∨ o.span = some sp) :
    atSpan o sp = Pure.pure (o.withSpan sp) := by
  unfold Lower.atSpan
  rcases hfree with hfree | hfree <;> simp [hfree]

/-- Giving a node its span stops, or gives the node with that span. -/
theorem Post.atSpan {o : Op} {sp : Span} {Q : Op → Progress → Prop} (h : Q (o.withSpan sp) s) :
    (atSpan o sp).Post p s Q := by
  unfold Lower.atSpan
  split
  · exact h
  · split
    · exact h
    · trivial

theorem Post.onEnv {f : Env → Env × α} {Q : α → Progress → Prop}
    (h : Q (f s.env).2 { s with env := (f s.env).1 }) : (onEnv f).Post p s Q :=
  h

theorem Post.modifyEnv {f : Env → Env} {Q : Unit → Progress → Prop}
    (h : Q () { s with env := f s.env }) : (modifyEnv f).Post p s Q :=
  h

theorem exec_observing (x : Lower α) (p : Place) (s : Progress) :
    (observing x).exec p s = match x.exec p s with
      | (.ok a, s') => (.ok (.ok a), s')
      | (.error e, s') => (.ok (.error e), s') := by
  have hrun : (observing x).run p =
      tryCatch ((x >>= fun a => pure (Except.ok a)).run p) fun ex => pure (Except.error ex) := rfl
  unfold exec
  rw [hrun, ExceptT.run_tryCatch]
  simp only [ReaderT.run_bind, ExceptT.run_bind, StateT.run_bind]
  rcases h : ((x.run p).run).run s with ⟨_ | a, s'⟩ <;> rfl

theorem exec_liftExcept (r : Except LowerError α) (p : Place) (s : Progress) :
    (liftExcept r : Lower α).exec p s = (r, s) := by
  cases r <;> rfl

/-- `restoring restore x` runs `x`, then `restore` from where `x` left the progress, and gives
what `x` gave unless `restore` stops. -/
theorem exec_restoring (restore : Lower Unit) (x : Lower α) (p : Place) (s : Progress) :
    (Lower.restoring restore x).exec p s = match restore.exec p (x.exec p s).2 with
      | (.ok _, s'') => ((x.exec p s).1, s'')
      | (.error e, s'') => (.error e, s'') := by
  unfold restoring
  rw [exec_bind, exec_observing]
  rcases x.exec p s with ⟨_ | a, s'⟩ <;>
  · dsimp only
    rw [exec_bind]
    rcases restore.exec p s' with ⟨_ | u, s''⟩
    · rfl
    · exact exec_liftExcept _ p s''

theorem Post.restoring {restore : Lower Unit} {x : Lower α} {Q : α → Progress → Prop}
    (h : x.Post p s fun a s' => restore.Post p s' fun _ s'' => Q a s'') :
    (Lower.restoring restore x).Post p s Q := by
  unfold Post at h ⊢
  rw [exec_restoring]
  rcases hx : x.exec p s with ⟨_ | a, s'⟩
  · -- `x` stopped: so does the whole, with its stop or the restore's
    dsimp only
    rcases restore.exec p s' with ⟨_ | u, s''⟩ <;> trivial
  · rw [hx] at h
    dsimp only at h ⊢
    rcases hr : restore.exec p s' with ⟨_ | u, s''⟩
    · trivial
    · rw [hr] at h
      exact h

end Post

end Lower

end RubyLower
