import RubyLower.Lower.Monad

/-!
# Lowering `rescue`

`begin body rescue ... else ... end` becomes a try node whose body translates exceptions. Each
part of a clause's exception list becomes a clause of its own sharing the clause's body: a list
of classes, a splatted list, and the parts of `rescue A, *list, B`, in order. A body may skip
building the backtrace when the options allow it and its only clause cannot observe it: the
clause body is absent, or free of effects and no read of `$!`.
-/

namespace RubyLower

namespace Lower

/-- The body of a rescue clause, where `retry` is allowed. -/
def clauseBody (r : Recur) (c : RescueArm Node) (span : Span) : Lower Op :=
  withModes (fun m => { m with inRescue := true }) (exprOrNil r c.body span)

/-- A part of an exception list waiting on the worklist: a node still to take apart (a list, a
splat or a concatenation), the value spread after a list (`rescue A, *list`), or the one class
after a list (`rescue *list, A`). -/
inductive PendingException where
  | list (n : Node)
  | splatOf (n : Node)
  | arrayOf (n : Node)

/-- The clauses of the parts on the worklist `pending`, after the clauses `rescues` made so far.
Parts are taken off the front. A concatenation pushes its second part and then its list part
onto the front, so its list part is taken next; any other part makes one clause, its guard
lowered and then the clause body. Each step takes a part off or replaces a concatenation by two
smaller parts, so the sizes of the pending subtrees fall. -/
def rescueWork (r : Recur) (c : RescueArm Node) (span : Span) :
    List PendingException → List (RescueClause Op) → Lower (List (RescueClause Op))
  | [], rescues => return rescues
  | .splatOf n :: pending, rescues => do
    let kind := RescueGuard.splat (← r.expr n)
    rescueWork r c span pending (rescues ++ [⟨kind, ← clauseBody r c span⟩])
  | .arrayOf n :: pending, rescues => do
    let kind := RescueGuard.classes [← r.expr n]
    rescueWork r c span pending (rescues ++ [⟨kind, ← clauseBody r c span⟩])
  | .list (.mk _ _ (.array els)) :: pending, rescues => do
    let kind := RescueGuard.classes (← exprs r els)
    rescueWork r c span pending (rescues ++ [⟨kind, ← clauseBody r c span⟩])
  | .list (.mk _ _ (.splat v)) :: pending, rescues => do
    let kind := RescueGuard.splat (← r.expr v)
    rescueWork r c span pending (rescues ++ [⟨kind, ← clauseBody r c span⟩])
  | .list (.mk _ _ (.argsCat first second)) :: pending, rescues =>
    rescueWork r c span (.list first :: .splatOf second :: pending) rescues
  | .list (.mk _ _ (.argsPush first second)) :: pending, rescues =>
    rescueWork r c span (.list first :: .arrayOf second :: pending) rescues
  | .list other :: _, _ => fail .unsupportedShape .unsupportedRescueList [other.kind.name] other.span
termination_by pending => pending.foldr (fun p n => sizeOf p + n) 0
decreasing_by all_goals simp_wf <;> omega

/-- The clauses of an exception list: the worklist starts with the whole list. -/
def rescueList (r : Recur) (c : RescueArm Node) (span : Span) (n : Node) :
    Lower (List (RescueClause Op)) :=
  rescueWork r c span [.list n] []

/-- The clauses of one rescue arm. -/
def rescueArm (r : Recur) (span : Span) (c : RescueArm Node) : Lower (List (RescueClause Op)) :=
  match c.exceptions with
  | some ex => rescueList r c span ex
  | none => do return [⟨.any, ← clauseBody r c span⟩]

/-- Whether a lone rescue clause cannot observe the backtrace. -/
def ignoresBacktrace : List (RescueArm Node) → Bool
  | [c] =>
    match c.body with
    | none => true
    | some b => b.isSideEffectFree && !b.isGlobalRead "$!"
  | _ => false

/-- `begin body rescue ... else ... end`. -/
def rescue (r : Recur) (body : Option Node) (arms : List (RescueArm Node)) (elseBody : Option Node)
    (span : Span) : Lower Op := do
  let b ← exprOrNil r body span
  let skipTrace := (← options).backtracesOmitUnused && ignoresBacktrace arms
  let clauses ← arms.mapM (rescueArm r span)
  let e ← elseBody.mapM r.expr
  atSpan (Op.ofForm (.tryRescue (Op.ofForm (.exceptionTranslating b)) clauses.flatten e skipTrace)) span

end Lower

end RubyLower
