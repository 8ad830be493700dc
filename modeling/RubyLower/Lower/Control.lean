import RubyLower.Lower.Call

/-!
# Lowering control flow

Conditionals, loops, `case` and the exits `break`, `next`, `redo`, `retry` and `return`.

A loop catches the breaks tagged with its own id, so `break` leaves that loop and no other. A
`case` is a chain of conditionals from the last `when` outwards; with a subject, the subject is
evaluated once into a temporary and each pattern tested with `pattern === subject`. `break`,
`next` and `redo` are allowed in a block or a loop body, `retry` also in a rescue clause; `return`
targets the frame's return id, and only a block's return leaves an enclosing method.
-/

namespace RubyLower

namespace Lower

/-- A conditional; a line-start `if` flags its condition instead of itself, so the line is
stepped before the branch is chosen. -/
def conditional (r : Recur) (condition : Node) (thenBody elseBody : Option Node) (span : Span)
    (lineStart : Bool) : Lower Op := do
  let c ← r.expr condition
  let c ← if lineStart then markLineStart c span else pure c
  let t ← thenBody.mapM r.expr
  let e ← elseBody.mapM r.expr
  match t, e with
  | some t, some e => atSpan (Op.ifElse c t e) span
  | some t, none => atSpan (Op.ofForm (.ifThen c t)) span
  | none, some e => atSpan (Op.ofForm (.unlessThen c e)) span
  | none, none => return (Op.sequence [c, Op.nil]).ensureSpan span

/-- `while` and `until` loops; the body runs with the loop's break id in the frame, and the
frame's own break id is put back after it, also when the body stops. -/
def loop (r : Recur) (condition : Node) (body : Option Node) (testFirst isUntil : Bool)
    (span : Span) : Lower Op := do
  let c ← r.expr condition
  let c := if isUntil then Op.not c else c
  let breakId ← allocBreak
  let f ← frame
  let saved := (← frameData f).breakId
  modifyFrame f fun fr => { fr with breakId := some breakId }
  let b ← restoring (modifyFrame f fun fr => { fr with breakId := saved })
    (withModes (fun m => { m with whileLoop := true }) (withMarker none (exprOrNil r body span)))
  let test : LoopTest := if testFirst then .first else .after
  atSpan (Op.ofForm (.catchBreak breakId true (Op.ofForm (.whileLoop test c b)))) span

/-- `for var in iter; body; end`: `iter.each` with a block that declares nothing of its own. -/
def forLoop (r : Recur) (var iter : Node) (body : Option Node) (span : Span) : Lower Op := do
  let recv ← r.expr iter
  withModes (fun m => { m with forStatement := true })
    (finishCall r recv "each" [] false (.synthetic { span, body, forVar := some var }) {} span)

/-- Nest the arms into conditionals, the last arm innermost. -/
def chainArms (arms : List (Op × Op)) (otherwise : Op) : Op :=
  arms.foldr (fun (c, t) e => Op.ifElse c t e) otherwise

/-- The internal module at a span. -/
def internalAt (span : Span) : Lower Op :=
  atSpan (Op.object (.core .internal)) span

/-- The arm of a `when` without subject; `when *list` holds when any element is true. -/
def whenArm (r : Recur) (w : WhenArm Node) : Lower (Op × Op) := do
  let c ← r.expr w.pattern
  let c ←
    if w.splat then do
      let internal ← internalAt w.span
      atSpan (Op.call internal "any_truthy?" [c] privateCall) w.span
    else pure c
  return (c, ← exprOrNil r w.body w.span)

/-- The arm of a `when` testing the subject in `subject`. -/
def whenSubjectArm (r : Recur) (subject : Slot) (w : WhenArm Node) : Lower (Op × Op) := do
  let p ← r.expr w.pattern
  let c ←
    if w.splat then do
      let internal ← internalAt w.span
      pure (Op.call internal "when_splat" [p, Op.readLocal subject] privateCall)
    else pure (Op.call p "===" [Op.readLocal subject] privateCall)
  let c ← atSpan c w.span
  return (c, ← exprOrNil r w.body w.span)

/-- `case`, with or without subject. -/
def caseWhen (r : Recur) (subject : Option Node) (whens : List (WhenArm Node))
    (elseBody : Option Node) (span : Span) : Lower Op := do
  match subject with
  | none =>
    let arms ← whens.mapM (whenArm r)
    let otherwise ← exprOrNil r elseBody span
    return (chainArms arms otherwise).ensureSpan span
  | some s =>
    let sv ← r.expr s
    let t ← temp "case"
    let arms ← whens.mapM (whenSubjectArm r t)
    let otherwise ← exprOrNil r elseBody span
    return (Op.sequence [Op.writeLocal t sv, chainArms arms otherwise]).ensureSpan span

/-- Whether the current frame is a block or lambda. -/
def inBlock : Lower Bool := do
  return (← frameData (← frame)).isBlock

/-- `break`: in a block or a loop body, with the frame's break id. -/
def breakJump (r : Recur) (value : Option Node) (span : Span) : Lower Op := do
  let fr ← frameData (← frame)
  let m ← modes
  match fr.breakId with
  | some id =>
    if fr.isBlock || m.whileLoop then
      let v ← exprOrNil r value span
      atSpan (Op.ofForm (.breakJump id m.whileLoop v)) span
    else fail .controlFlow .invalidBreak [] span
  | none => fail .controlFlow .invalidBreak [] span

/-- `next`: in a block or a loop body; splatting nil in its value gives the empty array. -/
def nextJump (r : Recur) (value : Option Node) (span : Span) : Lower Op := do
  if !(← inBlock) && !(← modes).whileLoop then fail .controlFlow .invalidNext [] span
  else
    let v ← withModes (fun m => { m with nextExpression := true }) (exprOrNil r value span)
    atSpan (Op.ofForm (.nextJump v)) span

/-- `redo`: in a block or a loop body. -/
def redo (span : Span) : Lower Op := do
  if !(← inBlock) && !(← modes).whileLoop then fail .controlFlow .invalidRedo [] span
  else atSpan (Op.ofForm .redo) span

/-- `retry`: in a rescue clause, a block or a loop body. -/
def retry (span : Span) : Lower Op := do
  let m ← modes
  if !m.inRescue && !(← inBlock) && !m.whileLoop then fail .controlFlow .invalidRetry [] span
  else atSpan (Op.ofForm .retry) span

/-- `return`: to the frame's return id; only a block's return is not local. -/
def returnJump (r : Recur) (value : Option Node) (span : Span) : Lower Op := do
  let fr ← frameData (← frame)
  let v ← exprOrNil r value span
  atSpan (Op.ofForm (.returnJump (fr.returnId.getD 0) (fr.kind != .block) v)) span

end Lower

end RubyLower
