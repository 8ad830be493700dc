import RubyLower.Lower.Dispatch

/-!
# Lowering a program

A whole file becomes its top-level unit `<main>` over frame 0: the program's statements, or
nil for an empty file, catching the returns of frame 0 and preceded by the set-up of its
flip-flop states.
-/

namespace RubyLower

namespace Lower

/-- The top-level unit of a program, from its root node if it has one. -/
def program (root : Option Node) : Lower ExecUnit := do
  modifyFrame 0 fun fr => { fr with methodName := some "<main>" }
  let returnId := ((← frameData 0).returnId).getD 0
  let lex ← lexicalScope
  let span := (root.map Node.span).getD ⟨0, 0⟩
  let b ← match root with
    | some n => lower n
    | none => atSpan Op.nil span
  let b ← withPrelude [] (Op.ofForm (.catchReturn returnId b))
  let fr ← frameData 0
  return { head := { name := "<main>", kind := .topLevel, arity := {}, locals := fr.locals,
                     ownScope := true, returnId := some returnId, breakId := none, blockDepth := 0,
                     lexicalScope := lex, needsDeclarationFrame := false },
           body := b }

end Lower

end RubyLower
