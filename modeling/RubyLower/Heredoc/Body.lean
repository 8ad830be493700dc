import RubyLower.Heredoc.Escape
import RubyLower.Heredoc.Opener
import RubyLower.Heredoc.Dedent
import RubyLower.Text.Identifier

/-!
# Scanning a heredoc body

`Terminator.scan` reads a body from a byte offset of the source, line by line, up to the first
line that ends it. Without `expand` a line is literal text. With it a logical line is scanned
for escapes, interpolations `#{...}` (which may run over line breaks) and interpolated variables,
and ends at the first line break outside an interpolation or after a continuing backslash. At the
end the lines are dedented for `<<~`, empty literals are dropped and neighbouring literals
joined.

The scanners work on the characters of the source and count positions in bytes. Each step of a
scanning loop consumes at least one character, so the characters left bound the steps.
-/

namespace RubyLower.Heredoc

open Text

/-- A scanned body: its parts, the span from its first line to the terminator line, and the
offset just past the terminator line. -/
structure Body where
  parts : List Part
  span : Span
  stop : Nat
  deriving DecidableEq, Inhabited

/-- The text of a body without interpolation. -/
def Body.plain? (b : Body) : Option String :=
  b.parts.foldr (fun p acc =>
    match p, acc with
    | .literal t, some s => some (t ++ s)
    | _, _ => none) (some "")

/-- Where the interpolation whose code starts at offset `i` is closed: the offset of its closing
brace and the characters after it. Braces nest; quoted text and escaped characters are skipped,
so braces inside them do not count. `quote` is the quote of the quoted text being skipped. -/
def closingBrace : Option Char → List Char → Nat → Nat → Option (Nat × List Char)
  | _, [], _, _ => none
  | none, c :: r, i, depth =>
    if c = '{' then closingBrace none r (i + 1) (depth + 1)
    else if c = '}' then
      if depth = 1 then some (i, r) else closingBrace none r (i + 1) (depth - 1)
    else if c = '"' ∨ c = '\'' then closingBrace (some c) r (i + 1) depth
    else if c = '\\' then
      match r with
      | [] => none
      | d :: r' => closingBrace none r' (i + 1 + d.utf8Size) depth
    else closingBrace none r (i + c.utf8Size) depth
  | some q, c :: r, i, depth =>
    if c = q then closingBrace none r (i + 1) depth
    else if c = '\\' then
      match r with
      | [] => none
      | d :: r' => closingBrace (some q) r' (i + 1 + d.utf8Size) depth
    else closingBrace (some q) r (i + c.utf8Size) depth

/-- Whether a character continues a variable name. -/
def isNameContinue (c : Char) : Bool :=
  c = '_' || isIdentContinue c

/-- The end of a variable name starting at offset `start`, and the characters after it. A
global variable's name may instead be a run of digits. -/
def nameEnd (cs : List Char) (start : Nat) (digitsAllowed : Bool) : Option (Nat × List Char) :=
  match cs with
  | [] => none
  | c :: r =>
    if c.isDigit then
      if digitsAllowed then
        let ds := cs.takeWhile Char.isDigit
        some (start + ds.length, cs.drop ds.length)
      else none
    else if c = '_' ∨ isIdentStart c then
      let tail := r.takeWhile isNameContinue
      some (start + c.utf8Size + byteLength tail, r.drop tail.length)
    else none

/-- The end of an interpolated variable whose sigil is at offset `sigil`, and the characters
after it; none when the `#` before it is literal text. -/
def variableEnd (cs : List Char) (sigil : Nat) : Option (Nat × List Char) :=
  match cs with
  | '@' :: '@' :: r => nameEnd r (sigil + 2) false
  | '@' :: r => nameEnd r (sigil + 1) false
  | '$' :: r => nameEnd r (sigil + 1) true
  | _ => none

/-- The parts so far with the pending literal text, if any. -/
def flushLiteral (parts : Array Part) (lit : String) : Array Part :=
  if lit.isEmpty then parts else parts.push (.literal lit)

/-- Scan one logical line of an expanding body from offset `i`: its parts, the characters
after it and the offset where they start. `total` is the byte length of the source. -/
def scanLine (total : Nat) : Nat → List Char → Nat → String → Array Part →
    Except HeredocError (List Part × List Char × Nat)
  | 0, cs, i, lit, parts => .ok ((flushLiteral parts lit).toList, cs, i)
  | _ + 1, [], i, lit, parts => .ok ((flushLiteral parts lit).toList, [], i)
  | fuel + 1, c :: r, i, lit, parts =>
    if c = '\\' then
      match readEscape r with
      | .error e => .error (.invalidEscape e.text ⟨i, 2⟩)
      | .ok e =>
        if r.head? = some '\n' then
          .ok ((flushLiteral parts (lit ++ e.value)).toList, e.rest, i + e.width)
        else scanLine total fuel e.rest (i + e.width) (lit ++ e.value) parts
    else if c = '#' ∧ r.head? = some '{' then
      match closingBrace none r.tail (i + 2) 1 with
      | none => .error (.unterminatedInterpolation (Span.ofBounds i total))
      | some (close, rest) =>
        scanLine total fuel rest (close + 1) ""
          ((flushLiteral parts lit).push (.interpolation (Span.ofBounds (i + 2) close)))
    else if c = '#' then
      match variableEnd r (i + 1) with
      | some (stop, rest) =>
        scanLine total fuel rest stop ""
          ((flushLiteral parts lit).push (.varRef (Span.ofBounds (i + 1) stop)))
      | none => scanLine total fuel r (i + 1) (lit.push c) parts
    else if c = '\n' then .ok ((flushLiteral parts (lit.push c)).toList, r, i + 1)
    else scanLine total fuel r (i + c.utf8Size) (lit.push c) parts

/-- The line of `cs` up to and including its first line feed. -/
def firstLine (cs : List Char) : List Char :=
  match cs.span (· ≠ '\n') with
  | (line, []) => line
  | (line, _ :: _) => line ++ ['\n']

/-- The parts of the scanned lines: dedented for `<<~`, without empty literals, and with
neighbouring literals joined. -/
def Terminator.finish (t : Terminator) (lines : List (List Part)) : List Part :=
  let lines := if t.flags.squiggly then dedentSquiggly lines else lines
  lines.flatten.foldl (fun out p =>
    match p with
    | .literal "" => out
    | .literal text =>
      match out.back? with
      | some (.literal prev) => out.pop.push (.literal (prev ++ text))
      | _ => out.push p
    | _ => out.push p) #[] |>.toList

/-- Scan the body lines from offset `pos`, the lines so far being `lines`. -/
def Terminator.scanLines (t : Terminator) (total bodyStart : Nat) :
    Nat → List Char → Nat → Array (List Part) → Except HeredocError Body
  | 0, _, _, _ => .error (.unterminated t.marker (Span.ofBounds (Span.wrap bodyStart) total))
  | _ + 1, [], _, _ => .error (.unterminated t.marker (Span.ofBounds (Span.wrap bodyStart) total))
  | fuel + 1, cs@(_ :: _), pos, lines =>
    let line := firstLine cs
    let lineEnd := pos + byteLength line
    if t.endsBody line then
      .ok ⟨t.finish lines.toList, Span.ofBounds bodyStart pos, lineEnd⟩
    else if t.flags.expand then
      match scanLine total (cs.length + 1) cs pos "" #[] with
      | .error e => .error e
      | .ok (parts, rest, next) => t.scanLines total bodyStart fuel rest next (lines.push parts)
    else
      t.scanLines total bodyStart fuel (cs.drop line.length) lineEnd
        (lines.push [.literal (String.ofList line)])

/-- Scan the body that starts at byte offset `bodyStart` of the source, the first byte after the
opener's line. -/
def Terminator.scan (t : Terminator) (source : String) (bodyStart : Nat) :
    Except HeredocError Body :=
  let cs := dropBytes source.toList bodyStart
  t.scanLines source.utf8ByteSize bodyStart (cs.length + 1) cs bodyStart #[]

end RubyLower.Heredoc
