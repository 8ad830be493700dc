import RubyLower.Heredoc.Body
import RubyLower.Text.Quoted

/-!
# Where a heredoc body can start

The body of a heredoc is scanned from a byte offset of the source, and two offsets stop the
program before the scan reads a line. One lies past the end of the source: the body is then
missing, and the span reported for it would run from the start back to the end, while a span
never ends before it starts. The span holds the start as a 32-bit offset (`Span.wrap`), so a
start that wraps round to at most the end is no fault and gives the plain missing-body error.
The other lies inside a character, where the source cannot be cut into lines.

`startFault?` finds the fault of a start, `StartFault.message` is the text the program stops
with, and `Terminator.scanFrom` scans only from a start without one.
-/

namespace RubyLower.Heredoc

open Text

/-- A byte offset that the scan of a body cannot start from. -/
inductive StartFault where
  /-- Past the end of the source, so that the span of the missing body would end before it
  starts. -/
  | pastEnd
  /-- Offset `index` of `source` falls inside the character `c`, whose bytes begin at
  `charStart`. -/
  | insideChar (source : String) (index charStart : Nat) (c : Char)
  deriving DecidableEq, Inhabited

/-- The character of `cs`, laid out from byte offset `base`, whose bytes hold offset `index`
without beginning there, with the offset its bytes begin at. -/
def charAcross : List Char → Nat → Nat → Option (Nat × Char)
  | [], _, _ => none
  | c :: cs, base, index =>
    if index < base + c.utf8Size then
      if index = base then none else some (base, c)
    else charAcross cs (base + c.utf8Size) index

/-- The leading characters of `cs` that end within the first `n` bytes. -/
def charsWithin : List Char → Nat → List Char
  | [], _ => []
  | c :: cs, n => if c.utf8Size ≤ n then c :: charsWithin cs (n - c.utf8Size) else []

/-- The fault of scanning the body of `source` from byte offset `bodyStart`, if it has one. -/
def startFault? (source : String) (bodyStart : Nat) : Option StartFault :=
  let total := source.utf8ByteSize
  if total ≤ bodyStart then
    if total < Span.wrap bodyStart then some .pastEnd else none
  else
    (charAcross source.toList 0 bodyStart).map fun (charStart, c) =>
      .insideChar source bodyStart charStart c

/-- The text the program stops with. A source shown in it is cut after the characters that end
within its first 256 bytes, and the cut is marked. -/
def StartFault.message : StartFault → String
  | .pastEnd => "span ends before it starts"
  | .insideChar source index charStart c =>
    let shown := charsWithin source.toList 256
    let mark := if shown.length < source.length then "[...]" else ""
    "byte index " ++ toString index ++ " is not a char boundary; it is inside " ++
      charLiteral c ++ " (bytes " ++ toString charStart ++ ".." ++
      toString (charStart + c.utf8Size) ++ ") of `" ++ String.ofList shown ++ "`" ++ mark

/-- The scan of the body of `source` from byte offset `bodyStart`, or the fault of that start. -/
def Terminator.scanFrom (t : Terminator) (source : String) (bodyStart : Nat) :
    Except StartFault (Except HeredocError Body) :=
  match startFault? source bodyStart with
  | some f => .error f
  | none => .ok (t.scan source bodyStart)

/-- A start on the first byte of a character before the end has no fault. -/
theorem startFault_none_of_lt {source : String} {bodyStart : Nat}
    (hlt : bodyStart < source.utf8ByteSize)
    (hb : charAcross source.toList 0 bodyStart = none) :
    startFault? source bodyStart = none := by
  simp [startFault?, Nat.not_le.mpr hlt, hb]

end RubyLower.Heredoc
