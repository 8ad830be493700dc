import RubyLower.Diagnostic.Message
import RubyLower.Text.Span

/-!
# Diagnostics

A diagnostic is a rendered message with its code and severity, and optionally the file and the
span it is about. It is written as `file@start: severity GRcode: text`, the location part
shortened to `file: ` without a span and left out without a file. `Diagnostic.sort` orders a list
by file (no file first, then by text), and within a file the located ones by start offset before
the others; the sort is stable, so equal keys keep their order.
-/

namespace RubyLower

/-- A rendered message, with the file and span it is about when known. -/
structure Diagnostic where
  code : Nat
  severity : Severity
  text : String
  file : Option String := none
  span : Option Span := none

namespace Diagnostic

/-- The diagnostic of a message with its arguments, with no location yet. -/
def ofMessage (m : Message) (args : List String) : Diagnostic :=
  { code := m.code, severity := m.severity, text := m.render args }

/-- Whether the diagnostic reports an error rather than a note. -/
def isError (d : Diagnostic) : Bool :=
  d.severity == .error

/-- The diagnostic as one line of text. -/
def display (d : Diagnostic) : String :=
  let location :=
    match d.file, d.span with
    | some file, some span => s!"{file}@{span.start}: "
    | some file, none => s!"{file}: "
    | none, _ => ""
  location ++ s!"{d.severity.word} GR{d.code}: {d.text}"

/-- The order of two optional files: no file first, then files by their text. -/
def fileLE : Option String → Option String → Bool
  | none, _ => true
  | some _, none => false
  | some a, some b => decide (a ≤ b)

/-- The order of two optional spans within a file: located ones by start, before the others. -/
def spanLE : Option Span → Option Span → Bool
  | some a, some b => decide (a.start ≤ b.start)
  | some _, none => true
  | none, some _ => false
  | none, none => true

/-- `a` may stand before `b`: by file, then by span. -/
def le (a b : Diagnostic) : Bool :=
  if a.file = b.file then spanLE a.span b.span else fileLE a.file b.file

/-- A stable sort of diagnostics by file, then by span. -/
def sort (ds : List Diagnostic) : List Diagnostic :=
  ds.mergeSort le

end Diagnostic

end RubyLower
