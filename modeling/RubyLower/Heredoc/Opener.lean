import RubyLower.Heredoc.Error

/-!
# Heredoc openers and terminators

An opener `<<ID`, `<<-ID`, `<<~ID`, or one of these with the identifier in single quotes, double
quotes or backticks, fixes the marker that ends the body and how the body is read:

* `expand`: escapes and interpolation are processed (bare and double-quoted identifiers, and
  backticks);
* `indent`: the terminator line may be indented by spaces and tabs (`<<-` and `<<~`);
* `squiggly`: the body loses the least indentation of its lines (`<<~`);
* `command`: the body is a shell command (backticks).

A line ends the body when, without its line break and after leading blanks where `indent`
allows them, it is exactly the marker.
-/

namespace RubyLower.Heredoc

/-- How a heredoc body is read. -/
structure Flags where
  expand : Bool := false
  indent : Bool := false
  squiggly : Bool := false
  command : Bool := false
  deriving DecidableEq, Inhabited

/-- The names of the set flags, in a fixed order. -/
def Flags.names (f : Flags) : List String :=
  (if f.expand then ["EXPAND"] else []) ++ (if f.indent then ["INDENT"] else []) ++
  (if f.squiggly then ["SQUIGGLY"] else []) ++ (if f.command then ["XSTRING"] else [])

/-- The marker that ends a heredoc body, and how the body is read. -/
structure Terminator where
  marker : String
  flags : Flags
  deriving DecidableEq, Inhabited

namespace Terminator

/-- The marker and quoting after the `<<` and the indentation sign. -/
def ofQuoted (flags : Flags) : List Char → Option Terminator
  | [] => none
  | q :: inner =>
    if q = '\'' ∨ q = '"' ∨ q = '`' then
      if inner.getLast? = some q then
        let flags :=
          if q = '"' then { flags with expand := true }
          else if q = '`' then { flags with expand := true, command := true }
          else flags
        some ⟨String.ofList inner.dropLast, flags⟩
      else none
    else some ⟨String.ofList (q :: inner), { flags with expand := true }⟩

/-- The terminator of an opener, or none if it is no opener; the marker must be a nonempty
line. -/
def ofChars : List Char → Option Terminator
  | '<' :: '<' :: rest =>
    let (flags, rest) : Flags × List Char :=
      match rest with
      | '~' :: r => ({ indent := true, squiggly := true }, r)
      | '-' :: r => ({ indent := true }, r)
      | r => ({}, r)
    match ofQuoted flags rest with
    | some t => if t.marker.isEmpty ∨ '\n' ∈ t.marker.toList then none else some t
    | none => none
  | _ => none

/-- The terminator of an opener such as `<<~'EOS'`. -/
def ofOpener (opener : String) : Except HeredocError Terminator :=
  match ofChars opener.toList with
  | some t => .ok t
  | none => .error (.invalidOpener opener)

/-- The line without one trailing line feed, then without one trailing carriage return. -/
def chompLine (cs : List Char) : List Char :=
  let cs := if cs.getLast? = some '\n' then cs.dropLast else cs
  if cs.getLast? = some '\r' then cs.dropLast else cs

/-- Whether a line, given as characters with or without its line break, ends the body. -/
def endsBody (t : Terminator) (line : List Char) : Bool :=
  let cs := chompLine line
  let cs := if t.flags.indent then cs.dropWhile (fun c => c = ' ' ∨ c = '\t') else cs
  cs == t.marker.toList

/-- Whether a line, with or without its line break, ends the body. -/
def isTerminator (t : Terminator) (line : String) : Bool :=
  t.endsBody line.toList

end Terminator

end RubyLower.Heredoc
