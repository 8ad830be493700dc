import RubyLower.Heredoc.Part

/-!
# Squiggly dedent

A `<<~` body loses the least indentation of its lines. A line's indentation is the column its
first literal text reaches through spaces and tabs, a tab advancing to the next multiple of
`tabWidth`; a line holding nothing but blanks up to its line break has none and does not count,
and a line that starts with an interpolation has indentation zero. Dedenting removes blanks from
the start of a line's first literal up to the width, keeping a tab that would cross it.
-/

namespace RubyLower.Heredoc

/-- Columns a tab advances to. -/
def tabWidth : Nat := 8

/-- The column after a tab at column `col`. -/
def tabStop (col : Nat) : Nat :=
  (col / tabWidth + 1) * tabWidth

/-- How the leading blanks of a text end. -/
inductive IndentEnd where
  /-- Another character comes at this column. -/
  | content (col : Nat)
  /-- A line break comes first. -/
  | lineBreak
  /-- The text ends at this column. -/
  | exhausted (col : Nat)
  deriving DecidableEq, Inhabited

/-- Walk the leading blanks of a text from column `col`. -/
def indentEnd : List Char → Nat → IndentEnd
  | [], col => .exhausted col
  | c :: r, col =>
    if c = ' ' then indentEnd r (col + 1)
    else if c = '\t' then indentEnd r (tabStop col)
    else if c = '\n' ∨ c = '\r' then .lineBreak
    else .content col

/-- The indentation of a line, or none for a line of blanks. -/
def indentOf : List Part → Option Nat
  | [] => none
  | .literal text :: rest =>
    match indentEnd text.toList 0 with
    | .content col => some col
    | .lineBreak => none
    | .exhausted col => if rest.isEmpty then none else some col
  | _ :: _ => some 0

/-- The text without the blanks that fill the first `width` columns from column `col`. -/
def dedentChars : List Char → Nat → Nat → List Char
  | [], _, _ => []
  | c :: r, col, width =>
    if width ≤ col then c :: r
    else if c = ' ' then dedentChars r (col + 1) width
    else if c = '\t' then
      if width < tabStop col then c :: r else dedentChars r (tabStop col) width
    else c :: r

/-- A text without the blanks of its first `width` columns. -/
def dedentLine (text : String) (width : Nat) : String :=
  String.ofList (dedentChars text.toList 0 width)

/-- The least indentation of the lines, zero if none has one. -/
def commonIndent (lines : List (List Part)) : Nat :=
  (lines.filterMap indentOf).min?.getD 0

/-- Dedent every line's first literal by the least indentation of the lines. -/
def dedentSquiggly (lines : List (List Part)) : List (List Part) :=
  let width := commonIndent lines
  if width = 0 then lines
  else
    lines.map fun
      | .literal text :: rest => .literal (dedentLine text width) :: rest
      | line => line

end RubyLower.Heredoc
