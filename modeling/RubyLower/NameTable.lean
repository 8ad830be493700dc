/-!
# Name tables

A table of names shared by the units of a compilation: each distinct name gets the next number
when it is first entered, and keeps it.
-/

namespace RubyLower

/-- Names numbered in the order they were first entered. -/
structure NameTable where
  names : Array String := #[]
  deriving Inhabited

namespace NameTable

/-- The number of a name, if it was entered. -/
def find? (t : NameTable) (s : String) : Option Nat :=
  t.names.toList.idxOf? s

/-- Enter a name: its number, new if it was not entered before. -/
def intern (t : NameTable) (s : String) : NameTable × Nat :=
  match t.find? s with
  | some i => (t, i)
  | none => ({ names := t.names.push s }, t.names.size)

/-- The name with a number. -/
def resolve? (t : NameTable) (i : Nat) : Option String :=
  t.names[i]?

/-- How many names were entered. -/
def size (t : NameTable) : Nat :=
  t.names.size

/-- A short description of the table. -/
def describe (t : NameTable) : String :=
  s!"StringInterner({t.size} names)"

end NameTable

end RubyLower
