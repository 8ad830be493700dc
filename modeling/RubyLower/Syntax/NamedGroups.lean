/-!
# Named groups of a regular expression

A named group opens with `(?<name>` or `(?'name'`, where the name is an ASCII letter or
underscore followed by ASCII letters, digits and underscores. An opening parenthesis after an
odd number of backslashes is escaped and opens no group. `namedGroups` lists the names of a
regular expression's source in order of first appearance, each once.
-/

namespace RubyLower

/-- A character that may start a group name. -/
def isGroupNameStart (c : Char) : Bool :=
  ('a' ≤ c && c ≤ 'z') || ('A' ≤ c && c ≤ 'Z') || c = '_'

/-- A character that may continue a group name. -/
def isGroupNameChar (c : Char) : Bool :=
  isGroupNameStart c || ('0' ≤ c && c ≤ '9')

/-- The name of a group whose `(?` comes just before `cs`, if `cs` goes on as a named group. -/
def groupName? (cs : List Char) : Option String :=
  match cs with
  | q :: c :: r =>
    let close := if q = '<' then some '>' else if q = '\'' then some '\'' else none
    match close with
    | some close =>
      if isGroupNameStart c then
        let tail := r.takeWhile isGroupNameChar
        if (r.drop tail.length).head? = some close then some (String.ofList (c :: tail))
        else none
      else none
    | none => none
  | _ => none

/-- The names of the unescaped named groups from `cs` on, in order, with repeats;
`backslashes` counts the backslashes just before `cs`. Groups never overlap, so every position
is tried on its own. -/
def groupNamesFrom : List Char → Nat → List String
  | [], _ => []
  | c :: r, backslashes =>
    let here :=
      if c = '(' ∧ backslashes % 2 = 0 then
        match r with
        | '?' :: t => (groupName? t).toList
        | _ => []
      else []
    here ++ groupNamesFrom r (if c = '\\' then backslashes + 1 else 0)

/-- The first occurrence of each element, in order. -/
def firstOccurrences (xs : List String) : List String :=
  xs.foldl (fun acc x => if acc.contains x then acc else acc ++ [x]) []

/-- The names of the named groups of a regular expression's source, in order of first
appearance, each once. -/
def namedGroups (source : String) : List String :=
  firstOccurrences (groupNamesFrom source.toList 0)

end RubyLower
