import RubyLower.Json.Value

/-!
# Reading JSON text

`Json.read` accepts exactly one JSON value, surrounded by nothing but blanks (space, tab, line
feed, carriage return). The grammar is the strict one of the JSON standard: no trailing commas,
no leading zeros, no bare fraction point, a string holds no raw control character and only the
escapes `\" \\ \/ \b \f \n \r \t \uXXXX`, where a high surrogate escape must be followed by a low
one. Every step consumes input, so the reader is bounded by the length of the text.

A value that its reader will skip may be read leniently: there any `\uXXXX` escape is accepted,
and one that names a lone surrogate, which no text can hold, is read as the replacement
character. `Json.readSkipping` reads the members of a top-level object whose names it is told to
skip that way, and every other part of the text strictly.
-/

namespace RubyLower

namespace Json

/-- The blanks that may surround a value: space, tab, line feed, carriage return. -/
def isBlank (c : Char) : Bool :=
  c == ' ' || c == '\t' || c == '\n' || c == '\r'

/-- The input without its leading blanks. -/
def skipBlanks (cs : List Char) : List Char :=
  cs.dropWhile isBlank

/-- The value of a hexadecimal digit. -/
def hexValue (c : Char) : Option Nat :=
  if '0' ≤ c ∧ c ≤ '9' then some (c.toNat - '0'.toNat)
  else if 'a' ≤ c ∧ c ≤ 'f' then some (c.toNat - 'a'.toNat + 10)
  else if 'A' ≤ c ∧ c ≤ 'F' then some (c.toNat - 'A'.toNat + 10)
  else none

/-- Four hexadecimal digits at the front of the input, and the rest. -/
def readHex4 : List Char → Option (Nat × List Char)
  | a :: b :: c :: d :: rest => do
    let a ← hexValue a
    let b ← hexValue b
    let c ← hexValue c
    let d ← hexValue d
    some (((a * 16 + b) * 16 + c) * 16 + d, rest)
  | _ => none

/-- The character of a `\u` escape at the front of the input (the backslash and `u` already
read): a scalar value, or a high surrogate followed by a `\u` low surrogate. Read leniently, a
lone surrogate is the replacement character. -/
def readUnicodeEscape (lenient : Bool) (cs : List Char) : Option (Char × List Char) := do
  let (n, rest) ← readHex4 cs
  if lenient then
    if 0xD800 ≤ n ∧ n < 0xE000 then some ('\uFFFD', rest) else some (Char.ofNat n, rest)
  else if 0xD800 ≤ n ∧ n < 0xDC00 then
    match rest with
    | '\\' :: 'u' :: rest' =>
      let (lo, rest'') ← readHex4 rest'
      if 0xDC00 ≤ lo ∧ lo < 0xE000 then
        some (Char.ofNat (0x10000 + (n - 0xD800) * 0x400 + (lo - 0xDC00)), rest'')
      else none
    | _ => none
  else if 0xDC00 ≤ n ∧ n < 0xE000 then none
  else some (Char.ofNat n, rest)

/-- The rest of a string after its opening quote: its characters, and the input after the
closing quote. -/
def readStringBody (lenient : Bool) : List Char → List Char → Option (String × List Char)
  | [], _ => none
  | '"' :: rest, acc => some (String.ofList acc.reverse, rest)
  | '\\' :: rest, acc =>
    match rest with
    | '"' :: r => readStringBody lenient r ('"' :: acc)
    | '\\' :: r => readStringBody lenient r ('\\' :: acc)
    | '/' :: r => readStringBody lenient r ('/' :: acc)
    | 'b' :: r => readStringBody lenient r ('\x08' :: acc)
    | 'f' :: r => readStringBody lenient r ('\x0c' :: acc)
    | 'n' :: r => readStringBody lenient r ('\n' :: acc)
    | 'r' :: r => readStringBody lenient r ('\r' :: acc)
    | 't' :: r => readStringBody lenient r ('\t' :: acc)
    | 'u' :: r =>
      match readUnicodeEscape lenient r with
      | some (c, r') =>
        if r'.length < r.length then readStringBody lenient r' (c :: acc) else none
      | none => none
    | _ => none
  | c :: rest, acc => if c.toNat < 0x20 then none else readStringBody lenient rest (c :: acc)
termination_by cs => cs.length
decreasing_by all_goals simp_all <;> omega

/-- The digits at the front of the input. -/
def spanDigits (cs : List Char) : List Char × List Char :=
  (cs.takeWhile Char.isDigit, cs.dropWhile Char.isDigit)

/-- A number at the front of the input: an optional minus, an integer part without leading
zeros, an optional fraction and an optional exponent, each with at least one digit. -/
def readNumber (cs : List Char) : Option (String × List Char) := do
  let (sign, r) := match cs with
    | '-' :: r => (['-'], r)
    | r => ([], r)
  let (int, r) ← match r with
    | '0' :: r => some (['0'], r)
    | c :: _ =>
      if c.isDigit then some (spanDigits r) else none
    | [] => none
  if (r.head?.map Char.isDigit).getD false then none else
  let (frac, r) ← match r with
    | '.' :: r =>
      let (ds, r') := spanDigits r
      if ds.isEmpty then none else some ('.' :: ds, r')
    | r => some ([], r)
  let (exp, r) ← match r with
    | e :: r =>
      if e == 'e' || e == 'E' then
        let (sgn, r) := match r with
          | '+' :: r => (['+'], r)
          | '-' :: r => (['-'], r)
          | r => ([], r)
        let (ds, r') := spanDigits r
        if ds.isEmpty then none else some (e :: sgn ++ ds, r')
      else some ([], e :: r)
    | [] => some ([], [])
  some (String.ofList (sign ++ int ++ frac ++ exp), r)

/-- A literal word at the front of the input. -/
def readWord (w : String) (cs : List Char) : Option (List Char) :=
  if w.toList.isPrefixOf cs then some (cs.drop w.length) else none

mutual

/-- A value at the front of the input (blanks before it skipped), and the rest. The fuel bounds
the nesting depth; `lenient` says the value is read leniently. -/
def readValue (lenient : Bool) : Nat → List Char → Option (Json × List Char)
  | 0, _ => none
  | fuel + 1, cs =>
    match skipBlanks cs with
    | '{' :: r => readMembers lenient (fun _ => false) fuel (skipBlanks r) [] true
    | '[' :: r => readItems lenient fuel (skipBlanks r) [] true
    | '"' :: r => (readStringBody lenient r []).map fun (s, r) => (.string s, r)
    | 't' :: r => (readWord "rue" r).map fun r => (.bool true, r)
    | 'f' :: r => (readWord "alse" r).map fun r => (.bool false, r)
    | 'n' :: r => (readWord "ull" r).map fun r => (.null, r)
    | r => (readNumber r).map fun (t, r) => (.number t, r)

/-- The members of an object after its opening brace, up to and past the closing brace.
`first` says no member has been read yet; the value of a member whose name `skipped` holds is
read leniently. -/
def readMembers (lenient : Bool) (skipped : String → Bool) :
    Nat → List Char → List (String × Json) → Bool → Option (Json × List Char)
  | 0, _, _, _ => none
  | fuel + 1, cs, acc, first =>
    match cs with
    | '}' :: r => if first then some (.object acc.reverse, r) else none
    | '"' :: r => do
      let (key, r) ← readStringBody lenient r []
      match skipBlanks r with
      | ':' :: r =>
        let (v, r) ← readValue (lenient || skipped key) fuel r
        match skipBlanks r with
        | ',' :: r => readMembers lenient skipped fuel (skipBlanks r) ((key, v) :: acc) false
        | '}' :: r => some (.object ((key, v) :: acc).reverse, r)
        | _ => none
      | _ => none
    | _ => none

/-- The items of an array after its opening bracket, up to and past the closing bracket.
`first` says no item has been read yet. -/
def readItems (lenient : Bool) : Nat → List Char → List Json → Bool → Option (Json × List Char)
  | 0, _, _, _ => none
  | fuel + 1, cs, acc, first =>
    match cs with
    | ']' :: r => if first then some (.array acc.reverse, r) else none
    | _ => do
      let (v, r) ← readValue lenient fuel cs
      match skipBlanks r with
      | ',' :: r => readItems lenient fuel (skipBlanks r) (v :: acc) false
      | ']' :: r => some (.array (v :: acc).reverse, r)
      | _ => none

end

/-- The one JSON value of a text, surrounded only by blanks; if it is an object, the values of
the members whose names `skipped` holds are read leniently. -/
def readSkipping (skipped : String → Bool) (text : String) : Option Json :=
  let cs := text.toList
  let fuel := 2 * cs.length + 2
  let value := match skipBlanks cs with
    | '{' :: r => readMembers false skipped fuel (skipBlanks r) [] true
    | _ => readValue false fuel cs
  match value with
  | some (v, rest) => if (skipBlanks rest).isEmpty then some v else none
  | none => none

/-- The one JSON value of a text, surrounded only by blanks. -/
def read (text : String) : Option Json :=
  readSkipping (fun _ => false) text

end Json

end RubyLower
