import RubyLower.Text.Bytes

/-!
# Backslash escapes

`readEscape` decodes one backslash escape of an expanding string body. It reads the characters
after the backslash and gives the decoded text, the characters after the escape and the width of
the escape in bytes, backslash included.

* `\n \t \s \r \a \b \e \f \v` are the usual controls and the space; `\0` not followed by an
  octal digit is the null character.
* A backslash before a line break (also a carriage return and line feed) continues the line and
  stands for nothing.
* `\xH` and `\xHH`, and one to three octal digits, denote one byte; only ASCII bytes are
  accepted, since bodies are held as text.
* `\uHHHH` is one code point; `\u{H H ...}` is a list of code points, each any number of hex
  digits, separated by spaces.
* Any other escaped character stands for itself.

An escape that cannot be read is an `EscapeError` with the escape as written, cut where reading
stopped, and what the escape had decoded before that.
-/

namespace RubyLower.Heredoc

/-- An escape that cannot be read: the text as written and what it decoded before failing. -/
structure EscapeError where
  text : String
  decoded : String := ""
  deriving DecidableEq, Inhabited

/-- A decoded escape: its value, the characters after it and its width in bytes. -/
structure EscapeRead where
  value : String
  rest : List Char
  width : Nat
  deriving DecidableEq, Inhabited

/-- The value of a hexadecimal digit. -/
def hexValue (c : Char) : Option Nat :=
  if '0' ≤ c ∧ c ≤ '9' then some (c.toNat - '0'.toNat)
  else if 'a' ≤ c ∧ c ≤ 'f' then some (c.toNat - 'a'.toNat + 10)
  else if 'A' ≤ c ∧ c ≤ 'F' then some (c.toNat - 'A'.toNat + 10)
  else none

/-- Whether a character is a hexadecimal digit. -/
def isHexDigit (c : Char) : Bool :=
  (hexValue c).isSome

/-- Whether a character is an octal digit. -/
def isOctDigit (c : Char) : Bool :=
  '0' ≤ c ∧ c ≤ '7'

/-- The number written by hexadecimal digits. -/
def hexNumber (ds : List Char) : Nat :=
  ds.foldl (fun acc d => acc * 16 + (hexValue d).getD 0) 0

/-- The number written by octal digits. -/
def octNumber (ds : List Char) : Nat :=
  ds.foldl (fun acc d => acc * 8 + (d.toNat - '0'.toNat)) 0

/-- The character of a code point, if it is one: not a surrogate and at most `0x10FFFF`. -/
def codePoint? (n : Nat) : Option Char :=
  if n.isValidChar then some (Char.ofNat n) else none

/-- A one-byte escape as written by `text`: refused above the ASCII range. -/
def byteEscape (text : String) (value : Nat) (rest : List Char) (width : Nat) :
    Except EscapeError EscapeRead :=
  if value ≤ 0x7f then .ok ⟨(Char.ofNat value).toString, rest, width⟩
  else .error { text }

/-- The list of a braced `\u` escape, from after the brace: `digits` holds the code point
being read, `seen` the characters read so far, `out` the decoded text, `width` the bytes so far. -/
def readBraced : List Char → Option Nat → String → String → Nat → Except EscapeError EscapeRead
  | [], none, seen, out, _ => .error ⟨"\\u\x7b" ++ seen, out⟩
  | [], some v, seen, out, _ =>
    match codePoint? v with
    | none => .error ⟨"\\u\x7b" ++ seen, out⟩
    | some ch => .error ⟨"\\u\x7b" ++ seen, out.push ch⟩
  | c :: r, none, seen, out, width =>
    if c = ' ' then readBraced r none (seen.push c) out (width + 1)
    else if c = '}' then .ok ⟨out, r, width + 1⟩
    else
      match hexValue c with
      | some h => readBraced r (some h) (seen.push c) out (width + 1)
      | none => .error ⟨"\\u\x7b" ++ seen, out⟩
  | c :: r, some v, seen, out, width =>
    match hexValue c with
    | some h => readBraced r (some (v * 16 + h)) (seen.push c) out (width + 1)
    | none =>
      match codePoint? v with
      | none => .error ⟨"\\u\x7b" ++ seen, out⟩
      | some ch =>
        if c = ' ' then readBraced r none (seen.push c) (out.push ch) (width + 1)
        else if c = '}' then .ok ⟨out.push ch, r, width + 1⟩
        else .error ⟨"\\u\x7b" ++ seen, out.push ch⟩

/-- The control character or space named by a one-letter escape; `next` is the character after
the letter, which decides whether `\0` is the null character or an octal escape. -/
def namedEscape (c : Char) (next : Option Char) : Option Char :=
  match c with
  | 'n' => some '\n'
  | 't' => some '\t'
  | 's' => some ' '
  | 'r' => some '\r'
  | '0' => if (next.map isOctDigit).getD false then none else some '\x00'
  | 'a' => some '\x07'
  | 'b' => some '\x08'
  | 'e' => some '\x1b'
  | 'f' => some '\x0c'
  | 'v' => some '\x0b'
  | _ => none

/-- Decode the escape whose backslash comes just before `cs`. -/
def readEscape (cs : List Char) : Except EscapeError EscapeRead :=
  match cs with
  | [] => .error ⟨"\\", ""⟩
  | c :: r =>
    match namedEscape c r.head? with
    | some ch => .ok ⟨ch.toString, r, 2⟩
    | none =>
      match c, r with
      | '\n', r => .ok ⟨"", r, 2⟩
      | '\r', '\n' :: r => .ok ⟨"", r, 3⟩
      | 'x', r =>
        let ds := (r.take 2).takeWhile isHexDigit
        if ds.isEmpty then .error ⟨"\\x", ""⟩
        else byteEscape ("\\x" ++ String.ofList ds) (hexNumber ds) (r.drop ds.length) (2 + ds.length)
      | 'u', '{' :: r => readBraced r none "" "" 3
      | 'u', r =>
        let ds := r.take 4
        if ds.length = 4 ∧ ds.all isHexDigit then
          match codePoint? (hexNumber ds) with
          | some ch => .ok ⟨ch.toString, r.drop 4, 6⟩
          | none => .error ⟨"\\u" ++ String.ofList ds, ""⟩
        else .error ⟨"\\u" ++ String.ofList (Text.bytePrefix r 4), ""⟩
      | c, r =>
        if isOctDigit c then
          let ds := ((c :: r).take 3).takeWhile isOctDigit
          byteEscape ("\\" ++ String.ofList ds) (octNumber ds) ((c :: r).drop ds.length)
            (1 + ds.length)
        else .ok ⟨c.toString, r, 1 + c.utf8Size⟩

/-- Decode the escape whose backslash is at byte offset `start` of `text`; the second part of
a success is the offset just past the escape. -/
def readEscapeAt (text : String) (start : Nat) : Except EscapeError (String × Nat) :=
  match Text.dropBytes text.toList start with
  | [] => .error ⟨"\\", ""⟩
  | _ :: cs => (readEscape cs).map fun e => (e.value, start + e.width)

end RubyLower.Heredoc
