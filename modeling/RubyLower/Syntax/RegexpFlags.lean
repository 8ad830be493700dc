/-!
# Regular expression flags

The option letters of a regular expression literal: `m` multiline, `i` ignore case, `x`
extended, `o` interpolate once, `n` no encoding, `e`, `s`, `u` for the EUC, Shift JIS and UTF-8
encodings. `RegexpFlags.letters` writes the set flags in that order.
-/

namespace RubyLower

/-- The option flags of a regular expression literal. -/
structure RegexpFlags where
  multiline : Bool := false
  ignoreCase : Bool := false
  extended : Bool := false
  once : Bool := false
  noEncoding : Bool := false
  euc : Bool := false
  sjis : Bool := false
  utf8 : Bool := false
  deriving DecidableEq, Inhabited

namespace RegexpFlags

/-- The flags as letters, in the order `m i x o n e s u`. -/
def letters (f : RegexpFlags) : String :=
  String.ofList <|
    [(f.multiline, 'm'), (f.ignoreCase, 'i'), (f.extended, 'x'), (f.once, 'o'),
      (f.noEncoding, 'n'), (f.euc, 'e'), (f.sjis, 's'), (f.utf8, 'u')].filterMap
      fun (set, c) => if set then some c else none

/-- Set the flag of one option letter; other characters change nothing. -/
def addLetter (f : RegexpFlags) : Char → RegexpFlags
  | 'm' => { f with multiline := true }
  | 'i' => { f with ignoreCase := true }
  | 'x' => { f with extended := true }
  | 'o' => { f with once := true }
  | 'n' => { f with noEncoding := true }
  | 'e' => { f with euc := true }
  | 's' => { f with sjis := true }
  | 'u' => { f with utf8 := true }
  | _ => f

/-- The flags named by a string of option letters. -/
def ofLetters (s : String) : RegexpFlags :=
  s.toList.foldl addLetter {}

/-- The same flags without "interpolate once". -/
def withoutOnce (f : RegexpFlags) : RegexpFlags :=
  { f with once := false }

end RegexpFlags

end RubyLower
