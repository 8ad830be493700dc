import RubyLower.Text.Printable
import RubyLower.Text.GraphemeExtend

/-!
# Quoted text

How a text is written between double quotes in a dump. The backslash, the double quote, the
tab, the carriage return, the line feed and the null character take a backslash escape; a
character that does not print, or that extends the grapheme before it, is written as its code
point in lowercase hexadecimal, `\u{..}`; every other character, the single quote included,
stands for itself. `charLiteral` writes one character between single quotes the same way, with
the roles of the two quotes exchanged.
-/

namespace RubyLower.Text

/-- Lowercase hexadecimal digits of `n`, without padding. -/
def hexDigits (n : Nat) : String :=
  String.ofList (Nat.toDigits 16 n)

/-- The code point escape of `c`: a backslash, `u`, and the hexadecimal digits in braces. -/
def codePointEscape (c : Char) : String :=
  "\\u\x7b" ++ hexDigits c.toNat ++ "\x7d"

/-- How one character is written inside a quoted text. -/
def quoteChar (c : Char) : String :=
  match c with
  | '\x00' => "\\0"
  | '\t' => "\\t"
  | '\r' => "\\r"
  | '\n' => "\\n"
  | '\\' => "\\\\"
  | '"' => "\\\""
  | c => if isGraphemeExtend c || !isPrintable c then codePointEscape c else c.toString

/-- A text between double quotes, each character written by `quoteChar`. -/
def quote (s : String) : String :=
  "\"" ++ String.join (s.toList.map quoteChar) ++ "\""

/-- One character between single quotes: written as inside a quoted text, except that the single
quote takes a backslash and the double quote stands for itself. -/
def charLiteral (c : Char) : String :=
  let body := match c with
    | '\'' => "\\'"
    | '"' => "\""
    | c => quoteChar c
  "'" ++ body ++ "'"

end RubyLower.Text
