/-!
# Integer text

An integer written in decimal: an optional sign, then digits, where underscores may stand
anywhere after the first digit and are skipped. One sign only: `-+1` and `++1` are refused, and
so are an empty text, a text of a sign alone and any other character.
-/

namespace RubyLower.Text

/-- The value of decimal digits with underscores after the first digit. -/
def digitsValue : List Char → Option Nat
  | [] => none
  | '_' :: _ => none
  | cs =>
    if cs.all (fun c => c.isDigit || c = '_') then
      some ((cs.filter Char.isDigit).foldl (fun acc d => acc * 10 + (d.toNat - '0'.toNat)) 0)
    else none

/-- The integer an optionally signed decimal text denotes. -/
def readInteger (s : String) : Option Int :=
  match s.toList with
  | '-' :: '+' :: _ => none
  | '-' :: r => (digitsValue r).map fun n => -(n : Int)
  | '+' :: '+' :: _ => none
  | '+' :: r => (digitsValue r).map Int.ofNat
  | cs => (digitsValue cs).map Int.ofNat

end RubyLower.Text
