import RubyLower.Decimal.Binary64

/-!
# Reading decimal text

`Binary64.ofText?` reads a number written as JSON writes it (an optional minus, an integer part,
an optional fraction and an optional exponent) into the nearest binary64 value, keeping the sign
of a zero. A value whose decimal exponent puts it beyond `10^310` is infinite and one below
`10^-330` is zero, without computing the huge powers.
-/

namespace RubyLower.Decimal

namespace Binary64

/-- The value of a run of decimal digits. -/
def digitsValue (ds : List Char) : Nat :=
  ds.foldl (fun acc d => acc * 10 + (d.toNat - '0'.toNat)) 0

/-- The exponent part of a number: `e` or `E`, an optional sign, digits. -/
def readExponent : List Char → Option Int
  | [] => some 0
  | e :: r =>
    if e = 'e' ∨ e = 'E' then
      let (negative, ds) := match r with
        | '-' :: ds => (true, ds)
        | '+' :: ds => (false, ds)
        | ds => (false, ds)
      if !ds.isEmpty && ds.all Char.isDigit then
        some (if negative then -(digitsValue ds : Int) else digitsValue ds)
      else none
    else none

/-- The nearest binary64 value to a number written in JSON syntax. -/
def ofText? (s : String) : Option Binary64 := do
  let (negative, cs) := match s.toList with
    | '-' :: cs => (true, cs)
    | cs => (false, cs)
  let int := cs.takeWhile Char.isDigit
  let rest := cs.dropWhile Char.isDigit
  let (frac, rest) := match rest with
    | '.' :: r => (r.takeWhile Char.isDigit, r.dropWhile Char.isDigit)
    | r => ([], r)
  if int.isEmpty then none else
  let exp ← readExponent rest
  let n := digitsValue (int ++ frac)
  let e := exp - frac.length
  let size := ((Nat.toDigits 10 n).length : Int)
  if n = 0 then some (signedZero negative)
  else if 310 < e + size then some (infinity negative)
  else if e + size < -330 then some (signedZero negative)
  else some (ofDecimal negative n e)

end Binary64

end RubyLower.Decimal
