import RubyLower.Decimal.Shortest

/-!
# Writing a binary64 value as decimal text

A `Notation` holds the decisions of one text format: which decimal exponents of the leading digit
are written positionally, whether an integral value keeps a point and a zero, the mark before an
exponent, and the texts of the values that are not finite. `Binary64.render` writes a value in a
notation from the shortest decimal that reads back to it.
-/

namespace RubyLower.Decimal

/-- The decisions of a decimal text format. -/
structure Notation where
  /-- Values whose leading digit has decimal exponent `e` with `plainFrom ≤ e < plainBelow` are
  written positionally, the others with an exponent. -/
  plainFrom : Int
  plainBelow : Int
  /-- A positional integral value ends in a point and a zero. -/
  pointZero : Bool
  /-- The text between the digits and the exponent. -/
  expMark : String
  notANumber : String
  infinity : String

/-- A run of `n` zeros. -/
def zeros (n : Nat) : String :=
  String.ofList (List.replicate n '0')

/-- The digits of a decimal laid out in a notation, without sign. -/
def Dec.layout (f : Notation) (d : Dec) : String :=
  let s := toString d.digits
  let len := s.length
  let lead : Int := (len : Int) - 1 + d.exp
  if f.plainFrom ≤ lead ∧ lead < f.plainBelow then
    if 0 ≤ d.exp then
      s ++ zeros d.exp.toNat ++ (if f.pointZero then ".0" else "")
    else if 0 ≤ lead then
      String.ofList (s.toList.take (lead.toNat + 1)) ++ "." ++
        String.ofList (s.toList.drop (lead.toNat + 1))
    else
      "0." ++ zeros ((-lead).toNat - 1) ++ s
  else
    let first := String.ofList (s.toList.take 1)
    let rest := String.ofList (s.toList.drop 1)
    first ++ (if rest.isEmpty then "" else "." ++ rest) ++ f.expMark ++ toString lead

/-- A binary64 value as text in the notation `f`: the sign, then the shortest decimal that
reads back, laid out; zero keeps its sign. -/
def Binary64.render (f : Notation) (x : Binary64) : String :=
  let sign (negative : Bool) := if negative then "-" else ""
  match x.view with
  | .notANumber => f.notANumber
  | .infinity negative => sign negative ++ f.infinity
  | .zero negative => sign negative ++ Dec.layout f ⟨0, 0⟩
  | .finite negative v => sign negative ++ Dec.layout f v.shortest

end RubyLower.Decimal
