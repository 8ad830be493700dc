/-!
# Binary64 values

A binary64 floating-point value is kept as its 64 bits, so that two values are equal exactly when
their bits are, and a not-a-number equals itself. `Binary64.view` splits the bits into sign,
class and magnitude `m · 2^q`; `Binary64.ofDecimal` gives the value nearest to a decimal, as a
reader of decimal text does (ties to an even last bit; beyond the largest finite value,
infinity).

Powers are written with `Nat.pow`, which names one function whatever power instances are in
scope.
-/

namespace RubyLower.Decimal

/-- A binary64 floating-point value, kept as its 64 bits. -/
structure Binary64 where
  bits : UInt64
  deriving DecidableEq, Inhabited

/-- A finite non-zero magnitude `m · 2^q`. `narrowBelow` says that the gap to the magnitude
below is half the gap to the one above, as happens just above a power of two. -/
structure Finite where
  m : Nat
  q : Int
  narrowBelow : Bool
  deriving DecidableEq

/-- What the bits of a binary64 value stand for. -/
inductive View where
  | notANumber
  | infinity (negative : Bool)
  | zero (negative : Bool)
  | finite (negative : Bool) (x : Finite)

namespace Binary64

/-- The sign bit, the biased exponent and the fraction field, then their meaning. -/
def view (x : Binary64) : View :=
  let negative := x.bits >>> 63 == 1
  let e := ((x.bits >>> 52) &&& 0x7FF).toNat
  let f := (x.bits &&& 0xFFFFFFFFFFFFF).toNat
  if e == 0x7FF then
    if f == 0 then .infinity negative else .notANumber
  else if e == 0 then
    if f == 0 then .zero negative else .finite negative ⟨f, -1074, false⟩
  else .finite negative ⟨Nat.pow 2 52 + f, (e : Int) - 1075, f == 0 && e > 1⟩

/-- The value with the given sign and all other bits zero. -/
def signedZero (negative : Bool) : Binary64 :=
  ⟨if negative then 0x8000000000000000 else 0⟩

/-- Infinity with the given sign. -/
def infinity (negative : Bool) : Binary64 :=
  ⟨if negative then 0xFFF0000000000000 else 0x7FF0000000000000⟩

/-- The canonical not-a-number. -/
def notANumber : Binary64 := ⟨0x7FF8000000000000⟩

/-- The integer nearest to `a / b`; of two equally near, the even one. -/
def roundQuotient (a b : Nat) : Nat :=
  let q := a / b
  let r := a % b
  if 2 * r < b then q
  else if b < 2 * r then q + 1
  else if q % 2 == 0 then q else q + 1

/-- The integer nearest to `(num / den) / 2^q`, ties to even. -/
def scaledAt (num den : Nat) (q : Int) : Nat :=
  roundQuotient (num * Nat.pow 2 (-q).toNat) (den * Nat.pow 2 q.toNat)

/-- Bits of the value `m · 2^q` for `m < 2^53`, with `2^52 ≤ m` unless `q` is the least
exponent: a subnormal keeps `m` as its fraction, a normal value stores `q` biased. -/
def encode (negative : Bool) (m : Nat) (q : Int) : Binary64 :=
  let sign : UInt64 := if negative then 0x8000000000000000 else 0
  if m < Nat.pow 2 52 then ⟨sign ||| m.toUInt64⟩
  else
    let biased := q + 1075
    if 2047 ≤ biased then infinity negative
    else ⟨sign ||| (biased.toNat.toUInt64 <<< 52) ||| (m - Nat.pow 2 52).toUInt64⟩

/-- The binary64 value nearest to `num / den` (both positive), with the given sign. -/
def ofRatio (negative : Bool) (num den : Nat) : Binary64 :=
  let estimate : Int := (Nat.log2 num : Int) - (Nat.log2 den : Int)
  let q := max (estimate - 52) (-1074)
  let m := scaledAt num den q
  let (m, q) :=
    if m < Nat.pow 2 52 ∧ -1074 < q then (scaledAt num den (q - 1), q - 1) else (m, q)
  let (m, q) := if m = Nat.pow 2 53 then (Nat.pow 2 52, q + 1) else (m, q)
  encode negative m q

/-- The binary64 value nearest to `n · 10^e`, with the given sign. -/
def ofDecimal (negative : Bool) (n : Nat) (e : Int) : Binary64 :=
  if n = 0 then signedZero negative
  else ofRatio negative (n * Nat.pow 10 e.toNat) (Nat.pow 10 (-e).toNat)

end Binary64

end RubyLower.Decimal
