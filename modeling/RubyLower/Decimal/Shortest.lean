import RubyLower.Decimal.Binary64

/-!
# The shortest decimal that reads back

The reals that a reader rounds to a finite binary64 magnitude `m · 2^q` form an interval: from
halfway to the magnitude below to halfway to the one above, both ends included when `m` is even.
`Finite.shortest` selects a decimal in that interval with as few significant digits as possible,
the nearest to `m · 2^q` of those, and of two equally near the larger. Every comparison is made
on natural numbers, by cross-multiplying (powers written with `Nat.pow`), so no rounding
enters the selection.
-/

namespace RubyLower.Decimal

/-- The decimal `digits · 10^exp`. -/
structure Dec where
  digits : Nat
  exp : Int
  deriving DecidableEq

/-- Compare `a · 10^i` with `n · 2^j` exactly. -/
def cmpScaled (a : Nat) (i : Int) (n : Nat) (j : Int) : Ordering :=
  compare (a * Nat.pow 10 i.toNat * Nat.pow 2 (-j).toNat)
    (n * Nat.pow 2 j.toNat * Nat.pow 10 (-i).toNat)

/-- The decimal with its trailing zeros moved into the exponent. -/
def Dec.strip : Nat → Dec → Dec
  | 0, d => d
  | fuel + 1, d =>
    if d.digits != 0 && d.digits % 10 == 0 then strip fuel ⟨d.digits / 10, d.exp + 1⟩ else d

namespace Finite

/-- The lower end of the interval, in units of `2^(q-2)`. -/
def lowEnd (x : Finite) : Nat :=
  if x.narrowBelow then 4 * x.m - 1 else 4 * x.m - 2

/-- The upper end of the interval, in units of `2^(q-2)`. -/
def highEnd (x : Finite) : Nat :=
  4 * x.m + 2

/-- The decimal lies among the reals that round to `x`: strictly inside the interval, or on one
of its ends when `m` is even. -/
def readsBack (x : Finite) (d : Dec) : Bool :=
  let incl := x.m % 2 == 0
  let cl := cmpScaled d.digits d.exp x.lowEnd (x.q - 2)
  let ch := cmpScaled d.digits d.exp x.highEnd (x.q - 2)
  (cl == .gt || (incl && cl == .eq)) && (ch == .lt || (incl && ch == .eq))

/-- Whether `m · 2^q < 10^k`. -/
def below (x : Finite) (k : Int) : Bool :=
  cmpScaled 1 k x.m x.q == .gt

/-- Move `k` up until `m · 2^q < 10^k`, at most `fuel` steps. -/
def raiseScale : Nat → Finite → Int → Int
  | 0, _, k => k
  | fuel + 1, x, k => if x.below k then k else raiseScale fuel x (k + 1)

/-- Move `k` down while `m · 2^q < 10^(k-1)`, at most `fuel` steps. -/
def lowerScale : Nat → Finite → Int → Int
  | 0, _, k => k
  | fuel + 1, x, k => if x.below (k - 1) then lowerScale fuel x (k - 1) else k

/-- The least `k` with `m · 2^q < 10^k`: estimated from the binary length, then corrected by
exact comparisons (the estimate is off by at most one). -/
def scale (x : Finite) : Int :=
  let estimate : Int := ((Nat.log2 x.m + 1 : Nat) + x.q) * 30103 / 100000
  lowerScale 4 x (raiseScale 4 x estimate)

/-- `⌊m · 2^q / 10^g⌋`, the value's lower neighbour on the grid `10^g`. -/
def gridFloor (x : Finite) (g : Int) : Nat :=
  (x.m * Nat.pow 2 x.q.toNat * Nat.pow 10 (-g).toNat) / (Nat.pow 2 (-x.q).toNat * Nat.pow 10 g.toNat)

/-- Of the value's two neighbours on the grid `10^g`, the ones that read back: the nearer if
both do, the upper one on an exact tie. -/
def pickOnGrid (x : Finite) (g : Int) : Option Dec :=
  let c := x.gridFloor g
  let lo : Dec := ⟨c, g⟩
  let hi : Dec := ⟨c + 1, g⟩
  match x.readsBack lo, x.readsBack hi with
  | true, true =>
    -- compare twice the value with the midpoint `(2c + 1) · 10^g`
    if cmpScaled (2 * c + 1) g (2 * x.m) x.q == .gt then some lo else some hi
  | true, false => some lo
  | false, true => some hi
  | false, false => none

/-- The exact decimal value of `m · 2^q`. -/
def exact (x : Finite) : Dec :=
  if 0 ≤ x.q then ⟨x.m * Nat.pow 2 x.q.toNat, 0⟩ else ⟨x.m * Nat.pow 5 (-x.q).toNat, x.q⟩

/-- The first of the grids `10^(k-1)`, `10^(k-2)`, … `10^(k-17)` on which a neighbour of the
value reads back, and that neighbour; the exact value if none does. -/
def shortest (x : Finite) : Dec :=
  let k := x.scale
  let found := (List.range 17).findSome? fun n => x.pickOnGrid (k - (n + 1 : Nat))
  Dec.strip 400 (found.getD x.exact)

end Finite

end RubyLower.Decimal
