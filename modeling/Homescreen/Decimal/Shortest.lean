/-!
# Shortest decimal digits of a double

A finite nonzero double stands for the real number `m · 2 ^ q`. Every real in an interval
around it rounds back to it; the **shortest digits** are the decimal with the fewest
significant digits inside that interval, and of two such decimals the one nearer to the double.

* `Binary.ofFloat` — the sign, significand and binary exponent of a double;
* `Binary.admits` — whether a decimal lies in the interval of reals that round to the double;
  the ends of the interval belong to it when the significand is even (ties go to even);
* `Binary.shortest` — the digits and decimal exponent: for 1, 2, … 17 significant digits it
  tries the two neighbours of the value on that decimal grid, and the first grid with a
  neighbour in the interval gives the answer.

These are the digits serde_json's messages and writer show for a double. All arithmetic is on
natural numbers, so the search is exact. The neighbour test suffices: if some point of a grid
lies in the interval, so does one of the value's two neighbours on it.
-/

namespace Homescreen.Decimal

/-- A finite double as `mant · 2 ^ exp` with its sign kept apart. `lowerHalf` says that the
lower neighbour lies half as far as the upper one, which happens for the least normal
significand of each binade but the first. -/
structure Binary where
  negative : Bool
  mant : Nat
  exp : Int
  lowerHalf : Bool
  deriving Repr, DecidableEq

/-- The parts of a double from its bits; `none` for infinities and NaN. -/
def Binary.ofBits (bits : Nat) : Option Binary :=
  let negative : Bool := bits / Nat.pow 2 63 % 2 == 1
  let biased : Nat := bits / Nat.pow 2 52 % 2048
  let frac : Nat := bits % Nat.pow 2 52
  if biased == 2047 then none
  else if biased == 0 then some ⟨negative, frac, -1074, false⟩
  else some ⟨negative, frac + Nat.pow 2 52, (biased : Int) - 1075, frac == 0 && biased > 1⟩

/-- The parts of a double, as `Binary.ofBits` reads them from its bits. -/
def Binary.ofFloat (x : Float) : Option Binary :=
  Binary.ofBits x.toBits.toNat

/-- Compares `a · 2 ^ e2` with `b · 10 ^ e10`, exactly. -/
def compareScaled (a : Nat) (e2 : Int) (b : Nat) (e10 : Int) : Ordering :=
  compare (a * Nat.pow 2 e2.toNat * Nat.pow 10 (-e10).toNat)
    (b * Nat.pow 10 e10.toNat * Nat.pow 2 (-e2).toNat)

/-- The integer part of `a · 2 ^ e2 / 10 ^ e10`. -/
def divScaled (a : Nat) (e2 : Int) (e10 : Int) : Nat :=
  (a * Nat.pow 2 e2.toNat * Nat.pow 10 (-e10).toNat) / (Nat.pow 10 e10.toNat * Nat.pow 2 (-e2).toNat)

/-- The decimal exponent of the leading digit of `m · 2 ^ q` for `m > 0`: the `e` with
`10 ^ e ≤ m · 2 ^ q < 10 ^ (e + 1)`. An estimate from the bit length is moved down, then up,
until it fits; for doubles it is never off by more than a few steps. -/
def leadingExponent (m : Nat) (q : Int) : Int :=
  let estimate : Int := ((Nat.log2 m : Int) + q) * 3 / 10
  let down := (List.range 8).foldl (fun e _ =>
    if compareScaled m q 1 e == .lt then e - 1 else e) estimate
  (List.range 8).foldl (fun e _ =>
    if compareScaled m q 1 (e + 1) != .lt then e + 1 else e) down

/-- The decimal `c · 10 ^ k` rounds to the double `b`. Scaled by `2 ^ (exp - 2)`, the interval
of reals that round to `b` runs from `4 · mant - 2` (or `- 1` when the lower neighbour is
nearer) to `4 · mant + 2`, and its ends count when `mant` is even. -/
def Binary.admits (b : Binary) (c : Nat) (k : Int) : Bool :=
  let lo := 4 * b.mant - (if b.lowerHalf then 1 else 2)
  let hi := 4 * b.mant + 2
  let inclusive := b.mant % 2 == 0
  let aboveLo := match compareScaled lo (b.exp - 2) c k with
    | .lt => true
    | .eq => inclusive
    | .gt => false
  let belowHi := match compareScaled hi (b.exp - 2) c k with
    | .gt => true
    | .eq => inclusive
    | .lt => false
  aboveLo && belowHi

/-- The significand on the grid `10 ^ k` of the decimal that the double rounds to, if one of
the double's two neighbours on that grid rounds back: the nearer one, the even one on a tie. -/
def Binary.onGrid (b : Binary) (k : Int) : Option Nat :=
  let d := divScaled b.mant b.exp k
  let okLow := b.admits d k
  let okHigh := b.admits (d + 1) k
  if okLow && okHigh then
    -- the nearer of the two: compare 2v with (2d + 1) · 10 ^ k
    match compareScaled (2 * b.mant) b.exp (2 * d + 1) k with
    | .lt => some d
    | .gt => some (d + 1)
    | .eq => some (if d % 2 == 0 then d else d + 1)
  else if okLow then some d
  else if okHigh then some (d + 1)
  else none

/-- Moves trailing zero digits of a significand into the exponent. -/
def stripZeros (c : Nat) (k : Int) : Nat × Int :=
  (List.range 20).foldl (fun (c, k) _ =>
    if c != 0 && c % 10 == 0 then (c / 10, k + 1) else (c, k)) (c, k)

/-- The shortest digits of a nonzero finite double, as `(c, k)` with value `c · 10 ^ k` and
no trailing zero in `c`. Seventeen significant digits always read back, so the last grid
always has a hit; the fallback is never taken for a double. -/
def Binary.shortest (b : Binary) : Nat × Int :=
  let e := leadingExponent b.mant b.exp
  let found := (List.range 17).findSome? fun (i : Nat) =>
    let k := e - (i : Int)
    (b.onGrid k).map fun c => (c, k)
  match found with
  | some (c, k) => stripZeros c k
  | none => stripZeros (divScaled b.mant b.exp (e - 16)) (e - 16)

end Homescreen.Decimal
