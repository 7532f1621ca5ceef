import Homescreen.Decimal.Shortest

/-!
# Writing a double

The text of a double is its shortest digits (`Binary.shortest`) arranged by a **layout**: a
record of the choices a format makes once for all numbers: which leading-digit exponents are
written positionally, and how an exponent is marked and signed. `Layout.write` arranges any
digits by such a record; a positional whole number keeps a `.0`, and zero, infinities and NaN
have fixed texts. `Found.floatLayout` is the layout of the doubles in serde_json's messages and
writer.
-/

namespace Homescreen.Decimal

/-- The layout choices of a format for doubles. -/
structure Layout where
  /-- The least exponent of the leading digit that is written positionally. -/
  leastPositional : Int
  /-- The greatest exponent of the leading digit that is written positionally. -/
  greatestPositional : Int
  /-- The letter before an exponent. -/
  mark : Char
  /-- Whether a nonnegative exponent carries a plus sign. -/
  plusSign : Bool
  /-- The texts of positive infinity and of NaN. -/
  infinity : String
  nan : String
  deriving Repr

/-- `n` zero digits. -/
def zeros (n : Nat) : List Char :=
  List.replicate n '0'

/-- The decimal digits of a natural number. -/
def digitsOf (n : Nat) : List Char :=
  Nat.toDigits 10 n

/-- Lays out the digits `ds` of the positive number `ds · 10 ^ k`. Positionally, a whole
number ends in `.0`, a number below one starts with `0.`; otherwise the leading digit stands
alone before the point, the point is left out when no digit follows it, and the exponent of
the leading digit comes after the mark. -/
def Layout.arrange (n : Layout) (ds : List Char) (k : Int) : List Char :=
  let lead : Int := ds.length + k - 1
  if n.leastPositional ≤ lead ∧ lead ≤ n.greatestPositional then
    if 0 ≤ k then ds ++ zeros k.toNat ++ ['.', '0']
    else if 0 ≤ lead then
      ds.take (lead.toNat + 1) ++ '.' :: ds.drop (lead.toNat + 1)
    else ['0', '.'] ++ zeros (-lead - 1).toNat ++ ds
  else
    let mantissa := match ds with
      | [] => []
      | [d] => [d]
      | d :: more => d :: '.' :: more
    let sign := if lead < 0 then ['-'] else if n.plusSign then ['+'] else []
    mantissa ++ n.mark :: sign ++ digitsOf lead.natAbs

/-- The text of a double in a layout. -/
def Layout.write (n : Layout) (x : Float) : String :=
  match Binary.ofFloat x with
  | none => if x.isNaN then n.nan else if x < 0 then "-" ++ n.infinity else n.infinity
  | some b =>
    let sign := if b.negative then "-" else ""
    if b.mant == 0 then sign ++ "0.0"
    else
      let (c, k) := b.shortest
      sign ++ String.ofList (n.arrange (digitsOf c) k)

end Homescreen.Decimal
