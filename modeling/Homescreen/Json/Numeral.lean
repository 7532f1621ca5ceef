import Homescreen.Json.Cursor

/-!
# Numbers

A JSON number is read, as serde_json reads it, into a 64-bit significand and a decimal exponent.
A whole number without fraction or exponent is kept whole when it fits (`Number.unsigned`, or
`Number.signed` when negative); every other number becomes a double.

* The significand takes digits while it stays below `2 ^ 64`. An integer digit that would not
  fit raises the exponent instead; a fraction digit that would not fit ends the fraction and the
  digits after it are read but ignored.
* The exponent is a 32-bit number; a longer one makes a nonzero number with a positive exponent
  too large, and any other number zero.
* `scaleByTen` makes the double: the double nearest the significand, times the double nearest
  `10 ^ e`, or divided by the one nearest `10 ^ -e`; past `10 ^ 308` it divides by `1e308`
  repeatedly. A product that overflows is **out of range**.
-/

namespace Homescreen.Json

/-- The largest significand: `2 ^ 64 - 1`. -/
def significandMax : Nat := Nat.pow 2 64 - 1

/-- The largest exponent: `2 ^ 31 - 1`. -/
def exponentMax : Nat := Nat.pow 2 31 - 1

/-- The value of a decimal digit. -/
def digitValue (c : Char) : Nat := c.toNat - '0'.toNat

/-- The significand with one more digit still fits in 64 bits. -/
def fitsAfter (sig : Nat) (d : Char) : Bool :=
  sig * 10 + digitValue d ≤ significandMax

/-- The double nearest `10 ^ k`. -/
def powerOfTen (k : Nat) : Float :=
  OfScientific.ofScientific 1 false k

/-- Scales a double by `10 ^ exp` as described above; `none` when the result overflows. -/
def scaleByTen (f : Float) (exp : Int) : Option Float :=
  if exp.natAbs ≤ 308 then
    if 0 ≤ exp then
      let g := f * powerOfTen exp.toNat
      if g.isInf then none else some g
    else some (f / powerOfTen exp.natAbs)
  else if f == 0 then some f
  else if 0 ≤ exp then none
  else scaleByTen (f / powerOfTen 308) (exp + 308)
termination_by exp.natAbs
decreasing_by omega

/-- Integer digits into a significand: `(sig, extra)` where `extra` counts the digits that no
longer fit, from the first that did not fit on. -/
def integerPart (sig extra : Nat) : List Char → Nat × Nat
  | [] => (sig, extra)
  | d :: ds =>
    if extra = 0 ∧ fitsAfter sig d then integerPart (sig * 10 + digitValue d) 0 ds
    else integerPart sig (extra + 1) ds

/-- Fraction digits into a significand, up to the first that would not fit: the significand
and how many digits it took. -/
def fractionPart (sig taken : Nat) : List Char → Nat × Nat
  | [] => (sig, taken)
  | d :: ds =>
    if fitsAfter sig d then fractionPart (sig * 10 + digitValue d) (taken + 1) ds
    else (sig, taken)

/-- Exponent digits after a first one of value `e`: the exponent, or `none` when a digit takes
it past `exponentMax`; and how many of the digits were read, the one that overflowed included. -/
def exponentDigits (e : Nat) (read : Nat) : List Char → Option Nat × Nat
  | [] => (some e, read)
  | d :: ds =>
    if e * 10 + digitValue d > exponentMax then (none, read + 1)
    else exponentDigits (e * 10 + digitValue d) (read + 1) ds

/-- An exponent kept within 32 signed bits. -/
def clampExponent (e : Int) : Int :=
  max (-(exponentMax : Int) - 1) (min e exponentMax)

/-- A whole number with its sign. -/
def Number.whole (negative : Bool) (sig : Nat) : Number :=
  if !negative then .unsigned sig
  else if sig = 0 then .float (-0.0)
  else if sig ≤ Nat.pow 2 63 then .signed (-(sig : Int))
  else .float (-(Float.ofNat sig))

namespace Reader

/-- Reads `n` characters. -/
def skip (n : Nat) : Reader Unit :=
  modify fun c => ⟨c.rest.drop n, c.offset + byteLength (c.rest.take n)⟩

/-- Reads the decimal digits at the cursor. -/
def digits : Reader (List Char) := do
  let ds := (← get).rest.takeWhile Char.isDigit
  skip ds.length
  pure ds

/-- The double `± sig · 10 ^ exp`; out of range fails at the cursor. -/
def fromParts (negative : Bool) (sig : Nat) (exp : Int) : Reader Float :=
  match scaleByTen (Float.ofNat sig) exp with
  | none => failHere .numberOutOfRange
  | some f => pure (if negative then -f else f)

/-- Reads an exponent from its letter on, for the significand `sig` and the exponent `exp0`
that the digits before it gave. -/
def exponent (negative : Bool) (sig : Nat) (exp0 : Int) : Reader Float := do
  bump
  let positive ← match ← peek? with
    | some '+' => do bump; pure true
    | some '-' => do bump; pure false
    | _ => pure true
  let c ← get
  match c.rest with
  | [] => failHere .eofInValue
  | d :: more =>
    if d.isDigit then
      bump
      match exponentDigits (digitValue d) 0 (more.takeWhile Char.isDigit) with
      | (some e, n) =>
        skip n
        fromParts negative sig (clampExponent (if positive then exp0 + e else exp0 - e))
      | (none, n) =>
        skip n
        if sig ≠ 0 ∧ positive then failHere .numberOutOfRange
        else do
          let _ ← digits
          pure (if negative then -0.0 else 0.0)
    else failAt .invalidNumber (c.offset + 1)

/-- Reads a fraction from its point on, for the significand `sig` and exponent `exp0` of the
integer digits. -/
def fraction (negative : Bool) (sig : Nat) (exp0 : Int) : Reader Float := do
  bump
  let ds ← digits
  if ds.isEmpty then
    if (← get).rest.isEmpty then failAhead .eofInValue else failAhead .invalidNumber
  else
    let (sig', taken) := fractionPart sig 0 ds
    let exp := exp0 - taken
    match ← peek? with
    | some 'e' | some 'E' => exponent negative sig' exp
    | _ => fromParts negative sig' exp

/-- Reads what follows the integer digits: a fraction, an exponent, or nothing. `extra` counts
integer digits that did not fit in the significand. -/
def afterInteger (negative : Bool) (sig extra : Nat) : Reader Number := do
  match ← peek? with
  | some '.' => .float <$> fraction negative sig extra
  | some 'e' | some 'E' => .float <$> exponent negative sig extra
  | _ =>
    if extra = 0 then pure (Number.whole negative sig)
    else .float <$> fromParts negative sig extra

/-- Reads a number after its minus sign, if any. A leading zero stands alone. -/
def number (negative : Bool) : Reader Number := do
  let c ← get
  match c.rest with
  | [] => failHere .eofInValue
  | d :: r =>
    if d = '0' then do
      bump
      match r with
      | e :: _ => if e.isDigit then failAhead .invalidNumber else afterInteger negative 0 0
      | [] => afterInteger negative 0 0
    else if d.isDigit then do
      let ds ← digits
      let (sig, extra) := integerPart 0 0 ds
      afterInteger negative sig extra
    else failAt .invalidNumber (c.offset + 1)

/-- Checks a number after its minus sign without keeping it. Where the text ends early, the
number is refused as it would be by a character that is no digit. -/
def skipNumber : Reader Unit := do
  let c ← get
  match c.rest with
  | d :: r =>
    if d = '0' then do
      bump
      match r with
      | e :: _ => if e.isDigit then failAhead .invalidNumber else pure ()
      | [] => pure ()
    else if d.isDigit then do let _ ← digits
    else failAt .invalidNumber (c.offset + 1)
  | [] => failHere .invalidNumber
  match ← peek? with
  | some '.' =>
    bump
    let ds ← digits
    if ds.isEmpty then failAhead .invalidNumber
    skipExponent
  | _ => skipExponent
where
  /-- An optional exponent. -/
  skipExponent : Reader Unit := do
    match ← peek? with
    | some 'e' | some 'E' =>
      bump
      match ← peek? with
      | some '+' | some '-' => bump
      | _ => pure ()
      let c ← get
      match c.rest with
      | d :: _ => if d.isDigit then do let _ ← digits else failAt .invalidNumber (c.offset + 1)
      | [] => failHere .invalidNumber
    | _ => pure ()

end Reader

end Homescreen.Json
