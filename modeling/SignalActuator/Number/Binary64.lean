/-
  Binary floating point — 64-bit numbers as exact values, read from decimal
  notation and written in the fewest digits.

  A finite number is `±significand · 2 ^ exponent` with a significand below
  `2 ^ 53` and an exponent from -1074 to 971.  All arithmetic is on naturals, so
  that nothing is lost before the one rounding.

  * `ofDecimal` rounds `digits · 10 ^ e` to the nearest number, a tie to the even
    significand;
  * `shortest` finds the fewest digits that read back, and of those the nearest;
  * `toText` writes them in positional notation.
-/
namespace SignalActuator

inductive Binary64 where
  | finite (negative : Bool) (significand : Nat) (exponent : Int)
  | infinite (negative : Bool)
  | nan
  deriving DecidableEq, Repr

namespace Binary64

/-! ## Reading -/

/-- The fraction `num / den` scaled by `2 ^ -q`, as a numerator and a denominator. -/
def scaled (num den : Nat) (q : Int) : Nat × Nat :=
  if 0 ≤ q then (num, den * Nat.pow 2 q.toNat) else (num * Nat.pow 2 (-q).toNat, den)

/-- The nearest natural to `num / den`; a tie goes to the even one. -/
def roundEven (num den : Nat) : Nat :=
  let m := num / den
  let r := num % den
  if 2 * r < den then m
  else if den < 2 * r then m + 1
  else if m % 2 = 0 then m else m + 1

/-- The nearest number to a positive fraction. -/
def ofFraction (negative : Bool) (num den : Nat) : Binary64 :=
  let guess : Int := (num.log2 : Int) - den.log2 - 53
  let fits (q : Int) : Bool := let (a, b) := scaled num den q; a / b < Nat.pow 2 53
  let q := max (-1074) (if fits guess then guess else if fits (guess + 1) then guess + 1
    else guess + 2)
  let (a, b) := scaled num den q
  let m := roundEven a b
  let (m, q) := if m = Nat.pow 2 53 then (Nat.pow 2 52, q + 1) else (m, q)
  if 971 < q then .infinite negative else .finite negative m q

/-- The nearest number to `digits · 10 ^ e`.  Magnitudes beyond every number are
    sorted out first. -/
def ofDecimal (negative : Bool) (digits : Nat) (e : Int) : Binary64 :=
  let magnitude : Int := (Nat.toDigits 10 digits).length + e
  if digits = 0 ∨ magnitude < -330 then .finite negative 0 (-1074)
  else if 330 < magnitude then .infinite negative
  else if 0 ≤ e then ofFraction negative (digits * Nat.pow 10 e.toNat) 1
  else ofFraction negative digits (Nat.pow 10 (-e).toNat)

/-! ## Writing -/

/-- The bounds of the reals that round to `m · 2 ^ q`, and the number itself, in
    units of `2 ^ (q - 2)`; the gap below a power of two is half as wide. -/
def neighbourhood (m : Nat) (q : Int) : Nat × Nat × Nat :=
  (if m = Nat.pow 2 52 ∧ -1074 < q then 4 * m - 1 else 4 * m - 2, 4 * m, 4 * m + 2)

/-- The number `n · 2 ^ q` in units of `10 ^ k`, as a fraction. -/
def inUnits (n : Nat) (q k : Int) : Nat × Nat :=
  let (num, den) := if 0 ≤ q then (n * Nat.pow 2 q.toNat, 1) else (n, Nat.pow 2 (-q).toNat)
  if 0 ≤ k then (num, den * Nat.pow 10 k.toNat) else (num * Nat.pow 10 (-k).toNat, den)

/-- The multiple of `10 ^ k` nearest to `m · 2 ^ q` among those that round to it,
    as its number of units. -/
def onGrid? (m : Nat) (q k : Int) : Option Nat :=
  let (low, mid, high) := neighbourhood m q
  let (num, den) := inUnits mid (q - 2) k
  let reads (c : Nat) : Bool :=
    let (lowNum, _) := inUnits low (q - 2) k
    let (highNum, _) := inUnits high (q - 2) k
    if m % 2 = 0 then lowNum ≤ c * den && c * den ≤ highNum
    else lowNum < c * den && c * den < highNum
  let below := num / den
  let above := below + 1
  match reads below, reads above with
  | true, true =>
    if 2 * (num % den) < den then some below
    else if den < 2 * (num % den) then some above
    else some (if below % 2 = 0 then below else above)
  | true, false => some below
  | false, true => some above
  | false, false => none

/-- The decimal magnitude of a positive number: it is below `10 ^ e`, and not
    below a tenth of it. -/
def magnitude (m : Nat) (q : Int) : Int :=
  let (num, den) := inUnits m q (-400)
  ((Nat.toDigits 10 (num / den)).length : Int) - 400

/-- The fewest digits that read back as `m · 2 ^ q`, with the exponent of their
    unit; tries `count` more digits than `tried`. -/
def shortestFrom (m : Nat) (q top : Int) (tried : Nat) : Nat → Nat × Int
  | 0 => (0, 0)
  | count + 1 =>
    let k := top - (tried + 1)
    match onGrid? m q k with
    | some d => (d, k)
    | none => shortestFrom m q top (tried + 1) count

def shortest (m : Nat) (q : Int) : Nat × Int :=
  shortestFrom m q (magnitude m q) 0 17

/-- Digits with a point before the last `places` of them. -/
def withPoint (digits : List Char) (places : Nat) : List Char :=
  let padded := List.replicate (places + 1 - digits.length) '0' ++ digits
  padded.take (padded.length - places) ++ '.' :: padded.drop (padded.length - places)

/-- The number in positional notation, always with a decimal point. -/
def toText : Binary64 → String
  | .nan => "NaN"
  | .infinite negative => if negative then "-inf" else "inf"
  | .finite negative m q =>
    let (d, k) := if m = 0 then (0, 0) else shortest m q
    let digits := Nat.toDigits 10 d
    let text := if 0 ≤ k then digits ++ List.replicate k.toNat '0' ++ ['.', '0']
      else withPoint digits (-k).toNat
    String.ofList (if negative then '-' :: text else text)

end Binary64

end SignalActuator
