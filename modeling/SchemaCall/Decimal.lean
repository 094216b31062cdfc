/-!
# Decimals and doubles

Numbers are read from decimals and written as decimals, and in between they are finite
floating-point numbers of 64 bits. Every number that is rounded is an exact quotient of natural
numbers (`roundHalfEven`), and every operation on doubles rounds once (`Binary64.ofQuotient`). A
double is written with the fewest digits that read back as the same double (`Binary64.write`).
-/

namespace SchemaCall.Decimal

/-! ## Rounding a quotient of natural numbers

Every number that is rounded in this library is an exact quotient `numerator / denominator` of
natural numbers. This module rounds such a quotient to the nearest natural number, a half going to
the even neighbour, and finds the power of two or of ten just below it.
`roundHalfEven_mul_right` says that a quotient that is a natural number is kept.
-/

/-- `numerator / denominator` rounded to the nearest natural number, a half to the even one. -/
def roundHalfEven (numerator denominator : Nat) : Nat :=
  let floor := numerator / denominator
  let rest := numerator % denominator
  if 2 * rest < denominator then floor
  else if denominator < 2 * rest then floor + 1
  else if floor % 2 = 0 then floor
  else floor + 1

/-- The quotient `numerator / denominator` is at least `base ^ exponent`. -/
def reaches (base numerator denominator : Nat) (exponent : Int) : Bool :=
  denominator * base.pow exponent.toNat ≤ numerator * base.pow (-exponent).toNat

/-- The exponent of the greatest power of two that a positive quotient reaches. -/
def floorLog2 (numerator denominator : Nat) : Int :=
  let estimate : Int := numerator.log2 - denominator.log2
  if reaches 2 numerator denominator estimate then estimate else estimate - 1

/-- The exponent of the greatest power of ten that a positive quotient reaches. The estimate
multiplies the binary exponent by a value just above `log₁₀ 2` when that exponent is negative and
just below it otherwise, and is then corrected by at most two. -/
def floorLog10 (numerator denominator : Nat) : Int :=
  let estimate := (floorLog2 numerator denominator * 30103) / 100000 + 1
  if reaches 10 numerator denominator estimate then estimate
  else if reaches 10 numerator denominator (estimate - 1) then estimate - 1
  else estimate - 2

/-! ### Laws -/

/-- A quotient that is a natural number is kept. -/
theorem roundHalfEven_mul_right (value : Nat) {denominator : Nat} (pos : 0 < denominator) :
    roundHalfEven (value * denominator) denominator = value := by
  simp [roundHalfEven, Nat.mul_div_cancel value pos, pos]

/-! ## Finite binary floating-point numbers of 64 bits

A finite double is a sign, a significand of at most 53 bits and a power of two, in the one
canonical form that the format stores: the exponent is as small as it can be. So two doubles are
equal exactly when their bits are, and `0.0` differs from `-0.0`.

Every operation computes the exact quotient of two natural numbers and rounds once: `ofQuotient`.
A result too large for the format is `none`.
-/

/-- The significand and exponent are those that the format stores: either the least exponent, or a
significand of full width. -/
def Binary64.Canonical (significand : Nat) (exponent : Int) : Prop :=
  (significand < 0x10000000000000 ∧ exponent = -1074) ∨
    (0x10000000000000 ≤ significand ∧ significand < 0x20000000000000 ∧
      -1074 ≤ exponent ∧ exponent ≤ 971)

instance (significand : Nat) (exponent : Int) :
    Decidable (Binary64.Canonical significand exponent) :=
  inferInstanceAs (Decidable (_ ∨ _))

/-- A finite double: `± significand * 2 ^ exponent`. -/
structure Binary64 where
  negative : Bool
  significand : Nat
  exponent : Int
  canonical : Binary64.Canonical significand exponent
  deriving DecidableEq

namespace Binary64

/-- A zero with the given sign. -/
def zero (negative : Bool) : Binary64 :=
  ⟨negative, 0, -1074, Or.inl (by decide)⟩

instance : Inhabited Binary64 := ⟨zero false⟩

/-- The numerator of the magnitude as an exact quotient. -/
def numerator (x : Binary64) : Nat :=
  x.significand * Nat.pow 2 x.exponent.toNat

/-- The denominator of the magnitude as an exact quotient. -/
def denominator (x : Binary64) : Nat :=
  Nat.pow 2 (-x.exponent).toNat

/-- Is the number a zero of either sign? -/
def isZero (x : Binary64) : Bool :=
  x.significand == 0

/-- The double nearest to `± numerator / denominator`, a tie going to the even significand; `none`
when the magnitude is too large. -/
def ofQuotient (negative : Bool) (numerator denominator : Nat) : Option Binary64 :=
  if numerator = 0 then some (zero negative)
  else
    -- the significand gets its full width, or less at the least exponent
    let exponent := max (-1074) (floorLog2 numerator denominator - 52)
    let significand := roundHalfEven (numerator * Nat.pow 2 (-exponent).toNat)
      (denominator * Nat.pow 2 exponent.toNat)
    if h : Canonical significand exponent then some ⟨negative, significand, exponent, h⟩
    -- rounding up may fill one more bit, which is then the only one
    else if h : Canonical (significand / 2) (exponent + 1) then
      some ⟨negative, significand / 2, exponent + 1, h⟩
    else none

/-- The double nearest to `± value`. -/
def ofNat (negative : Bool) (value : Nat) : Option Binary64 :=
  ofQuotient negative value 1

/-- The double nearest to `± digits * 10 ^ exponent`. -/
def ofDecimal (negative : Bool) (digits : Nat) (exponent : Int) : Option Binary64 :=
  ofQuotient negative (digits * Nat.pow 10 exponent.toNat)
    (Nat.pow 10 (-exponent).toNat)

/-- The rounded product. -/
def mul (x y : Binary64) : Option Binary64 :=
  ofQuotient (x.negative != y.negative) (x.numerator * y.numerator)
    (x.denominator * y.denominator)

/-- The rounded quotient by a number that is not zero. -/
def div (x y : Binary64) : Option Binary64 :=
  ofQuotient (x.negative != y.negative) (x.numerator * y.denominator)
    (x.denominator * y.numerator)

end Binary64

/-! ## Decimals with a fixed number of places

A ratio is shown with six places. It is first rounded to a double and that double's exact value is
then rounded to the places shown, a half to the even digit.
-/

/-- A natural number of units of `10 ^ -places`, written with that many places after the point. -/
def writePlaces (places units : Nat) : List Char :=
  let digits := Nat.toDigits 10 units
  let padded := List.replicate (places + 1 - digits.length) '0' ++ digits
  padded.take (padded.length - places) ++ '.' :: padded.drop (padded.length - places)

/-- The magnitude of a double with a fixed number of places. -/
def Binary64.writeFixed (places : Nat) (x : Binary64) : List Char :=
  let sign := if x.negative then ['-'] else []
  sign ++ writePlaces places (roundHalfEven (x.numerator * Nat.pow 10 places) x.denominator)

/-! ## The shortest decimal that reads back

A double is written with the fewest significant digits that read back as the same double; among
equally short decimals the one nearest to the exact value is taken. `shortest` finds them by trying
one digit, two digits, and so on: on each decimal grid only the two neighbours of the exact value
need to be looked at.

`write` lays the digits out: positional when the leading digit stands for a power of ten from
`-5` to `15`, always with a fraction, and otherwise in scientific notation with a signed exponent.
-/

/-- A decimal number `coefficient * 10 ^ exponent`. -/
structure Scaled where
  coefficient : Nat
  exponent : Int
  deriving DecidableEq, Repr

namespace Scaled

/-- Does the decimal read back as the given double, the sign apart? -/
def readsBackAs (d : Scaled) (x : Binary64) : Bool :=
  Binary64.ofDecimal x.negative d.coefficient d.exponent = some x

/-- Move trailing zeros of the coefficient into the exponent; `count` bounds their number. -/
def trim : Nat → Scaled → Scaled
  | 0, d => d
  | count + 1, d =>
    if d.coefficient ≠ 0 ∧ d.coefficient % 10 = 0 then
      trim count ⟨d.coefficient / 10, d.exponent + 1⟩
    else d

end Scaled

namespace Binary64

/-- The exact value of a double as a decimal. -/
def exactDecimal (x : Binary64) : Scaled :=
  if 0 ≤ x.exponent then ⟨x.significand * Nat.pow 2 x.exponent.toNat, 0⟩
  else ⟨x.significand * Nat.pow 5 (-x.exponent).toNat, x.exponent⟩

/-- The decimal with the last digit at `10 ^ exponent` that reads back as `x`, if there is one: of
the two neighbours of the exact value on that grid the nearer one that does. -/
def onGrid? (x : Binary64) (exponent : Int) : Option Scaled :=
  let num := x.numerator * Nat.pow 10 (-exponent).toNat
  let den := x.denominator * Nat.pow 10 exponent.toNat
  let nearest := roundHalfEven num den
  let floor := num / den
  let other := if nearest = floor then floor + 1 else floor
  [⟨nearest, exponent⟩, ⟨other, exponent⟩].find? (Scaled.readsBackAs · x)

/-- The shortest decimal that reads back as `x`. A double needs at most 17 digits; the exact decimal
stands behind the search. -/
def shortest (x : Binary64) : Scaled :=
  let leading := floorLog10 x.numerator x.denominator
  let found := (List.range 17).findSome? fun (more : Nat) => x.onGrid? (leading - more)
  (found.getD x.exactDecimal).trim 400

end Binary64

/-! ### Layout -/

/-- The digits of a decimal, laid out with the leading digit standing for `10 ^ leading`. -/
def layout (digits : List Char) (leading : Int) : List Char :=
  if -5 ≤ leading ∧ leading ≤ 15 then
    if leading < 0 then
      '0' :: '.' :: (List.replicate (-leading - 1).toNat '0' ++ digits)
    else
      let whole := leading.toNat + 1
      let padded := digits ++ List.replicate (whole - digits.length) '0'
      let fraction := padded.drop whole
      padded.take whole ++ '.' :: (if fraction.isEmpty then ['0'] else fraction)
  else
    let sign := if leading < 0 then '-' else '+'
    let exponent := sign :: Nat.toDigits 10 leading.natAbs
    match digits with
    | [] => 'e' :: exponent
    | [digit] => digit :: 'e' :: exponent
    | digit :: more => digit :: '.' :: more ++ 'e' :: exponent

/-- The text of a double. -/
def Binary64.write (x : Binary64) : List Char :=
  let sign := if x.negative then ['-'] else []
  if x.isZero then sign ++ ['0', '.', '0']
  else
    let d := x.shortest
    let digits := Nat.toDigits 10 d.coefficient
    sign ++ layout digits (d.exponent + digits.length - 1)

end SchemaCall.Decimal
