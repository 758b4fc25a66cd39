/-!
Contract: binary64 numbers and decimals.

A finite number is a natural significand times a power of two.  Reading rounds
to the nearest number, a tie to the even significand.  Writing takes the
coarsest decimal grid on which some point reads back as the number, and on it
the point nearest to the number.

Owns:
- rounding of a decimal and of a natural number;
- the shortest decimal of a number, and its positional text.

Does not own: signs, and the notation of any format.
-/

namespace StructureLint

/-- The magnitude `significand * 2 ^ exponent`. -/
structure Binary64 where
  significand : Nat
  exponent : Int
  deriving DecidableEq, Repr

namespace Binary64

/-- The least exponent. -/
def leastExponent : Int := -1074

/-- The greatest exponent. -/
def greatestExponent : Int := 971

/-- Significands are below this bound. -/
def significandBound : Nat := 9007199254740992

/-- The fraction `numerator / denominator * base ^ exponent`, as a fraction. -/
def scale (numerator denominator base : Nat) (exponent : Int) : Nat × Nat :=
  (numerator * Nat.pow base exponent.toNat, denominator * Nat.pow base (-exponent).toNat)

/-- The quotient rounded to the nearest natural number, a tie to the even one. -/
def roundDiv (numerator denominator : Nat) : Nat :=
  let quotient := numerator / denominator
  let twice := 2 * (numerator % denominator)
  if twice < denominator then quotient
  else if denominator < twice then quotient + 1
  else quotient + quotient % 2

/-- The nearest natural number with as many bits as a significand, a tie to the even one. -/
def roundNat (value : Nat) : Nat :=
  if value < significandBound then
    value
  else
    let unit := Nat.pow 2 (Nat.log2 value - 52)
    roundDiv value unit * unit

/-- From this magnitude on a number no longer rounds to a finite one. -/
def overflowBound : Nat :=
  Nat.pow 2 1024 - Nat.pow 2 970

/-- The exponent at which a positive fraction has the most significand bits. -/
def exponentFor (numerator denominator : Nat) : Int :=
  let estimate : Int := (Nat.log2 numerator : Int) - Nat.log2 denominator - 52
  let (scaled, unit) := scale numerator denominator 2 (-estimate)
  max leastExponent (if 2 * scaled < significandBound * unit then estimate - 1 else estimate)

/-- The nearest number to `digits * 10 ^ power`; `none` if it is too large. -/
def ofDecimal? (digits : Nat) (power : Int) : Option Binary64 :=
  if digits = 0 then
    some { significand := 0, exponent := leastExponent }
  else
    let (numerator, denominator) := scale digits 1 10 power
    let exponent := exponentFor numerator denominator
    let (scaled, unit) := scale numerator denominator 2 (-exponent)
    let rounded := roundDiv scaled unit
    let number : Binary64 :=
      if rounded < significandBound then { significand := rounded, exponent }
      else { significand := rounded / 2, exponent := exponent + 1 }
    if greatestExponent < number.exponent then none else some number

/-- The decimal reads back as the number: it lies between the midpoints to the
neighbouring numbers, which count if the significand is even.  The lower
neighbour of a power of two is nearer than the upper one. -/
def readsBack (number : Binary64) (digits : Nat) (power : Int) : Bool :=
  let (tens, shares) := scale digits 1 10 power
  let (unit, parts) := scale 1 1 2 number.exponent
  let point := 4 * tens * parts
  let lowerGap :=
    if 2 * number.significand == significandBound && leastExponent < number.exponent then 1
    else 2
  let low := (4 * number.significand - lowerGap) * unit * shares
  let high := (4 * number.significand + 2) * unit * shares
  if number.significand % 2 == 0 then low ≤ point && point ≤ high else low < point && point < high

/-- The decimal on a grid next to the number that reads back, if one does; of two, the nearer. -/
def onGrid? (number : Binary64) (power : Int) : Option Nat :=
  let (binary, parts) := scale number.significand 1 2 number.exponent
  let (numerator, denominator) := scale binary parts 10 (-power)
  let below := numerator / denominator
  let aboveIsNearer := denominator ≤ 2 * (numerator % denominator)
  let nearer := if aboveIsNearer then below + 1 else below
  let farther := if aboveIsNearer then below else below + 1
  [nearer, farther].find? fun digits => digits != 0 && number.readsBack digits power

/-- The powers of ten of decimal grids, from coarse to fine. -/
def gridPowers : List Int :=
  (List.range 660).map fun (index : Nat) => 310 - (index : Int)

/-- The shortest decimal `digits * 10 ^ power` that reads back as the number. -/
def shortest (number : Binary64) : Nat × Int :=
  if number.significand = 0 then
    (0, 0)
  else
    (gridPowers.findSome? fun power =>
      (number.onGrid? power).map fun digits => (digits, power)).getD (0, 0)

/-- The decimal in positional notation, without an exponent. -/
def positional (digits : Nat) (power : Int) : String :=
  let written := Nat.toDigits 10 digits
  if 0 ≤ power then
    String.ofList (written ++ List.replicate power.toNat '0')
  else
    let places := (-power).toNat
    let padded := List.replicate (places + 1 - written.length) '0' ++ written
    String.ofList (padded.take (padded.length - places) ++ ['.'] ++
      padded.drop (padded.length - places))

end Binary64

end StructureLint
