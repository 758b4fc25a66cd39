import StructureLint.Json.Value
import StructureLint.Number.Binary64
import StructureLint.Text.Digits

/-!
Contract: JSON numbers.

Of the digits of a number those are kept that fit a word of 64 bits.  The
number is finite if the kept digits, rounded to binary64, times the power of
ten, rounded likewise, round to a finite binary64 value.  Near the greatest
such value this refuses some decimals whose nearest value is finite.

Owns:
- the grammar of numbers;
- which numbers are finite.

Does not own: the value of a number that is no integer.
-/

namespace StructureLint.Json

/-! ## Grammar -/

/-- The parts of a number as written. -/
structure NumberText where
  negative : Bool
  whole : List Char
  fraction : List Char
  exponentNegative : Bool
  exponent : List Char

/-- The exponent part, its sign and digits; empty digits mean that there is none. -/
def exponentText? : List Char → Option (Bool × List Char)
  | [] => some (false, [])
  | mark :: rest =>
    if mark == 'e' || mark == 'E' then
      let signed : Bool × List Char :=
        match rest with
        | '-' :: digits => (true, digits)
        | '+' :: digits => (false, digits)
        | digits => (false, digits)
      if signed.2 != [] && signed.2.all Char.isDigit then some signed else none
    else
      none

/-- Splits a number by the JSON grammar. -/
def numberText? (text : List Char) : Option NumberText := do
  let (negative, unsigned) :=
    match text with
    | '-' :: rest => (true, rest)
    | rest => (false, rest)
  let whole := unsigned.takeWhile Char.isDigit
  if whole == [] || (whole.head? == some '0' && whole.length != 1) then none
  let behindWhole := unsigned.dropWhile Char.isDigit
  let (fraction, behindFraction) ←
    match behindWhole with
    | '.' :: rest =>
      let fraction := rest.takeWhile Char.isDigit
      if fraction == [] then none else some (fraction, rest.dropWhile Char.isDigit)
    | rest => some ([], rest)
  let (exponentNegative, exponent) ← exponentText? behindFraction
  return { negative, whole, fraction, exponentNegative, exponent }

/-! ## Finite numbers -/

/-- A decimal `digits * 10 ^ power`. -/
structure KeptDecimal where
  digits : Nat
  power : Int

namespace KeptDecimal

/-- Digits are kept while their value is below this bound. -/
def bound : Nat := 18446744073709551616

/-- The value of digits with a further one, if it is within the bound. -/
def extend? (digits : Nat) (digit : Char) : Option Nat :=
  let extended := 10 * digits + Text.decimalValue [digit]
  if extended < bound then some extended else none

/-- Whole digits behind those kept; from the first that does not fit on each
raises the power. -/
def ofWhole (digits : Nat) : List Char → KeptDecimal
  | [] => { digits, power := 0 }
  | digit :: rest =>
    match extend? digits digit with
    | some extended => ofWhole extended rest
    | none => { digits, power := rest.length + 1 }

/-- Digits of a fraction; from the first that does not fit on they are dropped. -/
def pushFraction (kept : KeptDecimal) : List Char → KeptDecimal
  | [] => kept
  | digit :: rest =>
    match extend? kept.digits digit with
    | some extended => pushFraction { digits := extended, power := kept.power - 1 } rest
    | none => kept

/-- The decimal times a power of ten. -/
def shift (kept : KeptDecimal) (power : Int) : KeptDecimal :=
  { kept with power := kept.power + power }

/-- The greatest power of ten below the greatest binary64 value. -/
def greatestPower : Int := 308

/-- The product of the rounded digits and the rounded power of ten is finite. -/
def isFinite (kept : KeptDecimal) : Bool :=
  kept.digits == 0 || kept.power < 0 ||
    (kept.power ≤ greatestPower &&
      Binary64.roundNat kept.digits * Binary64.roundNat (Nat.pow 10 kept.power.toNat) <
        Binary64.overflowBound)

end KeptDecimal

/-- The decimal that is kept of a number without its sign. -/
def NumberText.kept (number : NumberText) : KeptDecimal :=
  let exponent : Int := Text.decimalValue number.exponent
  ((KeptDecimal.ofWhole 0 number.whole).pushFraction number.fraction).shift
    (if number.exponentNegative then -exponent else exponent)

/-- The number is finite. -/
def NumberText.isFinite (number : NumberText) : Bool :=
  number.kept.isFinite

end StructureLint.Json
