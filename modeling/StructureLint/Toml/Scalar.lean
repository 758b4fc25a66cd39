import StructureLint.Text.Digits
import StructureLint.Toml.Value

/-!
Contract: unquoted TOML values.

An unquoted value is a run of characters without blanks; a date may be
followed by one blank and a time.

Owns:
- integers, floating-point numbers, truth values, dates and times.
-/

namespace StructureLint.Toml

/-! ## Numbers -/

/-- Digits with single underscores between them, the underscores removed. -/
def groupedDigits? (isDigit : Char → Bool) : List Char → Option (List Char)
  | [] => none
  | [digit] => if isDigit digit then some [digit] else none
  | digit :: '_' :: rest =>
    if isDigit digit then (groupedDigits? isDigit rest).map (digit :: ·) else none
  | digit :: rest =>
    if isDigit digit then (groupedDigits? isDigit rest).map (digit :: ·) else none

/-- A sign, and the text behind it. -/
def splitSign : List Char → Bool × List Char
  | '-' :: rest => (true, rest)
  | '+' :: rest => (false, rest)
  | rest => (false, rest)

/-- Decimal digits without a superfluous leading zero. -/
def wholeDigits? (text : List Char) : Option (List Char) := do
  let digits ← groupedDigits? Char.isDigit text
  if digits.head? == some '0' && digits.length != 1 then none else some digits

/-- The value of digits in a base. -/
def digitsValue (base : Nat) (digits : List Char) : Nat :=
  digits.foldl (fun value digit => base * value + (Text.hexDigit? digit).getD 0) 0

/-- Digits of a base up to sixteen. -/
def isDigitOf (base : Nat) (character : Char) : Bool :=
  (Text.hexDigit? character).any fun digit => digit < base

/-- An integer of 64 bits. -/
def bounded? (value : Int) : Option Int :=
  if -9223372036854775808 ≤ value ∧ value ≤ 9223372036854775807 then some value else none

/-- An integer in decimal, or without a sign in base sixteen, eight or two. -/
def integer? : List Char → Option Int
  | '0' :: 'x' :: rest => do bounded? (digitsValue 16 (← groupedDigits? (isDigitOf 16) rest))
  | '0' :: 'o' :: rest => do bounded? (digitsValue 8 (← groupedDigits? (isDigitOf 8) rest))
  | '0' :: 'b' :: rest => do bounded? (digitsValue 2 (← groupedDigits? (isDigitOf 2) rest))
  | text => do
    let (negative, unsigned) := splitSign text
    let magnitude : Int := Text.decimalValue (← wholeDigits? unsigned)
    bounded? (if negative then -magnitude else magnitude)

/-- The exponent behind its mark. -/
def exponentValue? (text : List Char) : Option Int := do
  let (negative, unsigned) := splitSign text
  let magnitude : Int := Text.decimalValue (← groupedDigits? Char.isDigit unsigned)
  return if negative then -magnitude else magnitude

/-- The text before and behind the first character that is accepted. -/
def splitAt? (accept : Char → Bool) (text : List Char) : Option (List Char × List Char) :=
  if text.any accept then
    some (text.takeWhile fun character => !accept character,
      (text.dropWhile fun character => !accept character).drop 1)
  else
    none

/-- Exponents beyond this distance decide a number without being computed. -/
def exponentHorizon : Int := 400

/-- A decimal as a floating-point number; one that is too large is refused
unless it is negative. -/
def realOfDecimal? (negative : Bool) (digits : List Char) (power : Int) : Option Real :=
  let value := Text.decimalValue digits
  let reach : Int := digits.length
  let magnitude :=
    if value = 0 || power + reach < -exponentHorizon then Binary64.ofDecimal? 0 0
    else if exponentHorizon < power then none
    else Binary64.ofDecimal? value power
  match magnitude with
  | some finite => some (.finite negative finite)
  | none => if negative then some (.infinite true) else none

/-- A floating-point number: a whole part with a fraction, an exponent or both. -/
def decimalReal? (text : List Char) : Option Real := do
  let (negative, unsigned) := splitSign text
  let (mantissa, exponent) ←
    match splitAt? (fun character => character == 'e' || character == 'E') unsigned with
    | none => if unsigned.contains '.' then some (unsigned, 0) else none
    | some (mantissa, behind) => (exponentValue? behind).map fun exponent => (mantissa, exponent)
  let (whole, fraction) ←
    match splitAt? (· == '.') mantissa with
    | none => (wholeDigits? mantissa).map fun whole => (whole, [])
    | some (before, behind) =>
      (wholeDigits? before).bind fun whole =>
        (groupedDigits? Char.isDigit behind).map fun fraction => (whole, fraction)
  realOfDecimal? negative (whole ++ fraction) (exponent - fraction.length)

/-- A floating-point number, infinities and the undefined number included. -/
def real? (text : List Char) : Option Real :=
  let (negative, unsigned) := splitSign text
  if unsigned == "inf".toList then some (.infinite negative)
  else if unsigned == "nan".toList then some .notANumber
  else decimalReal? text

/-! ## Dates and times -/

/-- Exactly `width` digits within bounds, and the text behind them. -/
def field? (width low high : Nat) (text : List Char) : Option (Nat × List Char) :=
  let digits := text.take width
  let value := Text.decimalValue digits
  if digits.length == width && digits.all Char.isDigit && low ≤ value && value ≤ high then
    some (value, text.drop width)
  else
    none

/-- The text behind an expected character. -/
def expect? (expected : Char) : List Char → Option (List Char)
  | character :: rest => if character == expected then some rest else none
  | [] => none

/-- The number of days of a month. -/
def daysIn (year month : Nat) : Nat :=
  if month == 2 then
    if year % 4 == 0 && (year % 100 != 0 || year % 400 == 0) then 29 else 28
  else if month == 4 || month == 6 || month == 9 || month == 11 then 30
  else 31

/-- A date, and the text behind it. -/
def date? (text : List Char) : Option (Date × List Char) := do
  let (year, text) ← field? 4 0 9999 text
  let (month, text) ← field? 2 1 12 (← expect? '-' text)
  let (day, text) ← field? 2 1 (daysIn year month) (← expect? '-' text)
  return ({ year, month, day }, text)

/-- The nanoseconds of a fraction of a second; digits beyond the ninth are dropped. -/
def nanoseconds (digits : List Char) : Nat :=
  let kept := digits.take 9
  Text.decimalValue kept * Nat.pow 10 (9 - kept.length)

/-- A time of day with an hour up to the given one, and the text behind it. -/
def timeUpTo? (lastHour : Nat) (text : List Char) : Option (Time × List Char) := do
  let (hour, text) ← field? 2 0 lastHour text
  let (minute, text) ← field? 2 0 59 (← expect? ':' text)
  let (second, text) ← field? 2 0 60 (← expect? ':' text)
  match text with
  | '.' :: behind =>
    let digits := behind.takeWhile Char.isDigit
    if digits == [] then none
    else return ({ hour, minute, second, nanosecond := nanoseconds digits },
      behind.dropWhile Char.isDigit)
  | _ => return ({ hour, minute, second, nanosecond := 0 }, text)

/-- A time of day, and the text behind it. -/
def time? (text : List Char) : Option (Time × List Char) :=
  timeUpTo? 23 text

/-- The hours and minutes of an offset. -/
def offsetMinutes? (text : List Char) : Option Int := do
  let (hour, text) ← field? 2 0 23 text
  let (minute, text) ← field? 2 0 59 (← expect? ':' text)
  if text == [] then return (60 * hour + minute : Nat) else none

/-- A whole offset. -/
def offset? : List Char → Option Offset
  | ['Z'] => some .universal
  | ['z'] => some .universal
  | '+' :: rest => (offsetMinutes? rest).map Offset.minutes
  | '-' :: rest => (offsetMinutes? rest).map fun minutes => .minutes (-minutes)
  | _ => none

/-- A time behind a date, with or without an offset. -/
def timeBehindDate? (date : Date) (text : List Char) : Option Moment := do
  let (time, text) ← time? text
  if text == [] then return { date, time }
  else return { date, time, offset := ← offset? text }

/-- A date, a time of day, or both. -/
def moment? (text : List Char) : Option Moment :=
  match date? text with
  | some (date, []) => some { date }
  | some (date, divider :: rest) =>
    if divider == 'T' || divider == 't' || divider == ' ' then timeBehindDate? date rest else none
  | none =>
    match time? text with
    | some (time, []) => some { time }
    | _ => none

/-! ## Unquoted values -/

/-- The value of an unquoted text. -/
def scalar? (text : List Char) : Option Value :=
  if text == "true".toList then some (.boolean true)
  else if text == "false".toList then some (.boolean false)
  else
    (((moment? text).map Value.moment).or ((integer? text).map Value.integer)).or
      ((real? text).map Value.real)

/-- Characters of unquoted values. -/
def isScalarChar (character : Char) : Bool :=
  character.isAlphanum || character == '+' || character == '-' || character == '_' ||
    character == '.' || character == ':'

/-- Reads an unquoted value, and the text behind it. -/
def readScalar? (text : List Char) : Option (Value × List Char) :=
  let run := text.takeWhile isScalarChar
  let behind := text.dropWhile isScalarChar
  match date? run, behind with
  | some (_, []), ' ' :: digit :: rest =>
    if digit.isDigit then
      let further := (digit :: rest).takeWhile isScalarChar
      (scalar? (run ++ ' ' :: further)).map fun value =>
        (value, (digit :: rest).dropWhile isScalarChar)
    else
      (scalar? run).map fun value => (value, behind)
  | _, _ => (scalar? run).map fun value => (value, behind)

end StructureLint.Toml
