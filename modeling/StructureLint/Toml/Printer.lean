import StructureLint.Toml.Value

/-!
Contract: the written form of TOML values on one line.

A string takes the first notation that needs no escapes: basic, literal, basic
over several lines, literal over several lines; failing all, a basic one with
escapes.  The names of a table are in order.

Owns:
- strings, keys, numbers, moments, arrays and inline tables.

Does not own: documents.
-/

namespace StructureLint.Toml

/-! ## Strings and keys -/

/-- The longest run of a character. -/
def longestRun (character : Char) (text : List Char) : Nat :=
  (text.foldl
    (fun (state : Nat × Nat) current =>
      if current == character then (state.1 + 1, max state.2 (state.1 + 1)) else (0, state.2))
    (0, 0)).2

/-- The text has a control character that no string holds unescaped. -/
def needsEscapeCode (text : List Char) : Bool :=
  text.any fun character =>
    character != '\t' && character != '\n' &&
      (character.toNat < 0x20 || character.toNat == 0x7F)

/-- Four upper-case hexadecimal digits. -/
def upperHex (code : Nat) : List Char :=
  let digits := (Nat.toDigits 16 code).map Char.toUpper
  List.replicate (4 - digits.length) '0' ++ digits

/-- A character of a basic string; quotes and line breaks are up to the caller. -/
def escapeChar (character : Char) : List Char :=
  if character == '\t' then ['\\', 't']
  else if character == '\n' then ['\\', 'n']
  else if character == '\r' then ['\\', 'r']
  else if character == '\\' then ['\\', '\\']
  else if character == '\x22' then ['\\', '\x22']
  else if character.toNat == 0x08 then ['\\', 'b']
  else if character.toNat == 0x0C then ['\\', 'f']
  else if character.toNat < 0x20 || character.toNat == 0x7F then
    '\\' :: 'u' :: upperHex character.toNat
  else [character]

/-- The characters of a basic string over several lines; the third of three
quotes in a row is escaped. -/
def escapeLines : (quotes : Nat) → List Char → List Char
  | _, [] => []
  | quotes, character :: rest =>
    if character == '\x22' then
      if quotes < 2 then '\x22' :: escapeLines (quotes + 1) rest
      else '\\' :: '\x22' :: escapeLines 0 rest
    else if character == '\n' then '\n' :: escapeLines 0 rest
    else escapeChar character ++ escapeLines 0 rest

/-- The line break behind the opening quotes of a string with line breaks. -/
def openingBreak (text : List Char) : List Char :=
  if text.contains '\n' then ['\n'] else []

/-- A string in quotes. -/
def renderString (string : String) : String :=
  let text := string.toList
  let coded := needsEscapeCode text
  let slashed := text.contains '\\'
  let broken := text.contains '\n'
  let doubles := longestRun '\x22' text
  let singles := longestRun '\x27' text
  let threeDoubles := ['\x22', '\x22', '\x22']
  let threeSingles := ['\x27', '\x27', '\x27']
  if !coded && !slashed && doubles == 0 && !broken then
    String.ofList ('\x22' :: text.flatMap escapeChar ++ ['\x22'])
  else if !coded && singles == 0 && !broken then
    String.ofList ('\x27' :: text ++ ['\x27'])
  else if !coded && !slashed && doubles ≤ 2 then
    String.ofList (threeDoubles ++ openingBreak text ++ escapeLines 0 text ++ threeDoubles)
  else if !coded && singles ≤ 2 then
    String.ofList (threeSingles ++ openingBreak text ++ text ++ threeSingles)
  else if broken then
    String.ofList (threeDoubles ++ openingBreak text ++ escapeLines 0 text ++ threeDoubles)
  else
    String.ofList ('\x22' :: text.flatMap escapeChar ++ ['\x22'])

/-- A key: without quotes if it can, else as a string on one line. -/
def renderKey (key : String) : String :=
  let text := key.toList
  let bare := fun (character : Char) =>
    character.isAlphanum || character == '-' || character == '_'
  let coded := needsEscapeCode text || text.contains '\n'
  if !text.isEmpty && text.all bare then key
  else if !coded && !text.contains '\\' && !text.contains '\x22' then
    String.ofList ('\x22' :: text.flatMap escapeChar ++ ['\x22'])
  else if !coded && !text.contains '\x27' then
    String.ofList ('\x27' :: text ++ ['\x27'])
  else
    String.ofList ('\x22' :: text.flatMap escapeChar ++ ['\x22'])

/-! ## Numbers and moments -/

/-- A floating-point number in positional notation with a decimal point. -/
def renderReal : Real → String
  | .notANumber => "nan"
  | .infinite negative => if negative then "-inf" else "inf"
  | .finite negative magnitude =>
    let (digits, power) := magnitude.shortest
    (if negative then "-" else "") ++ Binary64.positional digits power ++
      (if 0 ≤ power then ".0" else "")

/-- A number with leading zeros up to a width. -/
def padded (width value : Nat) : String :=
  let digits := Nat.toDigits 10 value
  String.ofList (List.replicate (width - digits.length) '0' ++ digits)

/-- A date. -/
def renderDate (date : Date) : String :=
  padded 4 date.year ++ "-" ++ padded 2 date.month ++ "-" ++ padded 2 date.day

/-- A time of day; trailing zeros of the fraction are left out. -/
def renderTime (time : Time) : String :=
  let fraction :=
    if time.nanosecond = 0 then ""
    else
      "." ++ String.ofList
        (((padded 9 time.nanosecond).toList.reverse.dropWhile (· == '0')).reverse)
  padded 2 time.hour ++ ":" ++ padded 2 time.minute ++ ":" ++ padded 2 time.second ++ fraction

/-- An offset. -/
def renderOffset : Offset → String
  | .universal => "Z"
  | .minutes east =>
    (if east < 0 then "-" else "+") ++ padded 2 (east.natAbs / 60) ++ ":" ++
      padded 2 (east.natAbs % 60)

/-- A date, a time, or both. -/
def renderMoment (moment : Moment) : String :=
  let divider := if moment.date.isSome && moment.time.isSome then "T" else ""
  moment.date.elim "" renderDate ++ divider ++ moment.time.elim "" renderTime ++
    moment.offset.elim "" renderOffset

/-! ## Values -/

/-- Written entries in the order of their names. -/
def inNameOrder (entries : List (String × String)) : List (String × String) :=
  entries.mergeSort fun left right => (compare left.1 right.1).isLE

mutual

/-- A value on one line. -/
def Value.render : Value → String
  | .string text => renderString text
  | .integer value => toString value
  | .real value => renderReal value
  | .boolean value => if value then "true" else "false"
  | .moment value => renderMoment value
  | .array elements => "[" ++ String.intercalate ", " (renderElements elements) ++ "]"
  | .table entries =>
    match inNameOrder (renderEntries entries) with
    | [] => "\x7b\x7d"
    | ordered =>
      "\x7b " ++
        String.intercalate ", " (ordered.map fun entry =>
          renderKey entry.1 ++ " = " ++ entry.2) ++
        " \x7d"

/-- Each element on one line. -/
def renderElements : List Value → List String
  | [] => []
  | element :: rest => element.render :: renderElements rest

/-- The names of entries with their values on one line. -/
def renderEntries : List (String × Value) → List (String × String)
  | [] => []
  | (key, value) :: rest => (key, value.render) :: renderEntries rest

end

/-- A value that stands alone: a moment is written as the table for it. -/
def Value.renderAlone : Value → String
  | .moment value => (Value.table [(momentKey, .string (renderMoment value))]).render
  | other => other.render

end StructureLint.Toml
