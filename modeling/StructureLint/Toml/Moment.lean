import StructureLint.Toml.Scalar

/-!
Contract: tables that stand for moments.

A table whose first entry is under the key for moments stands for the moment
that is the text of that entry.  Such a table has no further entry, and its
text must be a moment; a table with another entry in front is an ordinary one.
The text is read more freely than a moment of a document: an hour of 24 and
offsets of up to a whole day are moments too.

Owns:
- texts of moments;
- values with such tables read as the moments they stand for.
-/

namespace StructureLint.Toml

/-- The distance of an offset in minutes: two digits each for hours and
minutes, a day at most. -/
def freeOffsetMinutes? (text : List Char) : Option Int := do
  let (hour, text) ← field? 2 0 99 text
  let (minute, text) ← field? 2 0 99 (← expect? ':' text)
  let minutes := 60 * hour + minute
  if text == [] && minutes ≤ 1440 then return (minutes : Nat) else none

/-- What stands behind a date and a time: an offset or nothing. -/
def freeOffset? : List Char → Option (Option Offset)
  | [] => some none
  | ['Z'] => some (some .universal)
  | ['z'] => some (some .universal)
  | '+' :: rest => (freeOffsetMinutes? rest).map fun minutes => some (.minutes minutes)
  | '-' :: rest => (freeOffsetMinutes? rest).map fun minutes => some (.minutes (-minutes))
  | _ => none

/-- A moment in the text of a table: a date, a time of day, or both. -/
def Moment.ofText? (text : String) : Option Moment :=
  match date? text.toList with
  | some (date, []) => some { date }
  | some (date, divider :: rest) =>
    if divider == 'T' || divider == 't' || divider == ' ' then do
      let (time, rest) ← timeUpTo? 24 rest
      return { date, time, offset := ← freeOffset? rest }
    else
      none
  | none =>
    match timeUpTo? 24 text.toList with
    | some (time, []) => some { time }
    | _ => none

mutual

/-- The value with tables that stand for moments read as such. -/
def Value.readMoments? : Value → Option Value
  | .array elements => (readMomentsIn? elements).map .array
  | .table entries =>
    match entries with
    | [] => some (.table [])
    | (key, value) :: rest =>
      if key == momentKey then
        match value, rest with
        | .string text, [] => (Moment.ofText? text).map .moment
        | _, _ => none
      else do
        let value ← value.readMoments?
        let others ← readMomentsUnder? rest
        return .table ((key, value) :: others)
  | other => some other

/-- The elements of an array, each read. -/
def readMomentsIn? : List Value → Option (List Value)
  | [] => some []
  | element :: rest => do return (← element.readMoments?) :: (← readMomentsIn? rest)

/-- The entries of a table, each read. -/
def readMomentsUnder? : List (String × Value) → Option (List (String × Value))
  | [] => some []
  | (key, value) :: rest => do
    return (key, ← value.readMoments?) :: (← readMomentsUnder? rest)

end

end StructureLint.Toml
