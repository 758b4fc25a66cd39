import StructureLint.SourcePath
import StructureLint.Text.Blank
import StructureLint.Text.Digits

/-!
Contract: raw option values and what they have to look like.

Owns:
- the question for an option of a rule in a file;
- the grammar of counts and of flags;
- the error for a malformed value.

Does not own: where values come from.
-/

namespace StructureLint

/-- The question for the value of an option of a rule in a file. -/
structure SettingRequest where
  file : SourcePath
  rule : String
  key : String
  deriving DecidableEq, Repr

/-- What an option value has to be. -/
inductive SettingShape where
  | count
  | flag
  deriving DecidableEq, Repr

/-- A value that does not have the shape that its option asks for. -/
structure SettingError where
  request : SettingRequest
  shape : SettingShape
  value : String
  deriving DecidableEq, Repr

/-- What the shape asks for, in words. -/
def SettingShape.demand : SettingShape → String
  | .count => "a non-negative integer"
  | .flag => "`true` or `false`"

/-- The text of the error. -/
def SettingError.message (error : SettingError) : String :=
  error.request.file.text ++ ": `" ++ error.request.rule ++ "." ++ error.request.key ++
    "` must be " ++ error.shape.demand ++ ", got `" ++ error.value ++ "`"

namespace Setting

/-- The greatest count is one less than this. -/
def countBound : Nat := 18446744073709551616

/-- The digits behind an optional plus sign. -/
def unsignedDigits : List Char → List Char
  | '+' :: digits => digits
  | digits => digits

/-- A count: blanks around an optional plus sign and decimal digits, within bounds. -/
def count? (raw : String) : Option Nat :=
  let digits := unsignedDigits (Text.trimChars raw.toList)
  if digits != [] && digits.all Char.isDigit && Text.decimalValue digits < countBound then
    some (Text.decimalValue digits)
  else
    none

/-- A flag: `true` or `false` in any case, blanks around it aside. -/
def flag? (raw : String) : Option Bool :=
  let word := Text.lowerAscii (Text.trim raw)
  if word == "true" then some true
  else if word == "false" then some false
  else none

end Setting

end StructureLint
