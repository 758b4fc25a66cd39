import StructureLint.Number.Binary64

/-!
Contract: TOML values.

Owns:
- the value type, with dates, times and floating-point numbers;
- the key of tables that stand for moments.

Does not own: text.
-/

namespace StructureLint.Toml

/-- A floating-point number. -/
inductive Real where
  | finite (negative : Bool) (magnitude : Binary64)
  | infinite (negative : Bool)
  | notANumber
  deriving DecidableEq, Repr

/-- A calendar date. -/
structure Date where
  year : Nat
  month : Nat
  day : Nat
  deriving DecidableEq, Repr

/-- A time of day. -/
structure Time where
  hour : Nat
  minute : Nat
  second : Nat
  nanosecond : Nat
  deriving DecidableEq, Repr

/-- The distance of local time from universal time, in minutes. -/
inductive Offset where
  | universal
  | minutes (east : Int)
  deriving DecidableEq, Repr

/-- A date, a time of day, or both, with an offset where both are given. -/
structure Moment where
  date : Option Date := none
  time : Option Time := none
  offset : Option Offset := none
  deriving DecidableEq, Repr

/-- A table with nothing but a text under this key stands for a moment. -/
def momentKey : String := "$__toml_private_datetime"

/-- A TOML value; the names of a table are distinct and in the order in which
they were given. -/
inductive Value where
  | string (text : String)
  | integer (value : Int)
  | real (value : Real)
  | boolean (value : Bool)
  | moment (value : Moment)
  | array (elements : List Value)
  | table (entries : List (String × Value))
  deriving Repr, Inhabited

end StructureLint.Toml
