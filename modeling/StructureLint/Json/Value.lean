/-!
Contract: JSON values.

An object keeps its fields in the order of the text, a repeated name included,
because a reader of records has to refuse some repetitions.  Integers are
apart from other numbers: only the former are read as numbers anywhere.

A text may hold parts that follow the grammar and have no value: a number
beyond the binary64 range, half of a surrogate pair, nesting beyond a limit.
Such a part is unreadable, which matters only to those who look at it.

Owns:
- the value type, its nesting height, and whether all of it can be read;
- the shorthand constructors used by the encoders.

Does not own: text.
-/

namespace StructureLint

/-- A JSON value. -/
inductive Json where
  | null
  | bool (value : Bool)
  | int (value : Int)
  | real (literal : String)
  | str (value : String)
  | arr (elements : List Json)
  | obj (fields : List (String × Json))
  | unreadable
  deriving Inhabited, Repr

namespace Json

/-- A natural number. -/
def nat (value : Nat) : Json :=
  .int value

/-- A value, or `null` for a missing one. -/
def option {α : Type} (encode : α → Json) : Option α → Json
  | some value => encode value
  | none => .null

/-- A list of values. -/
def list {α : Type} (encode : α → Json) (values : List α) : Json :=
  .arr (values.map encode)

mutual

/-- How deep arrays and objects nest; a plain value has height zero. -/
def height : Json → Nat
  | .arr elements => heightElements elements + 1
  | .obj fields => heightFields fields + 1
  | _ => 0

/-- The greatest height among elements. -/
def heightElements : List Json → Nat
  | [] => 0
  | element :: rest => max element.height (heightElements rest)

/-- The greatest height among field values. -/
def heightFields : List (String × Json) → Nat
  | [] => 0
  | (_, value) :: rest => max value.height (heightFields rest)

end

mutual

/-- No part of the value is unreadable. -/
def isReadable : Json → Bool
  | .unreadable => false
  | .arr elements => areReadable elements
  | .obj fields => haveReadable fields
  | _ => true

/-- No part of the elements is unreadable. -/
def areReadable : List Json → Bool
  | [] => true
  | element :: rest => element.isReadable && areReadable rest

/-- No part of the field values is unreadable. -/
def haveReadable : List (String × Json) → Bool
  | [] => true
  | (_, value) :: rest => value.isReadable && haveReadable rest

end

/-- The value of the last field of that name; `none` for anything but an object. -/
def field? (value : Json) (name : String) : Option Json :=
  match value with
  | .obj fields => (fields.reverse.find? fun entry => entry.1 == name).map Prod.snd
  | _ => none

/-- The object with the fields of the second one in place of its own. -/
def override : Json → Json → Json
  | .obj fields, .obj changes =>
    .obj (fields.filter (fun entry => changes.all fun change => change.1 != entry.1) ++ changes)
  | value, _ => value

end Json

end StructureLint
