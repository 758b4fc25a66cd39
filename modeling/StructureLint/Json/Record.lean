import StructureLint.Json.Value

/-!
Contract: reading typed values out of JSON values.

A record is written as an object with named fields, in any order and with
unknown fields left aside, or as the array of its fields in declaration order.
A known field must not be repeated.  A choice among alternatives with fields
is written as a record that names the alternative in a tag field, or as an
array that starts with the tag; nothing in it may be unreadable, while the
unknown fields of a plain record may.  Within such a choice the alternatives
of a further one may also be called by their numbers.

Owns:
- bounded integers, texts, lists, optional values and plain choices;
- records and tagged records.

Does not own: the records of any particular format.
-/

namespace StructureLint.Json

/-! ## Plain values -/

/-- A truth value. -/
def bool? : Json → Option Bool
  | .bool value => some value
  | _ => none

/-- A text. -/
def str? : Json → Option String
  | .str value => some value
  | _ => none

/-- An integer from zero to 2^32 - 1. -/
def word32? : Json → Option UInt32
  | .int value =>
    if 0 ≤ value ∧ value.toNat < UInt32.size then some (UInt32.ofNat value.toNat) else none
  | _ => none

/-- An integer from zero to 2^64 - 1. -/
def word64? : Json → Option UInt64
  | .int value =>
    if 0 ≤ value ∧ value.toNat < UInt64.size then some (UInt64.ofNat value.toNat) else none
  | _ => none

/-- An integer from -2^63 to 2^63 - 1. -/
def int64? : Json → Option Int64
  | .int value =>
    if -9223372036854775808 ≤ value ∧ value ≤ 9223372036854775807 then some (Int64.ofInt value)
    else none
  | _ => none

/-- A list of values. -/
def list? {α : Type} (decode : Json → Option α) : Json → Option (List α)
  | .arr elements => elements.mapM decode
  | _ => none

/-- A value or `null`. -/
def option? {α : Type} (decode : Json → Option α) : Json → Option (Option α)
  | .null => some none
  | value => (decode value).map some

/-- One of the alternatives, by its spelling. -/
def choice? {α : Type} (spelling : α → String) (alternatives : List α) : Json → Option α
  | .str text => alternatives.find? fun alternative => spelling alternative == text
  | .obj [(text, .null)] => alternatives.find? fun alternative => spelling alternative == text
  | _ => none

/-- One of the alternatives within a tagged record, where the spelling may also
stand over an empty object. -/
def innerChoice? {α : Type} (spelling : α → String) (alternatives : List α) : Json → Option α
  | .obj [(text, .obj [])] => choice? spelling alternatives (.str text)
  | value => choice? spelling alternatives value

/-! ## Records -/

/-- The fields of a record that are present. -/
structure Record where
  positional : Bool
  fields : List (String × Json)

/-- No known field is repeated. -/
def knownOnce (names : List String) (fields : List (String × Json)) : Bool :=
  names.all fun name => (fields.filter fun entry => entry.1 == name).length ≤ 1

/-- The fields of a record whose fields have these names, in this order. -/
def record? (names : List String) : Json → Option Record
  | .obj fields => if knownOnce names fields then some { positional := false, fields } else none
  | .arr elements =>
    if elements.length ≤ names.length then
      some { positional := true, fields := names.zip elements }
    else
      none
  | _ => none

namespace Record

/-- A field that must be present. -/
def required? {α : Type} (record : Record) (name : String) (decode : Json → Option α) :
    Option α :=
  (record.fields.lookup name).bind decode

/-- A field that may be missing. -/
def orElse? {α : Type} (record : Record) (name : String) (fallback : α)
    (decode : Json → Option α) : Option α :=
  match record.fields.lookup name with
  | none => some fallback
  | some value => decode value

/-- An optional value whose field may be missing in an object only. -/
def nullable? {α : Type} (record : Record) (name : String) (decode : Json → Option α) :
    Option (Option α) :=
  match record.fields.lookup name with
  | none => if record.positional then none else some none
  | some value => option? decode value

end Record

/-! ## Tagged records -/

/-- Where a tagged record stands. -/
inductive Place where
  | outermost
  | inner
  deriving DecidableEq, Repr

/-- The alternative that a tag calls: by its name, or within another tagged
record by its number too. -/
def alternative? (names : List String) : Place → Json → Option String
  | _, .str name => some name
  | .inner, .int number => if 0 ≤ number then names[number.toNat]? else none
  | _, _ => none

/-- The tag of a tagged record, and the record without it. -/
def splitTag? (tag : String) : Json → Option (Json × Json)
  | .obj fields =>
    match fields.filter fun entry => entry.1 == tag with
    | [(_, value)] => some (value, .obj (fields.filter fun entry => entry.1 != tag))
    | _ => none
  | .arr (value :: rest) => some (value, .arr rest)
  | _ => none

/-- The alternative and the rest of a tagged record all of which can be read. -/
def tagged? (tag : String) (names : List String) (place : Place) (value : Json) :
    Option (String × Json) := do
  if !value.isReadable then none
  let (called, rest) ← splitTag? tag value
  return (← alternative? names place called, rest)

/-- An alternative without fields. -/
def noFields? : Json → Option Unit
  | .obj _ => some ()
  | .arr [] => some ()
  | _ => none

end StructureLint.Json
