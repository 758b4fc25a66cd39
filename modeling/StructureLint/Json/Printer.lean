import StructureLint.Json.Value

/-!
Contract: the two written forms of a JSON value.

What cannot be read is written as `null`.

Owns:
- string quoting: the short escapes, `\u00xx` for other control characters,
  and every other character as it is;
- the compact form on one line;
- the indented form with two spaces a level.

Does not own: reading.
-/

namespace StructureLint.Json

/-- Four lower-case hexadecimal digits. -/
def hexDigits (code : Nat) : List Char :=
  let digits := Nat.toDigits 16 code
  List.replicate (4 - digits.length) '0' ++ digits

/-- A character inside quotes. -/
def quoteChar (character : Char) : List Char :=
  if character == '\x22' then ['\\', '\x22']
  else if character == '\\' then ['\\', '\\']
  else if character == '\n' then ['\\', 'n']
  else if character == '\r' then ['\\', 'r']
  else if character == '\t' then ['\\', 't']
  else if character.toNat == 0x08 then ['\\', 'b']
  else if character.toNat == 0x0C then ['\\', 'f']
  else if character.toNat < 0x20 then '\\' :: 'u' :: hexDigits character.toNat
  else [character]

/-- A text in quotes. -/
def quote (text : String) : String :=
  "\"" ++ String.ofList (text.toList.flatMap quoteChar) ++ "\""

mutual

/-- The compact form. -/
def render : Json → String
  | .null | .unreadable => "null"
  | .bool true => "true"
  | .bool false => "false"
  | .int value => toString value
  | .real literal => literal
  | .str value => quote value
  | .arr elements => "[" ++ String.intercalate "," (renderElements elements) ++ "]"
  | .obj fields => "\x7b" ++ String.intercalate "," (renderFields fields) ++ "\x7d"

/-- The compact form of each element. -/
def renderElements : List Json → List String
  | [] => []
  | element :: rest => element.render :: renderElements rest

/-- The compact form of each field. -/
def renderFields : List (String × Json) → List String
  | [] => []
  | (name, value) :: rest => (quote name ++ ":" ++ value.render) :: renderFields rest

end

/-- A line break followed by the indentation of a level. -/
def lineBreak (level : Nat) : String :=
  String.ofList ('\n' :: List.replicate (2 * level) ' ')

/-- The items of a container, each on a line of its own. -/
def enclose (level : Nat) (opening closing : String) (items : List String) : String :=
  match items with
  | [] => opening ++ closing
  | _ =>
    opening ++ lineBreak (level + 1) ++
      String.intercalate ("," ++ lineBreak (level + 1)) items ++
      lineBreak level ++ closing

mutual

/-- The indented form of a value that stands at `level`. -/
def renderAt (level : Nat) : Json → String
  | .arr elements => enclose level "[" "]" (renderElementsAt (level + 1) elements)
  | .obj fields => enclose level "\x7b" "\x7d" (renderFieldsAt (level + 1) fields)
  | .null | .unreadable => "null"
  | .bool true => "true"
  | .bool false => "false"
  | .int value => toString value
  | .real literal => literal
  | .str value => quote value

/-- The indented form of each element. -/
def renderElementsAt (level : Nat) : List Json → List String
  | [] => []
  | element :: rest => element.renderAt level :: renderElementsAt level rest

/-- The indented form of each field. -/
def renderFieldsAt (level : Nat) : List (String × Json) → List String
  | [] => []
  | (name, value) :: rest =>
    (quote name ++ ": " ++ value.renderAt level) :: renderFieldsAt level rest

end

/-- The indented form. -/
def renderIndented (value : Json) : String :=
  value.renderAt 0

end StructureLint.Json
