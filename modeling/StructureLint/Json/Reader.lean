import StructureLint.Json.Lexer

/-!
Contract: reading of JSON text.

Tokens drive a pushdown automaton whose stack holds the containers that are
still open.  The height of that stack is the nesting depth of the text.  A
container beyond the limit of the caller is unreadable, and so is an object
with the name of a field broken.

Owns:
- the JSON grammar above tokens;
- the nesting limit.

Does not own: repeated field names, which stay in the value.
-/

namespace StructureLint.Json

/-- A container that is still open, with its completed items in reverse; a
field whose name is broken has none. -/
inductive Frame where
  | array (items : List Json)
  | object (fields : List (Option String × Json)) (name : Option String)

/-- What may come next. -/
inductive Expectation where
  | value
  | valueOrEnd
  | name
  | nameOrEnd
  | colon
  | separator
  | nothing (result : Json)

/-- The state of the automaton, innermost container first. -/
structure ReaderState where
  stack : List Frame := []
  expectation : Expectation := .value

namespace ReaderState

/-- Hands a completed value to the innermost open container. -/
def complete (stack : List Frame) (value : Json) : ReaderState :=
  match stack with
  | [] => { stack := [], expectation := .nothing value }
  | .array items :: rest =>
    { stack := .array (value :: items) :: rest, expectation := .separator }
  | .object fields name :: rest =>
    { stack := .object ((name, value) :: fields) name :: rest, expectation := .separator }

/-- Reads a token where a value may start. -/
def startValue (stack : List Frame) (token : Token) : Option ReaderState :=
  match token with
  | .null => some (complete stack .null)
  | .bool value => some (complete stack (.bool value))
  | .int value => some (complete stack (.int value))
  | .real literal => some (complete stack (.real literal))
  | .str value => some (complete stack (.str value))
  | .hugeNumber => some (complete stack .unreadable)
  | .brokenString => some (complete stack .unreadable)
  | .beginArray => some { stack := .array [] :: stack, expectation := .valueOrEnd }
  | .beginObject => some { stack := .object [] none :: stack, expectation := .nameOrEnd }
  | _ => none

/-- The object with these fields, unless some name is broken. -/
def objectOf (fields : List (Option String × Json)) : Json :=
  match fields.mapM fun field => field.1.map fun name => (name, field.2) with
  | some named => .obj named
  | none => .unreadable

/-- Closes a container around which those of the stack are open. -/
def closeWithin (limit : Nat) (stack : List Frame) (value : Json) : ReaderState :=
  complete stack (if stack.length < limit then value else .unreadable)

/-- Closes the innermost container with its closing token. -/
def close (limit : Nat) (stack : List Frame) (token : Token) : Option ReaderState :=
  match stack, token with
  | .array items :: rest, .endArray => some (closeWithin limit rest (.arr items.reverse))
  | .object fields _ :: rest, .endObject =>
    some (closeWithin limit rest (objectOf fields.reverse))
  | _, _ => none

/-- Reads a field name. -/
def startField (stack : List Frame) (token : Token) : Option ReaderState :=
  match stack, token with
  | .object fields _ :: rest, .str name =>
    some { stack := .object fields (some name) :: rest, expectation := .colon }
  | .object fields _ :: rest, .brokenString =>
    some { stack := .object fields none :: rest, expectation := .colon }
  | _, _ => none

/-- Reads one token. -/
def step (limit : Nat) (state : ReaderState) (token : Token) : Option ReaderState :=
  match state.expectation with
  | .value => startValue state.stack token
  | .valueOrEnd => (close limit state.stack token).or (startValue state.stack token)
  | .name => startField state.stack token
  | .nameOrEnd => (close limit state.stack token).or (startField state.stack token)
  | .colon =>
    match token with
    | .colon => some { state with expectation := .value }
    | _ => none
  | .separator =>
    match state.stack, token with
    | .array _ :: _, .comma => some { state with expectation := .value }
    | .object _ _ :: _, .comma => some { state with expectation := .name }
    | _, _ => close limit state.stack token
  | .nothing _ => none

/-- The value that has been read, if it is complete. -/
def result? (state : ReaderState) : Option Json :=
  match state.expectation with
  | .nothing value => some value
  | _ => none

end ReaderState

/-- The value of a text; what nests more than `limit` levels deep is unreadable. -/
def parseWithin? (limit : Nat) (text : String) : Option Json := do
  let state ← (← tokens? text).foldlM (ReaderState.step limit) {}
  state.result?

/-- The value of a text of any depth. -/
def parse? (text : String) : Option Json :=
  parseWithin? text.length text

/-- Models nest at most this deep. -/
def modelDepthLimit : Nat := 127

end StructureLint.Json
