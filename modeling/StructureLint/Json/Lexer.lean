import StructureLint.Json.Number

/-!
Contract: the tokens of a JSON text.

The lexer is an automaton that reads one character at a time, so it ends on
every text.  Numbers that are too large and strings with half of a surrogate
pair follow the grammar and have no value; they have tokens of their own.

Owns:
- token classes;
- string escapes, surrogate pairs included.

Does not own: the grammar of numbers, and how tokens combine.
-/

namespace StructureLint.Json

/-- A lexical unit. -/
inductive Token where
  | beginArray
  | endArray
  | beginObject
  | endObject
  | comma
  | colon
  | null
  | bool (value : Bool)
  | int (value : Int)
  | real (literal : String)
  | str (value : String)
  | hugeNumber
  | brokenString
  deriving Repr

/-! ## Unquoted words -/

/-- The token of a number.  A negative zero is no integer. -/
def numberToken? (text : List Char) : Option Token := do
  let number ← numberText? text
  if !number.isFinite then
    return .hugeNumber
  else if number.fraction == [] && number.exponent == [] && text != ['-', '0'] then
    let magnitude : Int := Text.decimalValue number.whole
    return .int (if number.negative then -magnitude else magnitude)
  else
    return .real (String.ofList text)

/-- The token of an unquoted word. -/
def wordToken? (text : List Char) : Option Token :=
  if text == "null".toList then some .null
  else if text == "true".toList then some (.bool true)
  else if text == "false".toList then some (.bool false)
  else numberToken? text

/-! ## Strings -/

/-- The part of a string that has been read: its characters in reverse, a first
half of a surrogate pair that waits for the second one, and whether every pair
so far was whole. -/
structure StringText where
  read : List Char := []
  high : Option Nat := none
  isWhole : Bool := true
  deriving Repr

namespace StringText

/-- The code is the first half of a surrogate pair. -/
def isHighSurrogate (code : Nat) : Bool :=
  0xD800 ≤ code && code ≤ 0xDBFF

/-- The code is the second half of a surrogate pair. -/
def isLowSurrogate (code : Nat) : Bool :=
  0xDC00 ≤ code && code ≤ 0xDFFF

/-- The character of a surrogate pair. -/
def pairChar (high low : Nat) : Char :=
  Char.ofNat (0x10000 + (high - 0xD800) * 0x400 + (low - 0xDC00))

/-- Every pair is whole, and none waits for its second half. -/
def isComplete (text : StringText) : Bool :=
  text.isWhole && text.high.isNone

/-- The text with a further character. -/
def push (text : StringText) (character : Char) : StringText :=
  { read := character :: text.read, isWhole := text.isComplete }

/-- The text with a further character that is given by a code of four digits. -/
def pushCode (text : StringText) (code : Nat) : StringText :=
  match text.high with
  | some high =>
    if isLowSurrogate code then
      { read := pairChar high code :: text.read, isWhole := text.isWhole }
    else
      { read := text.read, isWhole := false }
  | none =>
    if isHighSurrogate code then { text with high := some code }
    else if isLowSurrogate code then { text with isWhole := false }
    else text.push (Char.ofNat code)

/-- The token of a string that has ended. -/
def token (text : StringText) : Token :=
  if text.isComplete then .str (String.ofList text.read.reverse) else .brokenString

end StringText

/-! ## The automaton -/

/-- What the lexer is in the middle of.  The characters of a word are in reverse. -/
inductive LexerMode where
  | between
  | word (read : List Char)
  | quoted (text : StringText)
  | escape (text : StringText)
  | unicode (text : StringText) (digits : Nat) (code : Nat)
  deriving Repr

/-- The lexer: its mode and the tokens completed so far, in reverse. -/
structure Lexer where
  mode : LexerMode := .between
  tokens : List Token := []

namespace Lexer

/-- Blanks between tokens. -/
def isSpace (character : Char) : Bool :=
  character == ' ' || character == '\t' || character == '\n' || character == '\r'

/-- The token of a structural character. -/
def structural? (character : Char) : Option Token :=
  if character == '[' then some .beginArray
  else if character == ']' then some .endArray
  else if character == '\x7b' then some .beginObject
  else if character == '\x7d' then some .endObject
  else if character == ',' then some .comma
  else if character == ':' then some .colon
  else none

/-- The character of a one-letter escape. -/
def shortEscape? (character : Char) : Option Char :=
  if character == '\x22' || character == '\\' || character == '/' then some character
  else if character == 'b' then some (Char.ofNat 0x08)
  else if character == 'f' then some (Char.ofNat 0x0C)
  else if character == 'n' then some '\n'
  else if character == 'r' then some '\r'
  else if character == 't' then some '\t'
  else none

/-- Reads a character between tokens. -/
def stepBetween (tokens : List Token) (character : Char) : Lexer :=
  if isSpace character then { mode := .between, tokens }
  else if character == '\x22' then { mode := .quoted {}, tokens }
  else match structural? character with
    | some token => { mode := .between, tokens := token :: tokens }
    | none => { mode := .word [character], tokens }

/-- Reads one character. -/
def step (lexer : Lexer) (character : Char) : Option Lexer :=
  match lexer.mode with
  | .between => some (stepBetween lexer.tokens character)
  | .word read =>
    if isSpace character || character == '\x22' || (structural? character).isSome then
      (wordToken? read.reverse).map fun token => stepBetween (token :: lexer.tokens) character
    else
      some { lexer with mode := .word (character :: read) }
  | .quoted text =>
    if character == '\x22' then some { mode := .between, tokens := text.token :: lexer.tokens }
    else if character == '\\' then some { lexer with mode := .escape text }
    else if character.toNat < 0x20 then none
    else some { lexer with mode := .quoted (text.push character) }
  | .escape text =>
    if character == 'u' then some { lexer with mode := .unicode text 0 0 }
    else (shortEscape? character).map fun escaped =>
      { lexer with mode := .quoted (text.push escaped) }
  | .unicode text digits code => do
    let digit ← Text.hexDigit? character
    let extended := 16 * code + digit
    if digits == 3 then
      return { lexer with mode := .quoted (text.pushCode extended) }
    else
      return { lexer with mode := .unicode text (digits + 1) extended }

/-- The tokens in the order of the text, if the text ends between tokens. -/
def finish? (lexer : Lexer) : Option (List Token) :=
  match lexer.mode with
  | .between => some lexer.tokens.reverse
  | .word read => (wordToken? read.reverse).map fun token => (token :: lexer.tokens).reverse
  | _ => none

end Lexer

/-- The tokens of a text; `none` if some part of it is no token. -/
def tokens? (text : String) : Option (List Token) := do
  let lexer ← text.toList.foldlM Lexer.step {}
  lexer.finish?

end StructureLint.Json
