import StructureLint.Text.Digits

/-!
Contract: quoted TOML strings.

Basic strings have escapes and literal strings have none; both exist on one
line and over several lines.  A line break in a string is written as it is or
with a carriage return, and read without one.  A line break right behind the
opening quotes is not part of the string.

Owns:
- the four kinds of strings.
-/

namespace StructureLint.Toml

/-- Control characters other than the tab stand in no string and no comment. -/
def isPrintable (character : Char) : Bool :=
  character == '\t' || (0x20 ≤ character.toNat && character.toNat != 0x7F)

/-- The character of a Unicode escape. -/
def scalarChar? (digits : List Char) : Option Char := do
  let values ← digits.mapM Text.hexDigit?
  let code := values.foldl (fun code digit => 16 * code + digit) 0
  if code < 0xD800 || (0xDFFF < code && code < 0x110000) then some (Char.ofNat code) else none

/-- The character of a one-letter escape. -/
def shortEscape? (letter : Char) : Option Char :=
  if letter == '\x22' || letter == '\\' then some letter
  else if letter == 'b' then some (Char.ofNat 0x08)
  else if letter == 'f' then some (Char.ofNat 0x0C)
  else if letter == 'n' then some '\n'
  else if letter == 'r' then some '\r'
  else if letter == 't' then some '\t'
  else none

/-- Puts a character in front of a string that has been read. -/
def prepend (character : Char) (read : Option (List Char × List Char)) :
    Option (List Char × List Char) :=
  read.map fun (content, behind) => (character :: content, behind)

/-- The rest of a basic string on one line, and the text behind its quote. -/
def basicRest? : List Char → Option (List Char × List Char)
  | [] => none
  | '\x22' :: rest => some ([], rest)
  | '\\' :: 'u' :: a :: b :: c :: d :: rest =>
    (scalarChar? [a, b, c, d]).bind fun character => prepend character (basicRest? rest)
  | '\\' :: 'U' :: a :: b :: c :: d :: e :: f :: g :: h :: rest =>
    (scalarChar? [a, b, c, d, e, f, g, h]).bind fun character =>
      prepend character (basicRest? rest)
  | '\\' :: letter :: rest =>
    (shortEscape? letter).bind fun character => prepend character (basicRest? rest)
  | character :: rest =>
    if isPrintable character && character != '\\' then prepend character (basicRest? rest)
    else none

/-- The rest of a literal string on one line, and the text behind its quote. -/
def literalRest? : List Char → Option (List Char × List Char)
  | [] => none
  | '\x27' :: rest => some ([], rest)
  | character :: rest =>
    if isPrintable character then prepend character (literalRest? rest) else none

/-- A backslash at the end of a line, blanks aside. -/
def endsLine (text : List Char) : Bool :=
  match text.dropWhile fun character => character == ' ' || character == '\t' with
  | '\n' :: _ => true
  | '\r' :: '\n' :: _ => true
  | _ => false

/-- The rest of a basic string over several lines, and the text behind its
quotes.  After a backslash at the end of a line, blanks and line breaks are
skipped.  Up to two quotes before the closing ones belong to the string. -/
def basicLines? (skipping : Bool) : List Char → Option (List Char × List Char)
  | [] => none
  | '\x22' :: '\x22' :: '\x22' :: '\x22' :: '\x22' :: rest => some (['\x22', '\x22'], rest)
  | '\x22' :: '\x22' :: '\x22' :: '\x22' :: rest => some (['\x22'], rest)
  | '\x22' :: '\x22' :: '\x22' :: rest => some ([], rest)
  | '\r' :: '\n' :: rest =>
    if skipping then basicLines? true rest else prepend '\n' (basicLines? false rest)
  | '\n' :: rest =>
    if skipping then basicLines? true rest else prepend '\n' (basicLines? false rest)
  | '\\' :: 'u' :: a :: b :: c :: d :: rest =>
    (scalarChar? [a, b, c, d]).bind fun character => prepend character (basicLines? false rest)
  | '\\' :: 'U' :: a :: b :: c :: d :: e :: f :: g :: h :: rest =>
    (scalarChar? [a, b, c, d, e, f, g, h]).bind fun character =>
      prepend character (basicLines? false rest)
  | '\\' :: letter :: rest =>
    if endsLine (letter :: rest) then basicLines? true (letter :: rest)
    else (shortEscape? letter).bind fun character => prepend character (basicLines? false rest)
  | character :: rest =>
    if skipping && (character == ' ' || character == '\t') then basicLines? true rest
    else if isPrintable character && character != '\\' then
      prepend character (basicLines? false rest)
    else none

/-- The rest of a literal string over several lines, and the text behind its quotes. -/
def literalLines? : List Char → Option (List Char × List Char)
  | [] => none
  | '\x27' :: '\x27' :: '\x27' :: '\x27' :: '\x27' :: rest => some (['\x27', '\x27'], rest)
  | '\x27' :: '\x27' :: '\x27' :: '\x27' :: rest => some (['\x27'], rest)
  | '\x27' :: '\x27' :: '\x27' :: rest => some ([], rest)
  | '\r' :: '\n' :: rest => prepend '\n' (literalLines? rest)
  | character :: rest =>
    if isPrintable character || character == '\n' then prepend character (literalLines? rest)
    else none

/-- The text without a line break at its start. -/
def dropLineBreak : List Char → List Char
  | '\n' :: rest => rest
  | '\r' :: '\n' :: rest => rest
  | text => text

/-- A string on one line, and the text behind it. -/
def readLineString? : List Char → Option (List Char × List Char)
  | '\x22' :: rest => basicRest? rest
  | '\x27' :: rest => literalRest? rest
  | _ => none

/-- A string of any kind, and the text behind it. -/
def readString? : List Char → Option (List Char × List Char)
  | '\x22' :: '\x22' :: '\x22' :: rest => basicLines? false (dropLineBreak rest)
  | '\x27' :: '\x27' :: '\x27' :: rest => literalLines? (dropLineBreak rest)
  | text => readLineString? text

end StructureLint.Toml
