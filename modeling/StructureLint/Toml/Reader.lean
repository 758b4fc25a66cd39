import StructureLint.Toml.Quoted
import StructureLint.Toml.Scalar
import StructureLint.Toml.Table

/-!
Contract: reading of TOML text.

Owns:
- keys, values with their nesting limit, headers and lines;
- documents.

Does not own: what a document means.
-/

namespace StructureLint.Toml

/-! ## Blanks, comments and line ends -/

/-- Blanks within a line. -/
def isBlankChar (character : Char) : Bool :=
  character == ' ' || character == '\t'

/-- The text behind blanks. -/
def skipBlanks (text : List Char) : List Char :=
  text.dropWhile isBlankChar

/-- The text behind a line break. -/
def lineBreak? : List Char → Option (List Char)
  | '\n' :: rest => some rest
  | '\r' :: '\n' :: rest => some rest
  | _ => none

/-- The text behind a comment, if one stands here. -/
def skipComment : List Char → List Char
  | '#' :: rest => rest.dropWhile isPrintable
  | text => text

/-- The text behind the end of a line: blanks, a comment, and a line break or the end. -/
def lineEnd? (text : List Char) : Option (List Char) :=
  match skipComment (skipBlanks text) with
  | [] => some []
  | rest => lineBreak? rest

/-- The text behind blanks, comments and line breaks; `lines` bounds their number. -/
def skipLines : (lines : Nat) → List Char → Option (List Char)
  | 0, text => some text
  | lines + 1, text =>
    let rest := skipBlanks text
    match rest with
    | '#' :: _ => (lineBreak? (skipComment rest)).bind (skipLines lines)
    | _ =>
      match lineBreak? rest with
      | some behind => skipLines lines behind
      | none => some rest

/-! ## Keys -/

/-- Characters of keys without quotes. -/
def isKeyChar (character : Char) : Bool :=
  character.isAlphanum || character == '-' || character == '_'

/-- One part of a key, and the text behind it. -/
def keyPart? (text : List Char) : Option (String × List Char) :=
  match text with
  | '\x22' :: _ => (readLineString? text).map fun (part, rest) => (String.ofList part, rest)
  | '\x27' :: _ => (readLineString? text).map fun (part, rest) => (String.ofList part, rest)
  | _ =>
    let part := text.takeWhile isKeyChar
    if part.isEmpty then none else some (String.ofList part, text.dropWhile isKeyChar)

/-- A key of one or more parts, and the text behind it; `parts` bounds their number. -/
def key? : (parts : Nat) → List Char → Option (List String × List Char)
  | 0, _ => none
  | parts + 1, text => do
    let (part, rest) ← keyPart? (skipBlanks text)
    match skipBlanks rest with
    | '.' :: behind =>
      let (others, behind) ← key? parts behind
      return (part :: others, behind)
    | behind => return ([part], behind)

/-- Keys have fewer parts, and values nest less deep, than this. -/
def nestingLimit : Nat := 80

/-- A key with at most the allowed number of parts. -/
def readKey? (text : List Char) : Option (List String × List Char) :=
  (key? text.length text).bind fun (parts, rest) =>
    if parts.length < nestingLimit then some (parts, rest) else none

/-! ## Values -/

/-- The elements of an array behind its bracket; `steps` bounds their number. -/
def elementsWith? (value? : List Char → Option (Value × List Char)) :
    (steps : Nat) → List Char → Option (List Value × List Char)
  | 0, _ => none
  | steps + 1, text => do
    let text ← skipLines text.length text
    match text with
    | ']' :: rest => return ([], rest)
    | _ =>
      let (element, rest) ← value? text
      let rest ← skipLines rest.length rest
      match rest with
      | ']' :: rest => return ([element], rest)
      | ',' :: rest =>
        let (others, rest) ← elementsWith? value? steps rest
        return (element :: others, rest)
      | _ => none

/-- Sets a key of an inline table. -/
def setInline (entries : Entries) (parts : List String) (value : Value) : Option Entries :=
  match parts.reverse with
  | [] => none
  | key :: path => Entries.setDotted path.reverse key value false entries

/-- The entries of an inline table from its first key on; `steps` bounds their number. -/
def entriesWith? (value? : List Char → Option (Value × List Char)) :
    (steps : Nat) → Entries → List Char → Option (Entries × List Char)
  | 0, _, _ => none
  | steps + 1, entries, text => do
    let (parts, rest) ← readKey? text
    let (value, rest) ← value? (skipBlanks (← expect? '=' rest))
    let entries ← setInline entries parts value
    match skipBlanks rest with
    | '\x7d' :: rest => return (entries, rest)
    | ',' :: rest => entriesWith? value? steps entries rest
    | _ => none

/-- A value that nests at most `depth` levels, and the text behind it. -/
def value? : (depth : Nat) → List Char → Option (Value × List Char)
  | _, '\x22' :: rest =>
    (readString? ('\x22' :: rest)).map fun (text, behind) => (.string (String.ofList text), behind)
  | _, '\x27' :: rest =>
    (readString? ('\x27' :: rest)).map fun (text, behind) => (.string (String.ofList text), behind)
  | 0, '[' :: _ => none
  | 0, '\x7b' :: _ => none
  | depth + 1, '[' :: rest =>
    (elementsWith? (value? depth) (rest.length + 1) rest).map fun (elements, behind) =>
      (.array elements, behind)
  | depth + 1, '\x7b' :: rest =>
    match skipBlanks rest with
    | '\x7d' :: behind => some (.table [], behind)
    | text =>
      (entriesWith? (value? depth) (text.length + 1) [] text).map fun (entries, behind) =>
        (.table (entriesToValues entries), behind)
  | _, text => readScalar? text

/-! ## Documents -/

/-- A document under construction: its root, and the header that is in force. -/
structure Document where
  root : Entries := []
  header : List String := []

/-- The last part of a key, and the parts before it. -/
def splitLast? (parts : List String) : Option (List String × String) :=
  match parts.reverse with
  | [] => none
  | last :: before => some (before.reverse, last)

namespace Document

/-- Reads a line `key = value`. -/
def keyLine? (document : Document) (text : List Char) : Option (Document × List Char) := do
  let (parts, rest) ← readKey? text
  let (value, rest) ← value? (nestingLimit - 1) (skipBlanks (← expect? '=' rest))
  let rest ← lineEnd? rest
  let (path, key) ← splitLast? parts
  let root ← Entries.update false (Entries.setDotted path key value) document.header false
    document.root
  return ({ document with root }, rest)

/-- Reads the header of a table behind its bracket. -/
def tableLine? (document : Document) (text : List Char) : Option (Document × List Char) := do
  let (parts, rest) ← readKey? text
  let rest ← lineEnd? (← expect? ']' rest)
  let (path, key) ← splitLast? parts
  return ({ root := ← Entries.openTable path key document.root, header := parts }, rest)

/-- Reads the header of an element of an array of tables behind its brackets. -/
def rowLine? (document : Document) (text : List Char) : Option (Document × List Char) := do
  let (parts, rest) ← readKey? text
  let rest ← lineEnd? (← expect? ']' (← expect? ']' rest))
  let (path, key) ← splitLast? parts
  return ({ root := ← Entries.openRow path key document.root, header := parts }, rest)

/-- Reads the lines of a document; `lines` bounds their number. -/
def lines? : (lines : Nat) → Document → List Char → Option Document
  | 0, document, text => if text.isEmpty then some document else none
  | lines + 1, document, text =>
    match skipBlanks text with
    | [] => some document
    | '#' :: rest => (lineEnd? ('#' :: rest)).bind (lines? lines document)
    | '\n' :: rest => lines? lines document rest
    | '\r' :: '\n' :: rest => lines? lines document rest
    | '[' :: '[' :: rest =>
      (document.rowLine? rest).bind fun (document, behind) => lines? lines document behind
    | '[' :: rest =>
      (document.tableLine? rest).bind fun (document, behind) => lines? lines document behind
    | line =>
      (document.keyLine? line).bind fun (document, behind) => lines? lines document behind

end Document

/-- The text without a byte order mark at its start. -/
def dropByteOrderMark : List Char → List Char
  | character :: rest => if character.toNat == 0xFEFF then rest else character :: rest
  | [] => []

/-- The entries of a document; `none` if the text is no document. -/
def parse? (text : String) : Option (List (String × Value)) :=
  let characters := dropByteOrderMark text.toList
  (Document.lines? (characters.length + 1) {} characters).map fun document =>
    entriesToValues document.root

end StructureLint.Toml
