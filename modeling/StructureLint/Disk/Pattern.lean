/-!
Contract: patterns for entries of a walk.

A pattern is matched with the bytes of a whole path.  `?` stands for one byte
and `*` for any number of them, separators excepted; `**` as a whole component
stands for any directories.  `[ab-d]` stands for one of the listed bytes and
`[!…]` or `[^…]` for any other one; a character of several bytes counts in it
as these bytes.  `{a,b}` stands for one of its branches, and branches that are
empty do not count.  A backslash takes away the meaning of the character behind
it, and a bracket that is never closed is an ordinary character.

Owns:
- the grammar of patterns;
- matching, as the set of texts that may be left behind the pattern.
-/

namespace StructureLint.WalkPattern

/-- One unit of a pattern. -/
inductive Token where
  | byte (value : UInt8)
  | anyByte
  | anyText
  | leadingDirectories
  | innerDirectories
  | trailingDirectories
  | oneOf (negated : Bool) (ranges : List (UInt8 × UInt8))
  | alternatives (branches : List (List Token))
  deriving Inhabited

/-- The bytes of a text. -/
def bytes (text : List Char) : List UInt8 :=
  (String.ofList text).toUTF8.toList

/-- The byte of a separator. -/
def separator : UInt8 := 47

/-! ## Classes -/

/-- How the class behind an opening bracket ends. -/
inductive ClassReading where
  | closed (ranges : List (Char × Char)) (behind : List Char)
  | unclosed
  | invalid

/-- Reads the entries of a class.  `ranges` are the entries so far, the last one
first; `first` says that none has been read, and `inRange` that the entry before
is to be extended.  A range that has been extended may be extended again. -/
def readClass (ranges : List (Char × Char)) (first inRange : Bool) : List Char → ClassReading
  | [] => .unclosed
  | character :: rest =>
    if character == ']' && !first then
      .closed ((if inRange then ('-', '-') :: ranges else ranges).reverse) rest
    else if character == '-' && !first && !inRange then
      readClass ranges false true rest
    else
      match inRange, ranges with
      | true, (low, _) :: others =>
        if character < low then .invalid
        else readClass ((low, character) :: others) false false rest
      | _, _ => readClass ((character, character) :: ranges) false false rest

/-- The bytes of a range: the last byte of its first character up to the first
byte of its last one, and the other bytes of the two by themselves. -/
def byteRanges (range : Char × Char) : List (UInt8 × UInt8) :=
  let single := fun (byte : UInt8) => (byte, byte)
  let low := bytes [range.1]
  let high := bytes [range.2]
  if range.1 == range.2 then
    low.map single
  else
    low.dropLast.map single ++ [(low.getLastD 0, high.headD 0)] ++ (high.drop 1).map single

/-- The class behind an opening bracket. -/
def readBracket : List Char → Bool × ClassReading
  | '!' :: rest => (true, readClass [] true false rest)
  | '^' :: rest => (true, readClass [] true false rest)
  | rest => (false, readClass [] true false rest)

/-! ## Parsing -/

/-- A group of branches that is still open: its completed branches and the
tokens in front of it, both with the last one first. -/
structure OpenGroup where
  branches : List (List Token)
  before : List Token

/-- The state of the parser: the last character that was read, whether brackets
are ordinary characters, the tokens of the branch at hand with the last one
first, and the groups around it with the innermost one first. -/
structure Parser where
  last : Option Char := none
  plainBrackets : Bool := false
  tokens : List Token := []
  groups : List OpenGroup := []

namespace Parser

/-- Adds a token; `last` is the last character of it. -/
def push (parser : Parser) (last : Char) (token : Token) : Parser :=
  { parser with last := some last, tokens := token :: parser.tokens }

/-- Adds an ordinary character. -/
def pushChar (parser : Parser) (character : Char) : Parser :=
  { parser with
    last := some character
    tokens := ((bytes [character]).map Token.byte).reverse ++ parser.tokens }

/-- Puts a token for directories in the place of the separator before it; such
a token at the start or the end stays as it is. -/
def pushDirectories (parser : Parser) (last : Char) (token : Token) : Parser :=
  let tokens :=
    match parser.tokens with
    | .leadingDirectories :: _ => parser.tokens
    | .trailingDirectories :: _ => parser.tokens
    | _ :: before => token :: before
    | [] => [token]
  { parser with last := some last, tokens }

/-- Opens a group. -/
def openGroup (parser : Parser) : Parser :=
  { parser with
    last := some '\x7b'
    tokens := []
    groups := { branches := [], before := parser.tokens } :: parser.groups }

/-- Ends a branch of the innermost group; outside groups a comma is ordinary. -/
def nextBranch (parser : Parser) : Parser :=
  match parser.groups with
  | [] => parser.pushChar ','
  | group :: outer =>
    { parser with
      last := some ','
      tokens := []
      groups := { group with branches := parser.tokens.reverse :: group.branches } :: outer }

/-- Closes the innermost group. -/
def closeGroup? (parser : Parser) : Option Parser :=
  match parser.groups with
  | [] => none
  | group :: outer =>
    let branches := (parser.tokens.reverse :: group.branches).reverse
    some { parser with
      last := some '\x7d'
      tokens := .alternatives branches :: group.before
      groups := outer }

/-- Two stars, and the text behind them and behind the separator that belongs to
them.  They stand for directories at the start of a branch and behind a
separator, if a separator or the end of the branch follows. -/
def pushStars (parser : Parser) (behind : List Char) : Parser × List Char :=
  let plain := (parser.push '*' .anyText, behind)
  let inGroup := !parser.groups.isEmpty
  let atBranch := inGroup && (parser.last == some ',' || parser.last == some '\x7b')
  match parser.tokens, behind with
  | [], [] => (parser.push '*' .leadingDirectories, [])
  | [], '/' :: further => (parser.push '/' .leadingDirectories, further)
  | [], _ => plain
  | _ :: _, behind =>
    if parser.last != some '/' && !atBranch then plain
    else match behind with
      | [] => (parser.pushDirectories '*' .trailingDirectories, [])
      | '/' :: further => (parser.pushDirectories '/' .innerDirectories, further)
      | next :: _ =>
        if inGroup && (next == ',' || next == '\x7d') then
          (parser.pushDirectories '*' .trailingDirectories, behind)
        else
          plain

/-- Reads one unit of a pattern that starts with a character, and hands back the
text behind it. -/
def step? (parser : Parser) (character : Char) (rest : List Char) :
    Option (Parser × List Char) :=
  if character == '?' then some (parser.push '?' .anyByte, rest)
  else if character == '*' then
    match rest with
    | '*' :: behind => some (parser.pushStars behind)
    | _ => some (parser.push '*' .anyText, rest)
  else if character == '[' && !parser.plainBrackets then
    match readBracket rest with
    | (negated, .closed ranges behind) =>
      some (parser.push ']' (.oneOf negated (ranges.flatMap byteRanges)), behind)
    | (_, .unclosed) => some ({ parser with plainBrackets := true }.pushChar '[', rest)
    | (_, .invalid) => none
  else if character == '\x7b' then some (parser.openGroup, rest)
  else if character == '\x7d' then parser.closeGroup?.map fun parser => (parser, rest)
  else if character == ',' then some (parser.nextBranch, rest)
  else if character == '\\' then
    match rest with
    | [] => none
    | escaped :: behind => some (parser.pushChar escaped, behind)
  else some (parser.pushChar character, rest)

/-- Reads the rest of a pattern.  Each step reads at least one character, so
`fuel` beyond the length is not used. -/
def run? : (fuel : Nat) → Parser → List Char → Option Parser
  | _, parser, [] => some parser
  | 0, _, _ :: _ => none
  | fuel + 1, parser, character :: rest =>
    (parser.step? character rest).bind fun (parser, behind) => run? fuel parser behind

end Parser

/-- The tokens of a pattern; `none` for an invalid one. -/
def parse? (pattern : List Char) : Option (List Token) := do
  let parser ← Parser.run? pattern.length {} pattern
  if parser.groups.isEmpty then some parser.tokens.reverse else none

/-! ## Matching -/

/-- The text behind a byte that is accepted. -/
def behindByte (accepts : UInt8 → Bool) : List UInt8 → List (List UInt8)
  | [] => []
  | byte :: rest => if accepts byte then [rest] else []

/-- The texts behind any number of bytes that are no separators. -/
def behindText : List UInt8 → List (List UInt8)
  | [] => [[]]
  | byte :: rest =>
    (byte :: rest) :: (if byte == separator then [] else behindText rest)

/-- The texts behind each separator. -/
def behindSeparators : List UInt8 → List (List UInt8)
  | [] => []
  | byte :: rest =>
    if byte == separator then rest :: behindSeparators rest else behindSeparators rest

/-- The text and all its ends. -/
def ends : List UInt8 → List (List UInt8)
  | [] => [[]]
  | byte :: rest => (byte :: rest) :: ends rest

/-- Ends of one text without repetition; `lengths` are those of ends already seen. -/
def distinctBeyond (lengths : List Nat) : List (List UInt8) → List (List UInt8)
  | [] => []
  | text :: rest =>
    let length := text.length
    if lengths.contains length then distinctBeyond lengths rest
    else text :: distinctBeyond (length :: lengths) rest

/-- Ends of one text without repetition. -/
def distinct (texts : List (List UInt8)) : List (List UInt8) :=
  distinctBeyond [] texts

mutual

/-- The token stands for nothing at all: a group without a branch that counts. -/
def Token.isVoid : Token → Bool
  | .alternatives branches => areVoidBranches branches
  | _ => false

/-- All tokens stand for nothing at all. -/
def areVoid : List Token → Bool
  | [] => true
  | token :: rest => token.isVoid && areVoid rest

/-- All branches stand for nothing at all. -/
def areVoidBranches : List (List Token) → Bool
  | [] => true
  | branch :: rest => areVoid branch && areVoidBranches rest

end

mutual

/-- The texts that may be left behind the token. -/
def Token.rests : Token → List UInt8 → List (List UInt8)
  | .byte value, text => behindByte (· == value) text
  | .anyByte, text => behindByte (· != separator) text
  | .anyText, text => behindText text
  | .leadingDirectories, text => text :: behindSeparators text
  | .innerDirectories, text =>
    (behindByte (· == separator) text).flatMap fun rest => rest :: behindSeparators rest
  | .trailingDirectories, text => (behindByte (· == separator) text).flatMap ends
  | .oneOf negated ranges, text =>
    behindByte
      (fun byte => (ranges.any fun range => range.1 ≤ byte && byte ≤ range.2) != negated) text
  | .alternatives branches, text =>
    if areVoidBranches branches then [text] else distinct (restsOfBranches branches text)

/-- The texts that may be left behind all tokens in turn. -/
def restsOfAll : List Token → List (List UInt8) → List (List UInt8)
  | [], texts => texts
  | token :: rest, texts => restsOfAll rest (distinct (texts.flatMap token.rests))

/-- The texts that may be left behind one of the branches that count. -/
def restsOfBranches : List (List Token) → List UInt8 → List (List UInt8)
  | [], _ => []
  | branch :: rest, text =>
    (if areVoid branch then [] else restsOfAll branch [text]) ++ restsOfBranches rest text

end

/-- The pattern matches a whole path.  `**` by itself matches every path. -/
def isMatch (tokens : List Token) (path : List UInt8) : Bool :=
  match tokens with
  | [.leadingDirectories] => true
  | tokens => (restsOfAll tokens [path]).any List.isEmpty

end StructureLint.WalkPattern
