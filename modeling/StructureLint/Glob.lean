/-!
Contract: patterns for file paths.

`?` stands for any character, `*` for any text, separators included, and `**`
for any whole directories; `**` must be a path component of its own.  `[ab-d]`
stands for one of the listed characters and `[!…]` for any other one.

Owns:
- the grammar of patterns and its errors;
- matching, which is case-sensitive and covers the whole text, and in which
  wildcards match separators too.
-/

namespace StructureLint.Glob

/-- One entry of a character class. -/
inductive CharSpec where
  | single (character : Char)
  | range (first last : Char)
  deriving DecidableEq, Repr

/-- One unit of a pattern. -/
inductive Token where
  | literal (character : Char)
  | anyChar
  | anyText
  | anyDirectories
  | within (specs : List CharSpec)
  | except (specs : List CharSpec)
  deriving DecidableEq, Repr

/-- Why a text is no pattern. -/
inductive ErrorKind where
  | tooManyStars
  | partialDirectories
  | invalidClass
  deriving DecidableEq, Repr

/-- Why and about where a text is no pattern; places are counted in characters. -/
structure Error where
  position : Nat
  kind : ErrorKind
  deriving DecidableEq, Repr

/-- The reason in words. -/
def ErrorKind.reason : ErrorKind → String
  | .tooManyStars => "wildcards are either regular `*` or recursive `**`"
  | .partialDirectories => "recursive wildcards must form a single path component"
  | .invalidClass => "invalid range pattern"

/-- The text of the error. -/
def Error.message (error : Error) : String :=
  "Pattern syntax error near position " ++ toString error.position ++ ": " ++ error.kind.reason

/-! ## Parsing -/

/-- The entries of a character class. -/
def charSpecs : List Char → List CharSpec
  | first :: '-' :: last :: rest => .range first last :: charSpecs rest
  | character :: rest => .single character :: charSpecs rest
  | [] => []

/-- The characters up to the closing bracket, which is not the first one, and
the text behind it. -/
def classBody? : List Char → Option (List Char × List Char)
  | [] => none
  | first :: rest =>
    if rest.contains ']' then
      some (first :: rest.takeWhile (· != ']'), (rest.dropWhile (· != ']')).drop 1)
    else
      none

/-- The class behind an opening bracket, and the text behind it. -/
def charClass? : List Char → Option (Token × List Char)
  | '!' :: rest => (classBody? rest).map fun (body, behind) => (.except (charSpecs body), behind)
  | rest => (classBody? rest).map fun (body, behind) => (.within (charSpecs body), behind)

/-- A run of directories is not repeated, unless it starts the pattern. -/
def addDirectories (tokens : List Token) : List Token :=
  match tokens with
  | .anyDirectories :: _ :: _ => tokens
  | _ => .anyDirectories :: tokens

/-- Parses the rest of a pattern.  `position` characters have been read, `last`
is the last one of them, and `tokens` are the tokens so far in reverse.  Each
step reads at least one character, so `fuel` beyond the length is not used. -/
def parseFrom : (fuel position : Nat) → (last : Option Char) → (tokens : List Token) →
    List Char → Except Error (List Token)
  | 0, _, _, tokens, _ => .ok tokens.reverse
  | _ + 1, _, _, tokens, [] => .ok tokens.reverse
  | fuel + 1, position, last, tokens, character :: rest =>
    if character == '?' then
      parseFrom fuel (position + 1) (some character) (.anyChar :: tokens) rest
    else if character == '*' then
      let stars := 1 + (rest.takeWhile (· == '*')).length
      let behind := rest.dropWhile (· == '*')
      if 2 < stars then
        .error { position := position + 2, kind := .tooManyStars }
      else if stars == 1 then
        parseFrom fuel (position + 1) (some '*') (.anyText :: tokens) behind
      else if last != none && last != some '/' then
        .error { position := position - 1, kind := .partialDirectories }
      else
        match behind with
        | [] => parseFrom fuel (position + 2) (some '*') (addDirectories tokens) []
        | '/' :: further =>
          parseFrom fuel (position + 3) (some '/') (addDirectories tokens) further
        | _ => .error { position := position + 2, kind := .partialDirectories }
    else if character == '[' then
      match charClass? rest with
      | none => .error { position, kind := .invalidClass }
      | some (token, behind) =>
        parseFrom fuel (position + 1 + (rest.length - behind.length)) (some ']')
          (token :: tokens) behind
    else
      parseFrom fuel (position + 1) (some character) (.literal character :: tokens) rest

/-- The tokens of a pattern. -/
def parse (pattern : String) : Except Error (List Token) :=
  parseFrom pattern.length 0 none [] pattern.toList

/-! ## Matching -/

/-- The character is listed. -/
def CharSpec.accepts (character : Char) : CharSpec → Bool
  | .single listed => listed == character
  | .range first last => first ≤ character && character ≤ last

/-- How an attempt to match ended; an exhausted text cannot match any better
when more of it is skipped. -/
inductive Verdict where
  | accepted
  | rejected
  | exhausted
  deriving DecidableEq, Repr

/-- Reads one character by a test. -/
def matchChar (accepts : Char → Bool) (next : List Char → Verdict) : List Char → Verdict
  | [] => .exhausted
  | character :: rest => if accepts character then next rest else .rejected

/-- Tries the rest of the pattern at every place from here on. -/
def sweepText (next : List Char → Verdict) : List Char → Verdict
  | [] => next []
  | character :: rest =>
    match next (character :: rest) with
    | .rejected => sweepText next rest
    | verdict => verdict

/-- Tries the rest of the pattern behind every separator and at the end. -/
def sweepSeparators (next : List Char → Verdict) : List Char → Verdict
  | [] => next []
  | character :: rest =>
    if character == '/' then
      match next rest with
      | .rejected => sweepSeparators next rest
      | verdict => verdict
    else
      sweepSeparators next rest

/-- Tries the rest of the pattern here and behind every separator. -/
def sweepDirectories (next : List Char → Verdict) (text : List Char) : Verdict :=
  match next text with
  | .rejected => sweepSeparators next text
  | verdict => verdict

/-- Matches a whole text. -/
def matchTokens : List Token → List Char → Verdict
  | [], text => if text.isEmpty then .accepted else .rejected
  | .literal listed :: rest, text => matchChar (· == listed) (matchTokens rest) text
  | .anyChar :: rest, text => matchChar (fun _ => true) (matchTokens rest) text
  | .within specs :: rest, text =>
    matchChar (fun character => specs.any (CharSpec.accepts character)) (matchTokens rest) text
  | .except specs :: rest, text =>
    matchChar (fun character => !specs.any (CharSpec.accepts character)) (matchTokens rest) text
  | .anyText :: rest, text => sweepText (matchTokens rest) text
  | .anyDirectories :: rest, text => sweepDirectories (matchTokens rest) text

/-- The pattern is valid and matches the text. -/
def isMatch (pattern text : String) : Bool :=
  match parse pattern with
  | .ok tokens => matchTokens tokens text.toList == .accepted
  | .error _ => false

end StructureLint.Glob
