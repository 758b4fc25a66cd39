/-!
Contract: blank characters and the removal of blanks around a text.

Owns:
- the table of characters with the Unicode property `White_Space`;
- trimming of a text at either end.

Does not own: what a caller does with the remaining text.
-/

namespace StructureLint.Text

/-- The character has the Unicode property `White_Space`. -/
def isBlank (character : Char) : Bool :=
  let code := character.toNat
  (0x09 ≤ code && code ≤ 0x0D) || code == 0x20 || code == 0x85 || code == 0xA0 ||
    code == 0x1680 || (0x2000 ≤ code && code ≤ 0x200A) || code == 0x2028 ||
    code == 0x2029 || code == 0x202F || code == 0x205F || code == 0x3000

/-- The text without the longest run of dropped characters at its end. -/
def trimEndWhere (dropped : Char → Bool) (text : List Char) : List Char :=
  (text.reverse.dropWhile dropped).reverse

/-- The text without blanks at its start and at its end. -/
def trimChars (text : List Char) : List Char :=
  trimEndWhere isBlank (text.dropWhile isBlank)

/-- The text without blanks at its start and at its end. -/
def trim (text : String) : String :=
  String.ofList (trimChars text.toList)

/-- The text with the letters A to Z lowered and all other characters kept. -/
def lowerAscii (text : String) : String :=
  String.ofList (text.toList.map Char.toLower)

end StructureLint.Text
