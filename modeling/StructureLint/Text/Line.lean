/-!
Contract: the lines of a text.

A line ends at a line feed, and a return right before the line feed belongs to
the end of the line.  What stands behind the last line feed is a line too.

Owns:
- the lines of a text, and those that it fills when it is printed.
-/

namespace StructureLint.Text

/-- The line without a return at its end. -/
def dropReturn (line : List Char) : List Char :=
  if line.getLast? == some '\r' then line.dropLast else line

/-- The lines of a text. -/
def lines (text : List Char) : List (List Char) :=
  let parts := text.splitOn '\n'
  parts.dropLast.map dropReturn ++ parts.getLast?.toList

/-- The first line of a text; `none` for an empty text. -/
def firstLine? (text : String) : Option String :=
  if text == "" then none else ((lines text.toList).head?.map String.ofList)

/-- The lines that a text fills when it is printed with a line feed behind it. -/
def printedLines (text : String) : List String :=
  (text.toList.splitOn '\n').map fun line => String.ofList (dropReturn line)

end StructureLint.Text
