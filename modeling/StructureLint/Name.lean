import StructureLint.Text.Blank

/-!
Contract: what a written type or attribute name refers to.

Names arrive as their author wrote them: qualified, generic, nullable, with or
without the `Attribute` suffix.  Two spellings refer to the same thing when
their simple names agree.

Owns:
- the simple name of a type and of an attribute;
- matching of a type name against candidates;
- the entries of a comma-separated list.

Does not own: resolution of a name to a symbol.
-/

namespace StructureLint.Name

/-- The text behind the last place where `mark` stands, if it stands anywhere. -/
def behindLast? (mark : List Char) : List Char → Option (List Char)
  | [] => none
  | character :: rest =>
    match behindLast? mark rest with
    | some tail => some tail
    | none =>
      if mark.isPrefixOf (character :: rest) then
        some ((character :: rest).drop mark.length)
      else
        none

/-- The text behind the last `mark`, or the whole text without one. -/
def behindLast (mark text : List Char) : List Char :=
  (behindLast? mark text).getD text

/-- The simple name: no blanks around it, no nullability marks, no generic
arguments and no qualifier. -/
def simpleChars (name : List Char) : List Char :=
  let bare := Text.trimEndWhere (· == '?') (Text.trimChars name)
  let unapplied := bare.takeWhile (· != '<')
  Text.trimChars (behindLast ['.'] (behindLast [':', ':'] unapplied))

/-- The simple name of a type. -/
def simple (name : String) : String :=
  String.ofList (simpleChars name.toList)

/-- The suffix that an attribute usage may leave out. -/
def attributeSuffix : List Char := "Attribute".toList

/-- The name without its `Attribute` suffix, unless nothing would remain. -/
def dropAttributeSuffix (name : List Char) : List Char :=
  if attributeSuffix.isSuffixOf name && attributeSuffix.length < name.length then
    name.take (name.length - attributeSuffix.length)
  else
    name

/-- The simple name of an attribute. -/
def ofAttribute (name : String) : String :=
  String.ofList (dropAttributeSuffix (simpleChars name.toList))

/-- Some candidate has the simple name of `typeName`. -/
def matchesAny (typeName : String) (candidates : List String) : Bool :=
  candidates.any fun candidate => simple candidate == simple typeName

/-- The trimmed, non-empty entries of a comma-separated list. -/
def entries (value : String) : List String :=
  (((value.toList.splitOn ',').map Text.trimChars).filter
    fun entry => !entry.isEmpty).map String.ofList

end StructureLint.Name
