import StructureLint.Name
import StructureLint.Position

/-!
Contract: attributes written on declarations.

Owns:
- attributes and their arguments;
- finding an attribute by its simple name.

Does not own: what an attribute means to a rule.
-/

namespace StructureLint

/-- A constant given to an attribute. -/
inductive AttributeValue where
  | int (value : Int64)
  | bool (value : Bool)
  | str (value : String)
  deriving DecidableEq, Repr, Inhabited

namespace AttributeValue

/-- The integer, if it is one. -/
def int? : AttributeValue → Option Int64
  | .int value => some value
  | _ => none

/-- The text, if it is one. -/
def str? : AttributeValue → Option String
  | .str value => some value
  | _ => none

end AttributeValue

/-- An argument; one without a name is positional. -/
structure AttributeArgument where
  name : Option String := none
  value : AttributeValue
  deriving DecidableEq, Repr, Inhabited

/-- An attribute as written on a declaration. -/
structure Attribute where
  name : String
  arguments : List AttributeArgument := []
  span : Span := {}
  deriving DecidableEq, Repr, Inhabited

namespace Attribute

/-- The attribute with a further positional argument. -/
def withArgument (mark : Attribute) (value : AttributeValue) : Attribute :=
  { mark with arguments := mark.arguments ++ [{ value }] }

/-- The attribute with a further named argument. -/
def withNamed (mark : Attribute) (name : String) (value : AttributeValue) : Attribute :=
  { mark with arguments := mark.arguments ++ [{ name := some name, value }] }

/-- The values of the positional arguments. -/
def positional (mark : Attribute) : List AttributeValue :=
  (mark.arguments.filter fun argument => argument.name.isNone).map AttributeArgument.value

/-- The value of the first argument of that name. -/
def named? (mark : Attribute) (name : String) : Option AttributeValue :=
  (mark.arguments.find? fun argument => argument.name == some name).map AttributeArgument.value

/-- The first positional argument, if it is an integer. -/
def int? (mark : Attribute) : Option Int64 :=
  mark.positional.head?.bind AttributeValue.int?

/-- The first positional argument, if it is a text. -/
def str? (mark : Attribute) : Option String :=
  mark.positional.head?.bind AttributeValue.str?

/-- The attribute has the simple name of one of `names`. -/
def isNamed (names : List String) (mark : Attribute) : Bool :=
  names.any fun name => Name.ofAttribute name == Name.ofAttribute mark.name

/-- The first attribute with one of the names. -/
def find? (names : List String) (marks : List Attribute) : Option Attribute :=
  marks.find? (isNamed names)

end Attribute

end StructureLint
