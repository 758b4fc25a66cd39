import StructureLint.Attribute
import StructureLint.Syntax.Tree

/-!
Contract: the symbols and declarations of a program.

Owns:
- types, members, parameters and declarations with their flags;
- small facts that one symbol decides alone.

Does not own: references between symbols, which need the whole program.
-/

namespace StructureLint

/-- What kind of type a type is. -/
inductive TypeKind where
  | classType
  | structType
  | recordType
  | recordStruct
  | interfaceType
  | enumType
  deriving DecidableEq, Repr, Inhabited

/-- Values of the type are copied rather than shared. -/
def TypeKind.isValueType : TypeKind → Bool
  | .structType | .recordStruct | .enumType => true
  | _ => false

/-- A named type. -/
structure TypeSymbol where
  name : String
  kind : TypeKind
  isSealed : Bool := false
  baseType : Option TypeId := none
  interfaces : List TypeId := []
  location : Option Location := none
  deriving DecidableEq, Repr, Inhabited

/-- Who may use a member. -/
inductive Accessibility where
  | publicAccess
  | internalAccess
  | protectedAccess
  | protectedInternal
  | privateProtected
  | privateAccess
  deriving DecidableEq, Repr, Inhabited

/-- What kind of member a member is. -/
inductive MemberKind where
  | ordinary
  | constructor
  | primaryConstructor
  | staticConstructor
  | destructor
  | propertyAccessor
  | eventAccessor
  | explicitInterfaceImplementation
  | reducedExtension
  | localFunction
  | operator
  | property
  | field
  | event
  deriving DecidableEq, Repr, Inhabited

namespace MemberKind

/-- Instance constructors, primary ones included. -/
def isConstructor : MemberKind → Bool
  | .constructor | .primaryConstructor => true
  | _ => false

/-- Methods that take part in overload groups. -/
def isRegularMethod : MemberKind → Bool
  | .ordinary | .explicitInterfaceImplementation | .reducedExtension => true
  | _ => false

/-- Accessors of properties and events. -/
def isAccessor : MemberKind → Bool
  | .propertyAccessor | .eventAccessor => true
  | _ => false

end MemberKind

/-- A parameter of a member. -/
structure Parameter where
  name : String
  typeName : String
  hasDefault : Bool := false
  isSpread : Bool := false
  deriving DecidableEq, Repr, Inhabited

/-- A member of a type, or a local function. -/
structure MemberSymbol where
  name : String
  kind : MemberKind := .ordinary
  containingType : Option TypeId := none
  accessibility : Accessibility := .privateAccess
  isStatic : Bool := false
  isVirtual : Bool := false
  isAbstract : Bool := false
  isOverride : Bool := false
  isExtern : Bool := false
  hidesBaseMember : Bool := false
  isImplicitlyDeclared : Bool := false
  isRecordGenerated : Bool := false
  overriddenMember : Option MemberId := none
  explicitInterfaceImpls : List MemberId := []
  implementedInterfaceMembers : List MemberId := []
  parameters : List Parameter := []
  declaration : Option DeclarationId := none
  location : Option Location := none
  deriving DecidableEq, Repr, Inhabited

namespace MemberSymbol

/-- A public method of a type. -/
def method (name : String) (containingType : TypeId) : MemberSymbol :=
  { name, containingType := some containingType, accessibility := .publicAccess }

/-- The types of the parameters, as written. -/
def parameterTypes (member : MemberSymbol) : List String :=
  member.parameters.map Parameter.typeName

/-- The name with the parameter types in parentheses. -/
def signature (member : MemberSymbol) : String :=
  member.name ++ "(" ++ String.intercalate ", " member.parameterTypes ++ ")"

/-- The parameter types agree as written. -/
def sameParameterTypes (left right : MemberSymbol) : Bool :=
  left.parameterTypes == right.parameterTypes

/-- The member replaces one of a base type. -/
def overrides (member : MemberSymbol) : Bool :=
  member.isOverride || member.overriddenMember.isSome

/-- The member implements some interface member. -/
def implementsInterface (member : MemberSymbol) : Bool :=
  !member.explicitInterfaceImpls.isEmpty || !member.implementedInterfaceMembers.isEmpty

end MemberSymbol

/-- What kind of declaration a declaration is. -/
inductive DeclarationKind where
  | method
  | constructor
  | localFunction
  | accessor
  | initializer
  deriving DecidableEq, Repr, Inhabited

/-- A declaration in a source file. -/
structure Declaration where
  name : String
  kind : DeclarationKind
  symbol : Option MemberId := none
  file : SourcePath
  span : Span := {}
  modifiersSpan : Option Span := none
  attributes : List Attribute := []
  body : Option Body := none
  deriving Inhabited

namespace Declaration

/-- Where the declaration stands. -/
def location (declaration : Declaration) : Location :=
  .ofSpan declaration.file declaration.span

/-- The body is a single expression. -/
def isExpressionBodied (declaration : Declaration) : Bool :=
  match declaration.body with
  | some (.expression _) => true
  | _ => false

end Declaration

end StructureLint
