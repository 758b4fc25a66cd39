import StructureLint.Json.Reader
import StructureLint.Program.Basic
import StructureLint.Syntax.Codec

/-!
Contract: the exchange format of programs.

Every field is written; a field with a default may be missing when read.  The
member index and the mark of a normalized program are not part of the format.
-/

namespace StructureLint

/-! ## Attributes -/

namespace AttributeValue

/-- A constant is written as itself. -/
def encode : AttributeValue → Json
  | .int value => .int value.toInt
  | .bool value => .bool value
  | .str value => .str value

/-- Reads an integer, a truth value or a text. -/
def decode? : Json → Option AttributeValue
  | .bool value => some (.bool value)
  | .str value => some (.str value)
  | value => value.int64?.map AttributeValue.int

end AttributeValue

namespace AttributeArgument

/-- Writes an argument. -/
def encode (argument : AttributeArgument) : Json :=
  .obj [("name", Json.option Json.str argument.name), ("value", argument.value.encode)]

/-- Reads an argument. -/
def decode? (value : Json) : Option AttributeArgument := do
  let record ← value.record? ["name", "value"]
  return {
    name := ← record.orElse? "name" none (Json.option? Json.str?)
    value := ← record.required? "value" AttributeValue.decode? }

end AttributeArgument

namespace Attribute

/-- Writes an attribute. -/
def encode (mark : Attribute) : Json :=
  .obj [("name", .str mark.name), ("args", Json.list AttributeArgument.encode mark.arguments),
    ("span", mark.span.encode)]

/-- Reads an attribute. -/
def decode? (value : Json) : Option Attribute := do
  let record ← value.record? ["name", "args", "span"]
  return {
    name := ← record.required? "name" Json.str?
    arguments := ← record.orElse? "args" [] (Json.list? AttributeArgument.decode?)
    span := ← record.orElse? "span" {} Span.decode? }

end Attribute

/-! ## Symbols -/

namespace TypeKind

/-- How a kind of type is spelled. -/
def spelling : TypeKind → String
  | .classType => "class"
  | .structType => "struct"
  | .recordType => "record"
  | .recordStruct => "record_struct"
  | .interfaceType => "interface"
  | .enumType => "enum"

/-- Reads a kind of type. -/
def decode? : Json → Option TypeKind :=
  Json.choice? spelling
    [.classType, .structType, .recordType, .recordStruct, .interfaceType, .enumType]

end TypeKind

namespace TypeSymbol

/-- Writes a type. -/
def encode (symbol : TypeSymbol) : Json :=
  .obj [("name", .str symbol.name), ("kind", .str symbol.kind.spelling),
    ("is_sealed", .bool symbol.isSealed),
    ("base_type", Json.option TypeId.encode symbol.baseType),
    ("interfaces", Json.list TypeId.encode symbol.interfaces),
    ("location", Json.option Location.encode symbol.location)]

/-- Reads a type. -/
def decode? (value : Json) : Option TypeSymbol := do
  let record ← value.record?
    ["name", "kind", "is_sealed", "base_type", "interfaces", "location"]
  return {
    name := ← record.required? "name" Json.str?
    kind := ← record.required? "kind" TypeKind.decode?
    isSealed := ← record.orElse? "is_sealed" false Json.bool?
    baseType := ← record.orElse? "base_type" none (Json.option? TypeId.decode?)
    interfaces := ← record.orElse? "interfaces" [] (Json.list? TypeId.decode?)
    location := ← record.orElse? "location" none (Json.option? Location.decode?) }

end TypeSymbol

namespace Accessibility

/-- How an accessibility is spelled. -/
def spelling : Accessibility → String
  | .publicAccess => "public"
  | .internalAccess => "internal"
  | .protectedAccess => "protected"
  | .protectedInternal => "protected_internal"
  | .privateProtected => "private_protected"
  | .privateAccess => "private"

/-- Reads an accessibility. -/
def decode? : Json → Option Accessibility :=
  Json.choice? spelling
    [.publicAccess, .internalAccess, .protectedAccess, .protectedInternal, .privateProtected,
      .privateAccess]

end Accessibility

namespace MemberKind

/-- How a kind of member is spelled. -/
def spelling : MemberKind → String
  | .ordinary => "ordinary"
  | .constructor => "constructor"
  | .primaryConstructor => "primary_constructor"
  | .staticConstructor => "static_constructor"
  | .destructor => "destructor"
  | .propertyAccessor => "property_accessor"
  | .eventAccessor => "event_accessor"
  | .explicitInterfaceImplementation => "explicit_interface_implementation"
  | .reducedExtension => "reduced_extension"
  | .localFunction => "local_function"
  | .operator => "operator"
  | .property => "property"
  | .field => "field"
  | .event => "event"

/-- Reads a kind of member. -/
def decode? : Json → Option MemberKind :=
  Json.choice? spelling
    [.ordinary, .constructor, .primaryConstructor, .staticConstructor, .destructor,
      .propertyAccessor, .eventAccessor, .explicitInterfaceImplementation, .reducedExtension,
      .localFunction, .operator, .property, .field, .event]

end MemberKind

namespace Parameter

/-- Writes a parameter. -/
def encode (parameter : Parameter) : Json :=
  .obj [("name", .str parameter.name), ("type_name", .str parameter.typeName),
    ("has_default", .bool parameter.hasDefault), ("is_params", .bool parameter.isSpread)]

/-- Reads a parameter. -/
def decode? (value : Json) : Option Parameter := do
  let record ← value.record? ["name", "type_name", "has_default", "is_params"]
  return {
    name := ← record.required? "name" Json.str?
    typeName := ← record.required? "type_name" Json.str?
    hasDefault := ← record.orElse? "has_default" false Json.bool?
    isSpread := ← record.orElse? "is_params" false Json.bool? }

end Parameter

namespace MemberSymbol

/-- Writes a member. -/
def encode (member : MemberSymbol) : Json :=
  .obj [("name", .str member.name), ("kind", .str member.kind.spelling),
    ("containing_type", Json.option TypeId.encode member.containingType),
    ("accessibility", .str member.accessibility.spelling),
    ("is_static", .bool member.isStatic), ("is_virtual", .bool member.isVirtual),
    ("is_abstract", .bool member.isAbstract), ("is_override", .bool member.isOverride),
    ("is_extern", .bool member.isExtern), ("hides_base_member", .bool member.hidesBaseMember),
    ("is_implicitly_declared", .bool member.isImplicitlyDeclared),
    ("is_record_generated", .bool member.isRecordGenerated),
    ("overridden_member", Json.option MemberId.encode member.overriddenMember),
    ("explicit_interface_impls", Json.list MemberId.encode member.explicitInterfaceImpls),
    ("implemented_interface_members",
      Json.list MemberId.encode member.implementedInterfaceMembers),
    ("parameters", Json.list Parameter.encode member.parameters),
    ("declaration", Json.option DeclarationId.encode member.declaration),
    ("location", Json.option Location.encode member.location)]

/-- Reads a member. -/
def decode? (value : Json) : Option MemberSymbol := do
  let record ← value.record?
    ["name", "kind", "containing_type", "accessibility", "is_static", "is_virtual",
      "is_abstract", "is_override", "is_extern", "hides_base_member", "is_implicitly_declared",
      "is_record_generated", "overridden_member", "explicit_interface_impls",
      "implemented_interface_members", "parameters", "declaration", "location"]
  return {
    name := ← record.required? "name" Json.str?
    kind := ← record.orElse? "kind" .ordinary MemberKind.decode?
    containingType := ← record.orElse? "containing_type" none (Json.option? TypeId.decode?)
    accessibility := ← record.orElse? "accessibility" .privateAccess Accessibility.decode?
    isStatic := ← record.orElse? "is_static" false Json.bool?
    isVirtual := ← record.orElse? "is_virtual" false Json.bool?
    isAbstract := ← record.orElse? "is_abstract" false Json.bool?
    isOverride := ← record.orElse? "is_override" false Json.bool?
    isExtern := ← record.orElse? "is_extern" false Json.bool?
    hidesBaseMember := ← record.orElse? "hides_base_member" false Json.bool?
    isImplicitlyDeclared := ← record.orElse? "is_implicitly_declared" false Json.bool?
    isRecordGenerated := ← record.orElse? "is_record_generated" false Json.bool?
    overriddenMember := ← record.orElse? "overridden_member" none
      (Json.option? MemberId.decode?)
    explicitInterfaceImpls := ← record.orElse? "explicit_interface_impls" []
      (Json.list? MemberId.decode?)
    implementedInterfaceMembers := ← record.orElse? "implemented_interface_members" []
      (Json.list? MemberId.decode?)
    parameters := ← record.orElse? "parameters" [] (Json.list? Parameter.decode?)
    declaration := ← record.orElse? "declaration" none (Json.option? DeclarationId.decode?)
    location := ← record.orElse? "location" none (Json.option? Location.decode?) }

end MemberSymbol

/-! ## Declarations and programs -/

namespace DeclarationKind

/-- How a kind of declaration is spelled. -/
def spelling : DeclarationKind → String
  | .method => "method"
  | .constructor => "constructor"
  | .localFunction => "local_function"
  | .accessor => "accessor"
  | .initializer => "initializer"

/-- Reads a kind of declaration. -/
def decode? : Json → Option DeclarationKind :=
  Json.choice? spelling [.method, .constructor, .localFunction, .accessor, .initializer]

end DeclarationKind

namespace Declaration

/-- Writes a declaration. -/
def encode (declaration : Declaration) : Json :=
  .obj [("name", .str declaration.name), ("kind", .str declaration.kind.spelling),
    ("symbol", Json.option MemberId.encode declaration.symbol),
    ("file", declaration.file.encode), ("span", declaration.span.encode),
    ("modifiers_span", Json.option Span.encode declaration.modifiersSpan),
    ("attributes", Json.list Attribute.encode declaration.attributes),
    ("body", Json.option Body.encode declaration.body)]

/-- Reads a declaration. -/
def decode? (value : Json) : Option Declaration := do
  let record ← value.record?
    ["name", "kind", "symbol", "file", "span", "modifiers_span", "attributes", "body"]
  return {
    name := ← record.required? "name" Json.str?
    kind := ← record.required? "kind" DeclarationKind.decode?
    symbol := ← record.orElse? "symbol" none (Json.option? MemberId.decode?)
    file := ← record.required? "file" SourcePath.decode?
    span := ← record.orElse? "span" {} Span.decode?
    modifiersSpan := ← record.orElse? "modifiers_span" none (Json.option? Span.decode?)
    attributes := ← record.orElse? "attributes" [] (Json.list? Attribute.decode?)
    body := ← record.orElse? "body" none (Json.option? Body.decode?) }

end Declaration

namespace Program

/-- Writes a program. -/
def encode (program : Program) : Json :=
  .obj [("types", Json.list TypeSymbol.encode program.types),
    ("members", Json.list MemberSymbol.encode program.members),
    ("declarations", Json.list Declaration.encode program.declarations)]

/-- Reads a program that has not been normalized. -/
def decode? (value : Json) : Option Program := do
  let record ← value.record? ["types", "members", "declarations"]
  return {
    types := ← record.orElse? "types" [] (Json.list? TypeSymbol.decode?)
    members := ← record.orElse? "members" [] (Json.list? MemberSymbol.decode?)
    declarations := ← record.orElse? "declarations" [] (Json.list? Declaration.decode?) }

/-- Reads a program out of a text; what is read of it nests within the limit of
the format. -/
def parse? (text : String) : Option Program :=
  (Json.parseWithin? Json.modelDepthLimit text).bind decode?

end Program

end StructureLint
