import StructureLint.Program.Codec
import StructureLint.Proofs.Syntax.Codec

/-!
Contract: programs are read back from their written form.

What is not part of the exchange format, the member index and the mark of a
normalized program, is as in a program that was never normalized.

Owns:
- attributes, symbols and declarations, read back from their written form;
- whole programs, read back from theirs.
-/

namespace StructureLint

open Json

/-! ## Attributes -/

@[simp] theorem AttributeValue.decode?_encode (value : AttributeValue) :
    AttributeValue.decode? value.encode = some value := by
  cases value with
  | int value => rw [encode, decode?, int64?_int, Option.map_some] <;> simp
  | bool value => rfl
  | str value => rfl

@[simp] theorem AttributeArgument.decode?_encode (argument : AttributeArgument) :
    AttributeArgument.decode? argument.encode = some argument := by
  rw [decode?, encode, record?_obj _ (by simp), Option.bind_eq_bind, Option.bind_some]
  simp [option?_option argument.name str?_str nofun]

@[simp] theorem Attribute.decode?_encode (mark : Attribute) :
    Attribute.decode? mark.encode = some mark := by
  rw [decode?, encode, record?_obj _ (by simp), Option.bind_eq_bind, Option.bind_some]
  simp [list?_list]

/-! ## Symbols -/

@[simp] theorem TypeKind.decode?_spelling (kind : TypeKind) :
    TypeKind.decode? (.str kind.spelling) = some kind := by
  cases kind <;> rfl

@[simp] theorem Accessibility.decode?_spelling (accessibility : Accessibility) :
    Accessibility.decode? (.str accessibility.spelling) = some accessibility := by
  cases accessibility <;> rfl

@[simp] theorem MemberKind.decode?_spelling (kind : MemberKind) :
    MemberKind.decode? (.str kind.spelling) = some kind := by
  cases kind <;> rfl

@[simp] theorem DeclarationKind.decode?_spelling (kind : DeclarationKind) :
    DeclarationKind.decode? (.str kind.spelling) = some kind := by
  cases kind <;> rfl

@[simp] theorem TypeSymbol.decode?_encode (symbol : TypeSymbol) :
    TypeSymbol.decode? symbol.encode = some symbol := by
  rw [decode?, encode, record?_obj _ (by simp), Option.bind_eq_bind, Option.bind_some]
  simp [option?_option, list?_list]

@[simp] theorem Parameter.decode?_encode (parameter : Parameter) :
    Parameter.decode? parameter.encode = some parameter := by
  rw [decode?, encode, record?_obj _ (by simp), Option.bind_eq_bind, Option.bind_some]
  simp

@[simp] theorem MemberSymbol.decode?_encode (member : MemberSymbol) :
    MemberSymbol.decode? member.encode = some member := by
  rw [decode?, encode, record?_obj _ (by simp), Option.bind_eq_bind, Option.bind_some]
  simp [option?_option, list?_list]

/-! ## Declarations and programs -/

@[simp] theorem Declaration.decode?_encode (declaration : Declaration) :
    Declaration.decode? declaration.encode = some declaration := by
  rw [decode?, encode, record?_obj _ (by simp), Option.bind_eq_bind, Option.bind_some]
  simp [option?_option, list?_list]

/-- Every program is read back from its written form, all its types, members
and declarations included. -/
theorem Program.decode?_encode_arenas (program : Program) :
    Program.decode? program.encode = some
      { types := program.types, members := program.members,
        declarations := program.declarations } := by
  rw [decode?, encode, record?_obj _ (by simp), Option.bind_eq_bind, Option.bind_some]
  simp [list?_list]

end StructureLint
