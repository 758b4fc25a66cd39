import StructureLint.Program.Basic

/-!
Contract: which declarations are measured.

A declaration is left alone when its shape follows from something that its
author does not control.

Owns:
- the reasons to leave a declaration alone, in order of precedence.
-/

namespace StructureLint

/-- Why a declaration is left alone. -/
inductive Exclusion where
  | synthesized
  | accessor
  | overriding
  | explicitInterfaceImpl
  | hidesBase
  | recordGenerated
  deriving DecidableEq, Repr

namespace Exclusion

/-- The reason in one word. -/
def name : Exclusion → String
  | .synthesized => "Synthesized"
  | .accessor => "Accessor"
  | .overriding => "Override"
  | .explicitInterfaceImpl => "ExplicitInterfaceImpl"
  | .hidesBase => "HidesBase"
  | .recordGenerated => "RecordGenerated"

/-- The reason in words. -/
def reason : Exclusion → String
  | .synthesized => "compiler-synthesized"
  | .accessor => "accessor"
  | .overriding => "overrides a base member"
  | .explicitInterfaceImpl => "explicit interface implementation"
  | .hidesBase => "hides a base member"
  | .recordGenerated => "record-generated member"

/-- The reasons in order of precedence. -/
def all : List Exclusion :=
  [.synthesized, .accessor, .overriding, .explicitInterfaceImpl, .hidesBase, .recordGenerated]

/-- The reason applies to a declaration with that symbol. -/
def applies (declaration : Declaration) (symbol : Option MemberSymbol) : Exclusion → Bool
  | .synthesized => declaration.span.line == 0 || symbol.any MemberSymbol.isImplicitlyDeclared
  | .accessor => declaration.kind == .accessor || symbol.any fun member => member.kind.isAccessor
  | .overriding => symbol.any MemberSymbol.overrides
  | .explicitInterfaceImpl =>
    symbol.any fun member =>
      member.kind == .explicitInterfaceImplementation || !member.explicitInterfaceImpls.isEmpty
  | .hidesBase => symbol.any MemberSymbol.hidesBaseMember
  | .recordGenerated => symbol.any MemberSymbol.isRecordGenerated

end Exclusion

namespace Program

/-- The first reason to leave a declaration alone. -/
def exclusion? (program : Program) (declaration : Declaration) : Option Exclusion :=
  Exclusion.all.find? (Exclusion.applies declaration (program.symbolOf? declaration))

/-- The declaration is measured. -/
def isEligible (program : Program) (declaration : Declaration) : Bool :=
  (program.exclusion? declaration).isNone

end Program

end StructureLint
