import StructureLint.Program.Orbit
import StructureLint.Program.Symbol
import StructureLint.Syntax.Numbering

/-!
Contract: programs and the questions asked of them.

A program holds its types, members and declarations in arenas; an identifier
is an index into one of them and may be out of range until the program has
been normalized.

Owns:
- look-ups, chains of base types and of overridden members;
- the references of a program and what it means for them to resolve;
- normalization: check of every reference, numbering of every node, and the
  index from types to members; as a function, and as work on a program that
  its owner keeps.

Does not own: the exchange format of programs.
-/

namespace StructureLint

/-- A program. -/
structure Program where
  types : List TypeSymbol := []
  members : List MemberSymbol := []
  declarations : List Declaration := []
  /-- Which members a type has, as of the last normalization. -/
  memberIndex : List (TypeId × MemberId) := []
  isNormalized : Bool := false
  deriving Inhabited

namespace Program

/-! ## Look-ups -/

/-- The type with that number. -/
def type? (program : Program) (id : TypeId) : Option TypeSymbol :=
  program.types[id.index.toNat]?

/-- The member with that number. -/
def member? (program : Program) (id : MemberId) : Option MemberSymbol :=
  program.members[id.index.toNat]?

/-- The declaration with that number. -/
def declaration? (program : Program) (id : DeclarationId) : Option Declaration :=
  program.declarations[id.index.toNat]?

/-- The body of a declaration. -/
def body? (program : Program) (id : DeclarationId) : Option Body :=
  (program.declaration? id).bind Declaration.body

/-- The types with their numbers. -/
def numberedTypes (program : Program) : List (TypeId × TypeSymbol) :=
  program.types.zipIdx.map fun entry => (⟨UInt32.ofNat entry.2⟩, entry.1)

/-- The members with their numbers. -/
def numberedMembers (program : Program) : List (MemberId × MemberSymbol) :=
  program.members.zipIdx.map fun entry => (⟨UInt32.ofNat entry.2⟩, entry.1)

/-- The declarations with their numbers. -/
def numberedDeclarations (program : Program) : List (DeclarationId × Declaration) :=
  program.declarations.zipIdx.map fun entry => (⟨UInt32.ofNat entry.2⟩, entry.1)

/-- The members of a type in ascending order, as of the last normalization. -/
def membersOf (program : Program) (id : TypeId) : List MemberId :=
  (program.memberIndex.filter fun entry => entry.1 == id).map Prod.snd

/-- The type followed by its base types, most derived first. -/
def baseChain (program : Program) (id : TypeId) : List TypeId :=
  orbit (fun current => (program.type? current).bind TypeSymbol.baseType)
    (program.types.length + 1) [] id

/-- The member followed by the members it overrides, most derived first. -/
def overrideChain (program : Program) (id : MemberId) : List MemberId :=
  orbit (fun current => (program.member? current).bind MemberSymbol.overriddenMember)
    (program.members.length + 1) [] id

/-- The declaration with the symbol's number, if the symbol names one that exists. -/
def declarationOf? (program : Program) (member : MemberSymbol) : Option Declaration :=
  member.declaration.bind program.declaration?

/-- The symbol of a declaration. -/
def symbolOf? (program : Program) (declaration : Declaration) : Option MemberSymbol :=
  declaration.symbol.bind program.member?

end Program

/-! ## References -/

/-- A reference from one entry of a program to another. -/
inductive Reference where
  | type (id : TypeId)
  | member (id : MemberId)
  | declaration (id : DeclarationId)
  deriving DecidableEq, Repr

/-- The entry that holds a reference, by its name. -/
inductive ReferenceHolder where
  | type (name : String)
  | member (name : String)
  | declaration (name : String)
  | body (name : String)
  deriving DecidableEq, Repr

/-- A program is refused because of a reference that leads nowhere. -/
structure DanglingReference where
  reference : Reference
  holder : ReferenceHolder
  deriving DecidableEq, Repr

/-- The kind and the number of a reference. -/
def Reference.describe : Reference → String
  | .type id => "type reference " ++ toString id.index.toNat
  | .member id => "member reference " ++ toString id.index.toNat
  | .declaration id => "declaration reference " ++ toString id.index.toNat

/-- The kind and the name of a holder. -/
def ReferenceHolder.describe : ReferenceHolder → String
  | .type name => "type `" ++ name ++ "`"
  | .member name => "member `" ++ name ++ "`"
  | .declaration name => "declaration `" ++ name ++ "`"
  | .body name => "body of `" ++ name ++ "`"

/-- The text of the refusal. -/
def DanglingReference.message (dangling : DanglingReference) : String :=
  "dangling " ++ dangling.reference.describe ++ " in " ++ dangling.holder.describe

/-- The references of a type: its base type, then its interfaces. -/
def TypeSymbol.references (symbol : TypeSymbol) : List DanglingReference :=
  (symbol.baseType.toList ++ symbol.interfaces).map fun id =>
    { reference := .type id, holder := .type symbol.name }

/-- The references of a member: its type, related members, its declaration. -/
def MemberSymbol.references (member : MemberSymbol) : List DanglingReference :=
  let targets :=
    member.containingType.toList.map Reference.type ++
      (member.overriddenMember.toList ++ member.explicitInterfaceImpls ++
        member.implementedInterfaceMembers).map Reference.member ++
      member.declaration.toList.map Reference.declaration
  targets.map fun reference => { reference, holder := .member member.name }

/-- The references of a declaration: its symbol, then the local functions of its body. -/
def Declaration.references (declaration : Declaration) : List DanglingReference :=
  (declaration.symbol.toList.map fun id =>
    { reference := .member id, holder := .declaration declaration.name }) ++
  (declaration.body.toList.flatMap Body.localFunctions).map fun id =>
    { reference := .declaration id, holder := .body declaration.name }

namespace Program

/-- Every reference of a program with its holder, in the order of checking. -/
def references (program : Program) : List DanglingReference :=
  program.types.flatMap TypeSymbol.references ++
    program.members.flatMap MemberSymbol.references ++
    program.declarations.flatMap Declaration.references

/-- The reference lies inside its arena. -/
def Resolves (program : Program) : Reference → Prop
  | .type id => id.index.toNat < program.types.length
  | .member id => id.index.toNat < program.members.length
  | .declaration id => id.index.toNat < program.declarations.length

instance (program : Program) (reference : Reference) : Decidable (program.Resolves reference) := by
  cases reference <;> unfold Resolves <;> infer_instance

/-- Every reference lies inside its arena. -/
def Closed (program : Program) : Prop :=
  ∀ entry ∈ program.references, program.Resolves entry.reference

instance (program : Program) : Decidable program.Closed := by
  unfold Closed
  infer_instance

/-! ## Normalization -/

/-- The first reference that leads nowhere. -/
def dangling? (program : Program) : Option DanglingReference :=
  program.references.find? fun entry => ¬ program.Resolves entry.reference

/-- Numbers the body of a declaration. -/
def numberDeclaration (declaration : Declaration) : Numbering Declaration := do
  match declaration.body with
  | none => return declaration
  | some body => return { declaration with body := some (← body.number) }

/-- Numbers the bodies of declarations in sequence. -/
def numberDeclarations : List Declaration → Numbering (List Declaration)
  | [] => return []
  | declaration :: rest => do
    let declaration ← numberDeclaration declaration
    return declaration :: (← numberDeclarations rest)

/-- The index from types to members. -/
def buildIndex (program : Program) : List (TypeId × MemberId) :=
  program.numberedMembers.filterMap fun entry =>
    entry.2.containingType.map fun owner => (owner, entry.1)

/-- Checks every reference, numbers every node from one on, and builds the
member index.  A refused program is left as it was. -/
def normalize (program : Program) : Except DanglingReference Program :=
  match program.dangling? with
  | some dangling => .error dangling
  | none =>
    .ok { program with
      declarations := ((numberDeclarations program.declarations).run 1).1
      memberIndex := program.buildIndex
      isNormalized := true }

/-! ## Normalization in place -/

/-- Work on a program in the hands of its owner, who keeps what is left of it
when the work stops at a dangling reference. -/
abbrev Rework := ExceptT DanglingReference (StateM Program)

/-- Stops at the first reference that leads nowhere. -/
def checkReferences : Rework Unit := do
  match (← get).dangling? with
  | some dangling => throw dangling
  | none => return ()

/-- Numbers every node from one on. -/
def renumber : Rework Unit :=
  modify fun program =>
    { program with declarations := ((numberDeclarations program.declarations).run 1).1 }

/-- Enters a member that belongs to a type at the end of the index. -/
def indexMember (entry : MemberId × MemberSymbol) : Rework Unit :=
  match entry.2.containingType with
  | none => return ()
  | some owner =>
    modify fun program => { program with memberIndex := program.memberIndex ++ [(owner, entry.1)] }

/-- Empties the index and enters the members one by one. -/
def reindex : Rework Unit := do
  modify fun program => { program with memberIndex := [] }
  (← get).numberedMembers.forM indexMember

/-- Normalizes a program step by step: its references are checked before
anything of it is changed. -/
def normalizeInPlace : Rework Unit := do
  checkReferences
  renumber
  reindex
  modify fun program => { program with isNormalized := true }

end Program

end StructureLint
