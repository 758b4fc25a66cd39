import StructureLint.Program.Basic

/-!
Contract: programs built step by step.

A draft places what it is given on the next line of its current file, which
starts again at line one whenever a file is chosen.

Owns:
- steps that add types, members and declarations, and the numbers they get;
- steps that change what was added;
- completion by normalization.

Does not own: the bodies of declarations.
-/

namespace StructureLint

/-- A program under construction, and where the next item is placed. -/
structure Draft where
  program : Program := {}
  file : SourcePath := ⟨"src/Program.cs"⟩
  nextLine : UInt64 := 1
  deriving Inhabited

/-- A step of the construction of a program. -/
abbrev Drafting := StateM Draft

namespace Draft

/-- The number of the next type. -/
def nextType (draft : Draft) : TypeId :=
  ⟨UInt32.ofNat draft.program.types.length⟩

/-- The number of the next member. -/
def nextMember (draft : Draft) : MemberId :=
  ⟨UInt32.ofNat draft.program.members.length⟩

/-- The number of the next declaration. -/
def nextDeclaration (draft : Draft) : DeclarationId :=
  ⟨UInt32.ofNat draft.program.declarations.length⟩

/-- Everything from here on is placed in the file. -/
def inFile (file : SourcePath) : Drafting Unit :=
  modify fun draft => { draft with file, nextLine := 1 }

/-- The place of the next item. -/
def place : Drafting Span :=
  modifyGet fun draft =>
    (.at draft.nextLine 5, { draft with nextLine := draft.nextLine + 1 })

/-- Adds an item behind the types. -/
def pushType (symbol : TypeSymbol) : Drafting TypeId :=
  modifyGet fun draft =>
    (draft.nextType,
      { draft with program.types := draft.program.types ++ [symbol] })

/-- Adds an item behind the members. -/
def addSymbol (member : MemberSymbol) : Drafting MemberId :=
  modifyGet fun draft =>
    (draft.nextMember,
      { draft with program.members := draft.program.members ++ [member] })

/-- Adds an item behind the declarations. -/
def addDeclaration (declaration : Declaration) : Drafting DeclarationId :=
  modifyGet fun draft =>
    (draft.nextDeclaration,
      { draft with program.declarations := draft.program.declarations ++ [declaration] })

/-- Adds a type.  One without a location is placed. -/
def addType (symbol : TypeSymbol) : Drafting TypeId := do
  match symbol.location with
  | some _ => pushType symbol
  | none =>
    let span ← place
    pushType { symbol with location := some (.ofSpan (← get).file span) }

/-- Adds a class, perhaps with a base class. -/
def addClass (name : String) (baseType : Option TypeId := none) : Drafting TypeId :=
  addType { name, kind := .classType, baseType }

/-- Adds a value type. -/
def addStruct (name : String) : Drafting TypeId :=
  addType { name, kind := .structType }

/-- Adds a member with its declaration.  The symbol is placed where the
declaration is, unless it has a location or no author. -/
def declare (member : MemberSymbol) (kind : DeclarationKind) (body : Option Body) :
    Drafting MemberId := do
  let span ← place
  let draft ← get
  let location :=
    match member.location with
    | some location => some location
    | none => if member.isImplicitlyDeclared then none else some (.ofSpan draft.file span)
  let declaration ← addDeclaration
    { name := member.name
      kind
      symbol := some draft.nextMember
      file := draft.file
      span
      modifiersSpan := some (.at span.line 1)
      body }
  addSymbol { member with location, declaration := some declaration }

/-- A public member of a type with plain parameters. -/
def publicMember (owner : TypeId) (name : String) (kind : MemberKind)
    (parameters : List (String × String)) : MemberSymbol :=
  { MemberSymbol.method name owner with
    kind
    parameters := parameters.map fun entry => { name := entry.1, typeName := entry.2 } }

/-- A body that is a block. -/
def blockBody (stmts : List Stmt) : Option Body :=
  some (.block (.ofStmts stmts))

/-- Adds a public method. -/
def addMethod (owner : TypeId) (name : String) (parameters : List (String × String))
    (stmts : List Stmt) : Drafting MemberId :=
  declare (publicMember owner name .ordinary parameters) .method (blockBody stmts)

/-- Adds a public constructor, which has the name of its type. -/
def addConstructor (owner : TypeId) (parameters : List (String × String)) (stmts : List Stmt) :
    Drafting MemberId := do
  let name := (((← get).program.type? owner).map TypeSymbol.name).getD ""
  declare (publicMember owner name .constructor parameters) .constructor (blockBody stmts)

/-- Adds a local function of some member of a type, and yields its declaration. -/
def addLocalFunction (owner : TypeId) (name : String) (parameters : List (String × String))
    (stmts : List Stmt) : Drafting DeclarationId := do
  let declaration := (← get).nextDeclaration
  let _ ← declare
    { publicMember owner name .localFunction parameters with accessibility := .privateAccess }
    .localFunction (blockBody stmts)
  return declaration

/-- Changes a type. -/
def modifyType (id : TypeId) (change : TypeSymbol → TypeSymbol) : Drafting Unit :=
  modify fun draft =>
    { draft with program.types := draft.program.types.modify id.index.toNat change }

/-- Changes a member. -/
def modifyMember (id : MemberId) (change : MemberSymbol → MemberSymbol) : Drafting Unit :=
  modify fun draft =>
    { draft with program.members := draft.program.members.modify id.index.toNat change }

/-- The number of the declaration of a member, if there is such a declaration. -/
def declarationOf? (draft : Draft) (id : MemberId) : Option DeclarationId := do
  let declaration ← (← draft.program.member? id).declaration
  let _ ← draft.program.declaration? declaration
  return declaration

/-- Changes the declaration of a member, and says whether it has one. -/
def modifyDeclaration (id : MemberId) (change : Declaration → Declaration) : Drafting Bool :=
  modifyGet fun draft =>
    match draft.declarationOf? id with
    | none => (false, draft)
    | some declaration =>
      (true,
        { draft with
          program.declarations :=
            draft.program.declarations.modify declaration.index.toNat change })

/-- Adds an attribute to the declaration of a member, and says whether it has one. -/
def addAttribute (id : MemberId) (mark : Attribute) : Drafting Bool :=
  modifyDeclaration id fun declaration =>
    { declaration with attributes := declaration.attributes ++ [mark] }

/-- The program, normalized. -/
def finish (draft : Draft) : Except DanglingReference Program :=
  draft.program.normalize

end Draft

end StructureLint
