import Mathlib.Data.List.Infix
import StructureLint.Program.Draft

/-!
Contract: what a call on a draft adds.

The calls that build a program come down to four kinds of additions and the choice
of a file: a method, a constructor and a local function are members with a
declaration, a class and a struct are types.  Whatever is added stands behind what
is there, so that a draft only ever grows.

Owns:
- calls on a draft, and the numbers they hand out;
- what a call adds, and the draft behind it;
- runs of calls, and programs that extend each other.

Does not own: what the numbers refer to, or where items are placed.
-/

namespace StructureLint

/-- The name of a type, which is empty where there is no such type. -/
def Program.typeName (program : Program) (id : TypeId) : String :=
  ((program.type? id).map TypeSymbol.name).getD ""

namespace Draft

/-! ## Calls -/

/-- A call on a draft. -/
inductive Call where
  | inFile (file : SourcePath)
  | addType (symbol : TypeSymbol)
  | addClass (name : String) (baseType : Option TypeId)
  | addStruct (name : String)
  | addSymbol (member : MemberSymbol)
  | declare (member : MemberSymbol) (kind : DeclarationKind) (body : Option Body)
  | addMethod (owner : TypeId) (name : String) (parameters : List (String × String))
      (stmts : List Stmt)
  | addConstructor (owner : TypeId) (parameters : List (String × String)) (stmts : List Stmt)
  | addLocalFunction (owner : TypeId) (name : String) (parameters : List (String × String))
      (stmts : List Stmt)
  | addDeclaration (declaration : Declaration)

namespace Call

/-- Makes the call, and yields the number that it hands out, if any. -/
def perform : Call → Drafting (Option Reference)
  | inFile file => do
    Draft.inFile file
    return none
  | addType symbol => return some (.type (← Draft.addType symbol))
  | addClass name baseType => return some (.type (← Draft.addClass name baseType))
  | addStruct name => return some (.type (← Draft.addStruct name))
  | addSymbol member => return some (.member (← Draft.addSymbol member))
  | declare member kind body => return some (.member (← Draft.declare member kind body))
  | addMethod owner name parameters stmts =>
    return some (.member (← Draft.addMethod owner name parameters stmts))
  | addConstructor owner parameters stmts =>
    return some (.member (← Draft.addConstructor owner parameters stmts))
  | addLocalFunction owner name parameters stmts =>
    return some (.declaration (← Draft.addLocalFunction owner name parameters stmts))
  | addDeclaration declaration =>
    return some (.declaration (← Draft.addDeclaration declaration))

/-- The call hands out a declaration where others hand out its member. -/
def isLocalFunction : Call → Bool
  | addLocalFunction .. => true
  | _ => false

end Call

/-! ## Additions -/

/-- What a call comes down to. -/
inductive Addition where
  | file (file : SourcePath)
  | type (symbol : TypeSymbol)
  | symbol (member : MemberSymbol)
  | declared (member : MemberSymbol) (kind : DeclarationKind) (body : Option Body)
  | declaration (declaration : Declaration)

/-- What the call adds, where types have those names: a constructor has the name of its
type. -/
def Call.addition (typeName : TypeId → String) : Call → Addition
  | inFile file => .file file
  | addType symbol => .type symbol
  | addClass name baseType => .type { name, kind := .classType, baseType }
  | addStruct name => .type { name, kind := .structType }
  | addSymbol member => .symbol member
  | declare member kind body => .declared member kind body
  | addMethod owner name parameters stmts =>
    .declared (publicMember owner name .ordinary parameters) .method (blockBody stmts)
  | addConstructor owner parameters stmts =>
    .declared (publicMember owner (typeName owner) .constructor parameters) .constructor
      (blockBody stmts)
  | addLocalFunction owner name parameters stmts =>
    .declared
      { publicMember owner name .localFunction parameters with accessibility := .privateAccess }
      .localFunction (blockBody stmts)
  | addDeclaration declaration => .declaration declaration

/-- Where the next item is placed. -/
def here (draft : Draft) : Location :=
  .ofSpan draft.file (.at draft.nextLine 5)

/-- The type as it is added: with a location. -/
def placedType (draft : Draft) (symbol : TypeSymbol) : TypeSymbol :=
  { symbol with location := some (symbol.location.getD draft.here) }

/-- The member as it is added: with its declaration, and with a location unless nobody
wrote it. -/
def placedMember (draft : Draft) (member : MemberSymbol) : MemberSymbol :=
  { member with
    location :=
      match member.location with
      | some location => some location
      | none => if member.isImplicitlyDeclared then none else some draft.here
    declaration := some draft.nextDeclaration }

/-- The declaration that is added for a member. -/
def placedDeclaration (draft : Draft) (member : MemberSymbol) (kind : DeclarationKind)
    (body : Option Body) : Declaration where
  name := member.name
  kind := kind
  symbol := some draft.nextMember
  file := draft.file
  span := .at draft.nextLine 5
  modifiersSpan := some (.at draft.nextLine 1)
  body := body

/-- The addition takes a line of the current file. -/
def Addition.isPlaced : Addition → Bool
  | type added => added.location.isNone
  | declared .. => true
  | _ => false

/-- The program behind the addition. -/
def programWith (draft : Draft) : Addition → Program
  | .file _ => draft.program
  | .type symbol =>
    { draft.program with types := draft.program.types ++ [draft.placedType symbol] }
  | .symbol member => { draft.program with members := draft.program.members ++ [member] }
  | .declared member kind body =>
    { draft.program with
      members := draft.program.members ++ [draft.placedMember member]
      declarations := draft.program.declarations ++ [draft.placedDeclaration member kind body] }
  | .declaration declaration =>
    { draft.program with declarations := draft.program.declarations ++ [declaration] }

/-- The draft behind the addition. -/
def adding (draft : Draft) (addition : Addition) : Draft where
  program := draft.programWith addition
  file :=
    match addition with
    | .file file => file
    | _ => draft.file
  nextLine :=
    match addition with
    | .file _ => 1
    | _ => if addition.isPlaced then draft.nextLine + 1 else draft.nextLine

/-- The number that a call hands out for what it adds. -/
def answer (draft : Draft) (call : Call) : Addition → Option Reference
  | .file _ => none
  | .type _ => some (.type draft.nextType)
  | .symbol _ => some (.member draft.nextMember)
  | .declared .. =>
    some (if call.isLocalFunction then .declaration draft.nextDeclaration
      else .member draft.nextMember)
  | .declaration _ => some (.declaration draft.nextDeclaration)

/-- What a call adds to a draft. -/
def additionOf (draft : Draft) (call : Call) : Addition :=
  call.addition draft.program.typeName

theorem run_addType (symbol : TypeSymbol) (draft : Draft) :
    (addType symbol).run draft = (draft.nextType, draft.adding (.type symbol)) := by
  obtain ⟨name, kind, isSealed, baseType, interfaces, location⟩ := symbol
  cases location <;> rfl

/-- A call hands out the next number and adds what it comes down to. -/
theorem run_perform (call : Call) (draft : Draft) :
    call.perform.run draft =
      (draft.answer call (draft.additionOf call), draft.adding (draft.additionOf call)) := by
  cases call with
  | addType symbol =>
      unfold Call.perform
      rw [StateT.run_bind, run_addType]
      rfl
  | _ => rfl

/-! ## Runs -/

/-- Makes the calls in sequence, and yields what they hand out. -/
def performAll (calls : List Call) : Drafting (List (Option Reference)) :=
  calls.mapM Call.perform

theorem run_performAll_cons (call : Call) (rest : List Call) (draft : Draft) :
    (performAll (call :: rest)).run draft =
      let later := (performAll rest).run (draft.adding (draft.additionOf call))
      (draft.answer call (draft.additionOf call) :: later.1, later.2) := by
  unfold performAll
  rw [List.mapM_cons, StateT.run_bind, run_perform]
  rfl

/-- The draft that calls on a new one leave behind. -/
def drafted (calls : List Call) : Draft :=
  ((performAll calls).run {}).2

/-- Calls on a new draft, each with what it hands out. -/
def transcript (calls : List Call) : List (Call × Option Reference) :=
  calls.zip ((performAll calls).run {}).1

end Draft

/-! ## Growth -/

namespace Program

/-- Every arena of the first program stands at the front of that of the second. -/
structure Extends (before after : Program) : Prop where
  types : before.types <+: after.types
  members : before.members <+: after.members
  declarations : before.declarations <+: after.declarations

theorem Extends.refl (program : Program) : Extends program program :=
  ⟨List.prefix_rfl, List.prefix_rfl, List.prefix_rfl⟩

theorem Extends.trans {before middle after : Program} (first : Extends before middle)
    (second : Extends middle after) : Extends before after where
  types := first.types.trans second.types
  members := first.members.trans second.members
  declarations := first.declarations.trans second.declarations

end Program

namespace Draft

theorem extends_programWith (draft : Draft) (addition : Addition) :
    draft.program.Extends (draft.programWith addition) := by
  cases addition with
  | file file => exact .refl _
  | type symbol => exact ⟨List.prefix_append _ _, List.prefix_rfl, List.prefix_rfl⟩
  | symbol member => exact ⟨List.prefix_rfl, List.prefix_append _ _, List.prefix_rfl⟩
  | declared member kind body =>
      exact ⟨List.prefix_rfl, List.prefix_append _ _, List.prefix_append _ _⟩
  | declaration declaration => exact ⟨List.prefix_rfl, List.prefix_rfl, List.prefix_append _ _⟩

/-- A run of calls ends with a draft that extends the one it begins with. -/
theorem extends_performAll (calls : List Call) (draft : Draft) :
    draft.program.Extends ((performAll calls).run draft).2.program := by
  induction calls generalizing draft with
  | nil => exact .refl _
  | cons call rest inductionHypothesis =>
      rw [run_performAll_cons]
      refine (draft.extends_programWith (draft.additionOf call)).trans ?_
      exact inductionHypothesis (draft.adding (draft.additionOf call))

end Draft

end StructureLint
