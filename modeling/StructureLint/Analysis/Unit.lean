import StructureLint.Program.Basic

/-!
Contract: the files of a program.

Declarations belong to the file they name.  A type belongs to the file of its
own location, or else to that of its first declared member; a type with
neither belongs to no file.  Spellings of one path are one file, and the first
spelling names it.

Owns:
- the files of a program in order, with what belongs to each.

Does not own: what is done with a file.
-/

namespace StructureLint

/-- One file of a program. -/
structure FileUnit where
  file : SourcePath
  declarations : List (DeclarationId × Declaration) := []
  types : List (TypeId × TypeSymbol) := []

/-- The first spelling of every path. -/
def firstSpellings : List SourcePath → List SourcePath
  | [] => []
  | path :: rest => path :: (firstSpellings rest).filter fun other => ¬ path.Same other

namespace Program

/-- The file that a type belongs to. -/
def typeFile? (program : Program) (id : TypeId) (symbol : TypeSymbol) : Option SourcePath :=
  match symbol.location with
  | some location => some location.file
  | none =>
    ((program.membersOf id).filterMap program.member?).findSome? fun member =>
      (program.declarationOf? member).map Declaration.file

/-- The types that belong to a file, with that file. -/
def placedTypes (program : Program) : List (SourcePath × TypeId × TypeSymbol) :=
  program.numberedTypes.filterMap fun entry =>
    (program.typeFile? entry.1 entry.2).map fun file => (file, entry)

/-- The files of a program in order.  Types are left out unless `withTypes`. -/
def fileUnits (program : Program) (withTypes : Bool) : List FileUnit :=
  let declarations := program.numberedDeclarations
  let types := if withTypes then program.placedTypes else []
  let paths := firstSpellings
    (declarations.map (fun entry => entry.2.file) ++ types.map Prod.fst)
  (paths.mergeSort fun left right => (left.compare right).isLE).map fun file =>
    { file
      declarations := declarations.filter fun entry => file.Same entry.2.file
      types := (types.filter fun entry => file.Same entry.1).map Prod.snd }

end Program

end StructureLint
