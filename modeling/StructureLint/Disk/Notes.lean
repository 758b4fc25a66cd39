import StructureLint.Disk
import StructureLint.Text.Line

/-!
Contract: what a directory says about walks through it.

A directory with an entry `.git` or `.jj` is the top of a repository.  The
exclusions of a repository are in `.git/info/exclude`.  Where `.git` is a file
it names a directory whose `commondir` file leads to the place of the
exclusions.

Owns:
- reading the notes of a directory, from any source of entries and texts;
- the notes of the directories that lead to a path.
-/

namespace StructureLint

/-- A source of entries and texts. -/
structure EntrySource (m : Type → Type) where
  kind : SourcePath → m EntryKind
  read : SourcePath → m (Except DiskError String)

namespace EntrySource

variable {m : Type → Type} [Monad m]

/-- The text of a file; empty if it cannot be read. -/
def textOf (source : EntrySource m) (path : SourcePath) : m String := do
  return match ← source.read path with
    | .ok text => text
    | .error _ => ""

/-- The text behind a start that it must have. -/
def behind? (start text : String) : Option String :=
  if start.toList.isPrefixOf text.toList then
    some (String.ofList (text.toList.drop start.length))
  else
    none

/-- Where the path in a `commondir` file leads from the directory that holds it. -/
def commonDirectory (directory : SourcePath) (line : String) : SourcePath :=
  if line.toList.head? == some '.' then directory.join ⟨line⟩ else ⟨line⟩

/-- The directory with the exclusions of a repository, if there is one, or what
is wrong with the repository. -/
def repositoryDirectory (source : EntrySource m) (directory : SourcePath) :
    m (Except String (Option SourcePath)) := do
  let place := directory.join ⟨".git"⟩
  if (← source.kind place) != .file then
    return .ok (some place)
  else
    match (Text.firstLine? (← source.textOf place)).bind (behind? "gitdir: ") with
    | none => return .ok none
    | some target =>
      let pointer := SourcePath.join ⟨target⟩ ⟨"commondir"⟩
      match ← source.read pointer with
      | .error error => return .error (pointer.text ++ ": " ++ error.message)
      | .ok text => return .ok ((Text.firstLine? text).map (commonDirectory ⟨target⟩))

/-- An entry of that name stands in the directory. -/
def has (source : EntrySource m) (directory : SourcePath) (name : String) : m Bool := do
  return (← source.kind (directory.join ⟨name⟩)) != .missing

/-- The notes of a directory. -/
def notes (source : EntrySource m) (directory : SourcePath) : m WalkNotes := do
  let repository ← source.repositoryDirectory directory
  let excludeText ←
    match repository with
    | .ok (some place) => source.textOf (place.join ⟨"info/exclude"⟩)
    | _ => pure ""
  return {
    ignoreText := ← source.textOf (directory.join ⟨".ignore"⟩)
    trackingText := ← source.textOf (directory.join ⟨".gitignore"⟩)
    excludeText
    isRepository := (← source.has directory ".git") || (← source.has directory ".jj")
    problem := match repository with
      | .error problem => some problem
      | .ok _ => none }

/-- The directories above the end of a list of names that starts at a directory,
nearest first. -/
def above (source : EntrySource m) (directory : SourcePath) :
    List String → m (List DirectoryAbove)
  | [] => return []
  | name :: rest => do
    let own : DirectoryAbove := { path := name :: rest, notes := ← source.notes directory }
    return (← source.above (directory.join ⟨name⟩) rest) ++ [own]

end EntrySource

end StructureLint
