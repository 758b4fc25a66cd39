import StructureLint.SourcePath

/-!
Contract: what the command line asks of a file system.

The file system is a record of operations in any monad, so that the same
command runs on the disk of the machine and on one in memory.

Owns:
- kinds of entries, errors, and listings of directories;
- the record of operations.

Does not own: any file system.
-/

namespace StructureLint

/-- What stands at a path. -/
inductive EntryKind where
  | file
  | directory
  | missing
  deriving DecidableEq, Repr

/-- Why a file cannot be read or written. -/
inductive DiskError where
  | missing
  | notDirectory
  | isDirectory
  | other (reason : String)
  deriving DecidableEq, Repr

/-- The reason in words. -/
def DiskError.message : DiskError → String
  | .missing => "No such file or directory (os error 2)"
  | .notDirectory => "Not a directory (os error 20)"
  | .isDirectory => "Is a directory (os error 21)"
  | .other reason => reason

/-- What a directory says about walks through it: the texts of its `.ignore` and
`.gitignore` files and of the exclusions of its repository, whether it is the
top of a repository, and what is wrong with that repository. -/
structure WalkNotes where
  ignoreText : String := ""
  trackingText : String := ""
  excludeText : String := ""
  isRepository : Bool := false
  problem : Option String := none
  deriving Inhabited

/-- The tree of names below an entry. -/
inductive Listing where
  | file
  | directory (notes : WalkNotes) (entries : List (String × Listing))
  deriving Inhabited

/-- A directory above the one at hand, and the names that lead down from it. -/
structure DirectoryAbove where
  path : List String
  notes : WalkNotes

/-- The operations of a file system. -/
structure Disk (m : Type → Type) where
  /-- What stands at a path. -/
  kind : SourcePath → m EntryKind
  /-- The text of a file. -/
  read : SourcePath → m (Except DiskError String)
  /-- The tree below a path. -/
  list : SourcePath → m Listing
  /-- The directories above a path, nearest first. -/
  above : SourcePath → m (List DirectoryAbove)
  /-- Replaces the text of a file. -/
  write : SourcePath → String → m (Except DiskError Unit)

end StructureLint
