import StructureLint.Disk.Notes

/-!
Contract: a file system in memory.

Paths are followed segment by segment from the working directory.  Nothing
stands above the working directory, and nothing at an absolute path but the null
device, which is empty and no file.

Owns:
- trees of files, look-ups, changes and listings;
- the operations of a file system on such a tree.
-/

namespace StructureLint

/-- A file or a directory. -/
inductive DiskNode where
  | file (content : String)
  | directory (entries : List (String × DiskNode))
  deriving Inhabited

namespace DiskNode

/-- The segments of a path. -/
def segments (path : SourcePath) : List String :=
  (path.text.toList.splitOn '/').map String.ofList

/-- Follows segments from the first of the directories entered so far. -/
def follow : List String → List DiskNode → Except DiskError (List DiskNode)
  | [], entered => .ok entered
  | _ :: _, [] => .error .missing
  | _ :: _, .file _ :: _ => .error .notDirectory
  | segment :: rest, .directory entries :: outer =>
    if segment == "" || segment == "." then
      follow rest (.directory entries :: outer)
    else if segment == ".." then
      follow rest outer
    else
      match entries.lookup segment with
      | none => .error .missing
      | some node => follow rest (node :: .directory entries :: outer)

/-- What stands at a path. -/
def at? (root : DiskNode) (path : SourcePath) : Except DiskError DiskNode :=
  if path.text == "" || path.text.toList.head? == some '/' then
    .error .missing
  else
    match follow (segments path) [root] with
    | .error error => .error error
    | .ok [] => .error .missing
    | .ok (node :: _) => .ok node

/-- The text of a file. -/
def content : DiskNode → Except DiskError String
  | .file content => .ok content
  | .directory _ => .error .isDirectory

/-- The path of the null device. -/
def nullDevice : SourcePath := ⟨"/dev/null"⟩

/-- The text that is read at a path. -/
def textAt (root : DiskNode) (path : SourcePath) : Except DiskError String :=
  if path.Same nullDevice then .ok "" else (root.at? path).bind content

/-- The tree with a file set at names that lead through its directories. -/
def set (content : String) : List String → DiskNode → Except DiskError DiskNode
  | [], .file _ => .ok (.file content)
  | [], .directory _ => .error .isDirectory
  | _ :: _, .file _ => .error .notDirectory
  | name :: rest, .directory entries =>
    let others := entries.filter fun entry => entry.1 != name
    match entries.lookup name, rest with
    | none, [] => .ok (.directory (others ++ [(name, .file content)]))
    | none, _ => .error .missing
    | some node, _ =>
      match set content rest node with
      | .error error => .error error
      | .ok node => .ok (.directory (others ++ [(name, node)]))

/-- The tree with a node put at names; directories are made on the way. -/
def put (node : DiskNode) : List String → DiskNode → DiskNode
  | [], _ => node
  | name :: rest, .file _ => .directory [(name, put node rest (.directory []))]
  | name :: rest, .directory entries =>
    .directory (entries.filter (fun entry => entry.1 != name) ++
      [(name, put node rest ((entries.lookup name).getD (.directory [])))])

/-- The names that a path leads through, if it stays below the working directory. -/
def names? (path : SourcePath) : Option (List String) :=
  (segments path).foldlM
    (fun names segment =>
      if segment == "" || segment == "." then some names
      else if segment == ".." then (if names.isEmpty then none else some names.dropLast)
      else some (names ++ [segment]))
    []

/-- What stands at a path. -/
def kindAt (root : DiskNode) (path : SourcePath) : EntryKind :=
  match root.at? path with
  | .ok (.file _) => .file
  | .ok (.directory _) => .directory
  | .error _ => .missing

/-- The entries and texts of the tree. -/
def source (root : DiskNode) : EntrySource Id where
  kind path := root.kindAt path
  read path := root.textAt path

mutual

/-- The tree of names below a node that stands at a path. -/
def listing (root : DiskNode) (path : SourcePath) : DiskNode → Listing
  | .file _ => .file
  | .directory entries =>
    .directory (root.source.notes path) (listingEntries root path entries)

/-- The trees of names of the entries of a directory at a path. -/
def listingEntries (root : DiskNode) (directory : SourcePath) :
    List (String × DiskNode) → List (String × Listing)
  | [] => []
  | (name, node) :: rest =>
    (name, listing root (directory.join ⟨name⟩) node) :: listingEntries root directory rest

end

/-- The tree of names below a path. -/
def listingAt (root : DiskNode) (path : SourcePath) : Listing :=
  match root.at? path with
  | .ok node => listing root path node
  | .error _ => .directory {} []

/-- The directories above a path, nearest first. -/
def above (root : DiskNode) (path : SourcePath) : List DirectoryAbove :=
  match names? path with
  | none => []
  | some names => root.source.above ⟨"."⟩ names

/-- The tree with a file set at a path. -/
def write (root : DiskNode) (path : SourcePath) (content : String) : Except DiskError DiskNode :=
  match names? path with
  | none => .error .missing
  | some names => root.set content names

/-- The operations on the tree. -/
def disk : Disk (StateM DiskNode) where
  kind path := return (← get).kindAt path
  read path := return (← get).textAt path
  list path := return (← get).listingAt path
  above path := return (← get).above path
  write path content := do
    match (← get).write path content with
    | .error error => return .error error
    | .ok root =>
      StateT.set root
      return .ok ()

end DiskNode

end StructureLint
