/-!
Contract: source file paths and their order.

A path keeps the spelling it was given, and is compared by its components:
repeated separators, inner `.` segments and a trailing separator say nothing.

Owns:
- the components of a path;
- the order and the sameness of paths.

Does not own: whether a file exists.
-/

namespace StructureLint

/-- One step of a path. -/
inductive PathComponent where
  | root
  | current
  | parent
  | name (text : String)
  deriving DecidableEq, Repr, Inhabited

namespace PathComponent

/-- The kinds of steps sort as: root, current directory, parent, name. -/
def rank : PathComponent → Nat
  | root => 0
  | current => 1
  | parent => 2
  | name _ => 3

/-- The name of a named step. -/
def label : PathComponent → String
  | name text => text
  | _ => ""

/-- Steps sort by kind, and names among themselves by their characters. -/
def compare : PathComponent → PathComponent → Ordering :=
  compareLex (compareOn rank) (compareOn label)

end PathComponent

/-- A source file path as its author spelled it. -/
structure SourcePath where
  text : String
  deriving DecidableEq, Repr, Inhabited

namespace SourcePath

/-- The step that a segment behind the first one stands for, if any. -/
def segmentComponent? (segment : List Char) : Option PathComponent :=
  if segment == [] || segment == ['.'] then none
  else if segment == ['.', '.'] then some .parent
  else some (.name (String.ofList segment))

/-- The components of a path.  A leading `.` counts, every other one does not. -/
def components (path : SourcePath) : List PathComponent :=
  match path.text.toList.splitOn '/' with
  | [] => []
  | first :: others =>
    let leading :=
      if path.text.toList.head? == some '/' then [.root]
      else if first == ['.'] then [.current]
      else (segmentComponent? first).toList
    leading ++ others.filterMap segmentComponent?

/-- Paths sort by their components, the first difference deciding. -/
def compare (left right : SourcePath) : Ordering :=
  List.compareLex PathComponent.compare left.components right.components

/-- Two spellings name the same path when their components agree. -/
def Same (left right : SourcePath) : Prop :=
  left.components = right.components

instance (left right : SourcePath) : Decidable (Same left right) :=
  inferInstanceAs (Decidable (left.components = right.components))

/-- The path of `child` below `directory`.  An absolute child stands alone. -/
def join (directory child : SourcePath) : SourcePath :=
  if child.text.toList.head? == some '/' || directory.text == "" then child
  else if directory.text.toList.getLast? == some '/' then ⟨directory.text ++ child.text⟩
  else ⟨directory.text ++ "/" ++ child.text⟩

/-- Segments without those at the end that lead nowhere. -/
def trimSegments (segments : List (List Char)) : List (List Char) :=
  match segments with
  | [] => []
  | first :: others =>
    first :: (others.reverse.dropWhile fun segment => segment == [] || segment == ['.']).reverse

/-- The path of the directory that holds the path; `none` for the root and for
the empty path. -/
def parent? (path : SourcePath) : Option SourcePath :=
  match trimSegments (path.text.toList.splitOn '/') with
  | [] => none
  | [[]] => none
  | [_] => some ⟨""⟩
  | segments =>
    match trimSegments segments.dropLast with
    | [[]] => some ⟨"/"⟩
    | kept => some ⟨String.ofList (['/'].intercalate kept)⟩

/-- The path and the directories above it, nearest first; `steps` bounds their number. -/
def ancestorsWithin : (steps : Nat) → SourcePath → List SourcePath
  | 0, path => [path]
  | steps + 1, path =>
    path ::
      match path.parent? with
      | none => []
      | some parent => ancestorsWithin steps parent

/-- The path and the directories above it, nearest first. -/
def ancestors (path : SourcePath) : List SourcePath :=
  ancestorsWithin path.text.length path

end SourcePath

end StructureLint
