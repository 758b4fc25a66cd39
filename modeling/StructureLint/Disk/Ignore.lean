import StructureLint.Disk
import StructureLint.Disk.Pattern
import StructureLint.Text.Blank
import StructureLint.Text.Line

/-!
Contract: what a walk through directories leaves out.

A line of an ignore file is a pattern.  `!` in front turns it into an exception,
a separator at the end restricts it to directories, and a separator anywhere
else ties it to the directory of the file.  The last pattern of a file that fits
decides, and a nearer file decides before one further up.

`.ignore` files decide first.  Within a repository the `.gitignore` files up to
its top come next, then its exclusions, then the rules for all repositories.
Hidden entries are left out unless an exception names them.

Owns:
- the rules of ignore files, and the paths that they are matched with;
- the files that a walk reaches.
-/

namespace StructureLint

/-- One line of an ignore file. -/
structure IgnoreRule where
  tokens : List WalkPattern.Token
  isException : Bool
  directoriesOnly : Bool

/-- What the rules say about an entry. -/
inductive IgnoreVerdict where
  | leaveOut
  | keep
  deriving DecidableEq, Repr

namespace IgnoreRule

/-! ## Lines -/

/-- The line without blanks at its end, unless the last one is escaped. -/
def trimLine (line : List Char) : List Char :=
  match line.reverse with
  | ' ' :: '\\' :: _ => line
  | _ => Text.trimEndWhere Text.isBlank line

/-- The body of a line with what its first characters say about it. -/
structure MarkedLine where
  isException : Bool := false
  isAnchored : Bool := false
  body : List Char

/-- Reads the marks in front of a line. -/
def splitMarks : List Char → MarkedLine
  | '\\' :: '!' :: body => { body := '!' :: body }
  | '\\' :: '#' :: body => { body := '#' :: body }
  | '!' :: '/' :: body => { isException := true, isAnchored := true, body }
  | '!' :: body => { isException := true, body }
  | '/' :: body => { isAnchored := true, body }
  | body => { body }

/-- The body without a separator at its end and its escape, and whether there
was one. -/
def splitEnd (body : List Char) : Bool × List Char :=
  match body.reverse with
  | '/' :: '\\' :: before => (true, before.reverse)
  | '/' :: before => (true, before.reverse)
  | _ => (false, body)

/-- A pattern that is not tied to its directory fits at any depth. -/
def loosen (anchored : Bool) (pattern : List Char) : List Char :=
  if anchored || pattern.contains '/' then pattern
  else if pattern == ['*', '*'] then pattern
  else '*' :: '*' :: '/' :: pattern

/-- A pattern for everything below a directory does not fit the directory. -/
def belowOnly (pattern : List Char) : List Char :=
  match pattern.reverse with
  | '*' :: '*' :: '/' :: _ => pattern ++ ['/', '*']
  | _ => pattern

/-- The rule of a line; `none` for blank lines, comments and invalid patterns. -/
def ofLine? (line : List Char) : Option IgnoreRule :=
  match trimLine line with
  | [] => none
  | '#' :: _ => none
  | trimmed =>
    let marked := splitMarks trimmed
    let (directoriesOnly, body) := splitEnd marked.body
    (WalkPattern.parse? (belowOnly (loosen marked.isAnchored body))).map fun tokens =>
      { tokens, isException := marked.isException, directoriesOnly }

/-- The text without byte order marks at its start. -/
def dropByteOrderMarks (text : List Char) : List Char :=
  text.dropWhile fun character => character.toNat == 0xFEFF

/-- The rules of a file. -/
def ofText (text : String) : List IgnoreRule :=
  (Text.lines (dropByteOrderMarks text.toList)).filterMap ofLine?

/-! ## Verdicts -/

/-- The rule fits an entry whose path is given as the rule sees it. -/
def fits (rule : IgnoreRule) (path : List Char) (isDirectory : Bool) : Bool :=
  (isDirectory || !rule.directoriesOnly) && WalkPattern.isMatch rule.tokens (WalkPattern.bytes path)

/-- What the rules of a file say about an entry. -/
def verdict? (rules : List IgnoreRule) (path : List Char) (isDirectory : Bool) :
    Option IgnoreVerdict :=
  (rules.reverse.find? fun rule => rule.fits path isDirectory).map fun rule =>
    if rule.isException then .keep else .leaveOut

end IgnoreRule

/-! ## Scopes -/

/-- Where a directory stands with respect to a walk: it is reached under a
spelling, or it lies above the start and these names lead down to the start. -/
inductive ScopePlace where
  | within (directory : SourcePath)
  | above (names : List String)

/-- The rules of a directory. -/
structure IgnoreScope where
  place : ScopePlace
  ignore : List IgnoreRule
  tracking : List IgnoreRule
  exclude : List IgnoreRule
  isRepository : Bool

/-- The rules that the notes of a directory give. -/
def IgnoreScope.ofNotes (place : ScopePlace) (notes : WalkNotes) : IgnoreScope where
  place := place
  ignore := IgnoreRule.ofText notes.ignoreText
  tracking := IgnoreRule.ofText notes.trackingText
  exclude := IgnoreRule.ofText notes.excludeText
  isRepository := notes.isRepository

/-- The text without a start, if it has it. -/
def dropStart (start text : List Char) : List Char :=
  if start.isPrefixOf text then text.drop start.length else text

/-- A spelling of the current directory. -/
def SourcePath.isCurrent (path : SourcePath) : Bool :=
  path.Same ⟨"."⟩

/-- A walk: where it starts, and the rules for all repositories. -/
structure Walk where
  start : SourcePath
  global : List IgnoreRule := []

namespace Walk

/-- The path of an entry as rules see it that lie in a directory of the walk: as
spelled behind the spelling of the directory.  One `./` in front of either
spelling is left aside, and a second one in front of the path. -/
def pathWithin (directory : SourcePath) (path : List Char) : List Char :=
  let root := dropStart ['.', '/'] directory.text.toList
  let path := dropStart ['.', '/'] path
  if SourcePath.isCurrent ⟨String.ofList root⟩ || !path.contains '/' then path
  else if root.isPrefixOf path then dropStart ['/'] (path.drop root.length)
  else path

/-- The path of an entry as rules see it that lie above the start. -/
def pathBelow (walk : Walk) (names : List String) (path : List Char) : List Char :=
  let relative :=
    if walk.start.isCurrent then path
    else dropStart ['/'] (dropStart (dropStart ['.', '/'] walk.start.text.toList) path)
  (String.intercalate "/" names).toList ++ '/' :: relative

/-- The path of an entry as the rules of a scope see it. -/
def pathFor (walk : Walk) (path : List Char) : ScopePlace → List Char
  | .within directory => pathWithin directory path
  | .above names => walk.pathBelow names path

/-- The scopes up to the top of the nearest repository; none outside of repositories. -/
def tracked (scopes : List IgnoreScope) : List IgnoreScope :=
  if scopes.any IgnoreScope.isRepository then
    scopes.takeWhile (fun scope => !scope.isRepository) ++
      (scopes.find? IgnoreScope.isRepository).toList
  else
    []

/-- What all rules say about an entry, with the nearest scopes first. -/
def verdict? (walk : Walk) (scopes : List IgnoreScope) (path : SourcePath) (isDirectory : Bool) :
    Option IgnoreVerdict :=
  let path := dropStart ['.', '/'] path.text.toList
  let ask := fun (rules : IgnoreScope → List IgnoreRule) (scopes : List IgnoreScope) =>
    scopes.findSome? fun scope =>
      IgnoreRule.verdict? (rules scope) (walk.pathFor path scope.place) isDirectory
  let repository := tracked scopes
  ask IgnoreScope.ignore scopes <|> ask IgnoreScope.tracking repository <|>
    ask IgnoreScope.exclude repository <|>
    if repository.isEmpty then none
    else IgnoreRule.verdict? walk.global (dropStart ['.', '/'] path) isDirectory

/-- The walk enters the entry. -/
def admits (walk : Walk) (scopes : List IgnoreScope) (name : String) (path : SourcePath)
    (isDirectory : Bool) : Bool :=
  match walk.verdict? scopes path isDirectory with
  | some verdict => verdict == .keep
  | none => name.toList.head? != some '.'

end Walk

namespace Listing

/-- The entry is a directory. -/
def isDirectory : Listing → Bool
  | .file => false
  | .directory _ _ => true

mutual

/-- The files below an entry at a path, with their names. -/
def files (walk : Walk) (scopes : List IgnoreScope) (name : String) (path : SourcePath) :
    Listing → List (String × SourcePath)
  | .file => [(name, path)]
  | .directory notes entries =>
    filesAmong walk (.ofNotes (.within path) notes :: scopes) path entries

/-- The files among and below the entries of a directory. -/
def filesAmong (walk : Walk) (scopes : List IgnoreScope) (directory : SourcePath) :
    List (String × Listing) → List (String × SourcePath)
  | [] => []
  | (name, entry) :: rest =>
    (if walk.admits scopes name (directory.join ⟨name⟩) entry.isDirectory then
      entry.files walk scopes name (directory.join ⟨name⟩)
    else
      []) ++
    filesAmong walk scopes directory rest

end

end Listing

end StructureLint
