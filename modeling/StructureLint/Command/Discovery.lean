import StructureLint.Command.Environment
import StructureLint.Command.Error
import StructureLint.Disk.Ignore

/-!
Contract: which configuration and which models a check reads.

Owns:
- the search for a configuration: the one that is named, else the nearest one
  at or above the models, else the one for all projects;
- the models among the paths of a check.

Does not own: the content of either.
-/

namespace StructureLint.Command

/-! ## Configurations -/

/-- The names of a configuration in a project, by precedence. -/
def projectConfigNames : List SourcePath := [⟨"shapelint.toml"⟩, ⟨".shapelint.toml"⟩]

/-- The first of the paths that is a file. -/
def firstFile? {m : Type → Type} [Monad m] (disk : Disk m) :
    List SourcePath → m (Option SourcePath)
  | [] => return none
  | path :: rest => do
    if (← disk.kind path) == .file then
      return some path
    else
      firstFile? disk rest

/-- The paths at which a configuration is looked for, by precedence. -/
def configCandidates (environment : Environment) (directory : SourcePath) : List SourcePath :=
  (directory.ancestors.flatMap fun ancestor => projectConfigNames.map ancestor.join) ++
    environment.globalConfig?.toList

/-- The configuration of a check, if there is one.  One that is named is not
looked for. -/
def findConfig? {m : Type → Type} [Monad m] (disk : Disk m) (environment : Environment)
    (directory : SourcePath) : (named : Option SourcePath) → m (Option SourcePath)
  | some path => return some path
  | none => firstFile? disk (configCandidates environment directory)

/-- The directory that a path belongs to: itself, or the one that holds it. -/
def projectDirectory {m : Type → Type} [Monad m] (disk : Disk m) (path : SourcePath) :
    m SourcePath := do
  if (← disk.kind path) == .directory then
    return path
  else
    match path.parent? with
    | some parent => return if parent.text == "" then ⟨"."⟩ else parent
    | none => return ⟨"."⟩

/-! ## Models -/

/-- The end of the name of a model. -/
def modelSuffix : String := ".shapelint.json"

/-- The name is that of a model. -/
def isModelName (name : String) : Bool :=
  modelSuffix.toList.reverse.isPrefixOf name.toList.reverse

/-- What was found on the way: models, and warnings. -/
structure Discovered where
  models : List SourcePath := []
  warnings : List String := []

/-- The warnings of a walk about repositories above its start. -/
def repositoryWarnings (above : List DirectoryAbove) : List String :=
  match above.reverse.filterMap fun directory => directory.notes.problem with
  | [] => []
  | problems => ["Skipping unreadable entry: " ++ String.intercalate "\n" problems]

/-- The models below a directory, in order.  Nothing is looked for in one whose
path is a single dash. -/
def modelsBelow {m : Type → Type} [Monad m] (disk : Disk m) (global : List IgnoreRule)
    (directory : SourcePath) : m Discovered := do
  if directory.Same ⟨"-"⟩ then
    return {}
  else
    let above ← disk.above directory
    let scopes := above.map fun entry => IgnoreScope.ofNotes (.above entry.path) entry.notes
    let walk : Walk := { start := directory, global }
    let files := (← disk.list directory).files walk scopes "" directory
    let models := (files.filter fun entry => isModelName entry.1).map Prod.snd
    return {
      models := models.mergeSort fun left right => (left.compare right).isLE
      warnings := repositoryWarnings above }

/-- Paths without those that repeat the one kept before. -/
def dropRepeatsOf (last : SourcePath) : List SourcePath → List SourcePath
  | [] => []
  | path :: rest =>
    if last.Same path then
      dropRepeatsOf last rest
    else
      path :: dropRepeatsOf path rest

/-- Paths without those that repeat the one kept before. -/
def dropRepeats : List SourcePath → List SourcePath
  | [] => []
  | path :: rest => path :: dropRepeatsOf path rest

/-- The models of each path in turn, or the first path at which nothing stands. -/
def modelsOfEach {m : Type → Type} [Monad m] (disk : Disk m) (global : List IgnoreRule) :
    List SourcePath → m (List String × Except CommandError (List SourcePath))
  | [] => return ([], .ok [])
  | path :: rest => do
    match ← disk.kind path with
    | .missing => return ([], .error (.noSuchPath path))
    | .file =>
      let (warnings, others) ← modelsOfEach disk global rest
      return (warnings, others.map (path :: ·))
    | .directory =>
      let found ← modelsBelow disk global path
      let (warnings, others) ← modelsOfEach disk global rest
      return (found.warnings ++ warnings, others.map (found.models ++ ·))

/-- The models of a check, and warnings about the way to them. -/
def discover {m : Type → Type} [Monad m] (disk : Disk m) (environment : Environment)
    (paths : List SourcePath) : m (List String × Except CommandError (List SourcePath)) := do
  let global := IgnoreRule.ofText (← globalIgnoreText disk environment)
  let (warnings, models) ← modelsOfEach disk global paths
  return (warnings, models.map dropRepeats)

end StructureLint.Command
