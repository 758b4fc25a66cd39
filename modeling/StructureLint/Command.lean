import StructureLint.Command.Discovery
import StructureLint.Command.Display
import StructureLint.Program.Codec
import StructureLint.Setting.Cache

/-!
Contract: the command line.

Owns:
- the commands, on any file system;
- their outcome: exit code, output, warnings and failure.

Does not own: the process around them.
-/

namespace StructureLint.Command

/-- What a command leaves behind. -/
structure Outcome where
  exitCode : UInt8 := 0
  output : String := ""
  warnings : List String := []
  failure : Option CommandError := none

/-- Work that may fail, and that warns on its way. -/
abbrev Work (m : Type → Type) := ExceptT CommandError (StateT (List String) m)

/-- Adds a warning, as a line of the log. -/
def warn {m : Type → Type} [Monad m] (text : String) : Work m Unit :=
  modify fun warnings => warnings ++ [logLine text]

/-- A step on the file system. -/
def onDisk {m : Type → Type} [Monad m] {α : Type} (step : m α) : Work m α :=
  ExceptT.lift (StateT.lift step)

/-! ## Configuration -/

/-- Reads the configuration at a path. -/
def readConfig {m : Type → Type} [Monad m] (disk : Disk m) (path : SourcePath) :
    Work m Config := do
  match ← onDisk (disk.read path) with
  | .error error => throw (.unreadableConfig path error)
  | .ok text =>
    match Config.parse text with
    | .error error => throw (.invalidConfig path error)
    | .ok config => return config

/-- The names of sections that belong to no rule. -/
def unknownSections (config : Config) : List String :=
  config.sectionNames.filter fun name =>
    !Preset.everyRule.infos.any fun info => name == info.name || name == info.code

/-- The configuration of a check. -/
def loadConfig {m : Type → Type} [Monad m] (disk : Disk m) (environment : Environment)
    (directory : SourcePath) (named : Option SourcePath) : Work m Config := do
  let config ← match ← onDisk (findConfig? disk environment directory named) with
    | none => pure {}
    | some path => readConfig disk path
  (unknownSections config).forM fun name => warn ("Unknown rule in config: " ++ name)
  return config

/-- The preset that is named, else that of the configuration, else the recommended one. -/
def selectPreset (named : Option Preset) (config : Config) : Except CommandError Preset :=
  match named, config.preset with
  | some preset, _ => .ok preset
  | none, some text => (Preset.parse text).mapError .invalidPreset
  | none, none => .ok .recommended

/-- The rules of a preset, or those of them that are listed. -/
def selectRules (preset : Preset) : (listed : Option String) → RuleSet
  | none => preset.rules
  | some names => preset.rules.filter (RuleInfo.isListed (Name.entries names))

/-! ## Models -/

/-- Reads and normalizes a model. -/
def loadModel {m : Type → Type} [Monad m] (disk : Disk m) (path : SourcePath) :
    Work m Program := do
  match ← onDisk (disk.read path) with
  | .error error => throw (.unreadableModel path error)
  | .ok text =>
    match Program.parse? text with
    | none => throw (.malformedModel path)
    | some program =>
      match program.normalize with
      | .error dangling => throw (.invalidModel path dangling)
      | .ok program => return program

/-- Runs an analysis whose settings come from its own configuration, with a cache. -/
def analyzeWithCache (analysis : Analysis) (id : CompilationId) :
    StateM SettingsCache (PassOutcome Report) :=
  analysis.pass.interpret (pure false)
    (SettingsCache.answer id fun request => pure (analysis.config.answer request))

/-- Analyzes models in turn, all with one cache; `index` numbers the next one. -/
def analyzeModels {m : Type → Type} [Monad m] (disk : Disk m) (config : Config)
    (rules : RuleSet) : (index : Nat) → SettingsCache → List SourcePath → Work m Report
  | _, _, [] => return {}
  | index, cache, path :: rest => do
    let program ← loadModel disk path
    match Analysis.prepare program false config rules with
    | .error error => throw (.unprepared path error)
    | .ok analysis =>
      let (outcome, cache) := (analyzeWithCache analysis ⟨index⟩).run cache
      match outcome with
      | .cancelled => throw (.unfinished path AnalysisError.cancelled.message)
      | .failed error => throw (.unfinished path error.message)
      | .done report =>
        report.failures.forM fun failure =>
          warn ("Abandoning " ++ failure.file.text ++ ": " ++ failure.message)
        let others ← analyzeModels disk config rules (index + 1) cache rest
        return report.merge others

/-- Analyzes every model of the paths. -/
def analyzePaths {m : Type → Type} [Monad m] (disk : Disk m) (environment : Environment)
    (config : Config) (rules : RuleSet) (paths : List SourcePath) : Work m Report := do
  let (warnings, found) ← onDisk (discover disk environment paths)
  warnings.forM warn
  let models ← liftExcept found
  if models.isEmpty then
    warn ("No `*" ++ modelSuffix ++ "` models found")
  return (← analyzeModels disk config rules 0 {} models).sort
where
  liftExcept {α : Type} : Except CommandError α → Work m α
    | .ok value => pure value
    | .error error => throw error

/-! ## Commands -/

/-- The exit code of a check that was carried out. -/
def exitCodeOf (report : Report) (threshold : Severity) : UInt8 :=
  if report.hasFindingAtLeast threshold || report.hasFailures then 1 else 0

/-- Checks models. -/
def check {m : Type → Type} [Monad m] (disk : Disk m) (environment : Environment)
    (named : Option SourcePath) (options : CheckOptions) : Work m (UInt8 × String) := do
  let directory ← onDisk (projectDirectory disk (options.paths.headD ⟨"."⟩))
  let config ← loadConfig disk environment directory named
  match config.threshold with
  | .error unknown => throw (.invalidThreshold unknown)
  | .ok threshold =>
    match selectPreset options.preset config with
    | .error error => throw error
    | .ok preset =>
      let rules := selectRules preset options.rules
      let report ← analyzePaths disk environment config rules options.paths
      return (exitCodeOf report threshold, renderReport report options.format)

/-- Writes the configuration to start from. -/
def createConfig {m : Type → Type} [Monad m] (disk : Disk m) (force : Bool) :
    Work m (UInt8 × String) := do
  let path : SourcePath := ⟨"shapelint.toml"⟩
  if (← onDisk (disk.kind path)) != .missing && !force then
    throw (.configExists path)
  match ← onDisk (disk.write path configTemplate) with
  | .error error => throw (.unwritable error)
  | .ok () => return (0, creationNotice)

/-- Carries out a command. -/
def perform {m : Type → Type} [Monad m] (disk : Disk m) (environment : Environment)
    (invocation : Invocation) : Work m (UInt8 × String) :=
  match invocation.action with
  | .check options => check disk environment invocation.config options
  | .listRules => return (0, ruleListing)
  | .createConfig force => createConfig disk force

/-- Runs a command line. -/
def run {m : Type → Type} [Monad m] (disk : Disk m) (environment : Environment)
    (arguments : List String) : m Outcome := do
  match Invocation.parse environment.config arguments with
  | .error .usage => return { exitCode := 2 }
  | .error .help => return { output := usageText }
  | .error .version => return { output := joinLines [versionLine] }
  | .ok invocation =>
    match ← (perform disk environment invocation).run.run [] with
    | (.ok (exitCode, output), warnings) => return { exitCode, output, warnings }
    | (.error error, warnings) => return { exitCode := 1, warnings, failure := some error }

end StructureLint.Command
