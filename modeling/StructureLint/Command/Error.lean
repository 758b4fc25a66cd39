import StructureLint.Analysis
import StructureLint.Disk
import StructureLint.Rule.Preset

/-!
Contract: why a command fails.

Owns:
- the reasons, the text of each, and the causes behind it;
- the report of a failure on several lines.
-/

namespace StructureLint.Command

/-- Why a command fails. -/
inductive CommandError where
  | unreadableConfig (path : SourcePath) (error : DiskError)
  | invalidConfig (path : SourcePath) (error : ConfigError)
  | invalidThreshold (unknown : Severity.Unknown)
  | invalidPreset (unknown : Preset.Unknown)
  | noSuchPath (path : SourcePath)
  | unreadableModel (path : SourcePath) (error : DiskError)
  | malformedModel (path : SourcePath)
  | invalidModel (path : SourcePath) (dangling : DanglingReference)
  | unprepared (path : SourcePath) (error : AnalysisError)
  | unfinished (path : SourcePath) (reason : String)
  | configExists (path : SourcePath)
  | unwritable (error : DiskError)
  deriving DecidableEq, Repr

namespace CommandError

/-- What went wrong. -/
def message : CommandError → String
  | .unreadableConfig path _ => "Failed to load config: " ++ path.text
  | .invalidConfig path _ => "Failed to load config: " ++ path.text
  | .invalidThreshold _ => "Invalid `fail_on` in config"
  | .invalidPreset _ => "Invalid `preset` in config"
  | .noSuchPath path => "No such file or directory: " ++ path.text
  | .unreadableModel path _ => "Failed to read model: " ++ path.text
  | .malformedModel path => "Failed to parse model: " ++ path.text
  | .invalidModel path _ => "Invalid model: " ++ path.text
  | .unprepared path _ => "Failed to build analyzer for " ++ path.text
  | .unfinished path _ => "Analysis failed: " ++ path.text
  | .configExists path =>
    "Configuration file already exists at " ++ path.text ++ ". Use --force to overwrite."
  | .unwritable error => error.message

/-- What lies behind it, the nearest cause first. -/
def causes : CommandError → List String
  | .unreadableConfig path error =>
    ["Failed to read config file " ++ path.text ++ ": " ++ error.message, error.message]
  | .invalidConfig _ error => [error.message]
  | .invalidThreshold unknown => [(ConfigError.threshold unknown).message]
  | .invalidPreset unknown => [unknown.message]
  | .unreadableModel _ error => [error.message]
  | .malformedModel _ => ["not a program model"]
  | .invalidModel _ dangling => [dangling.message]
  | .unprepared _ error => [error.message]
  | .unfinished _ reason => [reason]
  | .noSuchPath _ | .configExists _ | .unwritable _ => []

/-- A text with its first line behind `first` and all others behind blanks. -/
def indent (first : String) (text : String) : String :=
  let blanks := String.ofList (List.replicate first.length ' ')
  first ++ String.intercalate ("\n" ++ blanks) ((text.toList.splitOn '\n').map String.ofList)

/-- The list of causes; a single one has no number. -/
def renderCauses : List String → String
  | [] => ""
  | [cause] => "\n\nCaused by:\n" ++ indent "    " cause
  | causes =>
    "\n\nCaused by:\n" ++
      String.intercalate "\n" (causes.zipIdx.map fun entry =>
        let number := toString entry.2
        indent (String.ofList (List.replicate (5 - number.length) ' ') ++ number ++ ": ") entry.1)

/-- The failure with its causes. -/
def render (error : CommandError) : String :=
  error.message ++ renderCauses error.causes

end CommandError

end StructureLint.Command
