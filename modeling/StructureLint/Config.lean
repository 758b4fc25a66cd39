import StructureLint.Glob
import StructureLint.Setting.Value
import StructureLint.Severity
import StructureLint.Toml.Printer

/-!
Contract: configuration and what it says about a rule in a file.

An option is looked for in the sections for matching files, the last one
first, and then in the section of the rule.  A rule may be called by its code:
a section under the code fills what the section under the name leaves open.

Owns:
- sections, their options, and sections for files;
- the answers to a question for a setting, for the state and the severity of a
  rule, and for the severity that makes a run fail;
- reading of codes as names.

Does not own: the text of a configuration.
-/

namespace StructureLint

/-- What a configuration says about one rule. -/
structure RuleSection where
  enabled : Option Bool := none
  severity : Option Severity := none
  options : List (String × Toml.Value) := []
  deriving Inhabited

namespace RuleSection

/-- An element of a list option: texts as they are, all else as written. -/
def renderElement : Toml.Value → String
  | .string text => text
  | other => other.renderAlone

/-- A raw option: texts as they are, lists with commas between their elements,
all else as written. -/
def renderOption : Toml.Value → String
  | .string text => text
  | .array elements => String.intercalate "," (elements.map renderElement)
  | other => other.renderAlone

/-- The raw value of an option. -/
def option? (entry : RuleSection) (key : String) : Option String :=
  (entry.options.lookup key).map renderOption

/-- What the first section leaves open is filled from the second. -/
def fillFrom (entry other : RuleSection) : RuleSection :=
  { enabled := entry.enabled <|> other.enabled
    severity := entry.severity <|> other.severity
    options := entry.options ++
      other.options.filter fun option => (entry.options.lookup option.1).isNone }

end RuleSection

/-- Sections by the name of their rule; names are distinct. -/
abbrev RuleSections := List (String × RuleSection)

namespace RuleSections

/-- The raw value of an option of a rule. -/
def option? (sections : RuleSections) (rule key : String) : Option String :=
  (sections.lookup rule).bind fun entry => entry.option? key

/-- The section under the code becomes the one under the name, or fills it. -/
def rekey (sections : RuleSections) (code name : String) : RuleSections :=
  if code == name then
    sections
  else
    match sections.lookup code with
    | none => sections
    | some byCode =>
      let others := sections.filter fun entry => entry.1 != code
      match others.lookup name with
      | none => others ++ [(name, byCode)]
      | some byName =>
        others.map fun entry =>
          if entry.1 == name then (name, byName.fillFrom byCode) else entry

/-- Every section under a code, in turn, is read under the name. -/
def rekeyAll (sections : RuleSections) (codes : List (String × String)) : RuleSections :=
  codes.foldl (fun current entry => current.rekey entry.1 entry.2) sections

end RuleSections

/-- Sections for the files that match one of the patterns. -/
structure FileOverride where
  files : List String
  rules : RuleSections := []
  deriving Inhabited

/-- The path with separators of one kind. -/
def SourcePath.slashed (path : SourcePath) : String :=
  String.ofList (path.text.toList.map fun character => if character == '\\' then '/' else character)

/-- The sections apply to the file. -/
def FileOverride.applies (entry : FileOverride) (file : SourcePath) : Bool :=
  entry.files.any fun pattern => Glob.isMatch pattern file.slashed

/-- A configuration. -/
structure Config where
  preset : Option String := none
  failOn : Option String := none
  rules : RuleSections := []
  overrides : List FileOverride := []
  deriving Inhabited

namespace Config

/-- The rule is enabled unless its section says otherwise. -/
def isEnabled (config : Config) (rule : String) : Bool :=
  (((config.rules.lookup rule).bind RuleSection.enabled).getD true)

/-- The severity that the findings of a rule get instead of their own. -/
def severity? (config : Config) (rule : String) : Option Severity :=
  (config.rules.lookup rule).bind RuleSection.severity

/-- The severity from which on a run fails. -/
def threshold (config : Config) : Except Severity.Unknown Severity :=
  match config.failOn with
  | none => .ok .error
  | some text => Severity.parse text

/-- The raw value of an option of a rule in a file. -/
def answer (config : Config) (request : SettingRequest) : Option String :=
  let applying := config.overrides.reverse.filter fun entry => entry.applies request.file
  (applying.findSome? fun entry => entry.rules.option? request.rule request.key) <|>
    config.rules.option? request.rule request.key

/-- Reads every section under a code as one under the name. -/
def aliasCodes (config : Config) (codes : List (String × String)) : Config :=
  { config with
    rules := config.rules.rekeyAll codes
    overrides := config.overrides.map fun entry =>
      { entry with rules := entry.rules.rekeyAll codes } }

/-- The names of the sections, those of the rules first. -/
def sectionNames (config : Config) : List String :=
  config.rules.map Prod.fst ++ config.overrides.flatMap fun entry => entry.rules.map Prod.fst

end Config

end StructureLint
