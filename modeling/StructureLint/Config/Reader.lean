import StructureLint.Config
import StructureLint.Toml.Moment
import StructureLint.Toml.Reader

/-!
Contract: reading of configurations.

A configuration is a TOML document.  Entries that mean nothing at the top or
in a section for files are left aside; every entry of a rule's section other
than `enabled` and `severity` is an option.

Owns:
- the shape of the document;
- the check of the patterns, which comes after the shape.

Does not own: how codes are read, and whether `fail_on` is a severity.
-/

namespace StructureLint

/-- Why a text is no configuration. -/
inductive ConfigError where
  | malformed
  | threshold (unknown : Severity.Unknown)
  | pattern (glob : String) (error : Glob.Error)
  deriving DecidableEq, Repr

/-- The text of the error. -/
def ConfigError.message : ConfigError → String
  | .malformed => "Failed to parse config: not a configuration"
  | .threshold unknown => "Failed to parse config: " ++ unknown.message
  | .pattern glob error => "Invalid file pattern `" ++ glob ++ "`: " ++ error.message

namespace Config.Reader

/-- The entries of a table; a moment counts as the table that stands for it. -/
def entries? : Toml.Value → Option (List (String × Toml.Value))
  | .table entries => some entries
  | .moment value => some [(Toml.momentKey, .string (Toml.renderMoment value))]
  | _ => none

/-- A text. -/
def string? : Toml.Value → Option String
  | .string text => some text
  | _ => none

/-- A truth value. -/
def boolean? : Toml.Value → Option Bool
  | .boolean value => some value
  | _ => none

/-- A list whose elements have the given shape. -/
def list? {α : Type} (element? : Toml.Value → Option α) : Toml.Value → Option (List α)
  | .array elements => elements.mapM element?
  | _ => none

/-- An entry that may be missing. -/
def optional? {α : Type} (entries : List (String × Toml.Value)) (key : String)
    (shape? : Toml.Value → Option α) : Option (Option α) :=
  match entries.lookup key with
  | none => some none
  | some value => (shape? value).map some

/-- A level in its exact spelling. -/
def spelledSeverity? (text : String) : Option Severity :=
  [Severity.info, .warning, .error].find? fun severity => severity.spelling == text

/-- A severity: its spelling, or a table with nothing but the spelling over
an empty table or list. -/
def severity? : Toml.Value → Option Severity
  | .string text => spelledSeverity? text
  | .table [(text, .table [])] => spelledSeverity? text
  | .table [(text, .array [])] => spelledSeverity? text
  | _ => none

/-- An option, with tables that stand for moments read as moments. -/
def option? (entry : String × Toml.Value) : Option (String × Toml.Value) :=
  entry.2.readMoments?.map fun value => (entry.1, value)

/-- The section of a rule. -/
def section? (value : Toml.Value) : Option RuleSection := do
  let entries ← entries? value
  let isOption := fun (entry : String × Toml.Value) =>
    entry.1 != "enabled" && entry.1 != "severity"
  return {
    enabled := ← optional? entries "enabled" boolean?
    severity := ← optional? entries "severity" severity?
    options := ← (entries.filter isOption).mapM option? }

/-- Sections by the name of their rule. -/
def sections? (value : Toml.Value) : Option RuleSections := do
  let entries ← entries? value
  entries.mapM fun entry => (section? entry.2).map fun body => (entry.1, body)

/-- Sections for files: a table with `files` and perhaps `rules`, or a list of the two. -/
def override? : Toml.Value → Option FileOverride
  | .array (files :: rest) => do
    return {
      files := ← list? string? files
      rules := ← (rest.head?.map sections?).getD (some []) }
  | .table entries => do
    return {
      files := ← (entries.lookup "files").bind (list? string?)
      rules := (← optional? entries "rules" sections?).getD [] }
  | _ => none

/-- A configuration with patterns not yet checked. -/
def document? (entries : List (String × Toml.Value)) : Option Config := do
  return {
    preset := ← optional? entries "preset" string?
    failOn := ← optional? entries "fail_on" string?
    rules := (← optional? entries "rules" sections?).getD []
    overrides := (← optional? entries "overrides" (list? override?)).getD [] }

/-- The first invalid pattern. -/
def invalidPattern? (config : Config) : Option ConfigError :=
  (config.overrides.flatMap FileOverride.files).findSome? fun pattern =>
    match Glob.parse pattern with
    | .ok _ => none
    | .error error => some (.pattern pattern error)

end Config.Reader

/-- Reads a configuration. -/
def Config.parse (text : String) : Except ConfigError Config :=
  match (Toml.parse? text).bind Config.Reader.document? with
  | none => .error .malformed
  | some config =>
    match Config.Reader.invalidPattern? config with
    | some error => .error error
    | none => .ok config

end StructureLint
