import StructureLint.Config
import StructureLint.Json.Value

/-!
Contract: the written form of configurations.

Options are written as the texts that answer questions for them.
-/

namespace StructureLint

/-- Writes the section of a rule. -/
def RuleSection.encode (entry : RuleSection) : Json :=
  .obj [("enabled", Json.option Json.bool entry.enabled),
    ("severity", Json.option (fun severity => .str severity.spelling) entry.severity),
    ("options", .obj (entry.options.map fun option =>
      (option.1, .str (RuleSection.renderOption option.2))))]

/-- Writes sections by the name of their rule. -/
def RuleSections.encode (sections : RuleSections) : Json :=
  .obj (sections.map fun entry => (entry.1, entry.2.encode))

/-- Writes sections for files. -/
def FileOverride.encode (entry : FileOverride) : Json :=
  .obj [("files", Json.list Json.str entry.files), ("rules", entry.rules.encode)]

/-- Writes a configuration. -/
def Config.encode (config : Config) : Json :=
  .obj [("preset", Json.option Json.str config.preset),
    ("fail_on", Json.option Json.str config.failOn),
    ("rules", config.rules.encode),
    ("overrides", Json.list FileOverride.encode config.overrides)]

end StructureLint
