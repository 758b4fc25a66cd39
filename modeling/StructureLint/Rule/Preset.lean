import StructureLint.Rule.Arity
import StructureLint.Rule.Length
import StructureLint.Rule.Nesting
import StructureLint.Rule.Overload.Consistency

/-!
Contract: ready-made sets of rules.

Owns:
- the presets, their rules and their names.
-/

namespace StructureLint

/-- A ready-made set of rules. -/
inductive Preset where
  | recommended
  | strict
  | minimal
  deriving DecidableEq, Repr

namespace Preset

/-- The presets. -/
def all : List Preset := [.recommended, .strict, .minimal]

/-- How a preset is called. -/
def name : Preset → String
  | .recommended => "recommended"
  | .strict => "strict"
  | .minimal => "minimal"

/-- The rules of a preset. -/
def rules : Preset → RuleSet
  | .recommended =>
    { rules := [Length.rule, Nesting.rule, Arity.rule], typeRules := [Overload.rule] }
  | .strict =>
    { rules := [Length.rule 8 .error, Nesting.rule 2 .error, Arity.rule 3 3 .error]
      typeRules := [Overload.rule .error] }
  | .minimal => { rules := [Length.rule] }

/-- Every rule there is, as recommended. -/
def everyRule : RuleSet := rules .recommended

/-- The presets with a rule of that name. -/
def including (ruleName : String) : List Preset :=
  all.filter fun preset => preset.rules.infos.any fun info => info.name == ruleName

/-- A text that names no preset. -/
structure Unknown where
  text : String
  deriving DecidableEq, Repr

/-- The text of the refusal. -/
def Unknown.message (unknown : Unknown) : String :=
  "unknown preset `" ++ unknown.text ++ "` (expected recommended, strict or minimal)"

/-- Reads the name of a preset in any case, blanks around it aside. -/
def parse (text : String) : Except Unknown Preset :=
  let lowered := Text.lowerAscii (Text.trim text)
  match all.find? fun preset => preset.name == lowered with
  | some preset => .ok preset
  | none => .error ⟨text⟩

end Preset

end StructureLint
