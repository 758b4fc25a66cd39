import StructureLint.Pass
import StructureLint.Program.Basic
import StructureLint.Suppression

/-!
Contract: rules and sets of rules.

Owns:
- what a rule is told and what it answers;
- the description and the selection of rules.

Does not own: the rules themselves.
-/

namespace StructureLint

/-- What a declaration rule is told: the declaration, its program, and the file
whose settings apply. -/
structure DeclarationScope where
  program : Program
  id : DeclarationId
  declaration : Declaration
  file : SourcePath

/-- What a type rule is told: the type, its program, and the file whose
settings apply. -/
structure TypeScope where
  program : Program
  id : TypeId
  symbol : TypeSymbol
  file : SourcePath

/-- How a rule is called, and how serious its findings are.  A rule whose
findings are errors asks for a justification of a suppression. -/
structure RuleInfo where
  code : String
  name : String
  description : String := ""
  severity : Severity := .warning
  requiresReason : Bool := severity == .error

/-- A rule about single declarations. -/
structure DeclarationRule extends RuleInfo where
  check : DeclarationScope → Pass (List Finding)

/-- A rule about a type with its members. -/
structure TypeRule extends RuleInfo where
  check : TypeScope → Pass (List Finding)

/-- Rules that run together. -/
structure RuleSet where
  rules : List DeclarationRule := []
  typeRules : List TypeRule := []

namespace RuleSet

/-- The descriptions of the rules, those about declarations first. -/
def infos (set : RuleSet) : List RuleInfo :=
  set.rules.map DeclarationRule.toRuleInfo ++ set.typeRules.map TypeRule.toRuleInfo

/-- The number of rules. -/
def size (set : RuleSet) : Nat :=
  set.rules.length + set.typeRules.length

/-- The rules whose description is accepted. -/
def filter (accept : RuleInfo → Bool) (set : RuleSet) : RuleSet :=
  { rules := set.rules.filter fun rule => accept rule.toRuleInfo
    typeRules := set.typeRules.filter fun rule => accept rule.toRuleInfo }

/-- The rules of both sets, those of the second behind those of the first. -/
def append (first second : RuleSet) : RuleSet :=
  { rules := first.rules ++ second.rules, typeRules := first.typeRules ++ second.typeRules }

end RuleSet

/-- The rule goes by one of the names: its own or its code. -/
def RuleInfo.isListed (names : List String) (info : RuleInfo) : Bool :=
  names.contains info.name || names.contains info.code

end StructureLint
