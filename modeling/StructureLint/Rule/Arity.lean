import StructureLint.Rule.Basic
import StructureLint.Setting.Resolve

/-!
Contract: the rule about the number of parameters.

Owns:
- which parameters count;
- the rule, with separate limits for methods and constructors.
-/

namespace StructureLint.Arity

/-- The code of the rule. -/
def code : String := "SL003"

/-- The name of the rule. -/
def ruleName : String := "parameter-count"

/-- The attributes that override either limit. -/
def overrides : List String := ["MaxParameters", "MaxParameterCount"]

/-- The limit for methods. -/
def methodMaximum : Limit :=
  { key := "max_method_parameter_count", builtin := 4, overrides }

/-- The limit for constructors. -/
def constructorMaximum : Limit :=
  { key := "max_constructor_parameter_count", builtin := 4, overrides }

/-- Types whose parameters never count. -/
def exemptTypes : List String := ["CancellationToken"]

/-- The number of parameters that count. -/
def effectiveCount (parameters : List Parameter) : Nat :=
  parameters.countP fun parameter => !Name.matchesAny parameter.typeName exemptTypes

/-- The declaration is measured as a constructor. -/
def isConstructor (declaration : Declaration) (symbol : MemberSymbol) : Bool :=
  symbol.kind.isConstructor || declaration.kind == .constructor

/-- The text of a finding. -/
def message (what name : String) (counted exempt limit : Nat) : String :=
  what ++ " `" ++ name ++ "` has " ++ toString counted ++ " parameters (max: " ++
    toString limit ++ ")" ++
    (if exempt = 0 then "" else ", not counting " ++ toString exempt ++ " exempt")

/-- Reports a declaration with more parameters than its limit. -/
def check (methodLimit constructorLimit : Nat) (severity : Severity)
    (scope : DeclarationScope) : Pass (List Finding) := do
  let declaration := scope.declaration
  if declaration.name == "" then
    return []
  match scope.program.symbolOf? declaration with
  | none => return []
  | some symbol =>
    let constructing := isConstructor declaration symbol
    let bound : Limit :=
      if constructing then { constructorMaximum with builtin := constructorLimit }
      else { methodMaximum with builtin := methodLimit }
    let limit ← Setting.limit scope.file ruleName bound declaration.attributes
    let counted := effectiveCount symbol.parameters
    if counted ≤ limit.value then
      return []
    else
      return [{
        code
        rule := ruleName
        severity
        location := declaration.location
        message := message (if constructing then "Constructor" else "Method") declaration.name
          counted (symbol.parameters.length - counted) limit.value
        suggestion := some { message := "Group related parameters into a type of their own" } }]

/-- The rule with built-in limits and a severity. -/
def rule (methodLimit : Nat := methodMaximum.builtin)
    (constructorLimit : Nat := constructorMaximum.builtin) (severity : Severity := .warning) :
    DeclarationRule where
  code := code
  name := ruleName
  description := "Limits the number of parameters of methods and constructors"
  severity := severity
  check := check methodLimit constructorLimit severity

end StructureLint.Arity
