import StructureLint.Analysis.Unit
import StructureLint.Config.Reader
import StructureLint.Eligibility
import StructureLint.Report
import StructureLint.Rule.Basic

/-!
Contract: the analysis of a program.

Every file is one pass.  A malformed setting gives up the pass of its file and
nothing else; a host that calls the work off gets no report at all.

Owns:
- the preparation of an analysis and its errors;
- the passes of declarations, types and files, and the report.

Does not own: what the rules find, and where settings come from.
-/

namespace StructureLint

/-- Why there is no report. -/
inductive AnalysisError where
  | config (unknown : Severity.Unknown)
  | model (dangling : DanglingReference)
  | cancelled
  deriving DecidableEq, Repr

/-- The text of the error. -/
def AnalysisError.message : AnalysisError → String
  | .config unknown => "Configuration error: " ++ (ConfigError.threshold unknown).message
  | .model dangling => "Invalid program model: " ++ dangling.message
  | .cancelled => "Analysis cancelled"

/-- A normalized program with the rules that are enabled for it. -/
structure Analysis where
  program : Program
  config : Config
  rules : RuleSet

/-- What a file's pass yields. -/
structure FileFindings where
  findings : List Finding := []
  declarations : Nat := 0

namespace Analysis

/-- Prepares an analysis.  A program that is shared with the host is taken as
it is if it has been normalized; any other one is normalized. -/
def prepare (program : Program) (shared : Bool) (config : Config) (rules : RuleSet) :
    Except AnalysisError Analysis := do
  let program ←
    if shared && program.isNormalized then pure program
    else program.normalize.mapError .model
  let _ ← config.threshold.mapError .config
  let config := config.aliasCodes (rules.infos.map fun info => (info.code, info.name))
  return { program, config, rules := rules.filter fun info => config.isEnabled info.name }

/-- A finding with the severity that the configuration gives to its rule. -/
def withSeverity (analysis : Analysis) (rule : String) (finding : Finding) : Finding :=
  { finding with severity := (analysis.config.severity? rule).getD finding.severity }

/-- What a rule finds about a declaration, suppressed findings left out. -/
def declarationFindings (analysis : Analysis) (scope : DeclarationScope)
    (rule : DeclarationRule) : Pass (List Finding) := do
  let found ← rule.check scope
  return (found.map (analysis.withSeverity rule.name)).filterMap
    (Suppression.apply scope.declaration.attributes rule.name rule.requiresReason)

/-- What a rule finds about a type. -/
def typeFindings (analysis : Analysis) (scope : TypeScope) (rule : TypeRule) :
    Pass (List Finding) := do
  let found ← rule.check scope
  return found.map (analysis.withSeverity rule.name)

/-- What the rules find about a declaration; `none` if it is left alone. -/
def declarationPass (analysis : Analysis) (file : SourcePath)
    (entry : DeclarationId × Declaration) : Pass (Option (List Finding)) := do
  Pass.check
  if analysis.program.isEligible entry.2 then
    let scope : DeclarationScope :=
      { program := analysis.program, id := entry.1, declaration := entry.2, file }
    let found ← Pass.each (analysis.declarationFindings scope) analysis.rules.rules
    return some found.flatten
  else
    return none

/-- What the rules find about a type. -/
def typePass (analysis : Analysis) (file : SourcePath) (entry : TypeId × TypeSymbol) :
    Pass (List Finding) := do
  let scope : TypeScope := { program := analysis.program, id := entry.1, symbol := entry.2, file }
  let found ← Pass.each (analysis.typeFindings scope) analysis.rules.typeRules
  return found.flatten

/-- The pass of a file: its declarations, then its types. -/
def filePass (analysis : Analysis) (unit : FileUnit) : Pass FileFindings := do
  let declarations ← Pass.each (analysis.declarationPass unit.file) unit.declarations
  let types ← Pass.each (analysis.typePass unit.file) unit.types
  let measured := declarations.filterMap id
  return { findings := measured.flatten ++ types.flatten, declarations := measured.length }

/-- The files of the program. -/
def units (analysis : Analysis) : List FileUnit :=
  analysis.program.fileUnits !analysis.rules.typeRules.isEmpty

/-- The report on one file. -/
def fileReport (file : SourcePath) : Except SettingError FileFindings → Report
  | .ok found =>
    { findings := found.findings, filesChecked := 1, declarationsChecked := found.declarations }
  | .error error => { failures := [{ file, message := error.message }] }

/-- The analysis of the whole program. -/
def pass (analysis : Analysis) : Pass Report := do
  let reports ← Pass.each
    (fun unit => do
      let outcome ← (analysis.filePass unit).attempt
      return fileReport unit.file outcome)
    analysis.units
  Pass.check
  return (reports.foldl Report.merge {}).sort

/-- The report of an analysis that is not called off. -/
def report (analysis : Analysis) (answer : SettingRequest → Option String) :
    Except SettingError Report :=
  analysis.pass.run answer

end Analysis

end StructureLint
