import Mathlib
import StructureLint.Analysis
import StructureLint.Proofs.Pass
import StructureLint.Proofs.Report

/-!
Contract: what the pass of a file amounts to.

A pass asks every enabled rule about every measured declaration, and every
enabled type rule about every type.  Its outcome is the first malformed setting
among the answers or, if there is none, all that was found.

Owns:
- the answers of the rules about the entries of a unit, in order;
- the outcome of a unit's pass in terms of those answers;
- the report in terms of the units.

Does not own: which entries a unit holds.
-/

namespace StructureLint

/-! ## Gathering answers -/

/-- What a rule answers: its findings, or the malformed setting it met. -/
abbrev RuleOutcome := Except SettingError (List Finding)

namespace RuleOutcome

/-- The findings of an answer; a malformed setting comes with none. -/
def findings : RuleOutcome → List Finding
  | .ok found => found
  | .error _ => []

/-- The first malformed setting among answers, or all that was found. -/
def gather : List RuleOutcome → RuleOutcome
  | [] => .ok []
  | outcome :: rest => outcome.bind fun found => (gather rest).map fun others => found ++ others

theorem gather_append (left right : List RuleOutcome) :
    gather (left ++ right) =
      (gather left).bind fun found => (gather right).map fun others => found ++ others := by
  induction left with
  | nil =>
      simp only [List.nil_append, gather, Except.bind]
      cases gather right <;> rfl
  | cons outcome rest inductionHypothesis =>
      simp only [List.cons_append, gather, inductionHypothesis]
      cases outcome with
      | error error => rfl
      | ok found =>
          cases gather rest with
          | error error => rfl
          | ok others =>
              cases gather right with
              | error error => rfl
              | ok behind => simp [Except.bind, Except.map]

theorem gather_flatMap {α : Type} (outcomes : α → List RuleOutcome) (elements : List α) :
    gather (elements.flatMap outcomes) =
      gather (elements.map fun element => gather (outcomes element)) := by
  induction elements with
  | nil => rfl
  | cons element rest inductionHypothesis =>
      rw [List.flatMap_cons, gather_append, List.map_cons, gather, inductionHypothesis]

theorem gather_eq_ok {outcomes : List RuleOutcome}
    (sound : outcomes.all Except.isOk = true) :
    gather outcomes = .ok (outcomes.flatMap findings) := by
  induction outcomes with
  | nil => rfl
  | cons outcome rest inductionHypothesis =>
      simp only [List.all_cons, Bool.and_eq_true] at sound
      cases outcome with
      | error error => exact absurd sound.1 Bool.false_ne_true
      | ok found =>
          simp only [gather, inductionHypothesis sound.2]
          rfl

theorem gather_eq_error {outcomes : List RuleOutcome}
    (spoiled : outcomes.all Except.isOk = false) :
    ∃ error, gather outcomes = .error error := by
  induction outcomes with
  | nil => exact absurd spoiled.symm Bool.false_ne_true
  | cons outcome rest inductionHypothesis =>
      cases outcome with
      | error error => exact ⟨error, rfl⟩
      | ok found =>
          have restSpoiled : rest.all Except.isOk = false := by
            simpa only [List.all_cons, Except.isOk, Except.toBool, Bool.true_and] using spoiled
          obtain ⟨error, failed⟩ := inductionHypothesis restSpoiled
          exact ⟨error, by simp only [gather, failed]; rfl⟩

/-- A pass over a list that concatenates its results gathers the answers. -/
theorem run_each_flatten {α : Type} (answer : SettingRequest → Option String)
    (work : α → Pass (List Finding)) (elements : List α) :
    ((Pass.each work elements).run answer).map List.flatten =
      gather (elements.map fun element => (work element).run answer) := by
  induction elements with
  | nil => rfl
  | cons element rest inductionHypothesis =>
      simp only [List.map_cons, gather, ← inductionHypothesis, Pass.each, Pass.run_bind,
        Pass.run_pure]
      cases (work element).run answer with
      | error error => rfl
      | ok found => cases (Pass.each work rest).run answer <;> rfl

end RuleOutcome

namespace Analysis

open RuleOutcome

variable (analysis : Analysis) (answer : SettingRequest → Option String)

/-! ## The answers about a unit -/

/-- The declarations of a unit that are measured. -/
def measured (unit : FileUnit) : List (DeclarationId × Declaration) :=
  unit.declarations.filter fun entry => analysis.program.isEligible entry.2

/-- The answer of a rule about a declaration, its findings with the configured
severity and without those that are suppressed. -/
def declarationOutcome (file : SourcePath) (entry : DeclarationId × Declaration)
    (rule : DeclarationRule) : RuleOutcome :=
  ((rule.check { program := analysis.program, id := entry.1, declaration := entry.2, file }).run
    answer).map fun found =>
      (found.map (analysis.withSeverity rule.name)).filterMap
        (Suppression.apply entry.2.attributes rule.name rule.requiresReason)

/-- The answer of a rule about a type, its findings with the configured severity. -/
def typeOutcome (file : SourcePath) (entry : TypeId × TypeSymbol) (rule : TypeRule) :
    RuleOutcome :=
  ((rule.check { program := analysis.program, id := entry.1, symbol := entry.2, file }).run
    answer).map fun found => found.map (analysis.withSeverity rule.name)

/-- Every answer about a unit: on its measured declarations, then on its types. -/
def outcomes (unit : FileUnit) : List RuleOutcome :=
  ((analysis.measured unit).flatMap fun entry =>
    analysis.rules.rules.map (analysis.declarationOutcome answer unit.file entry)) ++
  unit.types.flatMap fun entry =>
    analysis.rules.typeRules.map (analysis.typeOutcome answer unit.file entry)

/-- The pass of the unit does not fail: no answer is a malformed setting. -/
def isComplete (unit : FileUnit) : Bool :=
  (analysis.outcomes answer unit).all Except.isOk

/-- All that is found in a unit. -/
def unitFindings (unit : FileUnit) : List Finding :=
  (analysis.outcomes answer unit).flatMap findings

/-! ## The pass of a unit -/

private theorem run_declarationFindings (file : SourcePath)
    (entry : DeclarationId × Declaration) (rule : DeclarationRule) :
    (analysis.declarationFindings
      { program := analysis.program, id := entry.1, declaration := entry.2, file } rule).run
        answer = analysis.declarationOutcome answer file entry rule := by
  simp only [declarationFindings, declarationOutcome, Pass.run_bind, Pass.run_pure]
  cases (rule.check _).run answer <;> rfl

private theorem run_typeFindings (file : SourcePath) (entry : TypeId × TypeSymbol)
    (rule : TypeRule) :
    (analysis.typeFindings
      { program := analysis.program, id := entry.1, symbol := entry.2, file } rule).run
        answer = analysis.typeOutcome answer file entry rule := by
  simp only [typeFindings, typeOutcome, Pass.run_bind, Pass.run_pure]
  cases (rule.check _).run answer <;> rfl

theorem run_declarationPass (file : SourcePath) (entry : DeclarationId × Declaration) :
    (analysis.declarationPass file entry).run answer =
      if analysis.program.isEligible entry.2 then
        (gather (analysis.rules.rules.map (analysis.declarationOutcome answer file entry))).map some
      else
        .ok none := by
  simp only [declarationPass, Pass.run_bind, Pass.run_check, Except.bind]
  split
  · have gathered := run_each_flatten answer (analysis.declarationFindings
      { program := analysis.program, id := entry.1, declaration := entry.2, file })
      analysis.rules.rules
    simp only [run_declarationFindings] at gathered
    rw [← gathered, Pass.run_bind]
    cases (Pass.each _ analysis.rules.rules).run answer <;> rfl
  · rfl

theorem run_typePass (file : SourcePath) (entry : TypeId × TypeSymbol) :
    (analysis.typePass file entry).run answer =
      gather (analysis.rules.typeRules.map (analysis.typeOutcome answer file entry)) := by
  have gathered := run_each_flatten answer (analysis.typeFindings
    { program := analysis.program, id := entry.1, symbol := entry.2, file })
    analysis.rules.typeRules
  simp only [run_typeFindings] at gathered
  rw [← gathered, typePass, Pass.run_bind]
  cases (Pass.each _ analysis.rules.typeRules).run answer <;> rfl

/-- The declarations of a unit: what was found on those that are measured, and
how many there are. -/
private theorem run_each_declarationPass (file : SourcePath)
    (entries : List (DeclarationId × Declaration)) :
    ((Pass.each (analysis.declarationPass file) entries).run answer).map
        (fun results => ((results.filterMap id).flatten, (results.filterMap id).length)) =
      (gather ((entries.filter fun entry => analysis.program.isEligible entry.2).flatMap
        fun entry => analysis.rules.rules.map (analysis.declarationOutcome answer file entry))).map
        fun found =>
          (found, (entries.filter fun entry => analysis.program.isEligible entry.2).length) := by
  induction entries with
  | nil => rfl
  | cons entry rest inductionHypothesis =>
      simp only [Pass.each, Pass.run_bind, Pass.run_pure, run_declarationPass, List.filter_cons]
      split
      · rw [List.flatMap_cons, gather_append]
        cases gather (analysis.rules.rules.map _) with
        | error error => rfl
        | ok found =>
            revert inductionHypothesis
            cases (Pass.each _ rest).run answer <;> cases gather _ <;>
              simp +contextual [Except.map, Except.bind]
      · revert inductionHypothesis
        cases (Pass.each _ rest).run answer <;> cases gather _ <;>
          simp +contextual [Except.map, Except.bind]

/-- The outcome of a unit's pass is what the answers about it gather to. -/
theorem run_filePass (unit : FileUnit) :
    (analysis.filePass unit).run answer =
      (gather (analysis.outcomes answer unit)).map fun found =>
        { findings := found, declarations := (analysis.measured unit).length } := by
  have declarations := analysis.run_each_declarationPass answer unit.file unit.declarations
  have types := run_each_flatten answer (analysis.typePass unit.file) unit.types
  simp only [run_typePass, ← gather_flatMap] at types
  simp only [filePass, Pass.run_bind, Pass.run_pure, outcomes, measured, gather_append, ← types]
  revert declarations
  cases (Pass.each (analysis.declarationPass unit.file) unit.declarations).run answer <;>
    cases gather ((unit.declarations.filter _).flatMap _) <;>
    cases (Pass.each (analysis.typePass unit.file) unit.types).run answer <;>
    simp +contextual [Except.map, Except.bind]

/-! ## The report -/

/-- The entry for a unit whose pass fails: the first malformed setting among the answers. -/
def failure? (unit : FileUnit) : Option FileFailure :=
  match gather (analysis.outcomes answer unit) with
  | .ok _ => none
  | .error error => some { file := unit.file, message := error.message }

/-- The report before it is sorted. -/
def unsortedReport : Report :=
  let complete := analysis.units.filter (analysis.isComplete answer)
  { findings := complete.flatMap (analysis.unitFindings answer)
    failures := analysis.units.filterMap (analysis.failure? answer)
    filesChecked := complete.length
    declarationsChecked := (complete.flatMap analysis.measured).length }

/-- A unit adds its findings to the report, or its failure, never both. -/
private theorem fileReport_run (unit : FileUnit) :
    fileReport unit.file ((analysis.filePass unit).run answer) =
      if analysis.isComplete answer unit then
        { findings := analysis.unitFindings answer unit, filesChecked := 1
          declarationsChecked := (analysis.measured unit).length }
      else
        { failures := (analysis.failure? answer unit).toList } := by
  rw [run_filePass]
  cases complete : analysis.isComplete answer unit with
  | true => simp [gather_eq_ok complete, Except.map, fileReport, unitFindings]
  | false =>
      obtain ⟨error, failed⟩ := gather_eq_error complete
      simp [failure?, failed, Except.map, fileReport]

theorem failure?_eq_none {unit : FileUnit} (complete : analysis.isComplete answer unit = true) :
    analysis.failure? answer unit = none := by
  simp [failure?, gather_eq_ok complete]

theorem failure?_isSome {unit : FileUnit} (spoiled : analysis.isComplete answer unit = false) :
    (analysis.failure? answer unit).isSome := by
  obtain ⟨error, failed⟩ := gather_eq_error spoiled
  simp [failure?, failed]

private theorem foldl_merge_fileReport (units : List FileUnit) :
    (units.map fun unit => fileReport unit.file ((analysis.filePass unit).run answer)).foldl
        Report.merge {} =
      { findings := (units.filter (analysis.isComplete answer)).flatMap
          (analysis.unitFindings answer)
        failures := units.filterMap (analysis.failure? answer)
        filesChecked := (units.filter (analysis.isComplete answer)).length
        declarationsChecked :=
          ((units.filter (analysis.isComplete answer)).flatMap analysis.measured).length } := by
  simp only [Report.foldl_merge, fileReport_run]
  induction units with
  | nil => rfl
  | cons unit rest inductionHypothesis =>
      simp only [Report.mk.injEq] at inductionHypothesis ⊢
      obtain ⟨findings, failures, files, declarations⟩ := inductionHypothesis
      cases complete : analysis.isComplete answer unit with
      | true =>
          have none := analysis.failure?_eq_none answer complete
          simp_all [Nat.add_comm]
      | false =>
          have some := analysis.failure?_isSome answer complete
          obtain ⟨failure, failed⟩ := Option.isSome_iff_exists.mp some
          simp_all

/-- What a unit adds to the report. -/
def contribution (unit : FileUnit) : Report :=
  fileReport unit.file ((analysis.filePass unit).run answer)

/-- The report is merged from what each unit adds to it, and sorted. -/
theorem report_eq_merge :
    analysis.report answer =
      .ok ((analysis.units.map (analysis.contribution answer)).foldl Report.merge {}).sort := by
  have reports := Pass.run_each_of_ok answer
    (fun unit => do
      let outcome ← (analysis.filePass unit).attempt
      return fileReport unit.file outcome)
    (analysis.contribution answer) analysis.units
    (by
      intro unit _
      simp only [Pass.run_bind, Pass.run_attempt, Pass.run_pure, Except.bind, contribution])
  simp only [report, pass, Pass.run_bind, reports, Except.bind, Pass.run_check, Pass.run_pure]

/-- An analysis that is not called off always yields a report. -/
theorem report_eq : analysis.report answer = .ok (analysis.unsortedReport answer).sort := by
  have merged := analysis.foldl_merge_fileReport answer analysis.units
  rw [report_eq_merge]
  unfold contribution
  rw [merged]
  rfl

end Analysis

end StructureLint
