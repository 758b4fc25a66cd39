import StructureLint.Command
import StructureLint.Proofs.Analysis.Outcomes
import StructureLint.Proofs.Rule.Strictness

/-!
Contract: a stricter set of rules gives a report that is at least as strict.

Two analyses of one program under one configuration ask their rules about the
same entries of the same units.  If each rule of the second is at least as
strict as its counterpart in the first, the same units fail at the same
malformed settings, and every finding of the first has a counterpart of its own
in the second.  A check that fails with the first set fails with the second.

Owns:
- reports compared with stricter ones, and what that means for an exit code;
- answers, units and reports of two analyses side by side;
- the recommended and the strict preset, end to end.

Does not own: which rules are stricter than which.
-/

namespace StructureLint

/-! ## Preparation -/

section RuleSets

variable {mild hard : RuleSet}

theorem RuleSet.HardensTo.filter (harder : mild.HardensTo hard) (accept : String → Bool) :
    (mild.filter fun info => accept info.name).HardensTo
      (hard.filter fun info => accept info.name) where
  rules := by
    refine List.rel_filter ?_ harder.rules
    intro first second pair
    simp only [pair.name]
  typeRules := by
    refine List.rel_filter ?_ harder.typeRules
    intro first second pair
    simp only [pair.name]

theorem RuleSet.HardensTo.map_infos (harder : mild.HardensTo hard) :
    (hard.infos.map fun info => (info.code, info.name)) =
      mild.infos.map fun info => (info.code, info.name) := by
  have rules : List.Forall₂ Eq
      (mild.rules.map fun rule => (rule.code, rule.name))
      (hard.rules.map fun rule => (rule.code, rule.name)) :=
    List.rel_map (fun _ _ pair => by rw [pair.code, pair.name]) harder.rules
  have typeRules : List.Forall₂ Eq
      (mild.typeRules.map fun rule => (rule.code, rule.name))
      (hard.typeRules.map fun rule => (rule.code, rule.name)) :=
    List.rel_map (fun _ _ pair => by rw [pair.code, pair.name]) harder.typeRules
  rw [List.forall₂_eq_eq_eq] at rules typeRules
  simp only [RuleSet.infos, List.map_append, List.map_map]
  exact (congrArg₂ (· ++ ·) rules typeRules).symm

end RuleSets

namespace Analysis

/-- Both analyses are about one program under one configuration, and the rules
of the second are at least as strict. -/
structure HardensTo (mild hard : Analysis) : Prop where
  program : hard.program = mild.program
  config : hard.config = mild.config
  rules : mild.rules.HardensTo hard.rules

section Preparation

variable {mild hard : RuleSet} (program : Program) (shared : Bool) (config : Config)

/-- The program that an analysis is about, unless preparation stops. -/
def settle : Except AnalysisError Program := do
  let normalized ←
    if shared && program.isNormalized then pure program
    else program.normalize.mapError .model
  let _ ← config.threshold.mapError .config
  return normalized

/-- A program with the rules of a set that a configuration enables. -/
def equip (config : Config) (rules : RuleSet) (program : Program) : Analysis :=
  let config := config.aliasCodes (rules.infos.map fun info => (info.code, info.name))
  { program, config, rules := rules.filter fun info => config.isEnabled info.name }

theorem prepare_eq_map_equip (rules : RuleSet) :
    prepare program shared config rules =
      (settle program shared config).map (equip config rules) := by
  unfold prepare settle
  cases (shared && program.isNormalized) <;> cases program.normalize <;>
    cases config.threshold <;> rfl

theorem equip_hardens (harder : mild.HardensTo hard) :
    (equip config mild program).HardensTo (equip config hard program) := by
  unfold equip
  rw [harder.map_infos]
  exact { program := rfl, config := rfl, rules := harder.filter _ }

end Preparation

/-! ## Answers side by side -/

section SideBySide

open RuleOutcome

variable {mild hard : Analysis} (harder : mild.HardensTo hard)
  (answer : SettingRequest → Option String)

include harder

theorem withSeverity_hardens {finding other : Finding} (hardens : finding.HardensTo other)
    (rule : String) :
    (mild.withSeverity rule finding).HardensTo (hard.withSeverity rule other) := by
  refine ⟨hardens.code, hardens.rule, hardens.location, ?_⟩
  unfold withSeverity
  rw [harder.config]
  cases mild.config.severity? rule with
  | none => exact hardens.severity
  | some severity => exact Nat.le_refl _

theorem declarationOutcome_alike {first second : DeclarationRule}
    (pair : first.HardensTo second) (file : SourcePath)
    (entry : DeclarationId × Declaration) :
    EndAlike Finding.AllHarden (mild.declarationOutcome answer file entry first)
      (hard.declarationOutcome answer file entry second) := by
  unfold declarationOutcome
  rw [harder.program]
  refine (pair.check answer _).map ?_
  intro found others counterparts
  rw [List.filterMap_map, List.filterMap_map]
  refine sublistForall₂_filterMap counterparts ?_
  intro finding other kept hardens stays
  have raised := withSeverity_hardens harder hardens first.name
  rw [Function.comp_apply, pair.name]
  exact Suppression.apply_hardens pair.requiresReason raised stays

theorem typeOutcome_alike {first second : TypeRule} (pair : first.HardensTo second)
    (file : SourcePath) (entry : TypeId × TypeSymbol) :
    EndAlike Finding.AllHarden (mild.typeOutcome answer file entry first)
      (hard.typeOutcome answer file entry second) := by
  unfold typeOutcome
  rw [harder.program, pair.name]
  refine (pair.check answer _).map ?_
  intro found others counterparts
  rw [← List.filterMap_eq_map', ← List.filterMap_eq_map']
  refine sublistForall₂_filterMap counterparts ?_
  rintro finding other _ hardens ⟨⟩
  exact ⟨_, rfl, withSeverity_hardens harder hardens first.name⟩

theorem measured_eq (unit : FileUnit) : hard.measured unit = mild.measured unit := by
  unfold measured
  rw [harder.program]

/-- The second analysis asks the counterpart of each rule about the same entries. -/
theorem outcomes_alike (unit : FileUnit) :
    List.Forall₂ (EndAlike Finding.AllHarden) (mild.outcomes answer unit)
      (hard.outcomes answer unit) := by
  unfold outcomes
  rw [measured_eq harder unit]
  refine List.rel_append ?_ ?_
  · induction mild.measured unit with
    | nil => exact .nil
    | cons entry rest inductionHypothesis =>
        refine List.rel_append (List.rel_map ?_ harder.rules.rules) inductionHypothesis
        intro first second pair
        exact declarationOutcome_alike harder answer pair unit.file entry
  · induction unit.types with
    | nil => exact .nil
    | cons entry rest inductionHypothesis =>
        refine List.rel_append (List.rel_map ?_ harder.rules.typeRules) inductionHypothesis
        intro first second pair
        exact typeOutcome_alike harder answer pair unit.file entry

omit harder in
theorem gather_alike {first second : List RuleOutcome}
    (pairs : List.Forall₂ (EndAlike Finding.AllHarden) first second) :
    EndAlike Finding.AllHarden (gather first) (gather second) := by
  induction pairs with
  | nil => exact .done .nil
  | cons pair _ inductionHypothesis =>
      refine pair.bind ?_
      intro found others counterparts
      refine inductionHypothesis.map ?_
      intro behind othersBehind counterpartsBehind
      exact sublistForall₂_append counterparts counterpartsBehind

omit harder in
theorem findings_alike {first second : RuleOutcome}
    (alike : EndAlike Finding.AllHarden first second) :
    Finding.AllHarden (findings first) (findings second) := by
  cases alike with
  | failed error => exact .nil
  | done counterparts => exact counterparts

theorem gathered_alike (unit : FileUnit) :
    EndAlike Finding.AllHarden (gather (mild.outcomes answer unit))
      (gather (hard.outcomes answer unit)) :=
  gather_alike (outcomes_alike harder answer unit)

/-! ## Reports side by side -/

theorem units_eq : hard.units = mild.units := by
  have empty : hard.rules.typeRules.isEmpty = mild.rules.typeRules.isEmpty := by
    have lengths := harder.rules.typeRules.length_eq
    rw [Bool.eq_iff_iff, List.isEmpty_iff_length_eq_zero, List.isEmpty_iff_length_eq_zero, lengths]
  unfold units
  rw [harder.program, empty]

theorem failure?_eq (unit : FileUnit) :
    hard.failure? answer unit = mild.failure? answer unit := by
  have alike := gathered_alike harder answer unit
  unfold failure?
  generalize gather (mild.outcomes answer unit) = first at alike ⊢
  generalize gather (hard.outcomes answer unit) = second at alike ⊢
  cases alike <;> rfl

omit harder in
/-- What is found in complete units is what the answers about all units gather to. -/
theorem flatMap_unitFindings (analysis : Analysis) (units : List FileUnit) :
    (units.filter (analysis.isComplete answer)).flatMap (analysis.unitFindings answer) =
      units.flatMap fun unit => findings (gather (analysis.outcomes answer unit)) := by
  induction units with
  | nil => rfl
  | cons unit rest inductionHypothesis =>
      cases complete : analysis.isComplete answer unit with
      | true =>
          have gathered := gather_eq_ok complete
          simp [complete, inductionHypothesis, gathered, findings, unitFindings]
      | false =>
          obtain ⟨error, failed⟩ := gather_eq_error complete
          simp [complete, inductionHypothesis, failed, findings]

theorem flatMap_findings_alike (units : List FileUnit) :
    Finding.AllHarden
      (units.flatMap fun unit => findings (gather (mild.outcomes answer unit)))
      (units.flatMap fun unit => findings (gather (hard.outcomes answer unit))) := by
  induction units with
  | nil => exact .nil
  | cons unit rest inductionHypothesis =>
      exact sublistForall₂_append (findings_alike (gathered_alike harder answer unit))
        inductionHypothesis

end SideBySide

end Analysis

/-! ## Reports -/

/-- Both reports list the same failures, and there is an injection of the
findings of the first into those of the second along which findings harden. -/
structure Report.HardensTo (mild hard : Report) : Prop where
  failures : hard.failures = mild.failures
  findings : ∃ place : Fin mild.findings.length ↪ Fin hard.findings.length,
    ∀ index, (mild.findings.get index).HardensTo (hard.findings.get (place index))

theorem Report.HardensTo.hasFindingAtLeast {mild hard : Report} (harder : mild.HardensTo hard)
    {threshold : Severity} (found : mild.hasFindingAtLeast threshold = true) :
    hard.hasFindingAtLeast threshold = true := by
  obtain ⟨place, hardens⟩ := harder.findings
  obtain ⟨finding, listed, serious⟩ := List.any_eq_true.mp found
  obtain ⟨index, rfl⟩ := List.get_of_mem listed
  refine List.any_eq_true.mpr ⟨_, List.get_mem _ (place index), ?_⟩
  have raised := (hardens index).severity
  simp only [Severity.atLeast, decide_eq_true_eq] at serious ⊢
  omega

/-- A check that fails with the milder report fails with the harder one. -/
theorem Report.HardensTo.exitCodeOf {mild hard : Report} (harder : mild.HardensTo hard)
    {threshold : Severity} (fails : Command.exitCodeOf mild threshold = 1) :
    Command.exitCodeOf hard threshold = 1 := by
  have reason : mild.hasFindingAtLeast threshold = true ∨ mild.hasFailures = true := by
    by_contra neither
    rw [Command.exitCodeOf, if_neg (by simpa using neither)] at fails
    exact absurd fails (by decide)
  have failures : hard.hasFailures = mild.hasFailures := by
    rw [Report.hasFailures, harder.failures, Report.hasFailures]
  rw [Command.exitCodeOf, if_pos]
  rcases reason with found | failed
  · rw [harder.hasFindingAtLeast found, Bool.true_or]
  · rw [failures, failed, Bool.or_true]

namespace Analysis

variable {mild hard : Analysis} (harder : mild.HardensTo hard)
  (answer : SettingRequest → Option String)

include harder

/-- Sorting moves findings about and leaves each its counterpart. -/
theorem sort_unsortedReport_hardens :
    (mild.unsortedReport answer).sort.HardensTo (hard.unsortedReport answer).sort where
  failures := by
    have same : hard.units.filterMap (hard.failure? answer) =
        mild.units.filterMap (mild.failure? answer) := by
      rw [units_eq harder]
      exact List.filterMap_congr fun unit _ => failure?_eq harder answer unit
    show List.mergeSort (hard.units.filterMap (hard.failure? answer)) _ = _
    rw [same]
    rfl
  findings := by
    have counterparts : Finding.AllHarden (mild.unsortedReport answer).findings
        (hard.unsortedReport answer).findings := by
      show Finding.AllHarden
        ((mild.units.filter (mild.isComplete answer)).flatMap (mild.unitFindings answer))
        ((hard.units.filter (hard.isComplete answer)).flatMap (hard.unitFindings answer))
      rw [flatMap_unitFindings, flatMap_unitFindings, units_eq harder]
      exact flatMap_findings_alike harder answer mild.units
    obtain ⟨matched, paired, inside⟩ := List.sublistForall₂_iff.mp counterparts
    obtain ⟨reordered, pairedAgain, same⟩ :=
      List.perm_comp_forall₂ (List.mergeSort_perm _ _) paired
    refine exists_embedding_of_subperm pairedAgain ?_
    exact (same.subperm.trans inside.subperm).trans (List.mergeSort_perm _ _).symm.subperm

omit harder in
/-- The strict preset is at least as strict as the recommended one.  Whatever the
program, the configuration and the settings, both analyses stop at one error
before they start, or both end with a report; the report of the strict one then
has the same failures, keeps every finding at its place and no milder, and fails
every check that the other one fails. -/
theorem strict_preset_hardens_recommended (program : Program) (shared : Bool) (config : Config)
    (answer : SettingRequest → Option String) :
    (∃ error, prepare program shared config Preset.recommended.rules = .error error ∧
      prepare program shared config Preset.strict.rules = .error error) ∨
    ∃ mild hard first second,
      prepare program shared config Preset.recommended.rules = .ok mild ∧
      prepare program shared config Preset.strict.rules = .ok hard ∧
      hard.config = mild.config ∧
      mild.report answer = .ok first ∧ hard.report answer = .ok second ∧
      first.HardensTo second ∧
      ∀ threshold, Command.exitCodeOf first threshold = 1 →
        Command.exitCodeOf second threshold = 1 := by
  rw [prepare_eq_map_equip, prepare_eq_map_equip]
  cases settle program shared config with
  | error error => exact .inl ⟨error, rfl, rfl⟩
  | ok normalized =>
      have harder := equip_hardens normalized config Preset.recommended_hardens
      have reports := sort_unsortedReport_hardens harder answer
      exact .inr ⟨_, _, _, _, rfl, rfl, harder.config, report_eq _ answer, report_eq _ answer,
        reports, fun _ fails => reports.exitCodeOf fails⟩

end Analysis

end StructureLint
