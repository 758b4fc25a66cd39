import StructureLint.Command
import StructureLint.Proofs.Analysis.Strictness
import StructureLint.Proofs.Analysis.Units
import StructureLint.Proofs.Rule.Confinement
import StructureLint.Proofs.Setting.Cached

/-!
Contract: the pass of a file fails as a whole, and on its own account.

A pass puts its entries before the rules one after the other.  The first
malformed setting gives it up, and nothing of what was found before is kept.
Sections for files that do not match a file change nothing about it, whatever
they do to others, and a cache between the rules and the settings goes unnoticed.

Owns:
- the examinations of a unit in order, and which of them gives it up;
- what a failing unit leaves in the report;
- a configuration with a further section for files, next to the one without;
- an analysis with a cache that all its files share.

Does not own: what makes a setting malformed, and which paths match a pattern.
-/

namespace StructureLint

/-! ## The first malformed setting -/

namespace RuleOutcome

theorem gather_eq_error_iff {outcomes : List RuleOutcome} {error : SettingError} :
    gather outcomes = .error error ↔
      ∃ before behind, outcomes = before ++ .error error :: behind ∧
        ∀ outcome ∈ before, outcome.isOk = true := by
  induction outcomes with
  | nil => simp [gather]
  | cons outcome rest inductionHypothesis =>
      cases outcome with
      | error first =>
          constructor
          · intro failed
            cases failed
            exact ⟨[], rest, rfl, by simp⟩
          · rintro ⟨before, behind, split, sound⟩
            cases before with
            | nil =>
                cases split
                rfl
            | cons earlier others =>
                obtain ⟨rfl, _⟩ := List.cons.inj split
                exact absurd (sound _ List.mem_cons_self) Bool.false_ne_true
      | ok found =>
          have passedOn : gather (.ok found :: rest) = .error error ↔
              gather rest = .error error := by
            cases gathered : gather rest <;> simp [gather, gathered, Except.bind, Except.map]
          rw [passedOn, inductionHypothesis]
          constructor
          · rintro ⟨before, behind, rfl, sound⟩
            refine ⟨.ok found :: before, behind, rfl, ?_⟩
            intro outcome listed
            rcases List.mem_cons.mp listed with rfl | later
            · rfl
            · exact sound outcome later
          · rintro ⟨before, behind, split, sound⟩
            cases before with
            | nil => cases split
            | cons earlier others =>
                obtain ⟨_, rfl⟩ := List.cons.inj split
                exact ⟨others, behind, rfl, fun outcome later =>
                  sound outcome (List.mem_cons_of_mem _ later)⟩

end RuleOutcome

/-- A rule and the entry that it is asked about. -/
inductive Examination where
  | declaration (entry : DeclarationId × Declaration) (rule : DeclarationRule)
  | type (entry : TypeId × TypeSymbol) (rule : TypeRule)

/-- What the rule returns. -/
def Examination.outcome (program : Program) (file : SourcePath)
    (answer : SettingRequest → Option String) : Examination → RuleOutcome
  | .declaration entry rule =>
    (rule.check { program, id := entry.1, declaration := entry.2, file }).run answer
  | .type entry rule =>
    (rule.check { program, id := entry.1, symbol := entry.2, file }).run answer

namespace Analysis

open RuleOutcome

section Atomicity

variable (analysis : Analysis) (answer : SettingRequest → Option String)

/-- The examinations of a unit: each eligible declaration by each rule, then
each type by each type rule. -/
def examinations (unit : FileUnit) : List Examination :=
  ((analysis.measured unit).flatMap fun entry =>
    analysis.rules.rules.map (.declaration entry)) ++
  unit.types.flatMap fun entry => analysis.rules.typeRules.map (.type entry)

/-- The findings of an examination as they enter the report. -/
def settleFindings : Examination → List Finding → List Finding
  | .declaration entry rule, found =>
    (found.map (analysis.withSeverity rule.name)).filterMap
      (Suppression.apply entry.2.attributes rule.name rule.requiresReason)
  | .type _ rule, found => found.map (analysis.withSeverity rule.name)

theorem outcomes_eq_map (unit : FileUnit) :
    analysis.outcomes answer unit = (analysis.examinations unit).map fun examination =>
      (examination.outcome analysis.program unit.file answer).map
        (analysis.settleFindings examination) := by
  simp only [outcomes, examinations, List.map_append, List.map_flatMap, List.map_map]
  rfl

/-- The error is that of the first examination that meets a malformed setting. -/
def FirstSpoiled (unit : FileUnit) (error : SettingError) : Prop :=
  ∃ before spoiled behind, analysis.examinations unit = before ++ spoiled :: behind ∧
    (∀ earlier ∈ before, ∃ found,
      earlier.outcome analysis.program unit.file answer = .ok found) ∧
    spoiled.outcome analysis.program unit.file answer = .error error

private theorem isOk_map {α β : Type} (shape : α → β) (outcome : Except SettingError α) :
    (outcome.map shape).isOk = true ↔ ∃ found, outcome = .ok found := by
  cases outcome with
  | error error => simp [Except.map, Except.isOk, Except.toBool]
  | ok found => simp [Except.map, Except.isOk, Except.toBool]

private theorem map_eq_error {α β : Type} {shape : α → β} {outcome : Except SettingError α}
    {error : SettingError} : outcome.map shape = .error error ↔ outcome = .error error := by
  cases outcome <;> simp [Except.map]

theorem run_filePass_eq_error_iff {unit : FileUnit} {error : SettingError} :
    (analysis.filePass unit).run answer = .error error ↔
      analysis.FirstSpoiled answer unit error := by
  rw [run_filePass, map_eq_error, gather_eq_error_iff, outcomes_eq_map]
  constructor
  · rintro ⟨before, behind, split, sound⟩
    obtain ⟨earlier, rest, examined, rfl, behindMap⟩ := List.map_eq_append_iff.mp split
    obtain ⟨spoiled, others, rfl, failed, _⟩ := List.map_eq_cons_iff.mp behindMap
    refine ⟨earlier, spoiled, others, examined, ?_, map_eq_error.mp failed⟩
    intro examination listed
    exact (isOk_map _ _).mp (sound _ (List.mem_map_of_mem listed))
  · rintro ⟨before, spoiled, behind, examined, sound, failed⟩
    refine ⟨_, _, by rw [examined, List.map_append, List.map_cons, map_eq_error.mpr failed], ?_⟩
    intro outcome listed
    obtain ⟨earlier, earlierListed, rfl⟩ := List.mem_map.mp listed
    exact (isOk_map _ _).mpr (sound earlier earlierListed)

/-- Some examination meets a malformed setting exactly if some is the first to do so. -/
theorem exists_firstSpoiled_iff {unit : FileUnit} :
    (∃ error, analysis.FirstSpoiled answer unit error) ↔
      ∃ examination ∈ analysis.examinations unit, ∃ error,
        examination.outcome analysis.program unit.file answer = .error error := by
  constructor
  · rintro ⟨error, before, spoiled, behind, examined, _, failed⟩
    refine ⟨spoiled, ?_, error, failed⟩
    rw [examined]
    exact List.mem_append_right before List.mem_cons_self
  · rintro ⟨examination, listed, error, failed⟩
    have spoiled : (analysis.outcomes answer unit).all Except.isOk = false := by
      rw [List.all_eq_false]
      refine ⟨.error error, ?_, Bool.false_ne_true⟩
      rw [outcomes_eq_map]
      exact List.mem_map.mpr ⟨examination, listed, map_eq_error.mpr failed⟩
    obtain ⟨first, gathered⟩ := gather_eq_error spoiled
    refine ⟨first, (analysis.run_filePass_eq_error_iff answer).mp ?_⟩
    rw [run_filePass, gathered]
    rfl

/-! ## What a failing unit leaves behind -/

theorem pairwise_units :
    analysis.units.Pairwise fun left right => ¬ left.file.Same right.file := by
  have apart := analysis.program.pairwise_unitPaths !analysis.rules.typeRules.isEmpty
  unfold units
  rw [Program.fileUnits_eq_map]
  exact List.pairwise_map.mpr apart

theorem filter_units_same {unit : FileUnit} (listed : unit ∈ analysis.units) :
    (analysis.units.filter fun other => decide (unit.file.Same other.file)) = [unit] := by
  have apart := analysis.pairwise_units
  generalize analysis.units = units at listed apart
  induction units with
  | nil => exact absurd listed List.not_mem_nil
  | cons first rest inductionHypothesis =>
      obtain ⟨fromFirst, fromRest⟩ := List.pairwise_cons.mp apart
      rcases List.mem_cons.mp listed with rfl | later
      · have same : decide (unit.file.Same unit.file) = true := decide_eq_true rfl
        rw [List.filter_cons, if_pos same, List.filter_eq_nil_iff.mpr]
        intro other otherListed
        simpa using fromFirst other otherListed
      · have different : ¬ unit.file.Same first.file := by
          intro same
          exact fromFirst unit later same.symm
        rw [List.filter_cons_of_neg (by simpa using different)]
        exact inductionHypothesis later fromRest

theorem file_of_failure? {unit : FileUnit} {failure : FileFailure}
    (failed : analysis.failure? answer unit = some failure) : failure.file = unit.file := by
  unfold failure? at failed
  split at failed
  · cases failed
  · cases failed
    rfl

theorem filter_failures {unit : FileUnit} (listed : unit ∈ analysis.units) :
    ((analysis.unsortedReport answer).failures.filter fun failure =>
        decide (unit.file.Same failure.file)) =
      (analysis.failure? answer unit).toList := by
  have exchanged : ((analysis.units.filterMap (analysis.failure? answer)).filter fun failure =>
      decide (unit.file.Same failure.file)) =
      (analysis.units.filter fun other => decide (unit.file.Same other.file)).filterMap
        (analysis.failure? answer) := by
    rw [List.filter_filterMap, List.filterMap_filter]
    refine List.filterMap_congr ?_
    intro other _
    cases failed : analysis.failure? answer other with
    | none => simp
    | some failure =>
        rw [← analysis.file_of_failure? answer failed]
        simp [Option.filter]
  show ((analysis.units.filterMap (analysis.failure? answer)).filter _) = _
  rw [exchanged, analysis.filter_units_same listed]
  cases failed : analysis.failure? answer unit <;> simp [failed]

/-- How the pass of a unit may fail, and what is left of it then: one entry
among the failures of the report, and nothing else. -/
structure FailsAtomically (report : Report) (unit : FileUnit) : Prop where
  fails_iff : (∃ error, (analysis.filePass unit).run answer = .error error) ↔
    ∃ examination ∈ analysis.examinations unit, ∃ error,
      examination.outcome analysis.program unit.file answer = .error error
  first : ∀ error, (analysis.filePass unit).run answer = .error error ↔
    analysis.FirstSpoiled answer unit error
  contribution : ∀ error, (analysis.filePass unit).run answer = .error error →
    analysis.contribution answer unit =
      { findings := [], failures := [{ file := unit.file, message := error.message }]
        filesChecked := 0, declarationsChecked := 0 }
  listed : ∀ error, (analysis.filePass unit).run answer = .error error →
    (report.failures.filter fun failure => decide (unit.file.Same failure.file)) =
      [{ file := unit.file, message := error.message }]

theorem failsAtomically {unit : FileUnit} (listed : unit ∈ analysis.units) :
    analysis.FailsAtomically answer (analysis.unsortedReport answer).sort unit where
  fails_iff := by
    simp only [run_filePass_eq_error_iff]
    exact analysis.exists_firstSpoiled_iff answer
  first error := analysis.run_filePass_eq_error_iff answer
  contribution := by
    intro error failed
    rw [contribution, failed]
    rfl
  listed := by
    intro error failed
    rw [run_filePass, map_eq_error] at failed
    have entry : analysis.failure? answer unit =
        some { file := unit.file, message := error.message } := by
      rw [failure?, failed]
    have shuffled := (List.mergeSort_perm (analysis.unsortedReport answer).failures
      fun left right => (left.file.compare right.file).isLE).filter
        fun failure => decide (unit.file.Same failure.file)
    rw [analysis.filter_failures answer listed, entry] at shuffled
    exact List.perm_singleton.mp shuffled

end Atomicity

end Analysis

/-! ## A further section for files -/

/-- The configuration with a further section for files behind its own. -/
def Config.withOverride (config : Config) (extra : FileOverride) : Config :=
  { config with overrides := config.overrides ++ [extra] }

theorem Config.answer_withOverride (config : Config) (extra : FileOverride)
    {request : SettingRequest} (elsewhere : extra.applies request.file = false) :
    (config.withOverride extra).answer request = config.answer request := by
  simp [Config.answer, Config.withOverride, elsewhere]

namespace Analysis

/-- The analysis with a further section for files in its configuration. -/
def withOverride (analysis : Analysis) (extra : FileOverride) : Analysis :=
  { analysis with config := analysis.config.withOverride extra }

/-- The further section stays one for the same files when its codes are read as names. -/
theorem exists_equip_withOverride (config : Config) (extra : FileOverride) (rules : RuleSet)
    (program : Program) :
    ∃ aliased : FileOverride, aliased.files = extra.files ∧
      equip (config.withOverride extra) rules program =
        (equip config rules program).withOverride aliased := by
  let codes := rules.infos.map fun info => (info.code, info.name)
  refine ⟨{ files := extra.files, rules := extra.rules.rekeyAll codes }, rfl, ?_⟩
  simp [equip, withOverride, Config.withOverride, Config.aliasCodes, Config.isEnabled, codes]

theorem settle_withOverride (program : Program) (shared : Bool) (config : Config)
    (extra : FileOverride) :
    settle program shared (config.withOverride extra) = settle program shared config :=
  rfl

/-- The pass itself is the same: only the answers to its questions may differ. -/
theorem filePass_withOverride (analysis : Analysis) (extra : FileOverride) (unit : FileUnit) :
    (analysis.withOverride extra).filePass unit = analysis.filePass unit :=
  rfl

section Confined

variable {analysis : Analysis} (confined : analysis.rules.Confined)

include confined

theorem asksOnly_filePass (unit : FileUnit) :
    (analysis.filePass unit).AsksOnly fun request => request.file = unit.file := by
  refine (Pass.asksOnly_each ?declarations).bind fun _ =>
    (Pass.asksOnly_each ?types).bind fun _ => Pass.asksOnly_pure _
  case declarations =>
    intro entry _
    refine Pass.asksOnly_check.bind ?_
    intro _
    split
    · refine (Pass.asksOnly_each ?_).bind fun _ => Pass.asksOnly_pure _
      intro rule listed
      have asks := confined.rules rule listed
        { program := analysis.program, id := entry.1, declaration := entry.2, file := unit.file }
      exact asks.bind fun _ => Pass.asksOnly_pure _
    · exact Pass.asksOnly_pure _
  case types =>
    intro entry _
    refine (Pass.asksOnly_each ?_).bind fun _ => Pass.asksOnly_pure _
    intro rule listed
    have asks := confined.typeRules rule listed
      { program := analysis.program, id := entry.1, symbol := entry.2, file := unit.file }
    exact asks.bind fun _ => Pass.asksOnly_pure _

theorem asksOnly_pass :
    analysis.pass.AsksOnly fun request => ∃ unit ∈ analysis.units, request.file = unit.file := by
  refine (Pass.asksOnly_each ?_).bind fun _ =>
    Pass.asksOnly_check.bind fun _ => Pass.asksOnly_pure _
  intro unit listed
  have asks := (asksOnly_filePass confined unit).mono fun request own =>
    (⟨unit, listed, own⟩ : ∃ unit ∈ analysis.units, request.file = unit.file)
  exact asks.attempt.bind fun _ => Pass.asksOnly_pure _

theorem run_filePass_withOverride {extra : FileOverride} {unit : FileUnit}
    (elsewhere : extra.applies unit.file = false) :
    ((analysis.withOverride extra).filePass unit).run (analysis.withOverride extra).config.answer =
      (analysis.filePass unit).run analysis.config.answer := by
  rw [filePass_withOverride]
  refine (asksOnly_filePass confined unit).run_congr ?_
  intro request own
  exact analysis.config.answer_withOverride extra (by rw [own]; exact elsewhere)

omit confined in
/-- Files of a program are told apart by what keys keep of a path, so that
questions about them with one key are one question. -/
theorem stable_on_units (provider : SettingRequest → Option String) :
    StableProvider (fun request => ∃ unit ∈ analysis.units, request.file = unit.file)
      provider := by
  rintro ⟨_, rule, key⟩ ⟨_, otherRule, otherKey⟩ ⟨unit, listed, rfl⟩ ⟨other, otherListed, rfl⟩ same
  obtain ⟨path, rfl, rfl⟩ : unit.file.Same other.file ∧ rule = otherRule ∧ key = otherKey := by
    simpa [SettingRequest.cacheKey, SourcePath.Same] using same
  have alone : other ∈ analysis.units.filter fun candidate =>
      decide (unit.file.Same candidate.file) :=
    List.mem_filter.mpr ⟨otherListed, decide_eq_true path⟩
  rw [analysis.filter_units_same listed] at alone
  rw [List.mem_singleton.mp alone]

/-- A cache that has not served the program before goes unnoticed. -/
theorem run_analyzeWithCache {cache : SettingsCache} {id : CompilationId}
    (foreign : cache.owner ≠ some id) :
    (Id.run ((Command.analyzeWithCache analysis id).run cache)).1 =
      .ofExcept (analysis.report analysis.config.answer) :=
  SettingsCache.interpret_answer (analysis.stable_on_units _) (asksOnly_pass confined)
    fun owned => absurd owned foreign

end Confined

/-! ## Isolation -/

/-- An analysis ends with the reports on its units merged and sorted, each of
which fails atomically or not at all. -/
theorem exists_report_failsAtomically (analysis : Analysis)
    (answer : SettingRequest → Option String) :
    ∃ report, analysis.report answer = .ok report ∧
      report = ((analysis.units.map (analysis.contribution answer)).foldl Report.merge {}).sort ∧
      ∀ unit ∈ analysis.units, analysis.FailsAtomically answer report unit := by
  refine ⟨_, analysis.report_eq answer, ?_, fun unit listed =>
    analysis.failsAtomically answer listed⟩
  have merged := (analysis.report_eq answer).symm.trans (analysis.report_eq_merge answer)
  exact Except.ok.inj merged

/-- The pass of a file fails if and only if one of its examinations does; it then
leaves the error of the first one that did, and nothing else.  And whatever a
further section for files does to the files that it matches, every other file
has the outcome that it has without the section, with or without a cache that
the files share. -/
theorem file_passes_isolated :
    (∀ (analysis : Analysis) (answer : SettingRequest → Option String),
      ∃ report, analysis.report answer = .ok report ∧
        report =
          ((analysis.units.map (analysis.contribution answer)).foldl Report.merge {}).sort ∧
        ∀ unit ∈ analysis.units, analysis.FailsAtomically answer report unit) ∧
    (∀ preset : Preset, preset.rules.Confined) ∧
    ∀ (rules : RuleSet), rules.Confined →
      ∀ (program : Program) (shared : Bool) (config : Config) (extra : FileOverride),
      (∃ error, prepare program shared config rules = .error error ∧
        prepare program shared (config.withOverride extra) rules = .error error) ∨
      ∃ without within, prepare program shared config rules = .ok without ∧
        prepare program shared (config.withOverride extra) rules = .ok within ∧
        within.units = without.units ∧
        (∀ unit ∈ without.units, extra.applies unit.file = false →
          (within.filePass unit).run within.config.answer =
            (without.filePass unit).run without.config.answer ∧
          within.contribution within.config.answer unit =
            without.contribution without.config.answer unit) ∧
        ∀ analysis ∈ [without, within], ∀ (cache : SettingsCache) (id : CompilationId),
          cache.owner ≠ some id →
            (Id.run ((Command.analyzeWithCache analysis id).run cache)).1 =
              .ofExcept (analysis.report analysis.config.answer) := by
  refine ⟨exists_report_failsAtomically, Preset.confined, ?_⟩
  intro rules confined program shared config extra
  rw [prepare_eq_map_equip, prepare_eq_map_equip, settle_withOverride]
  cases settle program shared config with
  | error error => exact .inl ⟨error, rfl, rfl⟩
  | ok normalized =>
      have enabled : (equip config rules normalized).rules.Confined :=
        confined.filter fun info => (equip config rules normalized).config.isEnabled info.name
      obtain ⟨aliased, files, equipped⟩ :=
        exists_equip_withOverride config extra rules normalized
      refine .inr ⟨_, _, rfl, congrArg Except.ok equipped, rfl, ?outcomes, ?cached⟩
      case outcomes =>
        intro unit _ elsewhere
        have unmatched : aliased.applies unit.file = false := by
          rw [FileOverride.applies, files]
          exact elsewhere
        have same := run_filePass_withOverride enabled unmatched
        exact ⟨same, congrArg (fileReport unit.file) same⟩
      case cached =>
        intro analysis listed cache id foreign
        have confined : analysis.rules.Confined := by
          rcases List.mem_cons.mp listed with rfl | others
          · exact enabled
          · rw [List.mem_singleton.mp others]
            exact enabled
        exact run_analyzeWithCache confined foreign

/-- Two files with a method each. -/
def loaderAndSaver : Program :=
  { declarations := [
      { name := "Save", kind := .method, file := ⟨"gen/Saver.cs"⟩, span := .at 1 1
        body := some (.block (.ofStmts [.ofKind .breaks])) },
      { name := "Load", kind := .method, file := ⟨"src/Loader.cs"⟩, span := .at 1 1
        body := some (.block (.ofStmts [.ofKind .breaks])) }]
    isNormalized := true }

/-- A section, by the code of its rule, that no generated file survives. -/
def spoilGenerated : FileOverride :=
  { files := ["gen/**"]
    rules := [("SL001", { options := [("max_statement_count", .string "few")] })] }

/-- The file that the section is for. -/
def saverUnit : FileUnit :=
  { file := ⟨"gen/Saver.cs"⟩, declarations := loaderAndSaver.numberedDeclarations.take 1 }

/-- The file that the section is not for. -/
def loaderUnit : FileUnit :=
  { file := ⟨"src/Loader.cs"⟩, declarations := loaderAndSaver.numberedDeclarations.drop 1 }

theorem units_loaderAndSaver (config : Config) :
    (equip config Preset.minimal.rules loaderAndSaver).units = [saverUnit, loaderUnit] := by
  have spellings : firstSpellings (loaderAndSaver.numberedDeclarations.map (fun entry =>
      entry.2.file) ++ (loaderAndSaver.placedTypesIf false).map Prod.fst) =
      [⟨"gen/Saver.cs"⟩, ⟨"src/Loader.cs"⟩] := by decide +kernel
  have sorted : loaderAndSaver.unitPaths false = [⟨"gen/Saver.cs"⟩, ⟨"src/Loader.cs"⟩] := by
    rw [Program.unitPaths, spellings, List.mergeSort_of_pairwise]
    decide +kernel
  have noTypeRules : (equip config Preset.minimal.rules loaderAndSaver).rules.typeRules = [] := rfl
  rw [units, noTypeRules]
  show loaderAndSaver.fileUnits false = _
  rw [Program.fileUnits_eq_map, sorted]
  rfl

/-- The analysis with that section. -/
def generatedSpoiled : Analysis :=
  equip (Config.withOverride {} spoilGenerated) Preset.minimal.rules loaderAndSaver

theorem run_filePass_saverUnit :
    (generatedSpoiled.filePass saverUnit).run generatedSpoiled.config.answer =
      .error { request := ⟨⟨"gen/Saver.cs"⟩, "statement-count", "max_statement_count"⟩
               shape := .count, value := "few" } :=
  rfl

/-- The generated file fails with the one entry that is due, and the other file
does not notice. -/
theorem file_passes_isolated_spoilGenerated :
    ∃ without within report, prepare loaderAndSaver true {} Preset.minimal.rules = .ok without ∧
      prepare loaderAndSaver true (Config.withOverride {} spoilGenerated) Preset.minimal.rules =
        .ok within ∧
      loaderUnit ∈ without.units ∧ spoilGenerated.applies loaderUnit.file = false ∧
      (within.filePass loaderUnit).run within.config.answer =
        (without.filePass loaderUnit).run without.config.answer ∧
      within.report within.config.answer = .ok report ∧
      (report.failures.filter fun failure => decide (saverUnit.file.Same failure.file)) =
        [{ file := ⟨"gen/Saver.cs"⟩
           message := "gen/Saver.cs: `statement-count.max_statement_count` must be " ++
            "a non-negative integer, got `few`" }] ∧
      (Id.run ((Command.analyzeWithCache within ⟨0⟩).run {})).1 = .done report := by
  have elsewhere : spoilGenerated.applies loaderUnit.file = false := by decide +kernel
  have loaderListed : loaderUnit ∈ (equip {} Preset.minimal.rules loaderAndSaver).units := by
    rw [units_loaderAndSaver]
    exact List.mem_cons_of_mem _ List.mem_cons_self
  have saverListed : saverUnit ∈ generatedSpoiled.units := by
    rw [generatedSpoiled, units_loaderAndSaver]
    exact List.mem_cons_self
  obtain ⟨report, reported, _, atomic⟩ := file_passes_isolated.1
    generatedSpoiled generatedSpoiled.config.answer
  rcases file_passes_isolated.2.2 Preset.minimal.rules (Preset.confined .minimal)
    loaderAndSaver true {} spoilGenerated with
    ⟨error, failed, _⟩ | ⟨without, within, first, second, _, alike, cached⟩
  · cases failed
  · cases first
    cases second
    have through := cached _ (List.mem_cons_of_mem _ List.mem_cons_self) {} ⟨0⟩ (by simp)
    refine ⟨_, _, report, rfl, rfl, loaderListed, elsewhere, (alike _ loaderListed elsewhere).1,
      reported, (atomic saverUnit saverListed).listed _ run_filePass_saverUnit, ?_⟩
    rw [through]
    exact congrArg PassOutcome.ofExcept reported

end Analysis

end StructureLint
