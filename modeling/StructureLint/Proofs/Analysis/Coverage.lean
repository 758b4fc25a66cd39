import StructureLint.Proofs.Analysis.Outcomes
import StructureLint.Proofs.Analysis.Units
import StructureLint.Proofs.Order
import StructureLint.Rule.Preset

/-!
Contract: an analysis loses nothing and counts nothing twice.

The units share out the declarations of the program and, as soon as some type
rule is enabled, its types.  The report holds what the enabled rules find in
the units whose pass does not fail, each finding as often as it was found, in
order; a unit whose pass fails adds a failure and nothing else.

Owns:
- what a prepared analysis consists of;
- the account that a report gives of the units.

Does not own: when the pass of a unit fails.
-/

namespace StructureLint.Analysis

open RuleOutcome

/-- A prepared analysis has a program without dangling references, the
configuration with codes read as names, and the rules that this enables. -/
theorem prepare_eq_ok {program : Program} {shared : Bool} {config : Config} {rules : RuleSet}
    {analysis : Analysis} (prepared : prepare program shared config rules = .ok analysis) :
    ((shared = true ∧ program.isNormalized = true ∧ analysis.program = program) ∨
      program.normalize = .ok analysis.program) ∧
    analysis.config = config.aliasCodes (rules.infos.map fun info => (info.code, info.name)) ∧
    analysis.rules = rules.filter fun info => analysis.config.isEnabled info.name := by
  unfold prepare at prepared
  cases threshold : config.threshold with
  | error unknown =>
      cases normalized : program.normalize <;>
        cases asIs : (shared && program.isNormalized) <;>
        simp [threshold, normalized, asIs, Except.mapError, bind, Except.bind, pure,
          Except.pure] at prepared
  | ok level =>
      cases asIs : (shared && program.isNormalized) with
      | true =>
          simp only [threshold, asIs, Except.mapError, bind, Except.bind, pure, Except.pure,
            if_true, Except.ok.injEq] at prepared
          subst prepared
          exact ⟨.inl ⟨(Bool.and_eq_true_iff.mp asIs).1, (Bool.and_eq_true_iff.mp asIs).2, rfl⟩,
            rfl, rfl⟩
      | false =>
          cases normalized : program.normalize with
          | error dangling =>
              simp [normalized, asIs, Except.mapError, bind, Except.bind] at prepared
          | ok numbered =>
              simp [threshold, normalized, asIs, Except.mapError, bind, Except.bind, pure,
                Except.pure] at prepared
              subst prepared
              exact ⟨.inr rfl, rfl, rfl⟩

/-- What a report accounts for. -/
structure Coverage (analysis : Analysis) (answer : SettingRequest → Option String)
    (report : Report) : Prop where
  /-- Every declaration lies in one unit and in no other. -/
  declaration : ∀ entry ∈ analysis.program.numberedDeclarations,
    ExactlyOne analysis.units fun unit => entry ∈ unit.declarations
  /-- The units hold every declaration as often as the program. -/
  declarations : (analysis.units.flatMap FileUnit.declarations).Perm
    analysis.program.numberedDeclarations
  /-- Two declarations share a unit when their paths agree by components, and only then. -/
  together : ∀ left ∈ analysis.program.numberedDeclarations,
    ∀ right ∈ analysis.program.numberedDeclarations,
      (∃ unit ∈ analysis.units, left ∈ unit.declarations ∧ right ∈ unit.declarations) ↔
        left.2.file.Same right.2.file
  /-- Every type with a file lies in one unit and in no other, if some type rule is enabled. -/
  type : analysis.rules.typeRules ≠ [] → ∀ entry ∈ analysis.program.numberedTypes,
    (analysis.program.typeFile? entry.1 entry.2).isSome →
      ExactlyOne analysis.units fun unit => entry ∈ unit.types
  /-- The units then hold every type with a file as often as the program. -/
  types : analysis.rules.typeRules ≠ [] → (analysis.units.flatMap FileUnit.types).Perm
    (analysis.program.numberedTypes.filter fun entry =>
      (analysis.program.typeFile? entry.1 entry.2).isSome)
  /-- If no type rule is enabled, no unit holds a type. -/
  typeless : analysis.rules.typeRules = [] → ∀ unit ∈ analysis.units, unit.types = []
  /-- A unit is complete when its pass does not fail. -/
  complete : ∀ unit ∈ analysis.units,
    analysis.isComplete answer unit = ((analysis.filePass unit).run answer).isOk
  /-- The report holds what was found in the complete units, nothing else and nothing twice. -/
  findings : report.findings.Perm
    ((analysis.units.filter (analysis.isComplete answer)).flatMap (analysis.unitFindings answer))
  /-- Findings are in order of file, line, column, code and message. -/
  sorted : report.findings.Pairwise fun left right => (left.compare right).isLE
  /-- Every unit was either checked or failed. -/
  files : report.filesChecked + report.failures.length = analysis.units.length
  /-- The measured declarations of the complete units were checked. -/
  checked : report.declarationsChecked =
    ((analysis.units.filter (analysis.isComplete answer)).flatMap analysis.measured).length

theorem isComplete_eq_isOk (analysis : Analysis) (answer : SettingRequest → Option String)
    (unit : FileUnit) :
    analysis.isComplete answer unit = ((analysis.filePass unit).run answer).isOk := by
  rw [run_filePass]
  cases complete : analysis.isComplete answer unit with
  | true => rw [gather_eq_ok complete]; rfl
  | false =>
      obtain ⟨error, failed⟩ := gather_eq_error complete
      rw [failed]
      rfl

/-- Of any units, those that are complete and those that fail are all of them. -/
theorem length_complete_add_failures (analysis : Analysis)
    (answer : SettingRequest → Option String) (units : List FileUnit) :
    (units.filter (analysis.isComplete answer)).length +
      (units.filterMap (analysis.failure? answer)).length = units.length := by
  induction units with
  | nil => rfl
  | cons unit rest inductionHypothesis =>
      cases complete : analysis.isComplete answer unit with
      | true =>
          rw [List.filter_cons_of_pos complete,
            List.filterMap_cons_none (analysis.failure?_eq_none answer complete)]
          simp only [List.length_cons]
          omega
      | false =>
          obtain ⟨failure, failed⟩ :=
            Option.isSome_iff_exists.mp (analysis.failure?_isSome answer complete)
          rw [List.filter_cons_of_neg (by simp [complete]), List.filterMap_cons_some failed]
          simp only [List.length_cons]
          omega

theorem units_of_typeRules {analysis : Analysis} (enabled : analysis.rules.typeRules ≠ []) :
    analysis.units = analysis.program.fileUnits true := by
  have nonempty : analysis.rules.typeRules.isEmpty = false := by simpa using enabled
  rw [units, nonempty]
  rfl

/-- Every prepared analysis that is not called off yields a report, and the
report accounts for the whole program. -/
theorem report_covers_program {program : Program} {shared : Bool} {config : Config}
    {rules : RuleSet} {analysis : Analysis}
    (prepared : prepare program shared config rules = .ok analysis)
    (answer : SettingRequest → Option String) :
    ((shared = true ∧ program.isNormalized = true ∧ analysis.program = program) ∨
      program.normalize = .ok analysis.program) ∧
    analysis.config = config.aliasCodes (rules.infos.map fun info => (info.code, info.name)) ∧
    (analysis.rules = rules.filter fun info => analysis.config.isEnabled info.name) ∧
    ∃ report, analysis.report answer = .ok report ∧ Coverage analysis answer report := by
  obtain ⟨normalized, configured, enabled⟩ := prepare_eq_ok prepared
  refine ⟨normalized, configured, enabled, _, analysis.report_eq answer, ?_⟩
  constructor
  case declaration =>
    intro entry numbered
    exact analysis.program.exactlyOne_unit_of_declaration _ numbered
  case declarations => exact analysis.program.flatMap_declarations_perm _
  case together =>
    intro left leftNumbered right rightNumbered
    exact analysis.program.exists_shared_unit_iff _ leftNumbered rightNumbered
  case type =>
    intro enabled entry numbered located
    obtain ⟨path, found⟩ := Option.isSome_iff_exists.mp located
    rw [units_of_typeRules enabled]
    exact analysis.program.exactlyOne_unit_of_type numbered found
  case types =>
    intro enabled
    rw [units_of_typeRules enabled]
    exact analysis.program.flatMap_types_perm
  case typeless =>
    intro none unit listed
    rw [units, none] at listed
    exact analysis.program.types_eq_nil listed
  case complete =>
    intro unit _
    exact analysis.isComplete_eq_isOk answer unit
  case findings => exact List.mergeSort_perm _ _
  case sorted => exact pairwise_mergeSort_isLE Finding.compare _
  case files =>
    simp only [Report.sort, List.length_mergeSort]
    exact analysis.length_complete_add_failures answer analysis.units
  case checked => rfl

/-- Two spellings of one path, and a type that has no location of its own. -/
def spelledTwice : Program :=
  { types := [{ name := "Loader", kind := .classType }]
    members := [{ name := "Load", containingType := some ⟨0⟩, declaration := some ⟨0⟩ }]
    declarations := [
      { name := "Load", kind := .method, symbol := some ⟨0⟩, file := ⟨"src//Loader.cs"⟩
        span := .at 1 1, body := some (.block (.ofStmts [.ofKind .breaks])) },
      { name := "Reload", kind := .method, file := ⟨"src/Loader.cs"⟩, span := .at 9 1 }] }

theorem report_covers_spelledTwice :
    ∃ analysis, prepare spelledTwice false {} Preset.recommended.rules = .ok analysis ∧
      ∃ report, analysis.report (fun _ => none) = .ok report ∧
        Coverage analysis (fun _ => none) report := by
  have prepared : prepare spelledTwice false {} Preset.recommended.rules = .ok _ := rfl
  exact ⟨_, prepared, (report_covers_program prepared fun _ => none).2.2.2⟩

/-- A type with a file of its own and nothing else. -/
def typeAlone : Program :=
  { types := [{ name := "T", kind := .classType
                location := some { file := ⟨"T.cs"⟩, line := 1, column := 1 } }] }

/-- A configuration that disables the rule about overloads. -/
def withoutOverloads : Config :=
  { rules := [("overload-consistency", { enabled := some false })] }

/-- A type rule that is registered but disabled gives its types no unit. -/
theorem disabled_type_rule_leaves_type_out :
    Preset.recommended.rules.typeRules ≠ [] ∧
      ∃ analysis, prepare typeAlone false withoutOverloads Preset.recommended.rules =
          .ok analysis ∧
        analysis.units = [] ∧
        ∃ entry ∈ analysis.program.numberedTypes,
          (analysis.program.typeFile? entry.1 entry.2).isSome ∧
            ¬ ExactlyOne analysis.units fun unit => entry ∈ unit.types := by
  have prepared : prepare typeAlone false withoutOverloads Preset.recommended.rules = .ok _ := rfl
  have disabled : (Preset.recommended.rules.filter fun info =>
      (withoutOverloads.aliasCodes (Preset.recommended.rules.infos.map fun info =>
        (info.code, info.name))).isEnabled info.name).typeRules.isEmpty = true := by
    decide +kernel
  have noUnits : typeAlone.fileUnits false = [] := by
    simp [Program.fileUnits, Program.numberedDeclarations, typeAlone, firstSpellings]
  refine ⟨List.cons_ne_nil _ _, _, prepared, ?_, (⟨0⟩, _), List.mem_cons_self, rfl, ?_⟩
  · rw [units, disabled]
    exact noUnits
  · rw [units, disabled]
    rintro ⟨index, ⟨unit, found, _⟩, _⟩
    have listed : unit ∈ typeAlone.fileUnits false := List.mem_of_getElem? found
    rw [noUnits] at listed
    exact List.not_mem_nil listed

end StructureLint.Analysis
