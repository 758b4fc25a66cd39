import StructureLint.Proofs.Analysis.Isolation
import StructureLint.Proofs.Rule.CallTarget

/-!
Contract: calls that are bound to no member do not show in a report.

A program is not checked for the targets of its calls.  The units of a program
without the targets outside of its members hold the same entries, with other
bodies, and every built-in rule answers about each of them as before.

Owns:
- reports of two analyses with answers in common;
- analyses of a program without dangling targets, end to end.

Does not own: what a rule makes of a call.
-/

namespace StructureLint

namespace Analysis

variable (answer : SettingRequest → Option String)

/-! ## Answers in common -/

/-- Units about which the same is answered add the same to a report. -/
theorem contribution_congr {first second : Analysis} {unit other : FileUnit}
    (file : other.file = unit.file)
    (outcomes : second.outcomes answer other = first.outcomes answer unit)
    (measured : (second.measured other).length = (first.measured unit).length) :
    second.contribution answer other = first.contribution answer unit := by
  unfold contribution
  rw [run_filePass, run_filePass, file, outcomes, measured]

/-- Analyses whose units add the same have one report. -/
theorem report_congr {first second : Analysis} {change : FileUnit → FileUnit}
    (units : second.units = first.units.map change)
    (contributions : ∀ unit, second.contribution answer (change unit) =
      first.contribution answer unit) :
    second.report answer = first.report answer := by
  rw [report_eq_merge, report_eq_merge, units, List.map_map]
  simp only [Function.comp_def, contributions]

/-! ## Analyses without some targets -/

/-- The analysis of the program without call targets that are not known. -/
def keepTargets (known : MemberId → Bool) (analysis : Analysis) : Analysis :=
  { analysis with program := analysis.program.keepTargets known }

section Units

variable (known : MemberId → Bool) (analysis : Analysis)

theorem units_keepTargets :
    (analysis.keepTargets known).units = analysis.units.map (FileUnit.keepTargets known) :=
  analysis.program.fileUnits_keepTargets known _

theorem measured_keepTargets (unit : FileUnit) :
    (analysis.keepTargets known).measured (unit.keepTargets known) =
      (analysis.measured unit).map fun entry => (entry.1, entry.2.keepTargets known) := by
  unfold measured FileUnit.keepTargets
  rw [List.filter_map]
  rfl

end Units

section Outcomes

variable {analysis : Analysis} (builtin : analysis.rules.Builtin)

include builtin

theorem declarationOutcome_keepTargets (known : MemberId → Bool) {rule : DeclarationRule}
    (enabled : rule ∈ analysis.rules.rules) (file : SourcePath)
    (entry : DeclarationId × Declaration) :
    (analysis.keepTargets known).declarationOutcome answer file
        (entry.1, entry.2.keepTargets known) rule =
      analysis.declarationOutcome answer file entry rule := by
  let scope : DeclarationScope :=
    { program := analysis.program, id := entry.1, declaration := entry.2, file }
  have same : rule.check (scope.keepTargets known) = rule.check scope :=
    (builtin.rules rule enabled).check_keepTargets known scope
  show ((rule.check (scope.keepTargets known)).run answer).map _ = _
  rw [same]
  rfl

theorem typeOutcome_withoutDanglingTargets (closed : analysis.program.dangling? = none)
    {rule : TypeRule} (enabled : rule ∈ analysis.rules.typeRules) (file : SourcePath)
    (entry : TypeId × TypeSymbol) :
    (analysis.keepTargets analysis.program.knows).typeOutcome answer file entry rule =
      analysis.typeOutcome answer file entry rule := by
  obtain ⟨severity, rfl⟩ := builtin.typeRules rule enabled
  let scope : TypeScope :=
    { program := analysis.program, id := entry.1, symbol := entry.2, file }
  have same : (Overload.check severity (scope.keepTargets analysis.program.knows)).run answer =
      (Overload.check severity scope).run answer :=
    Overload.run_check_withoutDanglingTargets answer severity closed
  show ((Overload.check severity (scope.keepTargets analysis.program.knows)).run answer).map _ = _
  rw [same]
  rfl

/-- About every entry of a unit, every rule answers as before. -/
theorem outcomes_withoutDanglingTargets (closed : analysis.program.dangling? = none)
    (unit : FileUnit) :
    (analysis.keepTargets analysis.program.knows).outcomes answer
        (unit.keepTargets analysis.program.knows) = analysis.outcomes answer unit := by
  unfold outcomes
  rw [measured_keepTargets, List.flatMap_map]
  refine congrArg₂ (· ++ ·) ?declarations ?types
  case declarations =>
    refine List.flatMap_congr fun entry _ => List.map_congr_left fun rule enabled => ?_
    exact declarationOutcome_keepTargets answer builtin _ enabled unit.file entry
  case types =>
    refine List.flatMap_congr fun entry _ => List.map_congr_left fun rule enabled => ?_
    exact typeOutcome_withoutDanglingTargets answer builtin closed enabled unit.file entry

theorem report_withoutDanglingTargets (closed : analysis.program.dangling? = none) :
    (analysis.keepTargets analysis.program.knows).report answer = analysis.report answer := by
  refine report_congr answer (analysis.units_keepTargets _) ?_
  intro unit
  refine contribution_congr answer rfl ?_ ?_
  · exact outcomes_withoutDanglingTargets answer builtin closed unit
  · rw [measured_keepTargets, List.length_map]

end Outcomes

/-! ## End to end -/

theorem settle_withoutDanglingTargets {program normalized : Program}
    (accepted : program.normalize = .ok normalized) (shared : Bool) (config : Config) :
    (∃ unknown, settle program shared config = .error (.config unknown) ∧
      settle program.withoutDanglingTargets shared config = .error (.config unknown)) ∨
    ∃ settled : Program, settled.dangling? = none ∧ settle program shared config = .ok settled ∧
      settle program.withoutDanglingTargets shared config =
        .ok settled.withoutDanglingTargets := by
  have closed := Program.dangling?_of_accepted accepted
  have again := Program.dangling?_of_accepted (Program.normalize_normalized accepted)
  have without := Program.normalize_withoutDanglingTargets accepted
  have marked : program.withoutDanglingTargets.isNormalized = program.isNormalized := rfl
  unfold settle
  rw [accepted, without, marked]
  cases config.threshold with
  | error unknown =>
      refine .inl ⟨unknown, ?_⟩
      cases shared && program.isNormalized <;> exact ⟨rfl, rfl⟩
  | ok threshold =>
      refine .inr ?_
      cases shared && program.isNormalized with
      | true => exact ⟨program, closed, rfl, rfl⟩
      | false => exact ⟨normalized, again, rfl, rfl⟩

/-- Let a program be accepted and all rules be built in.  Without the call targets
that lie outside of its members the program is accepted, too; its analysis is
prepared or refused alike, and the two analyses have one report, whatever the
settings are, and one outcome with caches that have not served them before. -/
theorem dangling_call_targets_harmless {program normalized : Program}
    (accepted : program.normalize = .ok normalized) {rules : RuleSet} (builtin : rules.Builtin) :
    program.withoutDanglingTargets.normalize = .ok normalized.withoutDanglingTargets ∧
    ∀ (shared : Bool) (config : Config),
      (∃ unknown, prepare program shared config rules = .error (.config unknown) ∧
        prepare program.withoutDanglingTargets shared config rules = .error (.config unknown)) ∨
      ∃ analysis other, prepare program shared config rules = .ok analysis ∧
        prepare program.withoutDanglingTargets shared config rules = .ok other ∧
        other.program = analysis.program.withoutDanglingTargets ∧
        (∀ answer, ∃ report, analysis.report answer = .ok report ∧
          other.report answer = .ok report) ∧
        ∀ (cache otherCache : SettingsCache) (id otherId : CompilationId),
          cache.owner ≠ some id → otherCache.owner ≠ some otherId →
          (Id.run ((Command.analyzeWithCache analysis id).run cache)).1 =
            (Id.run ((Command.analyzeWithCache other otherId).run otherCache)).1 := by
  refine ⟨Program.normalize_withoutDanglingTargets accepted, ?_⟩
  intro shared config
  rw [prepare_eq_map_equip, prepare_eq_map_equip]
  rcases settle_withoutDanglingTargets accepted shared config with
    ⟨unknown, refused, refusedToo⟩ | ⟨settled, closed, prepared, preparedToo⟩
  · rw [refused, refusedToo]
    exact .inl ⟨unknown, rfl, rfl⟩
  · rw [prepared, preparedToo]
    let analysis := equip config rules settled
    have enabled : analysis.rules.Builtin :=
      builtin.filter fun info => analysis.config.isEnabled info.name
    have reports : ∀ answer,
        (analysis.keepTargets settled.knows).report answer = analysis.report answer :=
      fun answer => report_withoutDanglingTargets answer enabled closed
    refine .inr ⟨analysis, analysis.keepTargets settled.knows, rfl, rfl, rfl, ?_, ?_⟩
    · intro answer
      exact ⟨_, report_eq analysis answer, (reports answer).trans (report_eq analysis answer)⟩
    · intro cache otherCache id otherId foreign foreignToo
      have alike := reports analysis.config.answer
      have confinedToo : (analysis.keepTargets settled.knows).rules.Confined := enabled.confined
      rw [run_analyzeWithCache enabled.confined foreign,
        run_analyzeWithCache confinedToo foreignToo, ← alike]
      rfl

/-- Two overloads, of which the short one calls a member that the program lacks. -/
def strayCall : Program :=
  let call : Expr := .ofKind
    (.invocation (.ofKind (.identifier "Read")) [.ofKind (.literal "0")] (some ⟨9⟩))
  { types := [{ name := "Reader", kind := .classType }]
    members := [
      { name := "Read", containingType := some ⟨0⟩, declaration := some ⟨0⟩ },
      { name := "Read", containingType := some ⟨0⟩, accessibility := .publicAccess
        parameters := [{ name := "size", typeName := "int" }], declaration := some ⟨1⟩ }]
    declarations := [
      { name := "Read", kind := .method, symbol := some ⟨0⟩, file := ⟨"Reader.cs"⟩
        span := .at 3 5, body := some (.block (.ofStmts [.ofKind (.expression call)])) },
      { name := "Read", kind := .method, symbol := some ⟨1⟩, file := ⟨"Reader.cs"⟩
        span := .at 5 5, body := some (.block (.ofStmts [.ofKind .empty])) }] }

theorem dangling_call_targets_harmless_strayCall :
    Overload.calledMembers strayCall ⟨0⟩ = [⟨9⟩] ∧
    Overload.calledMembers strayCall.withoutDanglingTargets ⟨0⟩ = [] ∧
    ∃ analysis other, prepare strayCall false {} Preset.strict.rules = .ok analysis ∧
      prepare strayCall.withoutDanglingTargets false {} Preset.strict.rules = .ok other ∧
      ∃ report, analysis.report analysis.config.answer = .ok report ∧
        other.report analysis.config.answer = .ok report := by
  refine ⟨by cbv, by cbv, ?_⟩
  have accepted : strayCall.normalize = .ok _ := rfl
  obtain ⟨_, analyses⟩ := dangling_call_targets_harmless accepted Preset.strict.builtin
  rcases analyses false {} with ⟨unknown, refused, _⟩ | ⟨analysis, other, prepared, preparedToo, _,
    reports, _⟩
  · cases refused
  · exact ⟨analysis, other, prepared, preparedToo, reports _⟩

end Analysis

end StructureLint
