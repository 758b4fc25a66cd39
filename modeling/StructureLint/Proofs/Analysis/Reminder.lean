import StructureLint.Proofs.Analysis.Strictness
import StructureLint.Proofs.Analysis.Units
import StructureLint.Proofs.Rule.Annotation
import StructureLint.Proofs.Rule.Builtin

/-!
Contract: the severity of a reminder.

A reminder stands in for a finding whose suppression lacks the justification that
its rule asks for, and is a warning when it is made.  Findings about declarations
are given their configured severity before suppressions are looked at, so that
their reminders stay warnings.  A rule about types looks at suppressions by
itself, and all that it returns is given the configured severity afterwards, its
reminders included.

Owns:
- findings that are put before suppressions, and the reminders among what is left;
- rules about types that screen what they propose;
- a report with the origin of each of its findings.

Does not own: which suppressions count as justified.
-/

namespace StructureLint

/-! ## Screening -/

namespace Suppression

/-- A suppression names the rule without the justification that the rule asks for. -/
def lacksReason (marks : List Attribute) (ruleName : String) (requiresReason : Bool)
    (finding : Finding) : Bool :=
  requiresReason && ofAttributes marks ruleName finding.code == .present none

/-- Puts findings before the suppressions that stand at them.  What is left comes
with a flag that says whether it is a reminder. -/
def screen (ruleName : String) (requiresReason : Bool)
    (proposed : List (List Attribute × Finding)) : List (Bool × Finding) :=
  proposed.filterMap fun proposal =>
    (apply proposal.1 ruleName requiresReason proposal.2).map fun left =>
      (lacksReason proposal.1 ruleName requiresReason proposal.2, left)

variable {ruleName : String} {requiresReason : Bool}

theorem map_snd_screen (proposed : List (List Attribute × Finding)) :
    (screen ruleName requiresReason proposed).map Prod.snd =
      proposed.filterMap fun proposal =>
        apply proposal.1 ruleName requiresReason proposal.2 := by
  unfold screen
  rw [List.map_filterMap]
  refine List.filterMap_congr ?_
  intro proposal _
  rw [Option.map_map]
  exact Option.map_id'

theorem apply_of_lacksReason {marks : List Attribute} {finding : Finding}
    (lacks : lacksReason marks ruleName requiresReason finding = true) :
    apply marks ruleName requiresReason finding = some (missingReason ruleName finding) := by
  obtain ⟨required, unjustified⟩ := Bool.and_eq_true_iff.mp lacks
  rw [beq_iff_eq] at unjustified
  rw [apply, unjustified]
  exact if_pos required

theorem exists_of_reminder {proposed : List (List Attribute × Finding)} {reminder : Finding}
    (listed : (true, reminder) ∈ screen ruleName requiresReason proposed) :
    ∃ proposal ∈ proposed, reminder = missingReason ruleName proposal.2 := by
  obtain ⟨proposal, proposalListed, kept⟩ := List.mem_filterMap.mp listed
  obtain ⟨left, stays, tagged⟩ := Option.map_eq_some_iff.mp kept
  obtain ⟨lacks, rfl⟩ := Prod.mk.inj tagged
  rw [apply_of_lacksReason lacks] at stays
  exact ⟨proposal, proposalListed, (Option.some.inj stays).symm⟩

end Suppression

open Suppression (screen missingReason)

/-- What a rule about types proposes, each finding with the attributes at its anchor. -/
abbrev Proposing :=
  TypeScope → (SettingRequest → Option String) →
    Except SettingError (List (List Attribute × Finding))

/-- The rule reports what it proposes, as far as suppressions leave it. -/
def TypeRule.Screens (rule : TypeRule) (proposing : Proposing) : Prop :=
  ∀ scope answer, (rule.check scope).run answer =
    (proposing scope answer).map fun proposed =>
      (screen rule.name rule.requiresReason proposed).map Prod.snd

def Overload.proposing (severity : Severity) : Proposing := fun scope _ =>
  .ok ((scopeReports severity scope).map fun proposal =>
    (memberAttributes scope.program proposal.member, proposal.finding))

theorem Overload.rule_screens (severity : Severity) :
    (Overload.rule severity).Screens (Overload.proposing severity) := by
  intro scope answer
  show (Overload.check severity scope).run answer =
    .ok ((screen (Overload.rule severity).name _ (List.map _ _)).map Prod.snd)
  rw [Overload.run_check_eq_scopeReports, Suppression.map_snd_screen, List.filterMap_map]
  rfl

theorem RuleSet.Builtin.screens {set : RuleSet} (builtin : set.Builtin) :
    ∀ rule ∈ set.typeRules, rule.Screens (Overload.proposing rule.severity) := by
  intro rule listed
  obtain ⟨severity, rfl⟩ := builtin.typeRules rule listed
  exact Overload.rule_screens severity

/-! ## Origins -/

/-- A finding of a report with its rule, whether that is a rule about types, and
whether the finding is a reminder. -/
structure Traced where
  rule : String
  ofType : Bool
  isReminder : Bool
  finding : Finding

namespace Analysis

open RuleOutcome

variable (analysis : Analysis) (answer : SettingRequest → Option String)
  (proposing : TypeRule → Proposing)

def declarationTraces (file : SourcePath) (entry : DeclarationId × Declaration)
    (rule : DeclarationRule) : List Traced :=
  -- The severity is settled before the suppressions are looked at.
  let found := findings ((rule.check
    { program := analysis.program, id := entry.1, declaration := entry.2, file }).run answer)
  (screen rule.name rule.requiresReason (found.map fun finding =>
    (entry.2.attributes, analysis.withSeverity rule.name finding))).map fun (flag, left) =>
      { rule := rule.name, ofType := false, isReminder := flag, finding := left }

def typeTraces (file : SourcePath) (entry : TypeId × TypeSymbol) (rule : TypeRule) :
    List Traced :=
  match proposing rule { program := analysis.program, id := entry.1, symbol := entry.2, file }
    answer with
  | .error _ => []
  | .ok proposed =>
    -- The severity is settled behind the suppressions, on reminders too.
    (screen rule.name rule.requiresReason proposed).map fun (flag, left) =>
      { rule := rule.name, ofType := true, isReminder := flag
        finding := analysis.withSeverity rule.name left }

def unitTraces (unit : FileUnit) : List Traced :=
  ((analysis.measured unit).flatMap fun entry =>
    analysis.rules.rules.flatMap (analysis.declarationTraces answer unit.file entry)) ++
  unit.types.flatMap fun entry =>
    analysis.rules.typeRules.flatMap (analysis.typeTraces answer proposing unit.file entry)

/-- The findings of the report with their origins, in the order of the report. -/
def traces : List Traced :=
  ((analysis.units.filter (analysis.isComplete answer)).flatMap
    (analysis.unitTraces answer proposing)).mergeSort
      fun left right => (left.finding.compare right.finding).isLE

theorem map_finding_declarationTraces (file : SourcePath) (entry : DeclarationId × Declaration)
    (rule : DeclarationRule) :
    (analysis.declarationTraces answer file entry rule).map Traced.finding =
      findings (analysis.declarationOutcome answer file entry rule) := by
  have screened : ∀ found : List Finding,
      ((screen rule.name rule.requiresReason (found.map fun finding =>
        (entry.2.attributes, analysis.withSeverity rule.name finding))).map Prod.snd) =
      (found.map (analysis.withSeverity rule.name)).filterMap
        (Suppression.apply entry.2.attributes rule.name rule.requiresReason) := by
    intro found
    rw [Suppression.map_snd_screen, List.filterMap_map, List.filterMap_map]
    rfl
  unfold declarationTraces declarationOutcome
  rw [List.map_map]
  refine (screened _).trans ?_
  cases (rule.check _).run answer <;> rfl

theorem map_finding_typeTraces (file : SourcePath) (entry : TypeId × TypeSymbol)
    {rule : TypeRule} (screens : rule.Screens (proposing rule)) :
    (analysis.typeTraces answer proposing file entry rule).map Traced.finding =
      findings (analysis.typeOutcome answer file entry rule) := by
  unfold typeTraces typeOutcome
  rw [screens]
  cases proposing rule _ answer with
  | error error => rfl
  | ok proposed =>
      show List.map _ (List.map _ _) = List.map _ (List.map _ _)
      rw [List.map_map, List.map_map]
      rfl

theorem map_finding_traces
    (screens : ∀ rule ∈ analysis.rules.typeRules, rule.Screens (proposing rule)) :
    (analysis.traces answer proposing).map Traced.finding =
      (analysis.unsortedReport answer).sort.findings := by
  have units : ∀ unit, (analysis.unitTraces answer proposing unit).map Traced.finding =
      analysis.unitFindings answer unit := by
    intro unit
    have types : ∀ entry : TypeId × TypeSymbol,
        (analysis.rules.typeRules.flatMap fun rule =>
          (analysis.typeTraces answer proposing unit.file entry rule).map Traced.finding) =
        analysis.rules.typeRules.flatMap fun rule =>
          findings (analysis.typeOutcome answer unit.file entry rule) := by
      intro entry
      refine List.flatMap_congr ?_
      intro rule listed
      exact analysis.map_finding_typeTraces answer proposing unit.file entry (screens rule listed)
    simp only [unitTraces, unitFindings, outcomes, List.map_append, List.map_flatMap,
      map_finding_declarationTraces, types, List.flatMap_append, List.flatMap_assoc,
      List.flatMap_map]
  -- Origins are not looked at when findings are sorted, so that they may be dropped before.
  have exchanged : ∀ traced : List Traced,
      (traced.mergeSort fun left right => (left.finding.compare right.finding).isLE).map
          Traced.finding =
        (traced.map Traced.finding).mergeSort fun left right => (left.compare right).isLE := by
    intro traced
    exact List.map_mergeSort fun _ _ _ _ => rfl
  rw [traces, exchanged, List.map_flatMap]
  simp only [units]
  rfl

/-! ## Reminders -/

/-- The finding is a reminder about its rule, with the severity that its origin gives it. -/
structure IsReminder (traced : Traced) : Prop where
  message : traced.finding.message =
    "Suppression of `" ++ traced.rule ++ "` is missing a required justification"
  ofDeclaration : traced.ofType = false → traced.finding.severity = .warning
  ofType : traced.ofType = true →
    traced.finding.severity = (analysis.config.severity? traced.rule).getD .warning

theorem isReminder_of_mem_declarationTraces {file : SourcePath}
    {entry : DeclarationId × Declaration} {rule : DeclarationRule} {traced : Traced}
    (listed : traced ∈ analysis.declarationTraces answer file entry rule)
    (flagged : traced.isReminder = true) : analysis.IsReminder traced := by
  obtain ⟨⟨flag, left⟩, screened, rfl⟩ := List.mem_map.mp listed
  obtain rfl : flag = true := flagged
  obtain ⟨proposal, _, rfl⟩ := Suppression.exists_of_reminder screened
  exact { message := rfl, ofDeclaration := fun _ => rfl, ofType := by simp }

theorem isReminder_of_mem_typeTraces {file : SourcePath} {entry : TypeId × TypeSymbol}
    {rule : TypeRule} {traced : Traced}
    (listed : traced ∈ analysis.typeTraces answer proposing file entry rule)
    (flagged : traced.isReminder = true) : analysis.IsReminder traced := by
  unfold typeTraces at listed
  split at listed
  · cases listed
  · obtain ⟨⟨flag, left⟩, screened, rfl⟩ := List.mem_map.mp listed
    obtain rfl : flag = true := flagged
    obtain ⟨proposal, _, rfl⟩ := Suppression.exists_of_reminder screened
    exact { message := rfl, ofDeclaration := by simp, ofType := fun _ => rfl }

theorem isReminder_of_mem_traces {traced : Traced}
    (listed : traced ∈ analysis.traces answer proposing) (flagged : traced.isReminder = true) :
    analysis.IsReminder traced := by
  obtain ⟨unit, _, inUnit⟩ := List.mem_flatMap.mp (List.mem_mergeSort.mp listed)
  rcases List.mem_append.mp inUnit with aboutDeclaration | aboutType
  · obtain ⟨entry, _, byRules⟩ := List.mem_flatMap.mp aboutDeclaration
    obtain ⟨rule, _, byRule⟩ := List.mem_flatMap.mp byRules
    exact analysis.isReminder_of_mem_declarationTraces answer byRule flagged
  · obtain ⟨entry, _, byRules⟩ := List.mem_flatMap.mp aboutType
    obtain ⟨rule, _, byRule⟩ := List.mem_flatMap.mp byRules
    exact analysis.isReminder_of_mem_typeTraces answer proposing byRule flagged

/-- Every finding of a report has its origin.  A reminder about a declaration is a
warning, whatever severity the configuration gives to its rule.  A reminder about
a type has the severity that the configuration gives to its rule, and is a
warning where the configuration gives none. -/
theorem reminder_severity_by_origin (analysis : Analysis)
    (answer : SettingRequest → Option String) {proposing : TypeRule → Proposing}
    (screens : ∀ rule ∈ analysis.rules.typeRules, rule.Screens (proposing rule)) :
    ∃ report, analysis.report answer = .ok report ∧
      report.findings = (analysis.traces answer proposing).map Traced.finding ∧
      ∀ traced ∈ analysis.traces answer proposing, traced.isReminder = true →
        analysis.IsReminder traced :=
  ⟨_, analysis.report_eq answer, (analysis.map_finding_traces answer proposing screens).symm,
    fun _ => analysis.isReminder_of_mem_traces answer proposing⟩

/-! ## A suppressed overload -/

def canonicalRead : MemberSymbol :=
  { name := "Read", containingType := some ⟨0⟩, accessibility := .publicAccess
    parameters := [{ name := "text", typeName := "string" }], declaration := some ⟨1⟩ }

/-- Two overloads, of which the canonical one should be virtual. -/
def twoReaders : Program :=
  { types := [{ name := "Reader", kind := .classType }]
    members := [
      { name := "Read", containingType := some ⟨0⟩, hidesBaseMember := true
        declaration := some ⟨0⟩ },
      canonicalRead]
    declarations := [
      { name := "Read", kind := .method, symbol := some ⟨0⟩, file := ⟨"Reader.cs"⟩
        span := .at 3 5, body := some (.block (.mk ⟨1⟩ {} [.mk ⟨2⟩ {} .empty])) },
      { name := "Read", kind := .method, symbol := some ⟨1⟩, file := ⟨"Reader.cs"⟩
        span := .at 5 5, body := some (.block (.mk ⟨3⟩ {} [.mk ⟨4⟩ {} .empty])) }]
    memberIndex := [(⟨0⟩, ⟨0⟩), (⟨0⟩, ⟨1⟩)]
    isNormalized := true }

/-- A suppression that says nothing about why. -/
def withoutReason : Attribute :=
  Attribute.withArgument { name := "SuppressMessage" } (.str "overload-consistency")

def unjustified : Program :=
  twoReaders.annotate ⟨1⟩ withoutReason

def overloadsOnly : RuleSet :=
  { typeRules := [Overload.rule .error] }

/-- A configuration that makes little of what the rule finds. -/
def belittled : Config :=
  { rules := [("overload-consistency", { severity := some .info })] }

def belittledAnalysis : Analysis :=
  equip belittled overloadsOnly unjustified

def readerUnit : FileUnit :=
  { file := ⟨"Reader.cs"⟩, declarations := unjustified.numberedDeclarations
    types := unjustified.numberedTypes }

def readerScope : TypeScope :=
  { program := twoReaders, id := ⟨0⟩, symbol := { name := "Reader", kind := .classType }
    file := ⟨"Reader.cs"⟩ }

/-- What the rule would report, were it not suppressed. -/
def shouldBeVirtual : Finding :=
  { code := "SL004"
    rule := "overload-consistency"
    severity := .error
    location := .ofSpan ⟨"Reader.cs"⟩ (.at 5 5)
    message := "Canonical overload `Read(string)` should be virtual"
    suggestion := some { message := "Declare it `virtual`" } }

theorem units_belittledAnalysis : belittledAnalysis.units = [readerUnit] := by
  have spellings : firstSpellings (unjustified.numberedDeclarations.map (fun entry =>
      entry.2.file) ++ (unjustified.placedTypesIf true).map Prod.fst) =
      [⟨"Reader.cs"⟩] := by decide +kernel
  show unjustified.fileUnits true = _
  rw [Program.fileUnits_eq_map, Program.unitPaths, spellings, List.mergeSort_singleton]
  rfl

theorem scopeReports_readerScope : Overload.scopeReports .error readerScope =
    [{ id := ⟨1⟩, member := canonicalRead, kind := "virtual", finding := shouldBeVirtual }] := by
  have reports : Overload.typeReports twoReaders .error ⟨0⟩ =
      [{ id := ⟨1⟩, member := canonicalRead, kind := "virtual", finding := shouldBeVirtual }] := by
    cbv
  have asked : Overload.isExempt readerScope.symbol = false := by cbv
  have known : ((twoReaders.type? ⟨0⟩).any fun symbol => !Overload.isExempt symbol) = true := by
    cbv
  -- The scope names the type by its symbol, the reports by its place: neither is exempt.
  rw [← reports, Overload.scopeReports, Overload.typeReports, asked, known]
  rfl

theorem run_check_unjustified (answer : SettingRequest → Option String) :
    (Overload.check .error (readerScope.annotate ⟨1⟩ withoutReason)).run answer =
      .ok [missingReason "overload-consistency" shouldBeVirtual] := by
  have proposed : Overload.proposing .error (readerScope.annotate ⟨1⟩ withoutReason) answer =
      .ok [([withoutReason], shouldBeVirtual)] := by
    unfold Overload.proposing
    rw [Overload.scopeReports_annotate ⟨1⟩ (by decide +kernel), scopeReports_readerScope]
    rfl
  have screened : (screen "overload-consistency" true [([withoutReason], shouldBeVirtual)]).map
      Prod.snd = [missingReason "overload-consistency" shouldBeVirtual] := by
    decide +kernel
  have ran := Overload.rule_screens .error (readerScope.annotate ⟨1⟩ withoutReason) answer
  rw [proposed] at ran
  exact ran.trans (congrArg Except.ok screened)

theorem outcomes_belittledAnalysis (answer : SettingRequest → Option String) :
    belittledAnalysis.outcomes answer readerUnit =
      [.ok [{ missingReason "overload-consistency" shouldBeVirtual with severity := .info }]] := by
  have undeclared : ((belittledAnalysis.measured readerUnit).flatMap fun entry =>
      belittledAnalysis.rules.rules.map
        (belittledAnalysis.declarationOutcome answer readerUnit.file entry)) = [] :=
    List.flatMap_eq_nil_iff.mpr fun _ _ => rfl
  rw [outcomes, undeclared]
  show [((Overload.check .error (readerScope.annotate ⟨1⟩ withoutReason)).run answer).map _] = _
  rw [run_check_unjustified]
  rfl

/-- The reminder about a suppressed overload is no warning: it was made one, and
lost its severity to the configuration. -/
theorem overload_reminder_belittled :
    ∃ analysis report, prepare unjustified false belittled overloadsOnly = .ok analysis ∧
      analysis.report analysis.config.answer = .ok report ∧
      ∃ finding ∈ report.findings,
        finding.message =
          "Suppression of `overload-consistency` is missing a required justification" ∧
        finding.severity = .info := by
  have prepared : prepare unjustified false belittled overloadsOnly = .ok belittledAnalysis := rfl
  refine ⟨_, _, prepared, report_eq _ _,
    { missingReason "overload-consistency" shouldBeVirtual with severity := .info }, ?_, rfl, rfl⟩
  have outcomes := outcomes_belittledAnalysis belittledAnalysis.config.answer
  have complete :
      belittledAnalysis.isComplete belittledAnalysis.config.answer readerUnit = true := by
    rw [isComplete, outcomes]
    rfl
  refine List.mem_mergeSort.mpr (List.mem_flatMap.mpr ⟨readerUnit, ?_, ?_⟩)
  · rw [units_belittledAnalysis]
    exact List.mem_filter.mpr ⟨List.mem_cons_self, complete⟩
  · rw [unitFindings, outcomes]
    exact List.mem_cons_self

theorem reminder_severity_by_origin_belittled :
    (∀ rule ∈ belittledAnalysis.rules.typeRules,
      rule.Screens (Overload.proposing rule.severity)) ∧
    belittledAnalysis.config.severity? "overload-consistency" = some .info ∧
    ∃ report, belittledAnalysis.report belittledAnalysis.config.answer = .ok report ∧
      let traces := belittledAnalysis.traces belittledAnalysis.config.answer fun rule =>
        Overload.proposing rule.severity
      report.findings = traces.map Traced.finding ∧
        ∀ traced ∈ traces, traced.isReminder = true → belittledAnalysis.IsReminder traced := by
  have builtin : belittledAnalysis.rules.Builtin :=
    { rules := by
        intro rule listed
        cases listed
      typeRules := by
        intro rule listed
        exact ⟨.error, List.mem_singleton.mp listed⟩ }
  exact ⟨builtin.screens, rfl, reminder_severity_by_origin _ _ builtin.screens⟩

end Analysis

end StructureLint
