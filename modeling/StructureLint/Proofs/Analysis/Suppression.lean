import StructureLint.Proofs.Analysis.Shedding
import StructureLint.Proofs.Analysis.Strictness
import StructureLint.Proofs.Rule.Annotation

/-!
Contract: what a justified suppression takes out of a report.

A suppression is applied in two places.  The analysis reads it on the declaration
that a rule was asked about, and the rule about overloads reads it on the
declaration of the member that a proposal is about.  Both read the same list of
attributes in the same way, so that one lemma about a further attribute serves
both, and all else that is found is put together as before.

Owns:
- the findings of a rule that are anchored at a declaration;
- an analysis next to that of the annotated program;
- what the report on an annotated program lacks.

Does not own: which attributes suppress a rule.
-/

namespace StructureLint

/-! ## One finding -/

/-- No declaration of that number suppresses the rule. -/
def Program.Unsuppressed (program : Program) (id : DeclarationId) (info : RuleInfo) : Prop :=
  ∀ entry ∈ program.numberedDeclarations, entry.1 = id →
    Suppression.ofAttributes entry.2.attributes info.name info.code = .absent

theorem code_eq_of_isBuiltinLabel {info : RuleInfo} {code : String}
    (builtin : info ∈ Preset.everyRule.infos) (label : IsBuiltinLabel info.name code) :
    code = info.code := by
  have unique : ∀ info ∈ Preset.everyRule.infos, ∀ other ∈ Preset.everyRule.infos,
      other.name = info.name → other.code = info.code := by decide +kernel
  obtain ⟨other, listed, name, rfl⟩ := label
  exact unique info builtin other listed name

namespace Suppression

variable {mark : Attribute} {info : RuleInfo} {annotated id : DeclarationId}
  {marks : List Attribute} {name : String} {asks : Bool} {finding : Finding}

/-- The further attribute takes away what the rule has found at the annotated
declaration, and leaves alone what is found elsewhere or by another rule. -/
theorem Justified.apply_annotatedMarks (justified : Justified mark info)
    (builtin : info ∈ Preset.everyRule.infos) (label : IsBuiltinLabel name finding.code)
    (absent : id = annotated → ofAttributes marks info.name info.code = .absent) :
    apply (annotatedMarks annotated mark id marks) name asks finding =
      if id = annotated ∧ name = info.name then none else apply marks name asks finding := by
  have targeted := justified.targets_eq builtin label
  by_cases here : id = annotated
  · rw [annotatedMarks, if_pos here]
    by_cases named : name = info.name
    · subst named
      have unsuppressed : ofAttributes marks info.name finding.code = .absent := by
        rw [code_eq_of_isBuiltinLabel builtin label]
        exact absent here
      rw [if_pos ⟨here, rfl⟩]
      rw [beq_self_eq_true] at targeted
      exact apply_append_of_absent unsuppressed targeted justified.reason
    · rw [if_neg fun both => named both.2]
      rw [beq_eq_false_iff_ne.mpr named] at targeted
      exact apply_append_of_spared targeted
  · rw [annotatedMarks, if_neg here, if_neg fun both => here both.1]

theorem Justified.sheds_filterMap_apply (justified : Justified mark info)
    (builtin : info ∈ Preset.everyRule.infos) {found : List Finding}
    (labels : ∀ finding ∈ found, IsBuiltinLabel name finding.code)
    (absent : id = annotated → ofAttributes marks info.name info.code = .absent) :
    Sheds
      (if id = annotated ∧ name = info.name then found.filterMap (apply marks name asks) else [])
      (found.filterMap (apply marks name asks))
      (found.filterMap (apply (annotatedMarks annotated mark id marks) name asks)) := by
  rw [List.filterMap_congr fun finding listed =>
    justified.apply_annotatedMarks builtin (labels finding listed) absent]
  -- The declaration and the rule decide for all findings at once.
  split
  · rw [List.filterMap_none]
    exact Sheds.all _
  · exact Sheds.none _

end Suppression

/-! ## Proposals about overloads -/

namespace Overload

/-- The proposal is anchored at that declaration, and its rule has that name. -/
def Proposal.isAt (id : DeclarationId) (name : String) (proposal : Proposal) : Bool :=
  proposal.member.declaration == some id && ruleName == name

variable {mark : Attribute} {info : RuleInfo} {annotated : DeclarationId}
  (justified : Suppression.Justified mark info) (builtin : info ∈ Preset.everyRule.infos)

include justified builtin

theorem finding?_annotate {program : Program}
    (unsuppressed : program.Unsuppressed annotated info) {proposal : Proposal}
    (anchored : proposal.IsAnchored program) (severity : Severity) :
    proposal.finding? (program.annotate annotated mark) severity =
      if proposal.isAt annotated info.name then none else proposal.finding? program severity := by
  have label : IsBuiltinLabel ruleName proposal.finding.code := anchored.code ▸ isLabel
  obtain ⟨id, declaration, numbered, member, before, after⟩ :=
    anchored.exists_memberAttributes annotated mark
  have here : proposal.isAt annotated info.name = true ↔
      id = annotated ∧ ruleName = info.name := by
    simp [Proposal.isAt, numbered]
  rw [Proposal.finding?, after, Proposal.finding?, before,
    justified.apply_annotatedMarks builtin label (unsuppressed (id, declaration) member)]
  simp only [here]

theorem sheds_scopeReports (severity : Severity) (scope : TypeScope)
    (unsuppressed : scope.program.Unsuppressed annotated info) :
    Sheds
      (((scopeReports severity scope).filter (Proposal.isAt annotated info.name)).filterMap
        (Proposal.finding? scope.program severity))
      ((scopeReports severity scope).filterMap (Proposal.finding? scope.program severity))
      ((scopeReports severity scope).filterMap
        (Proposal.finding? (scope.program.annotate annotated mark) severity)) :=
  Sheds.filterMap (Proposal.isAt annotated info.name) fun _ listed =>
    finding?_annotate justified builtin unsuppressed (isAnchored_of_mem_scopeReports listed)
      severity

end Overload

/-! ## The pass of a unit -/

namespace Analysis

open RuleOutcome

/-- The analysis of the program with a further attribute on one declaration. -/
def annotate (analysis : Analysis) (annotated : DeclarationId) (mark : Attribute) : Analysis :=
  { analysis with program := analysis.program.annotate annotated mark }

section Anchored

variable (analysis : Analysis) (answer : SettingRequest → Option String) (name : String)
  (id : DeclarationId)

/-- What the rule of that name finds when it is asked about that declaration. -/
def anchoredInDeclaration (file : SourcePath) (entry : DeclarationId × Declaration)
    (rule : DeclarationRule) : List Finding :=
  if entry.1 = id ∧ rule.name = name then
    findings (analysis.declarationOutcome answer file entry rule)
  else
    []

/-- What the rule of that name finds in a type about members with that declaration.
The only built-in rule about types is the one about overloads. -/
def anchoredInType (file : SourcePath) (entry : TypeId × TypeSymbol) (rule : TypeRule) :
    List Finding :=
  let reports := Overload.scopeReports rule.severity
    { program := analysis.program, id := entry.1, symbol := entry.2, file }
  ((reports.filter (Overload.Proposal.isAt id name)).filterMap
    (Overload.Proposal.finding? analysis.program rule.severity)).map
      (analysis.withSeverity rule.name)

/-- What the rule of that name finds in a unit that is anchored at that declaration. -/
def anchoredFindings (unit : FileUnit) : List Finding :=
  ((analysis.measured unit).flatMap fun entry =>
    analysis.rules.rules.flatMap (analysis.anchoredInDeclaration answer name id unit.file entry)) ++
  unit.types.flatMap fun entry =>
    analysis.rules.typeRules.flatMap (analysis.anchoredInType name id unit.file entry)

end Anchored

section Annotated

variable (analysis : Analysis) {mark : Attribute} {info : RuleInfo} {annotated : DeclarationId}
  (answer : SettingRequest → Option String) (justified : Suppression.Justified mark info)
  (builtin : info ∈ Preset.everyRule.infos)

/-! ### Units -/

theorem units_annotate :
    (analysis.annotate annotated mark).units =
      analysis.units.map (FileUnit.annotate annotated mark) :=
  analysis.program.fileUnits_annotate annotated mark _

theorem measured_annotate (unit : FileUnit) :
    (analysis.annotate annotated mark).measured (unit.annotate annotated mark) =
      (analysis.measured unit).map fun entry =>
        (entry.1, entry.2.annotate annotated mark entry.1) := by
  have eligible : unit.declarations.filter (fun entry =>
      (analysis.program.annotate annotated mark).isEligible
        (entry.2.annotate annotated mark entry.1)) = analysis.measured unit :=
    List.filter_congr fun entry _ =>
      analysis.program.isEligible_annotate annotated mark entry.1 entry.2
  unfold measured FileUnit.annotate
  rw [List.filter_map]
  exact congrArg (List.map _) eligible

theorem mem_numberedDeclarations_of_mem_measured {unit : FileUnit}
    (listed : unit ∈ analysis.units) {entry : DeclarationId × Declaration}
    (measured : entry ∈ analysis.measured unit) :
    entry ∈ analysis.program.numberedDeclarations :=
  ((Program.mem_declarations_iff _ _ listed).mp (List.mem_of_mem_filter measured)).1

include justified builtin

theorem declarationOutcome_sheds {rule : DeclarationRule} (listed : rule.Builtin)
    {entry : DeclarationId × Declaration}
    (unsuppressed : entry.1 = annotated →
      Suppression.ofAttributes entry.2.attributes info.name info.code = .absent)
    (file : SourcePath) :
    EndAlike (Sheds (analysis.anchoredInDeclaration answer info.name annotated file entry rule))
      (analysis.declarationOutcome answer file entry rule)
      ((analysis.annotate annotated mark).declarationOutcome answer file
        (entry.1, entry.2.annotate annotated mark entry.1) rule) := by
  let scope : DeclarationScope :=
    { program := analysis.program, id := entry.1, declaration := entry.2, file }
  have before : analysis.declarationOutcome answer file entry rule =
      ((rule.check scope).run answer).map fun found =>
        (found.map (analysis.withSeverity rule.name)).filterMap
          (Suppression.apply entry.2.attributes rule.name rule.requiresReason) := rfl
  have after : (analysis.annotate annotated mark).declarationOutcome answer file
      (entry.1, entry.2.annotate annotated mark entry.1) rule =
      ((rule.check scope).run answer).map fun found =>
        (found.map (analysis.withSeverity rule.name)).filterMap
          (Suppression.apply (annotatedMarks annotated mark entry.1 entry.2.attributes) rule.name
            rule.requiresReason) := by
    rw [← listed.check_annotate annotated justified.suppresses scope]
    rfl
  -- The pass is the same one, so that only the suppressions behind it differ.
  rw [anchoredInDeclaration, before, after]
  cases outcome : (rule.check scope).run answer with
  | error error => exact .failed error
  | ok found =>
      have labels : ∀ finding ∈ found.map (analysis.withSeverity rule.name),
          IsBuiltinLabel rule.name finding.code := by
        intro finding mapped
        obtain ⟨original, reported, rfl⟩ := List.mem_map.mp mapped
        have coded := (listed.yields_allCoded scope).of_run answer outcome original reported
        show IsBuiltinLabel rule.name original.code
        rw [coded]
        exact listed.isLabel
      exact .done (justified.sheds_filterMap_apply builtin labels unsuppressed)

theorem typeOutcome_sheds (unsuppressed : analysis.program.Unsuppressed annotated info)
    (severity : Severity) (file : SourcePath) (entry : TypeId × TypeSymbol) :
    EndAlike
      (Sheds (analysis.anchoredInType info.name annotated file entry (Overload.rule severity)))
      (analysis.typeOutcome answer file entry (Overload.rule severity))
      ((analysis.annotate annotated mark).typeOutcome answer file entry
        (Overload.rule severity)) := by
  let scope : TypeScope :=
    { program := analysis.program, id := entry.1, symbol := entry.2, file }
  have first : analysis.typeOutcome answer file entry (Overload.rule severity) =
      ((Overload.check severity scope).run answer).map fun found =>
        found.map (analysis.withSeverity Overload.ruleName) := rfl
  have second : (analysis.annotate annotated mark).typeOutcome answer file entry
      (Overload.rule severity) =
      ((Overload.check severity (scope.annotate annotated mark)).run answer).map fun found =>
        found.map (analysis.withSeverity Overload.ruleName) := rfl
  have sheds := Overload.sheds_scopeReports justified builtin severity scope unsuppressed
  rw [first, second, Overload.run_check_eq_scopeReports, Overload.run_check_eq_scopeReports,
    Overload.scopeReports_annotate annotated justified.suppresses]
  exact .done (sheds.map (analysis.withSeverity Overload.ruleName))

/-! ### Reports -/

variable (rules : analysis.rules.Builtin)
  (unsuppressed : analysis.program.Unsuppressed annotated info)

include rules unsuppressed

theorem gathered_sheds {unit : FileUnit} (listed : unit ∈ analysis.units) :
    EndAlike (Sheds (analysis.anchoredFindings answer info.name annotated unit))
      (gather (analysis.outcomes answer unit))
      (gather ((analysis.annotate annotated mark).outcomes answer
        (unit.annotate annotated mark))) := by
  have declarations := gather_sheds fun entry measured => gather_sheds fun rule enabled =>
    analysis.declarationOutcome_sheds answer justified builtin (rules.rules rule enabled)
      (unsuppressed entry (analysis.mem_numberedDeclarations_of_mem_measured listed measured))
      unit.file
  have types := gather_sheds fun entry (_ : entry ∈ unit.types) =>
    gather_sheds fun rule (enabled : rule ∈ analysis.rules.typeRules) => by
      obtain ⟨severity, rfl⟩ := rules.typeRules rule enabled
      exact analysis.typeOutcome_sheds answer justified builtin unsuppressed severity unit.file
        entry
  -- The answers are gathered in two parts, and each part sheds what is anchored in it.
  unfold outcomes
  rw [measured_annotate, gather_append, gather_append, gather_flatMap, gather_flatMap,
    gather_flatMap, gather_flatMap, List.map_map]
  refine declarations.bind ?_
  intro found others sheds
  refine types.map ?_
  intro foundBehind othersBehind shedsBehind
  exact sheds.append shedsBehind

theorem unsortedReport_sheds :
    Report.Sheds
      ((analysis.units.filter (analysis.isComplete answer)).flatMap
        (analysis.anchoredFindings answer info.name annotated))
      (analysis.unsortedReport answer)
      ((analysis.annotate annotated mark).unsortedReport answer) := by
  have sheds : UnitsShed answer analysis (analysis.annotate annotated mark)
      (FileUnit.annotate annotated mark)
      (analysis.anchoredFindings answer info.name annotated) :=
    { units := analysis.units_annotate
      file := fun _ => rfl
      measured := fun unit => by rw [measured_annotate, List.length_map]
      gathered := fun _ listed =>
        analysis.gathered_sheds answer justified builtin rules unsuppressed listed }
  exact sheds.unsortedReport

end Annotated

/-! ## Preparation -/

section Preparation

variable (program : Program) (annotated : DeclarationId) (mark : Attribute) (shared : Bool)
  (config : Config)

theorem settle_annotate :
    settle (program.annotate annotated mark) shared config =
      (settle program shared config).map fun settled => settled.annotate annotated mark := by
  have host : (program.annotate annotated mark).isNormalized = program.isNormalized := rfl
  unfold settle
  rw [host, program.normalize_annotate annotated mark]
  cases (shared && program.isNormalized) <;> cases program.normalize <;>
    cases config.threshold <;> rfl

variable {program annotated shared config}

theorem unsuppressed_of_prepare {rules : RuleSet} {analysis : Analysis} {info : RuleInfo}
    (prepared : prepare program shared config rules = .ok analysis)
    (unsuppressed : program.Unsuppressed annotated info) :
    analysis.program.Unsuppressed annotated info := by
  rcases (prepare_eq_ok prepared).1 with ⟨_, _, same⟩ | normalized
  · rw [same]
    exact unsuppressed
  · intro entry listed here
    obtain ⟨before, numbered, sameId, sameMarks⟩ :=
      program.exists_attributes_of_normalize normalized listed
    rw [← sameMarks]
    exact unsuppressed before numbered (sameId.trans here)

end Preparation

/-- Two methods in one file, each with more parameters than recommended. -/
def crowdedCalls : Program :=
  { members := ["Copy", "Move"].map fun name =>
      { name
        parameters := ["from", "to", "offset", "length", "flags"].map fun parameter =>
          { name := parameter, typeName := "int" } }
    declarations := [
      { name := "Copy", kind := .method, symbol := some ⟨0⟩, file := ⟨"Wire.cs"⟩
        span := .at 3 5 },
      { name := "Move", kind := .method, symbol := some ⟨1⟩, file := ⟨"Wire.cs"⟩
        span := .at 9 5 }]
    isNormalized := true }

/-- A suppression for the first of them. -/
def wireFormat : Attribute :=
  (Attribute.withArgument { name := "Allow" } (.str "parameter-count")).withNamed "Reason"
    (.str "mirrors the wire format")

def wireUnit : FileUnit :=
  { file := ⟨"Wire.cs"⟩, declarations := crowdedCalls.numberedDeclarations }

/-- What the rule about parameters finds at the first of them. -/
def crowdedCopy : Finding :=
  { code := "SL003"
    rule := "parameter-count"
    severity := .warning
    location := .ofSpan ⟨"Wire.cs"⟩ (.at 3 5)
    message := "Method `Copy` has 5 parameters (max: 4)"
    suggestion := some { message := "Group related parameters into a type of their own" } }

def crowdedAnalysis : Analysis :=
  equip {} Preset.recommended.rules crowdedCalls

theorem units_crowdedAnalysis : crowdedAnalysis.units = [wireUnit] := by
  have spellings : firstSpellings (crowdedCalls.numberedDeclarations.map (fun entry =>
      entry.2.file) ++ (crowdedCalls.placedTypesIf true).map Prod.fst) =
      [⟨"Wire.cs"⟩] := by decide +kernel
  show crowdedCalls.fileUnits true = _
  rw [Program.fileUnits_eq_map, Program.unitPaths, spellings, List.mergeSort_singleton]
  rfl

end Analysis

end StructureLint
