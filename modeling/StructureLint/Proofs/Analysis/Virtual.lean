import StructureLint.Proofs.Analysis.Shedding
import StructureLint.Proofs.Analysis.Strictness
import StructureLint.Proofs.Program.Normalization
import StructureLint.Proofs.Rule.Virtual

/-!
Contract: what declaring a member `virtual` takes out of a report.

The rule about overloads finds at most once that a member should be virtual: in
the type that declares it, whose unit is one of the program.  Declared `virtual`,
the member is not reported for that any more, and all else is answered as before,
about its type, about types that derive from it and about every other entry.

Owns:
- the findings that ask for a virtual member;
- an analysis next to that of the program with the member declared `virtual`;
- uniqueness of the finding, and what the report lacks.

Does not own: when a member should be virtual.
-/

namespace StructureLint

/-! ## Types and their numbers -/

namespace Program

variable {program : Program} (fits : program.types.length ≤ UInt32.size)

include fits

theorem type?_of_mem_numberedTypes {entry : TypeId × TypeSymbol}
    (listed : entry ∈ program.numberedTypes) : program.type? entry.1 = some entry.2 := by
  obtain ⟨⟨symbol, position⟩, placed, rfl⟩ := List.mem_map.mp listed
  have found := List.mem_zipIdx_iff_getElem?.mp placed
  have inRange : position < program.types.length := (List.getElem?_eq_some_iff.mp found).1
  show program.types[(UInt32.ofNat position).toNat]? = some symbol
  rw [UInt32.toNat_ofNat_of_lt' (by omega)]
  exact found

theorem nodup_map_fst_numberedTypes : (program.numberedTypes.map Prod.fst).Nodup := by
  have numbers : program.numberedTypes.map Prod.fst =
      (List.range program.types.length).map fun position => ⟨UInt32.ofNat position⟩ := by
    rw [List.range_eq_range', ← List.zipIdx_map_snd, numberedTypes, List.map_map, List.map_map]
    rfl
  rw [numbers]
  apply List.Nodup.map_on _ List.nodup_range
  intro first firstListed second secondListed same
  have firstInRange := List.mem_range.mp firstListed
  have secondInRange := List.mem_range.mp secondListed
  have alike := congrArg UInt32.toNat (TypeId.mk.inj same)
  rw [UInt32.toNat_ofNat_of_lt' (by omega), UInt32.toNat_ofNat_of_lt' (by omega)] at alike
  exact alike

end Program

/-- A list whose keys differ has one entry with the key of an entry. -/
theorem filter_key_eq_singleton {α κ : Type} [BEq κ] [LawfulBEq κ] {key : α → κ}
    {entries : List α} (distinct : (entries.map key).Nodup) {entry : α} (listed : entry ∈ entries) :
    entries.filter (fun other => key other == key entry) = [entry] := by
  have once : (entries.filter fun other => key other == key entry).length = 1 := by
    rw [← List.countP_eq_length_filter, ← List.count_eq_one_of_mem distinct
      (List.mem_map_of_mem listed), List.count, List.countP_map]
    rfl
  obtain ⟨only, single⟩ := List.length_eq_one_iff.mp once
  have kept : entry ∈ entries.filter fun other => key other == key entry :=
    List.mem_filter.mpr ⟨listed, beq_self_eq_true _⟩
  rw [single, List.mem_singleton] at kept
  rw [single, kept]

namespace Analysis

open RuleOutcome

/-- The analysis of the program with one member declared `virtual`. -/
def declareVirtual (analysis : Analysis) (fixed : MemberId) : Analysis :=
  { analysis with program := analysis.program.declareVirtual fixed }

/-! ## Findings that ask for a virtual member -/

section Findings

variable (analysis : Analysis) (answer : SettingRequest → Option String) (fixed : MemberId)

/-- What a rule finds in a type about that member not being virtual, reported as such
or turned into a reminder.  The only built-in rule about types is the one about
overloads. -/
def virtualInType (file : SourcePath) (entry : TypeId × TypeSymbol) (rule : TypeRule) :
    List Finding :=
  let reports := Overload.scopeReports rule.severity
    { program := analysis.program, id := entry.1, symbol := entry.2, file }
  ((reports.filter (Overload.Proposal.asksVirtual fixed)).filterMap
    (Overload.Proposal.finding? analysis.program rule.severity)).map
      (analysis.withSeverity rule.name)

def virtualInUnit (unit : FileUnit) : List Finding :=
  unit.types.flatMap fun entry =>
    analysis.rules.typeRules.flatMap (analysis.virtualInType fixed unit.file entry)

/-- All that is found about that member not being virtual, in units that are complete. -/
def virtualFindings : List Finding :=
  (analysis.units.filter (analysis.isComplete answer)).flatMap (analysis.virtualInUnit fixed)

end Findings

/-! ## Units side by side -/

section Units

variable (analysis : Analysis) (answer : SettingRequest → Option String) (fixed : MemberId)

theorem units_declareVirtual : (analysis.declareVirtual fixed).units = analysis.units :=
  analysis.program.fileUnits_declareVirtual fixed _

theorem measured_declareVirtual (unit : FileUnit) :
    (analysis.declareVirtual fixed).measured unit = analysis.measured unit :=
  List.filter_congr fun entry _ => analysis.program.isEligible_declareVirtual fixed entry.2

theorem declarationOutcome_declareVirtual {rule : DeclarationRule} (builtin : rule.Builtin)
    (file : SourcePath) (entry : DeclarationId × Declaration) :
    (analysis.declareVirtual fixed).declarationOutcome answer file entry rule =
      analysis.declarationOutcome answer file entry rule := by
  let scope : DeclarationScope :=
    { program := analysis.program, id := entry.1, declaration := entry.2, file }
  show ((rule.check (scope.declareVirtual fixed)).run answer).map _ = _
  rw [builtin.check_declareVirtual fixed scope]
  rfl

theorem typeOutcome_declareVirtual (severity : Severity) (file : SourcePath)
    (entry : TypeId × TypeSymbol) :
    EndAlike (Sheds (analysis.virtualInType fixed file entry (Overload.rule severity)))
      (analysis.typeOutcome answer file entry (Overload.rule severity))
      ((analysis.declareVirtual fixed).typeOutcome answer file entry
        (Overload.rule severity)) := by
  let scope : TypeScope :=
    { program := analysis.program, id := entry.1, symbol := entry.2, file }
  have sheds := Overload.sheds_findings_declareVirtual fixed severity scope
  show EndAlike _
    (((Overload.check severity scope).run answer).map fun found =>
      found.map (analysis.withSeverity Overload.ruleName))
    (((Overload.check severity (scope.declareVirtual fixed)).run answer).map fun found =>
      found.map (analysis.withSeverity Overload.ruleName))
  rw [Overload.run_check_eq_scopeReports, Overload.run_check_eq_scopeReports]
  exact .done (sheds.map (analysis.withSeverity Overload.ruleName))

variable {analysis} (builtin : analysis.rules.Builtin)

include builtin

/-- About declarations, the same is answered. -/
theorem outcomes_declareVirtual (unit : FileUnit) :
    (analysis.declareVirtual fixed).outcomes answer unit =
      ((analysis.measured unit).flatMap fun entry =>
        analysis.rules.rules.map (analysis.declarationOutcome answer unit.file entry)) ++
      unit.types.flatMap fun entry => analysis.rules.typeRules.map
        ((analysis.declareVirtual fixed).typeOutcome answer unit.file entry) := by
  unfold outcomes
  rw [measured_declareVirtual]
  congr 1
  apply List.flatMap_congr
  intro entry _
  apply List.map_congr_left
  intro rule enabled
  exact analysis.declarationOutcome_declareVirtual answer fixed (builtin.rules rule enabled)
    unit.file entry

theorem gathered_declareVirtual (unit : FileUnit) :
    EndAlike (Sheds (analysis.virtualInUnit fixed unit)) (gather (analysis.outcomes answer unit))
      (gather ((analysis.declareVirtual fixed).outcomes answer unit)) := by
  have types := gather_sheds fun entry (_ : entry ∈ unit.types) =>
    gather_sheds fun rule (enabled : rule ∈ analysis.rules.typeRules) => by
      obtain ⟨severity, rfl⟩ := builtin.typeRules rule enabled
      exact analysis.typeOutcome_declareVirtual answer fixed severity unit.file entry
  rw [outcomes_declareVirtual answer fixed builtin, outcomes, gather_append, gather_append,
    gather_flatMap _ unit.types, gather_flatMap _ unit.types]
  apply (EndAlike.refl _).bind
  rintro found _ rfl
  apply types.map
  intro before after sheds
  exact (Sheds.none found).append sheds

theorem unsortedReport_declareVirtual :
    Report.Sheds (analysis.virtualFindings answer fixed) (analysis.unsortedReport answer)
      ((analysis.declareVirtual fixed).unsortedReport answer) := by
  have sheds : UnitsShed answer analysis (analysis.declareVirtual fixed) id
      (analysis.virtualInUnit fixed) :=
    { units := by rw [units_declareVirtual, List.map_id]
      file := fun _ => rfl
      measured := fun unit => congrArg List.length (analysis.measured_declareVirtual fixed unit)
      gathered := fun unit _ => gathered_declareVirtual answer fixed builtin unit }
  exact sheds.unsortedReport

end Units

/-! ## One finding at most -/

section Uniqueness

variable {analysis : Analysis} {severity : Severity}

/-- The types of the units are types of the program, each in one unit. -/
theorem nodup_map_fst_types (fits : analysis.program.types.length ≤ UInt32.size)
    (enabled : analysis.rules.typeRules ≠ []) :
    ((analysis.units.flatMap FileUnit.types).map Prod.fst).Nodup ∧
      ∀ entry ∈ analysis.units.flatMap FileUnit.types,
        analysis.program.type? entry.1 = some entry.2 := by
  have placed := analysis.program.flatMap_types_perm
  rw [← units_of_typeRules enabled] at placed
  constructor
  · apply ((placed.map Prod.fst).nodup_iff).mpr
    exact (Program.nodup_map_fst_numberedTypes fits).sublist (List.filter_sublist.map _)
  · intro entry listed
    exact Program.type?_of_mem_numberedTypes fits
      (List.mem_of_mem_filter (placed.mem_iff.mp listed))

theorem virtualFindings_eq (answer : SettingRequest → Option String) (fixed : MemberId)
    (fits : analysis.program.types.length ≤ UInt32.size)
    (rules : analysis.rules.typeRules = [Overload.rule severity]) :
    ∃ owners : List TypeId, owners.Nodup ∧ analysis.virtualFindings answer fixed =
      (((owners.flatMap (Overload.typeReports analysis.program severity)).filter
        (Overload.Proposal.asksVirtual fixed)).filterMap
          (Overload.Proposal.finding? analysis.program severity)).map
            (analysis.withSeverity Overload.ruleName) := by
  have enabled : analysis.rules.typeRules ≠ [] := by
    rw [rules]
    exact List.cons_ne_nil _ _
  obtain ⟨distinct, typed⟩ := nodup_map_fst_types fits enabled
  let complete := (analysis.units.filter (analysis.isComplete answer)).flatMap FileUnit.types
  have fewer : complete.Sublist (analysis.units.flatMap FileUnit.types) :=
    List.filter_sublist.flatMap FileUnit.types
  refine ⟨complete.map Prod.fst, distinct.sublist (fewer.map Prod.fst), ?_⟩
  rw [List.flatMap_map, List.filter_flatMap, List.filterMap_flatMap, List.map_flatMap,
    List.flatMap_assoc]
  apply List.flatMap_congr
  intro unit kept
  apply List.flatMap_congr
  intro entry listed
  have found := typed entry (fewer.subset (List.mem_flatMap.mpr ⟨unit, kept, listed⟩))
  have reports : Overload.scopeReports severity
      { program := analysis.program, id := entry.1, symbol := entry.2, file := unit.file } =
      Overload.typeReports analysis.program severity entry.1 :=
    Overload.scopeReports_eq_typeReports severity found
  rw [rules, List.flatMap_cons, List.flatMap_nil, List.append_nil, ← reports]
  rfl

theorem virtualFindings_eq_singleton {answer : SettingRequest → Option String} {fixed : MemberId}
    (fits : analysis.program.types.length ≤ UInt32.size) (builtin : analysis.rules.Builtin)
    (once : analysis.rules.typeRules.length ≤ 1) {finding : Finding}
    (found : finding ∈ analysis.virtualFindings answer fixed) :
    analysis.virtualFindings answer fixed = [finding] := by
  cases enabled : analysis.rules.typeRules with
  | nil =>
      unfold virtualFindings virtualInUnit at found
      simp [enabled] at found
  | cons rule others =>
      rw [enabled, List.length_cons] at once
      obtain rfl : others = [] := List.eq_nil_of_length_eq_zero (by omega)
      obtain ⟨severity, rfl⟩ := builtin.typeRules rule (enabled ▸ List.mem_cons_self)
      obtain ⟨owners, distinct, same⟩ := virtualFindings_eq answer fixed fits enabled
      have keys := Overload.nodup_flatMap_typeReports analysis.program severity distinct
      rw [same] at found ⊢
      obtain ⟨original, proposed, rfl⟩ := List.mem_map.mp found
      obtain ⟨proposal, asking, left⟩ := List.mem_filterMap.mp proposed
      obtain ⟨reported, asks⟩ := List.mem_filter.mp asking
      have only : (owners.flatMap (Overload.typeReports analysis.program severity)).filter
          (Overload.Proposal.asksVirtual fixed) = [proposal] := by
        have single := filter_key_eq_singleton keys reported
        rw [eq_of_beq asks] at single
        exact single
      rw [only, List.filterMap_cons_some left]
      rfl

end Uniqueness

/-! ## End to end -/

theorem settle_declareVirtual (program : Program) (fixed : MemberId) (shared : Bool)
    (config : Config) :
    settle (program.declareVirtual fixed) shared config =
      (settle program shared config).map fun settled => settled.declareVirtual fixed := by
  have host : (program.declareVirtual fixed).isNormalized = program.isNormalized := rfl
  unfold settle
  rw [host, program.normalize_declareVirtual fixed]
  cases (shared && program.isNormalized) <;> cases program.normalize <;>
    cases config.threshold <;> rfl

theorem types_of_prepare {program : Program} {shared : Bool} {config : Config} {rules : RuleSet}
    {analysis : Analysis} (prepared : prepare program shared config rules = .ok analysis) :
    analysis.program.types = program.types := by
  rcases (prepare_eq_ok prepared).1 with ⟨_, _, same⟩ | normalized
  · rw [same]
  · exact (Program.indexed_of_normalize normalized).types

/-- Declaring `virtual` what should be virtual removes that finding and nothing else.
Let the rules be built in.  With any member declared `virtual`, the analysis is refused
for the same reason, or else its report is the one before without what was found about
that member not being virtual, as such or as a reminder.  With the rule about overloads
registered once at most, and with no more types than there are numbers for them, that
is one finding at most. -/
theorem virtual_fix_removes_finding (program : Program) (shared : Bool) (config : Config)
    {rules : RuleSet} (builtin : rules.Builtin) (fixed : MemberId) :
    (∃ error, prepare program shared config rules = .error error ∧
      prepare (program.declareVirtual fixed) shared config rules = .error error) ∨
    ∃ before after, prepare program shared config rules = .ok before ∧
      prepare (program.declareVirtual fixed) shared config rules = .ok after ∧
      after.config = before.config ∧
      ∀ answer, ∃ whole rest, before.report answer = .ok whole ∧ after.report answer = .ok rest ∧
        Report.Sheds (before.virtualFindings answer fixed) whole rest ∧
        (rules.typeRules.length ≤ 1 → program.types.length ≤ UInt32.size →
          ∀ finding ∈ before.virtualFindings answer fixed,
            before.virtualFindings answer fixed = [finding]) := by
  rw [prepare_eq_map_equip _ _ _ rules, prepare_eq_map_equip, settle_declareVirtual]
  cases accepted : settle program shared config with
  | error error => exact .inl ⟨error, rfl, rfl⟩
  | ok settled =>
      let before := equip config rules settled
      have prepared : prepare program shared config rules = .ok before := by
        rw [prepare_eq_map_equip, accepted]
        rfl
      have enabled : before.rules.Builtin :=
        builtin.filter fun info => before.config.isEnabled info.name
      refine .inr ⟨before, before.declareVirtual fixed, rfl, rfl, rfl, ?_⟩
      intro answer
      have sheds := unsortedReport_declareVirtual answer fixed enabled
      refine ⟨_, _, report_eq _ answer, report_eq _ answer, sheds.sort, ?_⟩
      intro once fits finding found
      have single : before.rules.typeRules.length ≤ 1 := (List.length_filter_le _ _).trans once
      exact virtualFindings_eq_singleton (types_of_prepare prepared ▸ fits) enabled single found

/-! ## A reader and a derived one -/

def readOverload (owner : TypeId) (names : List String) (declaration : DeclarationId) :
    MemberSymbol :=
  { MemberSymbol.method "Read" owner with
    parameters := names.map fun name => { name, typeName := "int" }
    declaration := some declaration }

/-- Overloads in two types, of which the longest one should be virtual.  That is
suppressed without a justification. -/
def derivedReader : Program :=
  { types := [
      { name := "Reader", kind := .classType },
      { name := "FileReader", kind := .classType, baseType := some ⟨0⟩ }]
    members := [
      readOverload ⟨0⟩ [] ⟨0⟩,
      readOverload ⟨0⟩ ["start", "size"] ⟨1⟩,
      readOverload ⟨1⟩ ["start"] ⟨2⟩]
    declarations := [
      { name := "Read", kind := .method, symbol := some ⟨0⟩, file := ⟨"Reader.cs"⟩
        span := .at 3 5, body := some (.block (.mk ⟨1⟩ {} [.mk ⟨2⟩ {} .empty])) },
      { name := "Read", kind := .method, symbol := some ⟨1⟩, file := ⟨"Reader.cs"⟩
        span := .at 7 5, body := some (.block (.mk ⟨3⟩ {} [.mk ⟨4⟩ {} .empty]))
        attributes := [Attribute.withArgument { name := "Allow" } (.str "overload-consistency")] },
      { name := "Read", kind := .method, symbol := some ⟨2⟩, file := ⟨"Reader.cs"⟩
        span := .at 12 5, body := some (.block (.mk ⟨5⟩ {} [.mk ⟨6⟩ {} .empty])) }]
    memberIndex := [(⟨0⟩, ⟨0⟩), (⟨0⟩, ⟨1⟩), (⟨1⟩, ⟨2⟩)]
    isNormalized := true }

/-- A configuration that disables all rules but the one about overloads. -/
def overloadsAlone : Config :=
  { rules := ["statement-count", "control-statement-depth", "parameter-count"].map fun name =>
      (name, { enabled := some false }) }

def derivedAnalysis : Analysis :=
  equip overloadsAlone Preset.strict.rules derivedReader

def derivedUnit : FileUnit :=
  { file := ⟨"Reader.cs"⟩, declarations := derivedReader.numberedDeclarations
    types := derivedReader.numberedTypes }

def derivedScope : TypeScope :=
  { program := derivedReader, id := ⟨0⟩, symbol := { name := "Reader", kind := .classType }
    file := ⟨"Reader.cs"⟩ }

/-- What is reported instead of the overload that should be virtual. -/
def virtualReminder : Finding :=
  { code := "SL004"
    rule := "overload-consistency"
    severity := .warning
    location := .ofSpan ⟨"Reader.cs"⟩ (.at 7 5)
    message := "Suppression of `overload-consistency` is missing a required justification" }

theorem rules_derivedAnalysis :
    derivedAnalysis.rules.rules = [] ∧
      derivedAnalysis.rules.typeRules = [Overload.rule .error] := by
  have enabled : derivedAnalysis.config.isEnabled Overload.ruleName = true := rfl
  constructor
  · rfl
  · show [Overload.rule .error].filter (fun rule => derivedAnalysis.config.isEnabled rule.name) = _
    exact List.filter_cons_of_pos enabled

theorem units_derivedAnalysis : derivedAnalysis.units = [derivedUnit] := by
  have spellings : firstSpellings (derivedReader.numberedDeclarations.map (fun entry =>
      entry.2.file) ++ (derivedReader.placedTypesIf true).map Prod.fst) =
      [⟨"Reader.cs"⟩] := rfl
  rw [units, rules_derivedAnalysis.2]
  show derivedReader.fileUnits true = _
  rw [Program.fileUnits_eq_map, Program.unitPaths, spellings, List.mergeSort_singleton]
  rfl

theorem isComplete_derivedUnit (answer : SettingRequest → Option String) :
    derivedAnalysis.isComplete answer derivedUnit = true := by
  apply List.all_eq_true.mpr
  intro outcome listed
  rw [outcomes, rules_derivedAnalysis.1, rules_derivedAnalysis.2] at listed
  rcases List.mem_append.mp listed with declared | typed
  · obtain ⟨_, _, absent⟩ := List.mem_flatMap.mp declared
    cases absent
  · obtain ⟨entry, _, answered⟩ := List.mem_flatMap.mp typed
    rw [List.mem_singleton.mp answered]
    show (((Overload.check .error _).run answer).map _).isOk = true
    rw [Overload.run_check_eq_scopeReports]
    rfl

theorem groups_derivedReader :
    Overload.groups derivedReader ⟨0⟩ = [{ name := "Read", members := [⟨0⟩, ⟨1⟩] }] := by
  have names : Overload.groupNames (Overload.overloads derivedReader ⟨0⟩) = ["Read"] := by
    have once : ((Overload.overloads derivedReader ⟨0⟩).map fun entry =>
        entry.2.name).eraseDups = ["Read"] := rfl
    rw [Overload.groupNames, once, List.mergeSort_singleton]
  unfold Overload.groups
  dsimp only
  rw [names]
  rfl

theorem exists_proposal_derivedScope :
    ∃ proposal ∈ Overload.scopeReports .error derivedScope, proposal.asksVirtual ⟨1⟩ = true ∧
      proposal.finding? derivedReader .error = some virtualReminder := by
  have asked : Overload.isExempt derivedScope.symbol = false := rfl
  have chosen : Overload.canonical? derivedReader [⟨0⟩, ⟨1⟩] = some ⟨1⟩ := rfl
  have grouped : Overload.groups derivedScope.program derivedScope.id = _ := groups_derivedReader
  rw [Overload.scopeReports, asked, grouped, if_neg Bool.false_ne_true, List.flatMap_cons]
  unfold Overload.groupReports
  show ∃ proposal ∈ ((Overload.canonical? derivedReader [⟨0⟩, ⟨1⟩]).bind _).getD [] ++ _, _
  rw [chosen]
  -- The proposal about the canonical overload comes before those about the others.
  refine ⟨_, List.mem_append_left _ (List.mem_append_left _ List.mem_cons_self), rfl, ?_⟩
  rfl

theorem virtualReminder_mem_virtualFindings (answer : SettingRequest → Option String) :
    virtualReminder ∈ derivedAnalysis.virtualFindings answer ⟨1⟩ := by
  obtain ⟨proposal, proposed, asks, left⟩ := exists_proposal_derivedScope
  have reported : virtualReminder ∈ derivedAnalysis.virtualInType ⟨1⟩ derivedUnit.file
      (derivedScope.id, derivedScope.symbol) (Overload.rule .error) := by
    refine List.mem_map.mpr ⟨virtualReminder, List.mem_filterMap.mpr ⟨proposal, ?_, left⟩, ?_⟩
    · exact List.mem_filter.mpr ⟨proposed, asks⟩
    · rfl
  unfold virtualFindings virtualInUnit
  rw [units_derivedAnalysis, List.filter_cons_of_pos (isComplete_derivedUnit answer),
    rules_derivedAnalysis.2]
  refine List.mem_flatMap.mpr ⟨derivedUnit, List.mem_cons_self, List.mem_flatMap.mpr
    ⟨(derivedScope.id, derivedScope.symbol), List.mem_cons_self, ?_⟩⟩
  exact List.mem_flatMap.mpr ⟨_, List.mem_cons_self, reported⟩

/-- The longest overload declared `virtual`, the reminder is gone and nothing else is. -/
theorem virtual_fix_removes_finding_derivedReader :
    ∃ before after whole rest,
      prepare derivedReader true overloadsAlone Preset.strict.rules = .ok before ∧
      prepare (derivedReader.declareVirtual ⟨1⟩) true overloadsAlone Preset.strict.rules =
        .ok after ∧
      before.report before.config.answer = .ok whole ∧
      after.report after.config.answer = .ok rest ∧
      Report.Sheds [virtualReminder] whole rest := by
  rcases virtual_fix_removes_finding derivedReader true overloadsAlone Preset.strict.builtin
    ⟨1⟩ with ⟨error, refused, _⟩ | ⟨before, after, first, second, sameConfig, reports⟩
  · cases refused
  · obtain rfl : derivedAnalysis = before := Except.ok.inj first
    obtain ⟨whole, rest, reported, fixed, sheds, unique⟩ := reports derivedAnalysis.config.answer
    refine ⟨_, after, whole, rest, first, second, reported, sameConfig ▸ fixed, ?_⟩
    rw [unique (by decide) (by decide) virtualReminder
      (virtualReminder_mem_virtualFindings _)] at sheds
    exact sheds

end Analysis

end StructureLint
