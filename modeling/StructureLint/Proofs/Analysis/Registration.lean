import StructureLint.Proofs.Analysis.Isolation
import StructureLint.Proofs.Config.Alias
import StructureLint.Proofs.Order
import StructureLint.Proofs.Rule.Builtin
import StructureLint.Proofs.Rule.Overload.Reports

/-!
Contract: the order in which rules are registered does not show in a report.

Rules that are known by their codes and names are enabled, told their settings
and given their severities by code and name.  Each of them puts its code on what
it finds, so that findings of different rules never compare as equal, and those
of one rule come in the order of the program.  A file with a malformed setting
fails whichever rule meets it first; only the message says which one did.

Owns:
- rules that are told apart, and sets of rules in another order;
- findings sorted out by their codes;
- units and reports of one set of rules in two orders.

Does not own: the order of the findings of one rule.
-/

namespace StructureLint

/-- Suppression leaves the code on what it lets through. -/
theorem Suppression.code_of_apply {marks : List Attribute} {name : String} {requires : Bool}
    {finding kept : Finding} (stays : apply marks name requires finding = some kept) :
    kept.code = finding.code := by
  unfold apply at stays
  split at stays
  · cases stays
    rfl
  · split at stays
    · cases stays
      rfl
    · cases stays
  · cases stays

/-! ## Sets of rules -/

/-- The second set has the rules of the first in another order. -/
structure RuleSet.Reordered (set other : RuleSet) : Prop where
  rules : set.rules.Perm other.rules
  typeRules : set.typeRules.Perm other.typeRules

/-- No two codes and no two names are the same, no name is a code, and what a rule
finds carries its code. -/
structure RuleSet.Labelled (set : RuleSet) : Prop where
  codes : (set.infos.map RuleInfo.code).Nodup
  names : (set.infos.map RuleInfo.name).Nodup
  apart : ∀ info ∈ set.infos, ∀ other ∈ set.infos, info.name ≠ other.code
  rules : ∀ rule ∈ set.rules, ∀ scope answer found,
    (rule.check scope).run answer = .ok found → AllCoded rule.code found
  typeRules : ∀ rule ∈ set.typeRules, ∀ scope answer found,
    (rule.check scope).run answer = .ok found → AllCoded rule.code found

namespace RuleSet

variable {set other : RuleSet}

theorem Reordered.filter (reordered : set.Reordered other) (accept : RuleInfo → Bool) :
    (set.filter accept).Reordered (other.filter accept) where
  rules := reordered.rules.filter _
  typeRules := reordered.typeRules.filter _

theorem Reordered.infos (reordered : set.Reordered other) : set.infos.Perm other.infos :=
  (reordered.rules.map _).append (reordered.typeRules.map _)

theorem Labelled.filter (labelled : set.Labelled) (accept : RuleInfo → Bool) :
    (set.filter accept).Labelled := by
  have fewer : (set.filter accept).infos.Sublist set.infos :=
    (List.filter_sublist.map _).append (List.filter_sublist.map _)
  exact {
    codes := labelled.codes.sublist (fewer.map _)
    names := labelled.names.sublist (fewer.map _)
    apart := fun info listed other otherListed =>
      labelled.apart info (fewer.subset listed) other (fewer.subset otherListed)
    rules := fun rule listed => labelled.rules rule (List.mem_filter.mp listed).1
    typeRules := fun rule listed => labelled.typeRules rule (List.mem_filter.mp listed).1 }

theorem Labelled.nodup_codes (labelled : set.Labelled) :
    (set.rules.map fun rule => rule.code).Nodup ∧
      (set.typeRules.map fun rule => rule.code).Nodup := by
  have codes := labelled.codes
  rw [infos, List.map_append, List.map_map, List.map_map] at codes
  exact ⟨codes.of_append_left, codes.of_append_right⟩

theorem Labelled.aliasesApart (labelled : set.Labelled) :
    AliasesApart (set.infos.map fun info => (info.code, info.name)) where
  codes := by
    rw [List.map_map]
    exact labelled.codes
  names := by
    rw [List.map_map]
    exact labelled.names
  apart := by
    intro entry listed second secondListed
    obtain ⟨info, infoListed, rfl⟩ := List.mem_map.mp listed
    obtain ⟨otherInfo, otherListed, rfl⟩ := List.mem_map.mp secondListed
    exact Ne.symm (labelled.apart otherInfo otherListed info infoListed)

end RuleSet

/-- The rules of a preset are told apart. -/
theorem Preset.labelled (preset : Preset) : preset.rules.Labelled where
  codes := by cases preset <;> decide
  names := by cases preset <;> decide
  apart := by cases preset <;> decide
  rules := by
    intro rule listed scope answer found ran
    exact ((builtin_of_mem_rules listed).yields_allCoded scope).of_run answer ran
  typeRules := by
    intro rule listed scope answer found ran
    obtain ⟨severity, rfl⟩ := exists_eq_of_mem_typeRules listed
    cases (Overload.run_check_eq_scopeReports answer severity scope).symm.trans ran
    intro finding reported
    obtain ⟨proposal, proposed, stays⟩ := List.mem_filterMap.mp reported
    exact (Suppression.code_of_apply stays).trans
      (Overload.isAnchored_of_mem_scopeReports proposed).code

/-! ## Findings and their codes -/

/-- The findings that carry the code. -/
def codedAs (code : String) (found : List Finding) : List Finding :=
  found.filter fun finding => finding.code == code

theorem codedAs_append (code : String) (first second : List Finding) :
    codedAs code (first ++ second) = codedAs code first ++ codedAs code second :=
  List.filter_append _ _

theorem codedAs_flatMap {α : Type} (code : String) (found : α → List Finding)
    (elements : List α) :
    codedAs code (elements.flatMap found) =
      elements.flatMap fun element => codedAs code (found element) :=
  List.filter_flatMap

theorem AllCoded.codedAs_eq_nil {code other : String} {found : List Finding}
    (coded : AllCoded code found) (different : code ≠ other) : codedAs other found = [] := by
  refine List.filter_eq_nil_iff.mpr ?_
  intro finding listed
  rw [coded finding listed]
  simpa using different

/-- Of findings from sources with codes of their own, those with one code do not
show in which order the sources were asked. -/
theorem codedAs_flatMap_eq_of_perm {α : Type} {label : α → String} {found : α → List Finding}
    {elements others : List α} (reordered : elements.Perm others)
    (distinct : (elements.map label).Nodup)
    (coded : ∀ element ∈ elements, AllCoded (label element) (found element)) (code : String) :
    codedAs code (elements.flatMap found) = codedAs code (others.flatMap found) := by
  simp only [codedAs_flatMap]
  induction reordered with
  | nil => rfl
  | cons element _ inductionHypothesis =>
      have rest := inductionHypothesis (List.nodup_cons.mp distinct).2 fun other listed =>
        coded other (List.mem_cons_of_mem _ listed)
      rw [List.flatMap_cons, List.flatMap_cons, rest]
  | swap first second rest =>
      -- At most one of the two has the code, so that one of the two parts is empty.
      have different : label second ≠ label first := by
        intro same
        exact (List.nodup_cons.mp distinct).1 (by simp [same])
      have firstCoded := coded first (List.mem_cons_of_mem _ List.mem_cons_self)
      have secondCoded := coded second List.mem_cons_self
      simp only [List.flatMap_cons, ← List.append_assoc]
      by_cases asked : label first = code
      · rw [secondCoded.codedAs_eq_nil (by rw [← asked]; exact different), List.nil_append,
          List.append_nil]
      · rw [firstCoded.codedAs_eq_nil asked, List.nil_append, List.append_nil]
  | trans firstPerm _ firstHypothesis secondHypothesis =>
      have forth := firstHypothesis distinct coded
      have moved := secondHypothesis ((firstPerm.map label).nodup_iff.mp distinct)
        fun other listed => coded other (firstPerm.mem_iff.mpr listed)
      exact forth.trans moved

theorem Finding.code_eq_of_compare {finding other : Finding}
    (tied : finding.compare other = .eq) : finding.code = other.code := by
  simp only [Finding.compare, Ordering.then_eq_eq] at tied
  exact Std.LawfulEqOrd.eq_of_compare tied.2.2.2.1

/-- Findings with the same ties, code by code, are sorted alike. -/
theorem mergeSort_eq_of_codedAs_eq {first second : List Finding}
    (alike : ∀ code, codedAs code first = codedAs code second) :
    (first.mergeSort fun left right => (left.compare right).isLE) =
      second.mergeSort fun left right => (left.compare right).isLE := by
  refine mergeSort_eq_of_tiesWith_eq Finding.compare ?_
  intro entry
  have within : ∀ found : List Finding, tiesWith Finding.compare entry found =
      tiesWith Finding.compare entry (codedAs entry.code found) := by
    intro found
    rw [tiesWith, tiesWith, codedAs, List.filter_filter]
    refine List.filter_congr ?_
    intro other _
    by_cases tied : entry.compare other = .eq
    · simp [tied, Finding.code_eq_of_compare tied]
    · simp [tied]
  rw [within first, within second, alike]

namespace Analysis

open RuleOutcome

/-! ## Analyses with their rules in two orders -/

/-- Both analyses are about one program under configurations that say the same,
with the same rules in two orders. -/
structure Reordered (analysis other : Analysis) : Prop where
  program : other.program = analysis.program
  config : analysis.config.Agrees other.config
  rules : analysis.rules.Reordered other.rules

theorem equip_reordered {rules others : RuleSet} (labelled : rules.Labelled)
    (reordered : rules.Reordered others) (config : Config) (program : Program) :
    (equip config rules program).Reordered (equip config others program) := by
  have agrees := Config.agrees_aliasCodes labelled.aliasesApart (reordered.infos.map _) config
  refine { program := rfl, config := agrees, rules := ?_ }
  unfold equip
  dsimp only
  rw [agrees.isEnabled]
  exact reordered.filter _

section Codes

variable (analysis : Analysis) (answer : SettingRequest → Option String) (file : SourcePath)

theorem allCoded_declarationOutcome (entry : DeclarationId × Declaration) {rule : DeclarationRule}
    (coded : ∀ scope answer found, (rule.check scope).run answer = .ok found →
      AllCoded rule.code found) :
    AllCoded rule.code (findings (analysis.declarationOutcome answer file entry rule)) := by
  unfold declarationOutcome
  cases ran : (rule.check _).run answer with
  | error error => exact allCoded_nil rule.code
  | ok found =>
      intro finding listed
      obtain ⟨settled, settledListed, stays⟩ := List.mem_filterMap.mp listed
      obtain ⟨own, ownListed, rfl⟩ := List.mem_map.mp settledListed
      exact (Suppression.code_of_apply stays).trans (coded _ _ _ ran own ownListed)

theorem allCoded_typeOutcome (entry : TypeId × TypeSymbol) {rule : TypeRule}
    (coded : ∀ scope answer found, (rule.check scope).run answer = .ok found →
      AllCoded rule.code found) :
    AllCoded rule.code (findings (analysis.typeOutcome answer file entry rule)) := by
  unfold typeOutcome
  cases ran : (rule.check _).run answer with
  | error error => exact allCoded_nil rule.code
  | ok found =>
      intro finding listed
      obtain ⟨own, ownListed, rfl⟩ := List.mem_map.mp listed
      exact coded _ _ _ ran own ownListed

/-- Which file a failure names does not depend on which setting was malformed. -/
theorem map_file_failure? (unit : FileUnit) :
    (analysis.failure? answer unit).map FileFailure.file =
      if analysis.isComplete answer unit then none else some unit.file := by
  unfold failure?
  cases complete : analysis.isComplete answer unit with
  | true =>
      rw [gather_eq_ok complete]
      rfl
  | false =>
      obtain ⟨error, failed⟩ := gather_eq_error complete
      rw [failed]
      rfl

end Codes

section InTwoOrders

variable {analysis other : Analysis} (reordered : analysis.Reordered other)
  (answer : SettingRequest → Option String)

include reordered

theorem units_reordered : other.units = analysis.units := by
  unfold units
  rw [reordered.program, reordered.rules.typeRules.isEmpty_eq]

theorem measured_reordered : other.measured = analysis.measured := by
  funext unit
  rw [measured, measured, reordered.program]

theorem withSeverity_reordered : other.withSeverity = analysis.withSeverity := by
  funext rule finding
  rw [withSeverity, withSeverity, reordered.config.severity?]

theorem declarationOutcome_reordered :
    other.declarationOutcome answer = analysis.declarationOutcome answer := by
  funext file entry rule
  rw [declarationOutcome, declarationOutcome, reordered.program, withSeverity_reordered reordered]

theorem typeOutcome_reordered : other.typeOutcome answer = analysis.typeOutcome answer := by
  funext file entry rule
  rw [typeOutcome, typeOutcome, reordered.program, withSeverity_reordered reordered]

theorem outcomes_perm (unit : FileUnit) :
    (analysis.outcomes answer unit).Perm (other.outcomes answer unit) := by
  rw [outcomes, outcomes, measured_reordered reordered, declarationOutcome_reordered reordered,
    typeOutcome_reordered reordered]
  refine (List.Perm.flatMap_left _ ?declarations).append (List.Perm.flatMap_left _ ?types)
  case declarations => exact fun _ _ => reordered.rules.rules.map _
  case types => exact fun _ _ => reordered.rules.typeRules.map _

theorem isComplete_reordered : other.isComplete answer = analysis.isComplete answer := by
  funext unit
  exact (outcomes_perm reordered answer unit).all_eq.symm

theorem files_reordered :
    (other.unsortedReport answer).failures.map FileFailure.file =
      (analysis.unsortedReport answer).failures.map FileFailure.file := by
  show (other.units.filterMap _).map _ = (analysis.units.filterMap _).map _
  rw [List.map_filterMap, List.map_filterMap, units_reordered reordered]
  refine List.filterMap_congr ?_
  intro unit _
  rw [map_file_failure?, map_file_failure?, isComplete_reordered reordered]

theorem codedAs_unitFindings_reordered (labelled : analysis.rules.Labelled) (unit : FileUnit)
    (code : String) :
    codedAs code (other.unitFindings answer unit) =
      codedAs code (analysis.unitFindings answer unit) := by
  obtain ⟨ruleCodes, typeRuleCodes⟩ := labelled.nodup_codes
  have declarations : ∀ entry,
      codedAs code (other.rules.rules.flatMap fun rule =>
          findings (analysis.declarationOutcome answer unit.file entry rule)) =
        codedAs code (analysis.rules.rules.flatMap fun rule =>
          findings (analysis.declarationOutcome answer unit.file entry rule)) := by
    intro entry
    refine (codedAs_flatMap_eq_of_perm reordered.rules.rules ruleCodes ?_ code).symm
    intro rule listed
    exact analysis.allCoded_declarationOutcome answer unit.file entry (labelled.rules rule listed)
  have types : ∀ entry,
      codedAs code (other.rules.typeRules.flatMap fun rule =>
          findings (analysis.typeOutcome answer unit.file entry rule)) =
        codedAs code (analysis.rules.typeRules.flatMap fun rule =>
          findings (analysis.typeOutcome answer unit.file entry rule)) := by
    intro entry
    refine (codedAs_flatMap_eq_of_perm reordered.rules.typeRules typeRuleCodes ?_ code).symm
    intro rule listed
    exact analysis.allCoded_typeOutcome answer unit.file entry (labelled.typeRules rule listed)
  simp only [unitFindings, outcomes, measured_reordered reordered,
    declarationOutcome_reordered reordered, typeOutcome_reordered reordered,
    List.flatMap_append, List.flatMap_assoc, List.flatMap_map]
  rw [codedAs_append, codedAs_append, codedAs_flatMap, codedAs_flatMap, codedAs_flatMap,
    codedAs_flatMap]
  simp only [declarations, types]

theorem codedAs_findings_reordered (labelled : analysis.rules.Labelled) (code : String) :
    codedAs code (other.unsortedReport answer).findings =
      codedAs code (analysis.unsortedReport answer).findings := by
  show codedAs code ((other.units.filter _).flatMap _) =
    codedAs code ((analysis.units.filter _).flatMap _)
  simp only [codedAs_flatMap, units_reordered reordered, isComplete_reordered reordered,
    codedAs_unitFindings_reordered reordered answer labelled]

end InTwoOrders

/-! ## Reports -/

/-- Two reports differ at most in the messages of their failures. -/
structure SameButMessages (report other : Report) : Prop where
  findings : other.findings = report.findings
  filesChecked : other.filesChecked = report.filesChecked
  declarationsChecked : other.declarationsChecked = report.declarationsChecked
  files : other.failures.map FileFailure.file = report.failures.map FileFailure.file

theorem map_file_sort (report : Report) :
    report.sort.failures.map FileFailure.file =
      (report.failures.map FileFailure.file).mergeSort
        fun left right => (left.compare right).isLE :=
  List.map_mergeSort fun _ _ _ _ => rfl

theorem sort_unsortedReport_reordered {analysis other : Analysis}
    (reordered : analysis.Reordered other) (labelled : analysis.rules.Labelled)
    (answer : SettingRequest → Option String) :
    SameButMessages (analysis.unsortedReport answer).sort (other.unsortedReport answer).sort where
  findings := mergeSort_eq_of_codedAs_eq fun code =>
    codedAs_findings_reordered reordered answer labelled code
  filesChecked := by
    show (other.units.filter _).length = (analysis.units.filter _).length
    rw [units_reordered reordered, isComplete_reordered reordered]
  declarationsChecked := by
    show ((other.units.filter _).flatMap _).length = ((analysis.units.filter _).flatMap _).length
    rw [units_reordered reordered, isComplete_reordered reordered, measured_reordered reordered]
  files := by
    rw [map_file_sort, map_file_sort, files_reordered reordered]

/-- Let rules that codes and names tell apart, and whose findings carry their
codes, be registered in another order.  Then the analysis is refused for the same
reason, or else it yields a report with the same findings in the same order, the
same counts, and the same files among its failures.  So it is with settings from
the configuration, and with settings from any other provider. -/
theorem registration_order_irrelevant {rules others : RuleSet} (labelled : rules.Labelled)
    (reordered : rules.Reordered others) (program : Program) (shared : Bool) (config : Config) :
    (∃ error, prepare program shared config rules = .error error ∧
      prepare program shared config others = .error error) ∨
    ∃ first second, prepare program shared config rules = .ok first ∧
      prepare program shared config others = .ok second ∧
      ∀ provider : Option (SettingRequest → Option String), ∃ report other,
        first.report (provider.getD first.config.answer) = .ok report ∧
        second.report (provider.getD second.config.answer) = .ok other ∧
        SameButMessages report other := by
  rw [prepare_eq_map_equip, prepare_eq_map_equip]
  cases settle program shared config with
  | error error => exact .inl ⟨error, rfl, rfl⟩
  | ok normalized =>
      have equipped := equip_reordered labelled reordered config normalized
      have enabled : (equip config rules normalized).rules.Labelled :=
        labelled.filter fun info => (equip config rules normalized).config.isEnabled info.name
      refine .inr ⟨_, _, rfl, rfl, ?_⟩
      intro provider
      rw [equipped.config.answer]
      exact ⟨_, _, report_eq _ _, report_eq _ _,
        sort_unsortedReport_reordered equipped enabled _⟩

/-- The rules of a preset, last one first. -/
def reversedRules (preset : Preset) : RuleSet :=
  { rules := preset.rules.rules.reverse, typeRules := preset.rules.typeRules.reverse }

/-- Sections by code and by name; generated files have malformed settings for two rules. -/
def codesAndNames : Config :=
  { rules := [("SL001", { options := [("max_statement_count", .string "0")] }),
      ("parameter-count", { severity := some .info })]
    overrides := [
      { files := ["gen/**"]
        rules := [("SL001", { options := [("max_statement_count", .string "few")] }),
          ("control-statement-depth",
            { options := [("max_control_statement_depth", .string "low")] })] }] }

theorem registration_order_irrelevant_reversed :
    ∃ first second, prepare loaderAndSaver false codesAndNames Preset.strict.rules = .ok first ∧
      prepare loaderAndSaver false codesAndNames (reversedRules .strict) = .ok second ∧
      first.rules.size = 4 ∧
      ∃ report other, first.report first.config.answer = .ok report ∧
        second.report second.config.answer = .ok other ∧ SameButMessages report other := by
  have reordered : Preset.strict.rules.Reordered (reversedRules .strict) :=
    ⟨(List.reverse_perm _).symm, (List.reverse_perm _).symm⟩
  rcases registration_order_irrelevant (Preset.labelled .strict) reordered loaderAndSaver false
    codesAndNames with ⟨error, failed, _⟩ | ⟨first, second, prepared, preparedToo, alike⟩
  · cases failed
  · refine ⟨first, second, prepared, preparedToo, ?_, alike none⟩
    cases prepared
    decide +kernel

end Analysis

end StructureLint
