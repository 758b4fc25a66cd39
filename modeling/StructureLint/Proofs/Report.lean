import Mathlib
import StructureLint.Proofs.Order

/-!
Contract: reports that are merged in some order and then sorted.

Merging appends what was found and adds up what was covered, so that the order of
merging shows only in the order of the entries.  Sorting undoes it up to ties:
findings at one place with one code and one message, and failures of one path.

Owns:
- the merged report in closed form;
- the keys that findings and failures are sorted by;
- sorting as a stable one, on reports;
- reports that are merged in different orders.

Does not own: the laws of sorting by an order.
-/

namespace StructureLint

open Std

/-! ## Keys -/

/-- What decides where a finding stands in a report. -/
structure SortKey where
  path : List PathComponent
  line : UInt64
  column : UInt64
  code : String
  message : String
  deriving DecidableEq

def Finding.sortKey (finding : Finding) : SortKey where
  path := finding.location.file.components
  line := finding.location.line
  column := finding.location.column
  code := finding.code
  message := finding.message

/-- Failures sort by their files. -/
def FileFailure.compare (left right : FileFailure) : Ordering :=
  left.file.compare right.file

instance : TransCmp FileFailure.compare :=
  transCmp_comap SourcePath.compare FileFailure.file

theorem Finding.compare_eq_iff_sortKey {left right : Finding} :
    left.compare right = .eq ↔ left.sortKey = right.sortKey := by
  unfold Finding.compare Finding.sortKey
  rw [Ordering.then_eq_eq, Ordering.then_eq_eq, Ordering.then_eq_eq, Ordering.then_eq_eq,
    SourcePath.compare_eq_iff_same, SortKey.mk.injEq]
  simp only [Std.compare_eq_iff_eq]
  rfl

namespace Report

/-! ## Merging -/

theorem foldl_merge (reports : List Report) (start : Report) :
    reports.foldl Report.merge start =
      { findings := start.findings ++ reports.flatMap Report.findings
        failures := start.failures ++ reports.flatMap Report.failures
        filesChecked := start.filesChecked + (reports.map Report.filesChecked).sum
        declarationsChecked :=
          start.declarationsChecked + (reports.map Report.declarationsChecked).sum } := by
  induction reports generalizing start with
  | nil => simp
  | cons report rest inductionHypothesis =>
      rw [List.foldl_cons, inductionHypothesis]
      simp [Report.merge, Nat.add_assoc]

/-- The reports cover as much, have the same entries, and list them in an order that
differs at most between entries with one key. -/
structure AlikeUpToTies (first second : Report) : Prop where
  filesChecked : first.filesChecked = second.filesChecked
  declarationsChecked : first.declarationsChecked = second.declarationsChecked
  findings : first.findings.Perm second.findings
  failures : first.failures.Perm second.failures
  sortKeys : first.findings.map Finding.sortKey = second.findings.map Finding.sortKey
  paths : (first.failures.map fun failure => failure.file.components) =
    second.failures.map fun failure => failure.file.components

theorem alikeUpToTies_sort_foldl_merge {reports others : List Report}
    (reordered : reports.Perm others) :
    AlikeUpToTies (reports.foldl Report.merge {}).sort (others.foldl Report.merge {}).sort := by
  have findings : (reports.flatMap Report.findings).Perm (others.flatMap Report.findings) :=
    reordered.flatMap_right Report.findings
  have failures : (reports.flatMap Report.failures).Perm (others.flatMap Report.failures) :=
    reordered.flatMap_right Report.failures
  rw [foldl_merge, foldl_merge]
  exact {
    filesChecked := congrArg (0 + ·) (reordered.map Report.filesChecked).sum_eq
    declarationsChecked := congrArg (0 + ·) (reordered.map Report.declarationsChecked).sum_eq
    findings := (List.mergeSort_perm _ _).trans (findings.trans (List.mergeSort_perm _ _).symm)
    failures := (List.mergeSort_perm _ _).trans (failures.trans (List.mergeSort_perm _ _).symm)
    sortKeys := map_mergeSort_eq_of_perm Finding.compare Finding.compare_eq_iff_sortKey findings
    paths := map_mergeSort_eq_of_perm FileFailure.compare SourcePath.compare_eq_iff_same failures }

end Report

/-! ## Sorting -/

/-- The sorted list is in order and has the entries of the other one, of which those
that compare as equal stand as they stood. -/
structure StablySorted {α : Type} (order : α → α → Ordering) (entries sorted : List α) :
    Prop where
  sameEntries : sorted.Perm entries
  inOrder : sorted.Pairwise fun left right => (order left right).isLE
  ties : ∀ entry, tiesWith order entry sorted = tiesWith order entry entries

theorem stablySorted_mergeSort {α : Type} (order : α → α → Ordering) [TransCmp order]
    (entries : List α) :
    StablySorted order entries (entries.mergeSort fun left right => (order left right).isLE) where
  sameEntries := List.mergeSort_perm _ _
  inOrder := pairwise_mergeSort_isLE order entries
  ties entry := tiesWith_mergeSort order entry entries

theorem Report.sort_sort (report : Report) : report.sort.sort = report.sort := by
  have findings := List.mergeSort_of_pairwise (pairwise_mergeSort_isLE Finding.compare
    report.findings)
  have failures := List.mergeSort_of_pairwise (pairwise_mergeSort_isLE FileFailure.compare
    report.failures)
  exact congrArg₂ (fun findings failures => { report with findings, failures }) findings failures

/-- Any two entries are in order one way or the other, and both ways exactly if they
are tied. -/
structure TotalPreorder {α : Type} (order : α → α → Ordering) (Tied : α → α → Prop) : Prop where
  refl : ∀ entry, (order entry entry).isLE = true
  trans : ∀ first second third, (order first second).isLE = true →
    (order second third).isLE = true → (order first third).isLE = true
  total : ∀ left right, (order left right).isLE = true ∨ (order right left).isLE = true
  swap : ∀ left right, order right left = (order left right).swap
  ties : ∀ left right, order left right = .eq ↔ Tied left right

theorem SourcePath.totalPreorder_compare : TotalPreorder SourcePath.compare SourcePath.Same where
  refl _ := ReflCmp.isLE_rfl
  trans _ _ _ := TransCmp.isLE_trans
  total left right := by
    have either := total_isLE SourcePath.compare left right
    rwa [Bool.or_eq_true] at either
  swap _ _ := OrientedCmp.eq_swap
  ties _ _ := SourcePath.compare_eq_iff_same

namespace Report

/-- The order in which reports are merged does not show in the merged report once it
is sorted: it covers as much, has the same findings and failures, and lists them by
the same sequence of keys.  Sorting again changes nothing, and sorting keeps entries
with one key as they stood.  Paths are ordered totally, those being tied whose
components agree. -/
theorem merging_order_unnoticed :
    (∀ reports others : List Report, reports.Perm others →
      AlikeUpToTies (reports.foldl Report.merge {}).sort (others.foldl Report.merge {}).sort) ∧
    (∀ report : Report, report.sort.sort = report.sort ∧
      StablySorted Finding.compare report.findings report.sort.findings ∧
      StablySorted FileFailure.compare report.failures report.sort.failures) ∧
    (∀ left right : Finding, left.compare right = .eq ↔ left.sortKey = right.sortKey) ∧
    TotalPreorder SourcePath.compare SourcePath.Same := by
  refine ⟨?merged, ?sorted, ?keys, SourcePath.totalPreorder_compare⟩
  case merged =>
    intro reports others reordered
    exact alikeUpToTies_sort_foldl_merge reordered
  case sorted =>
    intro report
    refine ⟨report.sort_sort, ?_, ?_⟩
    · exact stablySorted_mergeSort Finding.compare report.findings
    · exact stablySorted_mergeSort FileFailure.compare report.failures
  case keys =>
    intro left right
    exact Finding.compare_eq_iff_sortKey

/-- A report with a single finding, of that severity and in a file of that spelling. -/
def loneFinding (severity : Severity) (file : String) : Report :=
  { findings := [{
      code := "SL001"
      rule := "statement-count"
      severity
      location := { file := ⟨file⟩, line := 3, column := 5 }
      message := "`Run` has 12 statements (max: 10)" }]
    filesChecked := 1
    declarationsChecked := 1 }

/-- Findings that are not the same but have one key, merged in both orders. -/
theorem merging_order_unnoticed_respelled :
    let first := loneFinding .warning "src/A.cs"
    let second := loneFinding .error "src//A.cs"
    first.findings ≠ second.findings ∧
      first.findings.map Finding.sortKey = second.findings.map Finding.sortKey ∧
      [first, second].Perm [second, first] ∧
      AlikeUpToTies ([first, second].foldl Report.merge {}).sort
        ([second, first].foldl Report.merge {}).sort := by
  intro first second
  have reordered : [first, second].Perm [second, first] := List.Perm.swap second first []
  refine ⟨by decide, rfl, reordered, ?_⟩
  exact merging_order_unnoticed.1 [first, second] [second, first] reordered

end Report

end StructureLint
