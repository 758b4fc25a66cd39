import StructureLint.Command.Display
import StructureLint.Proofs.Analysis.Units
import StructureLint.Proofs.Order

/-!
Contract: the text report as groups of findings.

The printer remembers one file and writes a header wherever the file of a finding
is another one.  In a sorted report the findings of a file stand together, so that
what is printed are groups: one for each file, in the order of the files, with all
findings of the file below its header.

Owns:
- findings shared out among the files they belong to;
- sorted findings as findings that stand together;
- the printed lines of a sorted report.

Does not own: the text of a single finding.
-/

namespace StructureLint.Command

open Std

/-- The file that a finding is about. -/
abbrev fileOf (finding : Finding) : SourcePath :=
  finding.location.file

/-! ## Groups -/

/-- The findings of one file under the spelling of the first of them. -/
structure FileGroup where
  file : SourcePath
  findings : List Finding

/-- A header, the findings below it, and a blank line. -/
def FileGroup.lines (group : FileGroup) : List String :=
  headerLine group.file :: group.findings.flatMap findingLines ++ [""]

/-- The findings shared out among the files they belong to. -/
def fileGroups (findings : List Finding) : List FileGroup :=
  (firstSpellings (findings.map fileOf)).map fun file =>
    { file, findings := findings.filter fun finding => file.Same (fileOf finding) }

theorem map_file_fileGroups (findings : List Finding) :
    (fileGroups findings).map FileGroup.file = firstSpellings (findings.map fileOf) := by
  simp [fileGroups, Function.comp_def]

/-- A file that has all its spellings in front is the first one, under the first of them. -/
theorem firstSpellings_cons_append {first : SourcePath} {same others : List SourcePath}
    (alike : ∀ file ∈ same, first.Same file) (apart : ∀ file ∈ others, ¬ first.Same file) :
    firstSpellings (first :: (same ++ others)) = first :: firstSpellings others := by
  let differs (file : SourcePath) : Bool := ¬ first.Same file
  have spelledAlike (left right : SourcePath) (spelled : left.Same right) :
      differs left = differs right := by
    have reached : first.Same left ↔ first.Same right :=
      ⟨fun same => Eq.trans same spelled, fun same => Eq.trans same spelled.symm⟩
    exact decide_eq_decide.mpr (not_congr reached)
  have sameGone : same.filter differs = [] := by
    simpa [differs] using alike
  have othersKept : others.filter differs = others := by
    simpa [differs] using apart
  show first :: (firstSpellings (same ++ others)).filter differs = _
  rw [← firstSpellings_filter differs spelledAlike, List.filter_append, sameGone, othersKept,
    List.nil_append]

/-- A file whose findings all stand in front makes the first group. -/
theorem fileGroups_cons {first : Finding} {same others : List Finding}
    (alike : ∀ finding ∈ same, (fileOf first).Same (fileOf finding))
    (apart : ∀ finding ∈ others, ¬ (fileOf first).Same (fileOf finding)) :
    fileGroups (first :: (same ++ others)) =
      { file := fileOf first, findings := first :: same } :: fileGroups others := by
  have spellings : firstSpellings ((first :: (same ++ others)).map fileOf) =
      fileOf first :: firstSpellings (others.map fileOf) := by
    rw [List.map_cons, List.map_append]
    exact firstSpellings_cons_append (by simpa using alike) (by simpa using apart)
  have own : (first :: (same ++ others)).filter
      (fun finding => (fileOf first).Same (fileOf finding)) = first :: same := by
    have here : (fileOf first).Same (fileOf first) := rfl
    rw [List.filter_cons_of_pos (by simpa using here), List.filter_append,
      List.filter_eq_self.mpr (by simpa using alike),
      List.filter_eq_nil_iff.mpr (by simpa using apart), List.append_nil]
  unfold fileGroups
  rw [spellings, List.map_cons, own]
  congr 1
  refine List.map_congr_left fun file listed => ?_
  obtain ⟨other, otherListed, rfl⟩ := List.mem_map.mp ((firstSpellings_sublist _).subset listed)
  have elsewhere : ∀ finding, (fileOf first).Same (fileOf finding) →
      ¬ (fileOf other).Same (fileOf finding) := by
    intro finding here there
    exact apart other otherListed (Eq.trans here there.symm)
  have skipped : same.filter (fun finding => (fileOf other).Same (fileOf finding)) = [] := by
    refine List.filter_eq_nil_iff.mpr fun finding member => ?_
    simpa using elsewhere finding (alike finding member)
  rw [List.filter_cons_of_neg (by simpa using elsewhere first rfl), List.filter_append, skipped,
    List.nil_append]

/-! ## Findings that stand together -/

/-- The findings of each file stand together. -/
inductive Contiguous : List Finding → Prop where
  | nil : Contiguous []
  | cons {first : Finding} {same others : List Finding}
      (alike : ∀ finding ∈ same, (fileOf first).Same (fileOf finding))
      (apart : ∀ finding ∈ others, ¬ (fileOf first).Same (fileOf finding))
      (rest : Contiguous others) : Contiguous (first :: (same ++ others))

/-- Findings in the order of their files stand together. -/
theorem contiguous_of_pairwise {findings : List Finding}
    (inOrder : findings.Pairwise fun left right => ((fileOf left).compare (fileOf right)).isLE) :
    Contiguous findings := by
  induction findings with
  | nil => exact .nil
  | cons first rest inductionHypothesis =>
      obtain ⟨fromFirst, restInOrder⟩ := List.pairwise_cons.mp inOrder
      cases inductionHypothesis restInOrder with
      | nil =>
          show Contiguous (first :: ([] ++ []))
          exact .cons (by simp) (by simp) .nil
      | @cons second same others alike apart contiguous =>
          by_cases continued : (fileOf first).Same (fileOf second)
          · show Contiguous (first :: ((second :: same) ++ others))
            refine .cons ?_ ?_ contiguous
            · intro finding member
              rcases List.mem_cons.mp member with rfl | later
              · exact continued
              · exact Eq.trans continued (alike finding later)
            · intro finding member back
              exact apart finding member (Eq.trans continued.symm back)
          · show Contiguous (first :: ([] ++ second :: (same ++ others)))
            refine .cons (by simp) ?_ (.cons alike apart contiguous)
            -- What comes back to the first file would be in front of the second one.
            intro finding member back
            have fromSecond : ((fileOf second).compare (fileOf finding)).isLE := by
              rcases List.mem_cons.mp member with rfl | later
              · exact ReflCmp.isLE_rfl
              · exact (List.pairwise_cons.mp restInOrder).1 finding later
            have toFirst : ((fileOf finding).compare (fileOf first)).isLE := by
              rw [SourcePath.compare_eq_iff_same.mpr back.symm]
              rfl
            have forth := fromFirst second List.mem_cons_self
            exact continued (SourcePath.same_of_compare
              (OrientedCmp.isLE_antisymm forth (TransCmp.isLE_trans fromSecond toFirst)))

theorem flatMap_findings_fileGroups {findings : List Finding} (contiguous : Contiguous findings) :
    (fileGroups findings).flatMap FileGroup.findings = findings := by
  induction contiguous with
  | nil => rfl
  | cons alike apart _ inductionHypothesis =>
      rw [fileGroups_cons alike apart, List.flatMap_cons, inductionHypothesis, List.cons_append]

theorem head?_of_mem_fileGroups {findings : List Finding} (contiguous : Contiguous findings)
    {group : FileGroup} (listed : group ∈ fileGroups findings) :
    group.findings.head?.map fileOf = some group.file := by
  induction contiguous with
  | nil => exact absurd listed List.not_mem_nil
  | cons alike apart _ inductionHypothesis =>
      rw [fileGroups_cons alike apart] at listed
      rcases List.mem_cons.mp listed with rfl | later
      · rfl
      · exact inductionHypothesis later

/-! ## The printer -/

theorem groupedLines_same {file : SourcePath} {same : List Finding}
    (alike : ∀ finding ∈ same, file.Same (fileOf finding)) (others : List Finding) :
    groupedLines (some file) (same ++ others) =
      same.flatMap findingLines ++ groupedLines (some file) others := by
  induction same with
  | nil => rfl
  | cons finding rest inductionHypothesis =>
      have here : file.Same finding.location.file := alike finding List.mem_cons_self
      have later : ∀ other ∈ rest, file.Same (fileOf other) := fun other member =>
        alike other (List.mem_cons_of_mem _ member)
      rw [List.cons_append, groupedLines, if_pos here, inductionHypothesis later,
        List.flatMap_cons, List.append_assoc]

/-- Behind the findings of a file, the printer ends the group and starts anew. -/
theorem groupedLines_apart {file : SourcePath} {others : List Finding}
    (apart : ∀ finding ∈ others, ¬ file.Same (fileOf finding)) :
    groupedLines (some file) others = "" :: groupedLines none others := by
  cases others with
  | nil => rfl
  | cons finding rest =>
      have elsewhere : ¬ file.Same finding.location.file := apart finding List.mem_cons_self
      exact if_neg elsewhere

/-- The printer writes the groups of findings that stand together. -/
theorem groupedLines_eq_flatMap {findings : List Finding} (contiguous : Contiguous findings) :
    groupedLines none findings = (fileGroups findings).flatMap FileGroup.lines := by
  induction contiguous with
  | nil => rfl
  | @cons first same others alike apart _ inductionHypothesis =>
      rw [fileGroups_cons alike apart, List.flatMap_cons, ← inductionHypothesis, groupedLines,
        groupedLines_same alike, groupedLines_apart apart]
      simp [FileGroup.lines, fileOf]

/-! ## The text report -/

theorem pairwise_fileOf_sort (report : Report) :
    report.sort.findings.Pairwise fun left right =>
      ((fileOf left).compare (fileOf right)).isLE := by
  refine (pairwise_mergeSort_isLE Finding.compare report.findings).imp ?_
  intro left right before
  exact Ordering.isLE_left_of_isLE_then before

/-- The groups are those of the findings: their headers are in the order of the paths,
every finding's path has one header and no other, and the groups hold the findings
in sequence, each below the header of its own file. -/
structure GroupedByFile (findings : List Finding) (groups : List FileGroup) : Prop where
  inOrder : (groups.map FileGroup.file).Pairwise fun left right => left.compare right = .lt
  oneHeader : ∀ finding ∈ findings,
    ExactlyOne (groups.map FileGroup.file) fun file => file.Same (fileOf finding)
  spelled : ∀ group ∈ groups, group.findings.head?.map fileOf = some group.file
  ownFile : ∀ group ∈ groups, ∀ finding ∈ group.findings, group.file.Same (fileOf finding)
  inSequence : groups.flatMap FileGroup.findings = findings

theorem groupedByFile_fileGroups {findings : List Finding}
    (inOrder : findings.Pairwise fun left right => ((fileOf left).compare (fileOf right)).isLE) :
    GroupedByFile findings (fileGroups findings) where
  inOrder := by
    rw [map_file_fileGroups]
    have sorted : (findings.map fileOf).Pairwise fun left right => (left.compare right).isLE :=
      List.pairwise_map.mpr inOrder
    refine ((sorted.sublist (firstSpellings_sublist _)).and (pairwise_firstSpellings _)).imp ?_
    rintro left right ⟨before, different⟩
    have untied : left.compare right ≠ .eq := fun tied =>
      different (SourcePath.same_of_compare tied)
    revert before untied
    cases left.compare right <;> decide
  oneHeader finding listed := by
    rw [map_file_fileGroups]
    have used : fileOf finding ∈ findings.map fileOf := List.mem_map_of_mem listed
    obtain ⟨first, spelled, same⟩ := exists_same_mem_firstSpellings used
    exact exactlyOne_same (pairwise_firstSpellings _) spelled same
  spelled _ listed := head?_of_mem_fileGroups (contiguous_of_pairwise inOrder) listed
  ownFile group listed finding member := by
    obtain ⟨file, _, rfl⟩ := List.mem_map.mp listed
    exact of_decide_eq_true (List.mem_filter.mp member).2
  inSequence := flatMap_findings_fileGroups (contiguous_of_pairwise inOrder)

/-- What is printed of a sorted report are its groups, then the failures and the
summary.  There is one header for each path among the findings, in the order of the
paths, and every finding is printed once, below the header of its own file. -/
theorem text_groups_by_file (report : Report) :
    renderReport report.sort .text =
      joinLines ((fileGroups report.sort.findings).flatMap FileGroup.lines ++
        failureLines report.sort.failures ++
        [(summaryStyle report.sort).apply report.sort.summary]) ∧
    GroupedByFile report.sort.findings (fileGroups report.sort.findings) ∧
    report.sort.findings.Perm report.findings := by
  have inOrder := pairwise_fileOf_sort report
  refine ⟨?_, groupedByFile_fileGroups inOrder, List.mergeSort_perm _ _⟩
  rw [← groupedLines_eq_flatMap (contiguous_of_pairwise inOrder)]
  rfl

end StructureLint.Command
