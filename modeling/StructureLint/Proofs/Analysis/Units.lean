import Mathlib.Logic.ExistsUnique
import StructureLint.Analysis.Unit

/-!
Contract: the files of a program share it out.

Every declaration, and every type that belongs to some file, lies in one unit
and no other.  The units are told apart by the components of their paths.

Owns:
- the laws of first spellings;
- membership in the units of a program, and uniqueness of the unit.

Does not own: what is found in a unit.
-/

namespace StructureLint

/-! ## First spellings -/

theorem exists_same_mem_firstSpellings {path : SourcePath} {paths : List SourcePath}
    (member : path ∈ paths) : ∃ first ∈ firstSpellings paths, first.Same path := by
  induction paths with
  | nil => exact absurd member List.not_mem_nil
  | cons head rest inductionHypothesis =>
      by_cases spelled : head.Same path
      · exact ⟨head, List.mem_cons_self, spelled⟩
      · have later : path ∈ rest := by
          rcases List.mem_cons.mp member with same | later
          · exact absurd (congrArg SourcePath.components same.symm) spelled
          · exact later
        obtain ⟨first, firstMember, firstSame⟩ := inductionHypothesis later
        have apart : ¬ head.Same first := fun same => spelled (Eq.trans same firstSame)
        exact ⟨first, List.mem_cons_of_mem _ (List.mem_filter.mpr ⟨firstMember, by simpa⟩),
          firstSame⟩

/-- No two first spellings name the same path. -/
theorem pairwise_firstSpellings (paths : List SourcePath) :
    (firstSpellings paths).Pairwise fun left right => ¬ left.Same right := by
  induction paths with
  | nil => exact List.Pairwise.nil
  | cons head rest inductionHypothesis =>
      refine List.pairwise_cons.mpr ⟨?_, inductionHypothesis.filter _⟩
      intro other member
      simpa using (List.mem_filter.mp member).2

theorem firstSpellings_sublist (paths : List SourcePath) :
    (firstSpellings paths).Sublist paths := by
  induction paths with
  | nil => exact List.Sublist.refl _
  | cons head rest inductionHypothesis =>
      exact (List.filter_sublist.trans inductionHypothesis).cons_cons head

/-- Paths may be left out before or after, if all spellings of a path are left out. -/
theorem firstSpellings_filter (keep : SourcePath → Bool)
    (alike : ∀ left right : SourcePath, left.Same right → keep left = keep right)
    (paths : List SourcePath) :
    firstSpellings (paths.filter keep) = (firstSpellings paths).filter keep := by
  induction paths with
  | nil => rfl
  | cons head rest inductionHypothesis =>
      cases kept : keep head with
      | true =>
          rw [List.filter_cons_of_pos kept, firstSpellings, firstSpellings, inductionHypothesis,
            List.filter_cons_of_pos kept, List.filter_filter, List.filter_filter]
          simp only [Bool.and_comm]
      | false =>
          have left : ¬ keep head = true := by simp [kept]
          rw [List.filter_cons_of_neg left, firstSpellings, List.filter_cons_of_neg left,
            inductionHypothesis, List.filter_filter]
          refine List.filter_congr fun other _ => ?_
          by_cases same : head.Same other
          · simp [← alike head other same, kept]
          · simp [same]

/-! ## Sharing out a list -/

/-- One position of the list, and no other, holds an entry with the property. -/
def ExactlyOne {α : Type} (entries : List α) (holds : α → Prop) : Prop :=
  ∃! index : Nat, ∃ entry, entries[index]? = some entry ∧ holds entry

/-- Of paths that are told apart, one names a path that any of them names. -/
theorem exactlyOne_same {paths : List SourcePath}
    (apart : paths.Pairwise fun left right => ¬ left.Same right) {first path : SourcePath}
    (listed : first ∈ paths) (firstSame : first.Same path) :
    ExactlyOne paths fun file => file.Same path := by
  obtain ⟨index, found⟩ := List.mem_iff_getElem?.mp listed
  refine ⟨index, ⟨first, found, firstSame⟩, ?_⟩
  rintro other ⟨file, otherFound, otherSame⟩
  have alike : file.Same first := Eq.trans otherSame firstSame.symm
  have apart := List.pairwise_iff_getElem.mp apart
  obtain ⟨indexBound, rfl⟩ := List.getElem?_eq_some_iff.mp found
  obtain ⟨otherBound, rfl⟩ := List.getElem?_eq_some_iff.mp otherFound
  rcases Nat.lt_trichotomy other index with before | same | behind
  · exact absurd alike (apart _ _ otherBound indexBound before)
  · exact same
  · exact absurd alike.symm (apart _ _ indexBound otherBound behind)

/-- Entries that are shared out among keys, no entry to two of them, are the
entries that have a key, each as often as before. -/
theorem flatMap_filter_perm {κ α : Type} (owns : κ → α → Bool) (keys : List κ) (entries : List α)
    (apart : keys.Pairwise fun left right => ∀ entry, owns left entry → ¬ owns right entry) :
    (keys.flatMap fun key => entries.filter (owns key)).Perm
      (entries.filter fun entry => keys.any fun key => owns key entry) := by
  induction keys with
  | nil => simp
  | cons key rest inductionHypothesis =>
      obtain ⟨headApart, restApart⟩ := List.pairwise_cons.mp apart
      have split := (List.filter_append_perm (owns key)
        (entries.filter fun entry => (key :: rest).any fun other => owns other entry)).symm
      refine List.Perm.trans (List.Perm.append (.of_eq ?_) ?_) split.symm
      · rw [List.filter_filter]
        apply List.filter_congr
        intro entry _
        cases taken : owns key entry <;> simp [taken]
      · refine (inductionHypothesis restApart).trans (.of_eq ?_)
        rw [List.filter_filter]
        apply List.filter_congr
        intro entry _
        cases taken : owns key entry with
        | false => simp [taken]
        | true =>
            have others : (rest.any fun other => owns other entry) = false := by
              rw [List.any_eq_false]
              intro other member
              exact headApart other member entry taken
            simp [others]

namespace Program

variable (program : Program) (withTypes : Bool)

/-- The types that are shared out, with their files. -/
def placedTypesIf : List (SourcePath × TypeId × TypeSymbol) :=
  if withTypes then program.placedTypes else []

/-- The files of the program in order, each in its first spelling. -/
def unitPaths : List SourcePath :=
  (firstSpellings (program.numberedDeclarations.map (fun entry => entry.2.file) ++
    (program.placedTypesIf withTypes).map Prod.fst)).mergeSort
    fun left right => (left.compare right).isLE

theorem fileUnits_eq_map :
    program.fileUnits withTypes = (program.unitPaths withTypes).map fun file =>
      { file
        declarations := program.numberedDeclarations.filter fun entry => file.Same entry.2.file
        types := ((program.placedTypesIf withTypes).filter fun entry =>
          file.Same entry.1).map Prod.snd } :=
  rfl

theorem mem_placedTypes {file : SourcePath} {entry : TypeId × TypeSymbol} :
    (file, entry) ∈ program.placedTypes ↔
      entry ∈ program.numberedTypes ∧ program.typeFile? entry.1 entry.2 = some file := by
  simp only [placedTypes, List.mem_filterMap, Option.map_eq_some_iff]
  constructor
  · rintro ⟨other, member, place, placed, same⟩
    obtain ⟨rfl, rfl⟩ := Prod.mk.inj same
    exact ⟨member, placed⟩
  · rintro ⟨member, placed⟩
    exact ⟨entry, member, file, placed, rfl⟩

theorem pairwise_unitPaths :
    (program.unitPaths withTypes).Pairwise fun left right => ¬ left.Same right := by
  refine (List.mergeSort_perm _ _).symm.pairwise (pairwise_firstSpellings _) ?_
  intro left right apart same
  exact apart (Eq.symm same)

/-- One position among the files names a path that some entry has. -/
theorem exactlyOne_unitPaths {path : SourcePath}
    (used : path ∈ program.numberedDeclarations.map (fun entry => entry.2.file) ++
      (program.placedTypesIf withTypes).map Prod.fst) :
    ExactlyOne (program.unitPaths withTypes) fun file => file.Same path := by
  obtain ⟨first, firstMember, firstSame⟩ := exists_same_mem_firstSpellings used
  have sorted : first ∈ program.unitPaths withTypes := List.mem_mergeSort.mpr firstMember
  exact exactlyOne_same (program.pairwise_unitPaths withTypes) sorted firstSame

/-! ## What lies in a unit -/

/-- The entries that a unit takes from a list by their files lie at one
position of the units and at no other. -/
theorem exactlyOne_unit_of_path {Holds : FileUnit → Prop} {path : SourcePath}
    (used : path ∈ program.numberedDeclarations.map (fun entry => entry.2.file) ++
      (program.placedTypesIf withTypes).map Prod.fst)
    (holds_iff : ∀ unit ∈ program.fileUnits withTypes, Holds unit ↔ unit.file.Same path) :
    ExactlyOne (program.fileUnits withTypes) Holds := by
  obtain ⟨index, ⟨file, found, same⟩, unique⟩ := program.exactlyOne_unitPaths withTypes used
  have unitAt (position : Nat) : (program.fileUnits withTypes)[position]?.map FileUnit.file =
      (program.unitPaths withTypes)[position]? := by
    rw [← List.getElem?_map]
    congr 1
    simp [fileUnits_eq_map, Function.comp_def]
  refine ⟨index, ?_, ?_⟩
  · obtain ⟨unit, unitFound, rfl⟩ := Option.map_eq_some_iff.mp ((unitAt index).trans found)
    exact ⟨unit, unitFound, (holds_iff unit (List.mem_of_getElem? unitFound)).mpr same⟩
  · rintro other ⟨unit, otherFound, held⟩
    refine unique other ⟨unit.file, ?_, (holds_iff unit (List.mem_of_getElem? otherFound)).mp held⟩
    rw [← unitAt other, otherFound]
    rfl

theorem mem_declarations_iff {unit : FileUnit} (listed : unit ∈ program.fileUnits withTypes)
    {entry : DeclarationId × Declaration} :
    entry ∈ unit.declarations ↔
      entry ∈ program.numberedDeclarations ∧ unit.file.Same entry.2.file := by
  rw [fileUnits_eq_map] at listed
  obtain ⟨file, _, rfl⟩ := List.mem_map.mp listed
  simp [List.mem_filter]

theorem mem_types_iff {unit : FileUnit} (listed : unit ∈ program.fileUnits true)
    {entry : TypeId × TypeSymbol} :
    entry ∈ unit.types ↔
      entry ∈ program.numberedTypes ∧
        ∃ file, program.typeFile? entry.1 entry.2 = some file ∧ unit.file.Same file := by
  rw [fileUnits_eq_map] at listed
  obtain ⟨path, _, rfl⟩ := List.mem_map.mp listed
  simp only [placedTypesIf, if_true, List.mem_map, List.mem_filter, decide_eq_true_eq]
  constructor
  · rintro ⟨⟨file, placed⟩, ⟨member, same⟩, rfl⟩
    obtain ⟨numbered, located⟩ := (program.mem_placedTypes).mp member
    exact ⟨numbered, file, located, same⟩
  · rintro ⟨numbered, file, located, same⟩
    exact ⟨(file, entry), ⟨(program.mem_placedTypes).mpr ⟨numbered, located⟩, same⟩, rfl⟩

/-- Every declaration lies in one unit and in no other. -/
theorem exactlyOne_unit_of_declaration {entry : DeclarationId × Declaration}
    (numbered : entry ∈ program.numberedDeclarations) :
    ExactlyOne (program.fileUnits withTypes) fun unit => entry ∈ unit.declarations := by
  apply program.exactlyOne_unit_of_path withTypes
  · exact List.mem_append_left _ (List.mem_map.mpr ⟨entry, numbered, rfl⟩)
  · intro unit listed
    rw [program.mem_declarations_iff withTypes listed]
    exact and_iff_right numbered

/-- Every type with a file lies in one unit and in no other, if types are shared out. -/
theorem exactlyOne_unit_of_type {entry : TypeId × TypeSymbol} {path : SourcePath}
    (numbered : entry ∈ program.numberedTypes)
    (located : program.typeFile? entry.1 entry.2 = some path) :
    ExactlyOne (program.fileUnits true) fun unit => entry ∈ unit.types := by
  apply program.exactlyOne_unit_of_path true
  · refine List.mem_append_right _ (List.mem_map.mpr ⟨(path, entry), ?_, rfl⟩)
    exact (program.mem_placedTypes).mpr ⟨numbered, located⟩
  · intro unit listed
    rw [program.mem_types_iff listed]
    constructor
    · rintro ⟨_, file, found, same⟩
      rw [located] at found
      cases found
      exact same
    · intro same
      exact ⟨numbered, path, located, same⟩

/-- Two declarations share a unit when their paths agree, and only then. -/
theorem exists_shared_unit_iff {left right : DeclarationId × Declaration}
    (leftNumbered : left ∈ program.numberedDeclarations)
    (rightNumbered : right ∈ program.numberedDeclarations) :
    (∃ unit ∈ program.fileUnits withTypes, left ∈ unit.declarations ∧ right ∈ unit.declarations) ↔
      left.2.file.Same right.2.file := by
  constructor
  · rintro ⟨unit, listed, leftMember, rightMember⟩
    have leftSame := ((program.mem_declarations_iff withTypes listed).mp leftMember).2
    have rightSame := ((program.mem_declarations_iff withTypes listed).mp rightMember).2
    exact Eq.trans leftSame.symm rightSame
  · intro same
    obtain ⟨index, ⟨unit, found, leftMember⟩, _⟩ :=
      program.exactlyOne_unit_of_declaration withTypes leftNumbered
    have listed := List.mem_of_getElem? found
    have leftSame := ((program.mem_declarations_iff withTypes listed).mp leftMember).2
    exact ⟨unit, listed, leftMember,
      (program.mem_declarations_iff withTypes listed).mpr ⟨rightNumbered, Eq.trans leftSame same⟩⟩

private theorem pairwise_owns {α : Type} (file : α → SourcePath) :
    (program.unitPaths withTypes).Pairwise fun left right =>
      ∀ entry, decide (left.Same (file entry)) → ¬ decide (right.Same (file entry)) := by
  refine (program.pairwise_unitPaths withTypes).imp ?_
  intro left right apart entry leftSame rightSame
  exact apart (Eq.trans (of_decide_eq_true leftSame) (of_decide_eq_true rightSame).symm)

private theorem any_unitPaths_same {path : SourcePath}
    (used : path ∈ program.numberedDeclarations.map (fun entry => entry.2.file) ++
      (program.placedTypesIf withTypes).map Prod.fst) :
    ((program.unitPaths withTypes).any fun file => file.Same path) = true := by
  obtain ⟨index, ⟨file, found, same⟩, _⟩ := program.exactlyOne_unitPaths withTypes used
  exact List.any_eq_true.mpr ⟨file, List.mem_of_getElem? found, decide_eq_true same⟩

/-- The units hold the declarations of the program, each as often as the program. -/
theorem flatMap_declarations_perm :
    ((program.fileUnits withTypes).flatMap FileUnit.declarations).Perm
      program.numberedDeclarations := by
  rw [fileUnits_eq_map, List.flatMap_map]
  have shared := flatMap_filter_perm
    (fun (file : SourcePath) (entry : DeclarationId × Declaration) => file.Same entry.2.file)
    (program.unitPaths withTypes) program.numberedDeclarations
    (program.pairwise_owns withTypes fun entry : DeclarationId × Declaration => entry.2.file)
  refine shared.trans (.of_eq ?_)
  apply List.filter_eq_self.mpr
  intro entry numbered
  exact program.any_unitPaths_same withTypes
    (List.mem_append_left _ (List.mem_map.mpr ⟨entry, numbered, rfl⟩))

theorem map_snd_placedTypes :
    program.placedTypes.map Prod.snd =
      program.numberedTypes.filter fun entry => (program.typeFile? entry.1 entry.2).isSome := by
  unfold placedTypes
  induction program.numberedTypes with
  | nil => rfl
  | cons entry rest inductionHypothesis =>
      cases located : program.typeFile? entry.1 entry.2 <;>
        simp [located, inductionHypothesis]

/-- The units hold the types that have a file, each as often as the program. -/
theorem flatMap_types_perm :
    ((program.fileUnits true).flatMap FileUnit.types).Perm
      (program.numberedTypes.filter fun entry =>
        (program.typeFile? entry.1 entry.2).isSome) := by
  rw [fileUnits_eq_map, List.flatMap_map, ← List.map_flatMap, ← map_snd_placedTypes]
  have shared := flatMap_filter_perm
    (fun (file : SourcePath) (entry : SourcePath × TypeId × TypeSymbol) => file.Same entry.1)
    (program.unitPaths true) (program.placedTypesIf true)
    (program.pairwise_owns true Prod.fst)
  refine List.Perm.map _ (shared.trans (.of_eq ?_))
  apply List.filter_eq_self.mpr
  intro entry placed
  exact program.any_unitPaths_same true
    (List.mem_append_right _ (List.mem_map.mpr ⟨entry, placed, rfl⟩))

theorem types_eq_nil {unit : FileUnit} (listed : unit ∈ program.fileUnits false) :
    unit.types = [] := by
  rw [fileUnits_eq_map] at listed
  obtain ⟨file, _, rfl⟩ := List.mem_map.mp listed
  rfl

end Program

end StructureLint
