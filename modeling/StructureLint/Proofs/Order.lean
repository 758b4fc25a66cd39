import StructureLint.Report

/-!
Contract: the orders that files and findings are sorted by.

Paths and findings are compared one part after the other, so that their orders
are total and transitive because the orders of the parts are.  Sorting by such
an order yields a sorted list with the same entries.

Owns:
- totality and transitivity of the orders of paths and of findings;
- sortedness of what is sorted by a total order;
- sorting of a list from which entries were taken out;
- what decides the order of entries that compare as equal.

Does not own: what is sorted.
-/

namespace StructureLint

open Std

instance : TransCmp PathComponent.compare :=
  inferInstanceAs (TransCmp (compareLex (compareOn PathComponent.rank)
    (compareOn PathComponent.label)))

/-- An order on values orders whatever has such a value. -/
theorem transCmp_comap {α β : Type} (order : β → β → Ordering) [TransCmp order] (key : α → β) :
    TransCmp fun left right => order (key left) (key right) where
  eq_swap := by
    intro left right
    exact OrientedCmp.eq_swap
  isLE_trans := by
    intro first second third
    exact TransCmp.isLE_trans

instance : TransCmp SourcePath.compare :=
  transCmp_comap (List.compareLex PathComponent.compare) SourcePath.components

instance : LawfulEqCmp PathComponent.compare where
  compare_self := ReflCmp.compare_self
  eq_of_compare := by
    intro left right equal
    obtain ⟨ranks, labels⟩ := Ordering.then_eq_eq.mp equal
    have sameRank : left.rank = right.rank := Std.compare_eq_iff_eq.mp ranks
    have sameLabel : left.label = right.label := Std.compare_eq_iff_eq.mp labels
    cases left <;> cases right <;> simp_all [PathComponent.rank, PathComponent.label]

/-- Paths that compare as equal are spellings of one path. -/
theorem SourcePath.same_of_compare {left right : SourcePath} (equal : left.compare right = .eq) :
    left.Same right :=
  LawfulEqCmp.eq_of_compare equal

theorem SourcePath.compare_eq_iff_same {left right : SourcePath} :
    left.compare right = .eq ↔ left.Same right := by
  constructor
  · exact same_of_compare
  · intro same
    unfold SourcePath.compare
    rw [same]
    exact ReflCmp.compare_self

/-- Findings compare by the parts of their place, then by code and message. -/
theorem Finding.compare_eq_compareLex :
    Finding.compare =
      compareLex (fun left right => left.location.file.compare right.location.file)
        (compareLex (compareOn fun finding => finding.location.line)
          (compareLex (compareOn fun finding => finding.location.column)
            (compareLex (compareOn Finding.code) (compareOn Finding.message)))) :=
  rfl

instance : TransCmp Finding.compare := by
  rw [Finding.compare_eq_compareLex]
  have byFile := transCmp_comap SourcePath.compare fun finding : Finding => finding.location.file
  infer_instance

theorem total_isLE {α : Type} (order : α → α → Ordering) [TransCmp order] (left right : α) :
    ((order left right).isLE || (order right left).isLE) = true := by
  have swapped : order right left = (order left right).swap := OrientedCmp.eq_swap
  rw [swapped]
  cases order left right <;> rfl

/-- A list sorted by a total and transitive order is in order. -/
theorem pairwise_mergeSort_isLE {α : Type} (order : α → α → Ordering) [TransCmp order]
    (entries : List α) :
    (entries.mergeSort fun left right => (order left right).isLE).Pairwise
      fun left right => (order left right).isLE := by
  apply List.pairwise_mergeSort
  · intro first second third
    exact TransCmp.isLE_trans
  · exact total_isLE order

/-- A new entry parts a sorted list into the entries before it and all others. -/
theorem mergeSort_cons_eq_filter {α : Type} (order : α → α → Ordering) [TransCmp order]
    (entry : α) (entries : List α) :
    let sorted := entries.mergeSort fun left right => (order left right).isLE
    (entry :: entries).mergeSort (fun left right => (order left right).isLE) =
      sorted.filter (fun other => !(order entry other).isLE) ++
        entry :: sorted.filter fun other => (order entry other).isLE := by
  intro sorted
  obtain ⟨before, behind, whole, rest, later⟩ := @List.mergeSort_cons α
    (fun left right => (order left right).isLE) (fun _ _ _ => TransCmp.isLE_trans)
    (total_isLE order) entry entries
  have inOrder := pairwise_mergeSort_isLE order (entry :: entries)
  rw [whole] at inOrder
  have sooner : ∀ other ∈ behind, (order entry other).isLE = true := by
    intro other listed
    exact (List.pairwise_cons.mp (List.pairwise_append.mp inOrder).2.1).1 other listed
  have split : sorted = before ++ behind := rest
  have beforeKept : before.filter (fun other => !(order entry other).isLE) = before :=
    List.filter_eq_self.mpr later
  have behindKept : behind.filter (fun other => (order entry other).isLE) = behind :=
    List.filter_eq_self.mpr sooner
  have beforeGone : before.filter (fun other => (order entry other).isLE) = [] := by
    rw [List.filter_eq_nil_iff]
    intro other listed
    simpa using later other listed
  have behindGone : behind.filter (fun other => !(order entry other).isLE) = [] := by
    rw [List.filter_eq_nil_iff]
    intro other listed
    simp [sooner other listed]
  rw [whole, split, List.filter_append, List.filter_append, beforeKept, behindGone, beforeGone,
    behindKept, List.append_nil, List.nil_append]

/-- Taking entries out of a list takes them out of the sorted list, and moves no other. -/
theorem sublist_mergeSort_mergeSort {α : Type} (order : α → α → Ordering) [TransCmp order]
    {entries more : List α} (inside : entries.Sublist more) :
    (entries.mergeSort fun left right => (order left right).isLE).Sublist
      (more.mergeSort fun left right => (order left right).isLE) := by
  induction inside with
  | slnil => exact List.Sublist.refl _
  | cons entry _ inductionHypothesis =>
      obtain ⟨before, behind, whole, rest, _⟩ := @List.mergeSort_cons α
        (fun left right => (order left right).isLE) (fun _ _ _ => TransCmp.isLE_trans)
        (total_isLE order) entry _
      rw [whole]
      rw [rest] at inductionHypothesis
      exact inductionHypothesis.middle entry
  | cons_cons entry _ inductionHypothesis =>
      rw [mergeSort_cons_eq_filter, mergeSort_cons_eq_filter]
      exact (inductionHypothesis.filter _).append ((inductionHypothesis.filter _).cons_cons entry)

/-! ## Ties -/

section Ties

variable {α : Type} (order : α → α → Ordering) [TransCmp order]

/-- The entries that compare as equal to an entry, in the order of the list. -/
def tiesWith (entry : α) (entries : List α) : List α :=
  entries.filter fun other => order entry other == .eq

omit [TransCmp order] in
theorem tiesWith_cons (entry head : α) (rest : List α) :
    tiesWith order entry (head :: rest) =
      if order entry head == .eq then head :: tiesWith order entry rest
      else tiesWith order entry rest :=
  List.filter_cons

/-- Sorting moves no entry past one that compares as equal. -/
theorem tiesWith_mergeSort (entry : α) (entries : List α) :
    tiesWith order entry (entries.mergeSort fun left right => (order left right).isLE) =
      tiesWith order entry entries := by
  have level : (tiesWith order entry entries).Pairwise
      fun left right => (order left right).isLE = true := by
    refine List.pairwise_of_forall_mem_list ?_
    intro left leftListed right rightListed
    have leftTies : order entry left = .eq := by simpa using (List.mem_filter.mp leftListed).2
    have rightTies : order entry right = .eq := by simpa using (List.mem_filter.mp rightListed).2
    have tied : order left right = .eq := TransCmp.eq_trans (OrientedCmp.eq_symm leftTies) rightTies
    rw [tied]
    rfl
  have inside := List.sublist_mergeSort (fun _ _ _ => TransCmp.isLE_trans) (total_isLE order)
    level List.filter_sublist
  have narrowed := inside.filter fun other => order entry other == .eq
  have again : (tiesWith order entry entries).filter (fun other => order entry other == .eq) =
      tiesWith order entry entries := by
    rw [tiesWith, List.filter_filter]
    simp only [Bool.and_self]
  rw [again] at narrowed
  refine (narrowed.eq_of_length ?_).symm
  exact ((List.mergeSort_perm entries _).filter _).length_eq.symm

theorem beq_self_eq (entry : α) : (order entry entry == .eq) = true := by
  have same : order entry entry = .eq := ReflCmp.compare_self
  rw [same]
  rfl

theorem mem_of_tiesWith_eq {first second : List α}
    (alike : ∀ entry, tiesWith order entry first = tiesWith order entry second) {entry : α}
    (listed : entry ∈ first) : entry ∈ second := by
  have tied : entry ∈ tiesWith order entry first :=
    List.mem_filter.mpr ⟨listed, beq_self_eq order entry⟩
  rw [alike entry] at tied
  exact (List.mem_filter.mp tied).1

/-- A sorted list is known from its ties. -/
theorem eq_of_tiesWith_eq {first second : List α}
    (firstSorted : first.Pairwise fun left right => (order left right).isLE)
    (secondSorted : second.Pairwise fun left right => (order left right).isLE)
    (alike : ∀ entry, tiesWith order entry first = tiesWith order entry second) :
    first = second := by
  induction first generalizing second with
  | nil =>
      cases second with
      | nil => rfl
      | cons other others =>
          have missing := mem_of_tiesWith_eq order (fun entry => (alike entry).symm)
            (List.mem_cons_self : other ∈ other :: others)
          exact absurd missing List.not_mem_nil
  | cons head rest inductionHypothesis =>
      cases second with
      | nil => exact absurd (mem_of_tiesWith_eq order alike List.mem_cons_self) List.not_mem_nil
      | cons other others =>
          obtain ⟨fromHead, restSorted⟩ := List.pairwise_cons.mp firstSorted
          obtain ⟨fromOther, othersSorted⟩ := List.pairwise_cons.mp secondSorted
          -- Each of the two heads stands somewhere in the other list, hence they are tied.
          have forth : (order head other).isLE = true := by
            have found := mem_of_tiesWith_eq order (fun entry => (alike entry).symm)
              (List.mem_cons_self : other ∈ other :: others)
            rcases List.mem_cons.mp found with same | later
            · rw [same, ReflCmp.isLE_rfl]
            · exact fromHead other later
          have back : (order other head).isLE = true := by
            rcases List.mem_cons.mp (mem_of_tiesWith_eq order alike List.mem_cons_self)
              with same | later
            · rw [same, ReflCmp.isLE_rfl]
            · exact fromOther head later
          have tied : (order head other == .eq) = true := by
            have swapped : order other head = (order head other).swap := OrientedCmp.eq_swap
            rw [swapped] at back
            revert forth back
            cases order head other <;> decide
          have heads := alike head
          rw [tiesWith_cons, tiesWith_cons, if_pos (beq_self_eq order head), if_pos tied] at heads
          obtain ⟨rfl, _⟩ := List.cons.inj heads
          rw [inductionHypothesis restSorted othersSorted ?_]
          intro entry
          have both := alike entry
          rw [tiesWith_cons, tiesWith_cons] at both
          split at both
          · exact (List.cons.inj both).2
          · exact both

/-- Lists with the same ties are sorted alike. -/
theorem mergeSort_eq_of_tiesWith_eq {first second : List α}
    (alike : ∀ entry, tiesWith order entry first = tiesWith order entry second) :
    (first.mergeSort fun left right => (order left right).isLE) =
      second.mergeSort fun left right => (order left right).isLE := by
  refine eq_of_tiesWith_eq order (pairwise_mergeSort_isLE order first)
    (pairwise_mergeSort_isLE order second) ?_
  intro entry
  rw [tiesWith_mergeSort, tiesWith_mergeSort, alike entry]

/-- Lists of the same entries are sorted alike as far as a key tells that entries
share exactly if they compare as equal. -/
theorem map_mergeSort_eq_of_perm {β : Type} {key : α → β}
    (tied : ∀ {left right}, order left right = .eq ↔ key left = key right)
    {first second : List α} (reordered : first.Perm second) :
    (first.mergeSort fun left right => (order left right).isLE).map key =
      (second.mergeSort fun left right => (order left right).isLE).map key := by
  let sort (entries : List α) := entries.mergeSort fun left right => (order left right).isLE
  let InOrder (lower upper : β) : Prop :=
    ∃ left right, key left = lower ∧ key right = upper ∧ (order left right).isLE = true
  have sorted : ∀ entries, ((sort entries).map key).Pairwise InOrder := by
    intro entries
    apply List.Pairwise.map key _ (pairwise_mergeSort_isLE order entries)
    intro left right before
    exact ⟨left, right, rfl, rfl, before⟩
  have sameEntries : (sort first).Perm (sort second) :=
    (List.mergeSort_perm first _).trans (reordered.trans (List.mergeSort_perm second _).symm)
  -- Keys that are in order both ways belong to entries that compare as equal.
  apply List.Perm.eq_of_pairwise _ (sorted first) (sorted second) (sameEntries.map key)
  intro lower upper _ _ before behind
  obtain ⟨left, right, rfl, rfl, before⟩ := before
  obtain ⟨other, another, sameRight, sameLeft, behind⟩ := behind
  have fromRight : (order right other).isLE = true := by
    rw [tied.mpr sameRight.symm]
    rfl
  have toLeft : (order another left).isLE = true := by
    rw [tied.mpr sameLeft]
    rfl
  have back : (order right left).isLE = true :=
    TransCmp.isLE_trans (TransCmp.isLE_trans fromRight behind) toLeft
  exact tied.mp (OrientedCmp.isLE_antisymm before back)

end Ties

end StructureLint
