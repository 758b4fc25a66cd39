import StructureLint.Proofs.Order

/-!
Contract: a list and what is left of it without some of its entries.

A list sheds entries when the others are left in their order, and the entries
are as many as are missing.  Lists shed entries part by part, and a list that is
sorted afterwards sheds them as well.

Owns:
- lists that shed entries, and how such lists are put together;
- reports that shed findings and are otherwise the same.

Does not own: which findings a report sheds.
-/

namespace StructureLint

/-- Without the `removed` entries, the `whole` list is the `rest`. -/
structure Sheds {α : Type} (removed whole rest : List α) : Prop where
  inOrder : rest.Sublist whole
  exactly : whole.Perm (rest ++ removed)

namespace Sheds

variable {α β : Type} {removed whole rest removedBehind wholeBehind restBehind : List α}

theorem none (entries : List α) : Sheds [] entries entries where
  inOrder := List.Sublist.refl entries
  exactly := by rw [List.append_nil]

theorem all (entries : List α) : Sheds entries entries [] where
  inOrder := List.nil_sublist entries
  exactly := List.Perm.refl entries

theorem append (first : Sheds removed whole rest)
    (second : Sheds removedBehind wholeBehind restBehind) :
    Sheds (removed ++ removedBehind) (whole ++ wholeBehind) (rest ++ restBehind) where
  inOrder := first.inOrder.append second.inOrder
  exactly := by
    have shuffled := first.exactly.append second.exactly
    rw [List.append_assoc] at shuffled ⊢
    exact shuffled.trans ((List.perm_append_comm_assoc removed restBehind removedBehind).append_left
      rest)

theorem map (view : α → β) (sheds : Sheds removed whole rest) :
    Sheds (removed.map view) (whole.map view) (rest.map view) where
  inOrder := sheds.inOrder.map view
  exactly := by
    rw [← List.map_append]
    exact sheds.exactly.map view

theorem flatMap {entries : List α} {removed whole rest : α → List β}
    (each : ∀ entry ∈ entries, Sheds (removed entry) (whole entry) (rest entry)) :
    Sheds (entries.flatMap removed) (entries.flatMap whole) (entries.flatMap rest) := by
  induction entries with
  | nil => exact none []
  | cons entry others inductionHypothesis =>
      have first := each entry List.mem_cons_self
      have second := inductionHypothesis fun other listed =>
        each other (List.mem_cons_of_mem entry listed)
      exact first.append second

/-- What is left of entries some of which a second look drops. -/
theorem filterMap {entries : List α} {first second : α → Option β} (dropped : α → Bool)
    (decides : ∀ entry ∈ entries,
      second entry = if dropped entry then .none else first entry) :
    Sheds ((entries.filter dropped).filterMap first) (entries.filterMap first)
      (entries.filterMap second) := by
  induction entries with
  | nil => exact none []
  | cons entry others inductionHypothesis =>
      have behind := inductionHypothesis fun other listed =>
        decides other (List.mem_cons_of_mem entry listed)
      have own : Sheds (([entry].filter dropped).filterMap first) ([entry].filterMap first)
          ([entry].filterMap second) := by
        have decided := decides entry List.mem_cons_self
        cases drops : dropped entry with
        | true =>
            rw [drops, if_pos rfl] at decided
            rw [List.filter_cons_of_pos drops, List.filter_nil, List.filterMap_cons_none decided]
            exact all _
        | false =>
            rw [drops, if_neg Bool.false_ne_true] at decided
            rw [List.filter_cons_of_neg (by simp [drops]), List.filter_nil, List.filterMap_cons,
              List.filterMap_cons, decided]
            exact none _
      have joined := own.append behind
      rw [← List.filterMap_append, ← List.filterMap_append, ← List.filterMap_append,
        ← List.filter_append] at joined
      exact joined

theorem mergeSort (order : α → α → Ordering) [Std.TransCmp order]
    (sheds : Sheds removed whole rest) :
    Sheds removed (whole.mergeSort fun left right => (order left right).isLE)
      (rest.mergeSort fun left right => (order left right).isLE) where
  inOrder := sublist_mergeSort_mergeSort order sheds.inOrder
  exactly := by
    have sorted := (List.mergeSort_perm whole fun left right => (order left right).isLE).trans
      sheds.exactly
    exact sorted.trans ((List.mergeSort_perm rest _).symm.append_right removed)

end Sheds

/-! ## Reports -/

/-- Without the `removed` findings, the `whole` report is the `rest`. -/
structure Report.Sheds (removed : List Finding) (whole rest : Report) : Prop where
  findings : StructureLint.Sheds removed whole.findings rest.findings
  failures : rest.failures = whole.failures
  filesChecked : rest.filesChecked = whole.filesChecked
  declarationsChecked : rest.declarationsChecked = whole.declarationsChecked

theorem Report.Sheds.sort {removed : List Finding} {whole rest : Report}
    (sheds : Report.Sheds removed whole rest) : Report.Sheds removed whole.sort rest.sort where
  findings := sheds.findings.mergeSort Finding.compare
  failures := by
    show List.mergeSort rest.failures _ = List.mergeSort whole.failures _
    rw [sheds.failures]
  filesChecked := sheds.filesChecked
  declarationsChecked := sheds.declarationsChecked

end StructureLint
