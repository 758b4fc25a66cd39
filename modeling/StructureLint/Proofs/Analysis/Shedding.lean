import StructureLint.Proofs.Analysis.Coverage
import StructureLint.Proofs.Shedding
import StructureLint.Proofs.Strictness

/-!
Contract: an analysis that lacks some findings of another one.

Two analyses go through corresponding units, and what is answered about a unit in
the second is what is answered in the first without some findings.  Units then
fail alike, and the reports differ in those findings and in nothing else.

Owns:
- answers that shed findings, and what they gather to;
- reports of two analyses whose answers do, unit by unit.

Does not own: why findings are lacking.
-/

namespace StructureLint

namespace RuleOutcome

theorem gather_sheds {α : Type} {elements : List α} {removed : α → List Finding}
    {first second : α → RuleOutcome}
    (each : ∀ element ∈ elements,
      EndAlike (Sheds (removed element)) (first element) (second element)) :
    EndAlike (Sheds (elements.flatMap removed)) (gather (elements.map first))
      (gather (elements.map second)) := by
  induction elements with
  | nil => exact .done (Sheds.none [])
  | cons element rest inductionHypothesis =>
      have behind := inductionHypothesis fun other listed =>
        each other (List.mem_cons_of_mem element listed)
      refine (each element List.mem_cons_self).bind ?_
      intro found others sheds
      refine behind.map ?_
      intro foundBehind othersBehind shedsBehind
      exact sheds.append shedsBehind

end RuleOutcome

namespace Analysis

open RuleOutcome

/-- Unit by unit, the second analysis is the first one without the `removed` findings. -/
structure UnitsShed (answer : SettingRequest → Option String) (first second : Analysis)
    (change : FileUnit → FileUnit) (removed : FileUnit → List Finding) : Prop where
  units : second.units = first.units.map change
  file : ∀ unit, (change unit).file = unit.file
  measured : ∀ unit, (second.measured (change unit)).length = (first.measured unit).length
  gathered : ∀ unit ∈ first.units, EndAlike (Sheds (removed unit))
    (gather (first.outcomes answer unit)) (gather (second.outcomes answer (change unit)))

namespace UnitsShed

variable {answer : SettingRequest → Option String} {first second : Analysis}
  {change : FileUnit → FileUnit} {removed : FileUnit → List Finding}
  (sheds : UnitsShed answer first second change removed) {unit : FileUnit}

include sheds

theorem isComplete_eq (listed : unit ∈ first.units) :
    second.isComplete answer (change unit) = first.isComplete answer unit := by
  have alike := sheds.gathered unit listed
  rw [isComplete_eq_isOk, isComplete_eq_isOk, run_filePass, run_filePass]
  generalize gather (first.outcomes answer unit) = before at alike ⊢
  generalize gather (second.outcomes answer (change unit)) = after at alike ⊢
  cases alike <;> rfl

theorem failure?_eq (listed : unit ∈ first.units) :
    second.failure? answer (change unit) = first.failure? answer unit := by
  have alike := sheds.gathered unit listed
  unfold failure?
  rw [sheds.file unit]
  generalize gather (first.outcomes answer unit) = before at alike ⊢
  generalize gather (second.outcomes answer (change unit)) = after at alike ⊢
  cases alike <;> rfl

theorem unitFindings (listed : unit ∈ first.units)
    (complete : first.isComplete answer unit = true) :
    Sheds (removed unit) (first.unitFindings answer unit)
      (second.unitFindings answer (change unit)) := by
  have alike := sheds.gathered unit listed
  have still : second.isComplete answer (change unit) = true := by
    rw [sheds.isComplete_eq listed, complete]
  rw [gather_eq_ok complete, gather_eq_ok still] at alike
  cases alike with
  | done sheds => exact sheds

theorem unsortedReport :
    Report.Sheds ((first.units.filter (first.isComplete answer)).flatMap removed)
      (first.unsortedReport answer) (second.unsortedReport answer) := by
  have complete : second.units.filter (second.isComplete answer) =
      (first.units.filter (first.isComplete answer)).map change := by
    rw [sheds.units, List.filter_map]
    congr 1
    exact List.filter_congr fun unit listed => sheds.isComplete_eq listed
  refine { findings := ?findings, failures := ?failures, filesChecked := ?files,
           declarationsChecked := ?declarations }
  case findings =>
    show Sheds _ _ (List.flatMap _ (List.filter _ second.units))
    rw [complete, List.flatMap_map]
    apply Sheds.flatMap
    intro unit kept
    obtain ⟨listed, sound⟩ := List.mem_filter.mp kept
    exact sheds.unitFindings listed sound
  case failures =>
    show List.filterMap _ second.units = _
    rw [sheds.units, List.filterMap_map]
    exact List.filterMap_congr fun unit listed => sheds.failure?_eq listed
  case files =>
    show (List.filter _ second.units).length = _
    rw [complete, List.length_map]
    rfl
  case declarations =>
    show (List.flatMap _ (List.filter _ second.units)).length = _
    rw [complete, List.flatMap_map]
    simp only [List.length_flatMap, sheds.measured]
    exact List.length_flatMap.symm

end UnitsShed

end Analysis

end StructureLint
