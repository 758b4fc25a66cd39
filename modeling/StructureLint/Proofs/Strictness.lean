import Mathlib
import StructureLint.Pass
import StructureLint.Suppression

/-!
Contract: one set of findings compared with a stricter one.

A stricter run may say more, and may say it louder or in other words.  It must
not lose a finding: every one of the milder run has a counterpart of its own
about the same place, and both runs stop at the same malformed settings.

Owns:
- when a finding hardens to another one, and when a list of findings does;
- when two runs end alike;
- hardening behind suppressions;
- counterparts in lists that have been put in order.

Does not own: which rules are stricter than which.
-/

namespace StructureLint

/-! ## Findings -/

/-- The second finding is about what the first one is about, and at least as serious. -/
structure Finding.HardensTo (mild hard : Finding) : Prop where
  code : hard.code = mild.code
  rule : hard.rule = mild.rule
  location : hard.location = mild.location
  severity : mild.severity.rank ≤ hard.severity.rank

/-- Each finding of the first list has a counterpart of its own in the second,
in the same order; the second list may hold further findings. -/
abbrev Finding.AllHarden : List Finding → List Finding → Prop :=
  List.SublistForall₂ Finding.HardensTo

section SublistForall₂

variable {α β γ δ : Type} {related : α → β → Prop} {kept : γ → δ → Prop}

theorem sublistForall₂_append {first rest : List α} {second others : List β}
    (front : List.SublistForall₂ related first second)
    (back : List.SublistForall₂ related rest others) :
    List.SublistForall₂ related (first ++ rest) (second ++ others) := by
  obtain ⟨middle, paired, inside⟩ := List.sublistForall₂_iff.mp front
  obtain ⟨behind, pairedBehind, insideBehind⟩ := List.sublistForall₂_iff.mp back
  exact List.sublistForall₂_iff.mpr
    ⟨middle ++ behind, List.rel_append paired pairedBehind, inside.append insideBehind⟩

/-- Counterparts survive a filter that never keeps an element without its counterpart. -/
theorem sublistForall₂_filterMap {first : List α} {second : List β} {pick : α → Option γ}
    {choose : β → Option δ} (counterparts : List.SublistForall₂ related first second)
    (keeps : ∀ left right picked, related left right → pick left = some picked →
      ∃ chosen, choose right = some chosen ∧ kept picked chosen) :
    List.SublistForall₂ kept (first.filterMap pick) (second.filterMap choose) := by
  induction counterparts with
  | nil => exact .nil
  | @cons left right rest others holds _ inductionHypothesis =>
      cases picks : pick left with
      | none =>
          rw [List.filterMap_cons_none picks]
          cases chooses : choose right with
          | none => rwa [List.filterMap_cons_none chooses]
          | some chosen =>
              rw [List.filterMap_cons_some chooses]
              exact .cons_right inductionHypothesis
      | some picked =>
          obtain ⟨chosen, chooses, keptPair⟩ := keeps left right picked holds picks
          rw [List.filterMap_cons_some picks, List.filterMap_cons_some chooses]
          exact .cons keptPair inductionHypothesis
  | @cons_right right rest others _ inductionHypothesis =>
      cases chooses : choose right with
      | none => rwa [List.filterMap_cons_none chooses]
      | some chosen =>
          rw [List.filterMap_cons_some chooses]
          exact .cons_right inductionHypothesis

/-- Elements taken from a list, each at most as often as it stands there, can be
taken with their places. -/
theorem exists_places_of_subperm {matched second : List β} (inside : matched.Subperm second) :
    ∃ placed : List (β × Nat), placed.map Prod.fst = matched ∧
      (placed.map Prod.snd).Nodup ∧ ∀ entry ∈ placed, second[entry.2]? = some entry.1 := by
  obtain ⟨middle, reordered, sublist⟩ := inside
  rw [← List.zipIdx_map_fst 0 second, List.sublist_map_iff] at sublist
  obtain ⟨numbered, numberedInside, rfl⟩ := sublist
  have paired : List.Forall₂ (fun element entry => element = entry.1)
      (numbered.map Prod.fst) numbered :=
    List.forall₂_map_left_iff.mpr (List.forall₂_same.mpr fun _ _ => rfl)
  obtain ⟨placed, same, reorderedPlaces⟩ := List.perm_comp_forall₂ reordered.symm paired
  refine ⟨placed, ?_, ?_, ?_⟩
  · have named := List.forall₂_map_right_iff.mpr same
    rw [List.forall₂_eq_eq_eq] at named
    exact named.symm
  · rw [(reorderedPlaces.map Prod.snd).nodup_iff]
    refine (numberedInside.map Prod.snd).nodup ?_
    rw [List.zipIdx_map_snd]
    exact List.nodup_range'
  · intro entry member
    have numberedEntry := numberedInside.subset (reorderedPlaces.subset member)
    exact List.mem_zipIdx_iff_getElem?.mp numberedEntry

/-- Counterparts of their own make an injection of places. -/
theorem exists_embedding_of_subperm {first : List α} {matched second : List β}
    (paired : List.Forall₂ related first matched) (inside : matched.Subperm second) :
    ∃ place : Fin first.length ↪ Fin second.length,
      ∀ index, related (first.get index) (second.get (place index)) := by
  obtain ⟨placed, rfl, distinct, found⟩ := exists_places_of_subperm inside
  have lengths : first.length = placed.length := by
    rw [paired.length_eq, List.length_map]
  have counterpart : ∀ index : Fin first.length,
      ∃ bound : (placed.get (index.cast lengths)).2 < second.length,
        second.get ⟨_, bound⟩ = (placed.get (index.cast lengths)).1 := by
    intro index
    exact List.getElem?_eq_some_iff.mp (found _ (List.get_mem _ _))
  refine ⟨⟨fun index => ⟨_, (counterpart index).1⟩, ?_⟩, ?_⟩
  · intro left right same
    have samePlace : (placed.get (left.cast lengths)).2 = (placed.get (right.cast lengths)).2 :=
      congrArg Fin.val same
    have sameEntry := (List.inj_on_of_nodup_map distinct) (List.get_mem _ _) (List.get_mem _ _)
      samePlace
    have sameIndex := congrArg Fin.val
      (List.nodup_iff_injective_get.mp (distinct.of_map _) sameEntry)
    exact Fin.ext sameIndex
  · intro index
    show related (first.get index) (second.get ⟨_, (counterpart index).1⟩)
    rw [(counterpart index).2]
    exact (List.forall₂_map_right_iff.mp paired).get index.isLt (index.cast lengths).isLt

end SublistForall₂

/-! ## Suppressions -/

/-- A suppression that takes nothing away from the milder run takes nothing
away from one that asks for a justification whenever the milder one does. -/
theorem Suppression.apply_hardens {marks : List Attribute} {name : String}
    {mildAsks hardAsks : Bool} (asks : mildAsks = true → hardAsks = true)
    {mild hard kept : Finding} (harder : mild.HardensTo hard)
    (stays : Suppression.apply marks name mildAsks mild = some kept) :
    ∃ left, Suppression.apply marks name hardAsks hard = some left ∧ kept.HardensTo left := by
  unfold Suppression.apply at stays ⊢
  rw [harder.code]
  cases found : Suppression.ofAttributes marks name mild.code with
  | absent =>
      simp only [found, Option.some.injEq] at stays
      subst stays
      exact ⟨hard, rfl, harder⟩
  | present reason =>
      cases reason with
      | some text => simp [found] at stays
      | none =>
          simp only [found, Option.ite_none_right_eq_some, Option.some.injEq] at stays
          obtain ⟨asked, rfl⟩ := stays
          refine ⟨_, if_pos (asks asked), ?_⟩
          exact ⟨harder.code, harder.rule, harder.location, Nat.le_refl _⟩

/-! ## Runs -/

/-- Two runs end alike: at the same malformed setting, or with related values. -/
inductive EndAlike {α β : Type} (related : α → β → Prop) :
    Except SettingError α → Except SettingError β → Prop where
  | failed (error : SettingError) : EndAlike related (.error error) (.error error)
  | done {first : α} {second : β} (holds : related first second) :
      EndAlike related (.ok first) (.ok second)

namespace EndAlike

variable {α β γ δ : Type} {related : α → β → Prop} {resulting : γ → δ → Prop}

theorem refl (outcome : Except SettingError α) : EndAlike Eq outcome outcome := by
  cases outcome with
  | error error => exact .failed error
  | ok value => exact .done rfl

theorem bind {first : Except SettingError α} {second : Except SettingError β}
    {next : α → Except SettingError γ} {other : β → Except SettingError δ}
    (alike : EndAlike related first second)
    (step : ∀ left right, related left right → EndAlike resulting (next left) (other right)) :
    EndAlike resulting (first.bind next) (second.bind other) := by
  cases alike with
  | failed error => exact .failed error
  | done holds => exact step _ _ holds

theorem map {first : Except SettingError α} {second : Except SettingError β}
    {view : α → γ} {sight : β → δ} (alike : EndAlike related first second)
    (step : ∀ left right, related left right → resulting (view left) (sight right)) :
    EndAlike resulting (first.map view) (second.map sight) := by
  cases alike with
  | failed error => exact .failed error
  | done holds => exact .done (step _ _ holds)

end EndAlike

end StructureLint
