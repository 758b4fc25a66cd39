import Mathlib.Data.List.Chain
import Mathlib.Data.List.Destutter
import StructureLint.Command.Discovery
import StructureLint.Disk.Memory
import StructureLint.Proofs.Order

/-!
Contract: which models a check finds, and how often.

The file system is one at rest: it answers each question in one way.  Every path
of a check stands for models: a file for itself, a directory for the models that
a walk reaches below it, in order.  What is found path by path is put in a row,
and of neighbours that spell one path the first is kept.  So a model is listed
once for each time that it is met again with another one in between.

Owns:
- rows without neighbours that repeat each other;
- what a path stands for, and what is discovered for all paths;
- when nothing is listed twice.

Does not own: what the walk leaves out, and what becomes of a model.
-/

namespace StructureLint.Command

/-! ## Neighbours that repeat each other -/

section Repeats

variable {α : Type} [DecidableEq α] {first : α} {rest row : List α}

theorem mem_destutter'_ne {element : α} (member : element ∈ first :: rest) :
    element ∈ rest.destutter' (· ≠ ·) first := by
  induction rest generalizing first with
  | nil => exact member
  | cons next rest inductionHypothesis =>
      by_cases repeated : first = next
      · subst repeated
        rw [List.destutter'_cons_neg _ (not_not.mpr rfl)]
        exact inductionHypothesis (by simpa using member)
      · rw [List.destutter'_cons_pos _ repeated]
        rcases List.mem_cons.mp member with rfl | later
        · exact List.mem_cons_self
        · exact List.mem_cons_of_mem _ (inductionHypothesis later)

theorem mem_destutter_ne_iff {element : α} :
    element ∈ row.destutter (· ≠ ·) ↔ element ∈ row := by
  refine ⟨fun member => (List.destutter_sublist _ row).subset member, fun member => ?_⟩
  cases row with
  | nil => exact member
  | cons first rest => exact mem_destutter'_ne member

/-- Whatever is picked from a row so that no two neighbours are equal can be picked
from what is left of it. -/
theorem sublist_destutter'_of_isChain {picked : List α} (changes : picked.IsChain (· ≠ ·))
    (part : picked.Sublist (first :: rest)) :
    picked.Sublist (rest.destutter' (· ≠ ·) first) := by
  induction rest generalizing first picked with
  | nil => exact part
  | cons next rest inductionHypothesis =>
      rcases List.sublist_cons_iff.mp part with later | ⟨others, rfl, behind⟩
      · -- The first is not picked.
        by_cases repeated : first = next
        · subst repeated
          rw [List.destutter'_cons_neg _ (not_not.mpr rfl)]
          exact inductionHypothesis changes later
        · rw [List.destutter'_cons_pos _ repeated]
          exact (inductionHypothesis changes later).cons _
      · by_cases repeated : first = next
        · -- What is picked behind the first is not its neighbour, which is equal to it.
          subst repeated
          rw [List.destutter'_cons_neg _ (not_not.mpr rfl)]
          refine inductionHypothesis changes (List.cons_sublist_cons.mpr ?_)
          cases others with
          | nil => exact List.nil_sublist _
          | cons second others =>
              rcases List.sublist_cons_iff.mp behind with further | ⟨_, same, _⟩
              · exact further
              · exact absurd (List.cons.inj same).1.symm (List.isChain_cons_cons.mp changes).1
        · rw [List.destutter'_cons_pos _ repeated]
          exact List.cons_sublist_cons.mpr (inductionHypothesis changes.tail behind)

omit [DecidableEq α] in
theorem nodup_of_isChain_ne (changes : row.IsChain (· ≠ ·))
    (together : ∀ outer inner, [outer, inner, outer].Sublist row → outer = inner) :
    row.Nodup := by
  induction row with
  | nil => exact List.nodup_nil
  | cons first rest inductionHypothesis =>
      refine List.nodup_cons.mpr ⟨?_, ?_⟩
      · intro again
        cases rest with
        | nil => exact absurd again List.not_mem_nil
        | cons second others =>
            have different : first ≠ second := (List.isChain_cons_cons.mp changes).1
            have later : first ∈ others := (List.mem_cons.mp again).resolve_left different
            refine different (together first second ?_)
            exact List.cons_sublist_cons.mpr (List.cons_sublist_cons.mpr
              (List.singleton_sublist.mpr later))
      · refine inductionHypothesis changes.tail ?_
        intro outer inner part
        exact together outer inner (part.cons _)

/-- Without equal neighbours nothing is left twice exactly if equal entries stood
together. -/
theorem nodup_destutter_ne_iff :
    (row.destutter (· ≠ ·)).Nodup ↔
      ∀ outer inner, [outer, inner, outer].Sublist row → outer = inner := by
  constructor
  · intro distinct outer inner part
    by_contra different
    have changes : [outer, inner, outer].IsChain (· ≠ ·) := by
      simpa using ⟨different, Ne.symm different⟩
    have kept : [outer, inner, outer].Sublist (row.destutter (· ≠ ·)) := by
      cases row with
      | nil => exact part
      | cons first rest => exact sublist_destutter'_of_isChain changes part
    simpa using distinct.sublist kept
  · intro together
    refine nodup_of_isChain_ne (List.isChain_destutter _ row) ?_
    intro outer inner part
    exact together outer inner (part.trans (List.destutter_sublist _ row))

end Repeats

/-- The components of what is left when repeats are dropped. -/
theorem map_components_dropRepeats (paths : List SourcePath) :
    (dropRepeats paths).map SourcePath.components =
      (paths.map SourcePath.components).destutter (· ≠ ·) := by
  have behind (last : SourcePath) (rest : List SourcePath) :
      (last :: dropRepeatsOf last rest).map SourcePath.components =
        (rest.map SourcePath.components).destutter' (· ≠ ·) last.components := by
    induction rest generalizing last with
    | nil => rfl
    | cons path rest inductionHypothesis =>
        rw [dropRepeatsOf, List.map_cons (f := SourcePath.components) (l := rest)]
        by_cases same : last.Same path
        · rw [if_pos same, List.destutter'_cons_neg _ (not_not.mpr same)]
          exact inductionHypothesis last
        · rw [if_neg same, List.destutter'_cons_pos _ same, List.map_cons]
          exact congrArg _ (inductionHypothesis path)
  cases paths with
  | nil => rfl
  | cons path rest => exact behind path rest

/-! ## Paths in a row -/

/-- Between two spellings of one path there is no other path. -/
def Together (paths : List SourcePath) : Prop :=
  ∀ first middle last, [first, middle, last].Sublist paths → first.Same last → first.Same middle

theorem together_iff_components {paths : List SourcePath} :
    Together paths ↔ ∀ outer inner,
      [outer, inner, outer].Sublist (paths.map SourcePath.components) → outer = inner := by
  constructor
  · intro together outer inner part
    obtain ⟨picked, inside, spelled⟩ := List.sublist_map_iff.mp part
    obtain ⟨first, middle, last, rfl⟩ := List.length_eq_three.mp
      (by simpa using (congrArg List.length spelled).symm)
    simp only [List.map_cons, List.map_nil, List.cons.injEq, and_true] at spelled
    obtain ⟨rfl, rfl, again⟩ := spelled
    exact together first middle last inside again
  · intro together first middle last inside again
    have part := inside.map SourcePath.components
    rw [List.map_cons, List.map_cons, List.map_singleton, ← show _ = _ from again] at part
    exact together _ _ part

theorem pairwise_not_same_iff {paths : List SourcePath} :
    (paths.Pairwise fun left right => ¬ left.Same right) ↔
      (paths.map SourcePath.components).Nodup := by
  rw [List.Nodup, List.pairwise_map]
  rfl

/-- Nothing is left twice exactly if all spellings of a path stood together. -/
theorem pairwise_dropRepeats_iff {paths : List SourcePath} :
    ((dropRepeats paths).Pairwise fun left right => ¬ left.Same right) ↔ Together paths := by
  rw [pairwise_not_same_iff, map_components_dropRepeats, nodup_destutter_ne_iff,
    together_iff_components]

theorem isChain_dropRepeats (paths : List SourcePath) :
    (dropRepeats paths).IsChain fun left right => ¬ left.Same right := by
  have changes := List.isChain_destutter (· ≠ ·) (paths.map SourcePath.components)
  rw [← map_components_dropRepeats] at changes
  exact (List.isChain_map _).mp changes

theorem exists_same_mem_dropRepeats {paths : List SourcePath} {path : SourcePath}
    (listed : path ∈ paths) : ∃ kept ∈ dropRepeats paths, path.Same kept := by
  have left : path.components ∈ (dropRepeats paths).map SourcePath.components := by
    rw [map_components_dropRepeats, mem_destutter_ne_iff]
    exact List.mem_map_of_mem listed
  obtain ⟨kept, inside, spelled⟩ := List.mem_map.mp left
  exact ⟨kept, inside, spelled.symm⟩

theorem dropRepeats_sublist (paths : List SourcePath) : (dropRepeats paths).Sublist paths := by
  have behind (last : SourcePath) (rest : List SourcePath) :
      (dropRepeatsOf last rest).Sublist rest := by
    induction rest generalizing last with
    | nil => exact List.Sublist.refl _
    | cons path rest inductionHypothesis =>
        rw [dropRepeatsOf]
        split
        · exact (inductionHypothesis last).cons path
        · exact (inductionHypothesis path).cons_cons path
  cases paths with
  | nil => exact List.Sublist.refl _
  | cons path rest => exact (behind path rest).cons_cons path

/-- Rows that share no path can be put one behind the other. -/
theorem Together.append {front back : List SourcePath} (ahead : Together front)
    (behind : Together back) (disjoint : ∀ left ∈ front, ∀ right ∈ back, ¬ left.Same right) :
    Together (front ++ back) := by
  intro first middle last part again
  obtain ⟨inFront, inBack, whole, before, after⟩ := List.sublist_append_iff.mp part
  cases inFront with
  | nil => exact behind first middle last (by rwa [whole]) again
  | cons head others =>
      obtain ⟨rfl, rest⟩ := List.cons.inj whole
      rcases List.eq_nil_or_concat inBack with rfl | ⟨inner, final, rfl⟩
      · rw [List.append_nil] at whole
        exact ahead first middle last (by rwa [whole]) again
      · -- The first stands in front and the last behind.
        have ends : last = final := by
          have lasts := congrArg List.getLast? rest
          simpa using lasts
        subst ends
        exact absurd again (disjoint first (before.subset List.mem_cons_self) last
          (after.subset (by simp)))

/-- Spellings of one path stand together in order. -/
theorem together_of_ordered {paths : List SourcePath}
    (ordered : paths.Pairwise fun left right => (left.compare right).isLE) : Together paths := by
  intro first middle last part again
  have trio := ordered.sublist part
  simp only [List.pairwise_cons, List.mem_cons, List.not_mem_nil, or_false, forall_eq_or_imp,
    forall_eq] at trio
  obtain ⟨⟨forth, _⟩, back, _⟩ := trio
  have returning : (middle.compare first).isLE = true := by
    have swapped : middle.compare first = middle.compare last :=
      congrArg (List.compareLex PathComponent.compare middle.components) again
    rw [swapped]
    exact back
  exact SourcePath.same_of_compare (Std.OrientedCmp.isLE_antisymm forth returning)

/-! ## What paths stand for -/

section Paths

variable (disk : Disk Id)

/-- The rules for all repositories. -/
def globalRules (environment : Environment) : List IgnoreRule :=
  IgnoreRule.ofText (Id.run (globalIgnoreText disk environment))

variable (global : List IgnoreRule) (named : SourcePath)

/-- The files that a walk from a directory reaches, with their names. -/
def walked : List (String × SourcePath) :=
  if named.Same ⟨"-"⟩ then
    []
  else
    (Id.run (disk.list named)).files { start := named, global }
      ((Id.run (disk.above named)).map fun entry => .ofNotes (.above entry.path) entry.notes)
      "" named

/-- The path stands for a model: for itself, or for one that a walk reaches. -/
inductive StandsFor : (model : SourcePath) → Prop where
  | file (isFile : Id.run (disk.kind named) = .file) : StandsFor named
  | below {name : String} {model : SourcePath}
    (isDirectory : Id.run (disk.kind named) = .directory)
    (reached : (name, model) ∈ walked disk global named)
    (ending : modelSuffix.toList <:+ name.toList) : StandsFor model

/-- The models that a path stands for, in the order in which they are found. -/
def modelsAt : List SourcePath :=
  match Id.run (disk.kind named) with
  | .file => [named]
  | .directory => (Id.run (modelsBelow disk global named)).models
  | .missing => []

theorem isModelName_iff {name : String} :
    isModelName name = true ↔ modelSuffix.toList <:+ name.toList := by
  rw [isModelName, List.isPrefixOf_iff_prefix, List.reverse_prefix]

theorem models_modelsBelow :
    (Id.run (modelsBelow disk global named)).models =
      ((((walked disk global named).filter fun entry => isModelName entry.1).map Prod.snd).mergeSort
        fun left right => (left.compare right).isLE) := by
  unfold modelsBelow walked
  by_cases dash : named.Same ⟨"-"⟩
  · rw [if_pos dash, if_pos dash, List.filter_nil, List.map_nil, List.mergeSort_nil]
    rfl
  · rw [if_neg dash, if_neg dash]
    rfl

variable {disk global named}

theorem mem_modelsBelow_iff {model : SourcePath} :
    model ∈ (Id.run (modelsBelow disk global named)).models ↔
      ∃ name, (name, model) ∈ walked disk global named ∧ modelSuffix.toList <:+ name.toList := by
  rw [models_modelsBelow, List.mem_mergeSort, List.mem_map]
  constructor
  · rintro ⟨⟨name, _⟩, listed, rfl⟩
    obtain ⟨reached, modelled⟩ := List.mem_filter.mp listed
    exact ⟨name, reached, isModelName_iff.mp modelled⟩
  · rintro ⟨name, reached, ending⟩
    exact ⟨(name, model), List.mem_filter.mpr ⟨reached, isModelName_iff.mpr ending⟩, rfl⟩

theorem mem_modelsAt_iff {model : SourcePath} :
    model ∈ modelsAt disk global named ↔ StandsFor disk global named model := by
  unfold modelsAt
  constructor
  · intro listed
    split at listed
    case h_1 isFile =>
      rw [List.mem_singleton.mp listed]
      exact .file isFile
    case h_2 isDirectory =>
      obtain ⟨name, reached, ending⟩ := mem_modelsBelow_iff.mp listed
      exact .below isDirectory reached ending
    case h_3 => exact absurd listed List.not_mem_nil
  · rintro (isFile | ⟨isDirectory, reached, ending⟩)
    · rw [isFile]
      exact List.mem_singleton_self named
    · rw [isDirectory]
      exact mem_modelsBelow_iff.mpr ⟨_, reached, ending⟩

/-- A single path never names a model, another one, and the first one again. -/
theorem together_modelsAt : Together (modelsAt disk global named) := by
  apply together_of_ordered
  unfold modelsAt
  split
  · exact List.pairwise_singleton _ named
  · rw [models_modelsBelow]
    exact pairwise_mergeSort_isLE SourcePath.compare _
  · exact List.Pairwise.nil

/-- Paths of which no two stand for one model. -/
def Separate (disk : Disk Id) (global : List IgnoreRule) (paths : List SourcePath) : Prop :=
  paths.Pairwise fun one other => ∀ left right,
    StandsFor disk global one left → StandsFor disk global other right → ¬ left.Same right

theorem Separate.together {paths : List SourcePath} (separate : Separate disk global paths) :
    Together (paths.flatMap (modelsAt disk global)) := by
  induction paths with
  | nil =>
      intro first middle last part
      cases part
  | cons path rest inductionHypothesis =>
      obtain ⟨apart, others⟩ := List.pairwise_cons.mp separate
      rw [List.flatMap_cons]
      refine together_modelsAt.append (inductionHypothesis others) ?_
      intro left here right elsewhere
      obtain ⟨other, listed, there⟩ := List.mem_flatMap.mp elsewhere
      exact apart other listed left right (mem_modelsAt_iff.mp here) (mem_modelsAt_iff.mp there)

/-! ## What is discovered -/

/-- The first of the paths at which nothing stands. -/
def firstMissing? (disk : Disk Id) (paths : List SourcePath) : Option SourcePath :=
  paths.find? fun path => Id.run (disk.kind path) == .missing

theorem modelsOfEach_eq (disk : Disk Id) (global : List IgnoreRule) (paths : List SourcePath) :
    (Id.run (modelsOfEach disk global paths)).2 =
      match firstMissing? disk paths with
      | some path => .error (.noSuchPath path)
      | none => .ok (paths.flatMap (modelsAt disk global)) := by
  induction paths with
  | nil => rfl
  | cons path rest inductionHypothesis =>
      rw [firstMissing?] at inductionHypothesis
      rw [modelsOfEach, firstMissing?, List.find?_cons, List.flatMap_cons, modelsAt, Id.run_bind]
      cases stands : Id.run (disk.kind path) with
      | missing => rfl
      | file =>
          simp only [Id.run_bind, Id.run_pure, inductionHypothesis]
          cases rest.find? fun path => Id.run (disk.kind path) == .missing <;> rfl
      | directory =>
          simp only [Id.run_bind, Id.run_pure, inductionHypothesis]
          cases rest.find? fun path => Id.run (disk.kind path) == .missing <;> rfl

/-- What is found path by path, without neighbours that repeat each other. -/
theorem discover_eq (disk : Disk Id) (environment : Environment) (paths : List SourcePath) :
    (Id.run (discover disk environment paths)).2 =
      match firstMissing? disk paths with
      | some path => .error (.noSuchPath path)
      | none =>
        .ok (dropRepeats (paths.flatMap (modelsAt disk (globalRules disk environment)))) := by
  have found := modelsOfEach_eq disk (globalRules disk environment) paths
  have whole : (Id.run (discover disk environment paths)).2 =
      (Id.run (modelsOfEach disk (globalRules disk environment) paths)).2.map dropRepeats := rfl
  rw [whole, found]
  cases firstMissing? disk paths <;> rfl

end Paths

/-- Models that are discovered for paths. -/
structure Discovery (disk : Disk Id) (global : List IgnoreRule)
    (paths models : List SourcePath) : Prop where
  /-- Every model that a path stands for is listed, in some spelling. -/
  covers : ∀ path ∈ paths, ∀ model, StandsFor disk global path model →
    ∃ listed ∈ models, model.Same listed
  /-- Nothing else is listed. -/
  stands : ∀ model ∈ models, ∃ path ∈ paths, StandsFor disk global path model
  /-- Neighbours differ. -/
  changes : models.IsChain fun left right => ¬ left.Same right
  /-- No model is listed twice exactly if none is met again behind another one. -/
  once_iff : (models.Pairwise fun left right => ¬ left.Same right) ↔
    Together (paths.flatMap (modelsAt disk global))
  /-- No model is listed twice if no two paths stand for one. -/
  once : Separate disk global paths → models.Pairwise fun left right => ¬ left.Same right

theorem discovery_dropRepeats (disk : Disk Id) (global : List IgnoreRule)
    (paths : List SourcePath) :
    Discovery disk global paths (dropRepeats (paths.flatMap (modelsAt disk global))) where
  covers := by
    intro path listed model stands
    exact exists_same_mem_dropRepeats
      (List.mem_flatMap.mpr ⟨path, listed, mem_modelsAt_iff.mpr stands⟩)
  stands := by
    intro model listed
    obtain ⟨path, given, found⟩ := List.mem_flatMap.mp ((dropRepeats_sublist _).subset listed)
    exact ⟨path, given, mem_modelsAt_iff.mp found⟩
  changes := isChain_dropRepeats _
  once_iff := pairwise_dropRepeats_iff
  once separate := pairwise_dropRepeats_iff.mpr separate.together

end StructureLint.Command
