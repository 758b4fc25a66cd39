import Mathlib.Data.List.Forall2
import Mathlib.Data.Option.Basic
import StructureLint.Proofs.Config.Alias

/-!
Contract: where a configuration takes its answers from.

The sections for files are layers over the sections of the rules: of the layers
that apply to a file, the last one that has an answer gives it.  Reading codes as
names happens inside each layer, so that a layer that only knows the code of a rule
still hides the layers below it, and the name wins inside one layer only.

Owns:
- answers of a configuration against its layers;
- options of a section that is filled from another;
- what a configuration says once codes are read as names, and how often and in
  which order that may be done.

Does not own: how one code is read as a name.
-/

namespace StructureLint

/-! ## Filled sections -/

namespace RuleSection

theorem option?_fillFrom (entry other : RuleSection) (key : String) :
    (entry.fillFrom other).option? key = (entry.option? key <|> other.option? key) := by
  unfold option? fillFrom
  rw [List.lookup_append,
    lookup_filter_key other.options (fun label => (entry.options.lookup label).isNone) key]
  cases entry.options.lookup key with
  | none => simp
  | some value => simp

/-- What a filled section says, if filling goes by the first section that says it. -/
theorem bind_fill? {α : Type} {view : RuleSection → Option α}
    (filled : ∀ entry other, view (entry.fillFrom other) = (view entry <|> view other))
    (first second : Option RuleSection) :
    (fill? first second).bind view = (first.bind view <|> second.bind view) := by
  cases first with
  | none => cases second <;> simp [fill?]
  | some entry =>
      cases second with
      | none => simp [fill?]
      | some other => simp [fill?, filled]

end RuleSection

namespace RuleSections

/-- The raw value of an option under the name of an alias, or else under its code. -/
def optionUnder? (sections : RuleSections) (aliased : String × String) (key : String) :
    Option String :=
  sections.option? aliased.2 key <|> sections.option? aliased.1 key

variable {codes : List (String × String)}

theorem option?_rekeyAll (aliases : AliasesApart codes) {aliased : String × String}
    (listed : aliased ∈ codes) (sections : RuleSections) (key : String) :
    (sections.rekeyAll codes).option? aliased.2 key = sections.optionUnder? aliased key := by
  unfold option? optionUnder?
  rw [(realiased_rekeyAll aliases sections).name aliased listed]
  exact RuleSection.bind_fill? (fun entry other => entry.option?_fillFrom other key) _ _

/-! ## Keys -/

theorem lookup_eq_none_iff_not_mem (sections : RuleSections) (key : String) :
    sections.lookup key = none ↔ key ∉ sections.map Prod.fst := by
  rw [List.lookup_eq_none_iff]
  simp only [List.mem_map, not_exists, not_and, bne_iff_ne]
  constructor
  · intro absent entry listed same
    exact absent entry listed same.symm
  · intro absent entry listed same
    exact absent entry listed same.symm

theorem rekey_of_absent {sections : RuleSections} {code : String}
    (absent : sections.lookup code = none) (name : String) :
    sections.rekey code name = sections := by
  unfold rekey
  rw [absent]
  split <;> rfl

theorem rekeyAll_of_absent {sections : RuleSections}
    (absent : ∀ aliased ∈ codes, sections.lookup aliased.1 = none) :
    sections.rekeyAll codes = sections := by
  induction codes with
  | nil => rfl
  | cons first rest inductionHypothesis =>
      have restAbsent := inductionHypothesis fun aliased listed =>
        absent aliased (List.mem_cons_of_mem _ listed)
      unfold rekeyAll at restAbsent ⊢
      rw [List.foldl_cons, rekey_of_absent (absent first List.mem_cons_self), restAbsent]

/-- No code is left to be read as a name. -/
theorem rekeyAll_rekeyAll (aliases : AliasesApart codes) (sections : RuleSections) :
    (sections.rekeyAll codes).rekeyAll codes = sections.rekeyAll codes :=
  rekeyAll_of_absent (realiased_rekeyAll aliases sections).code

end RuleSections

/-! ## Layers -/

namespace Config

/-- The value is what `ask` yields in the last of the sections for the file in which
it yields one, or else in the sections of the rules. -/
inductive Sets (config : Config) (file : SourcePath) (ask : RuleSections → Option String) :
    String → Prop where
  | override (before : List FileOverride) (entry : FileOverride) (after : List FileOverride)
      {value : String} (place : config.overrides = before ++ entry :: after)
      (applies : entry.applies file = true) (set : ask entry.rules = some value)
      (unset : ∀ later ∈ after, later.applies file = true → ask later.rules = none) :
    Sets config file ask value
  | rules {value : String}
      (unset : ∀ entry ∈ config.overrides, entry.applies file = true → ask entry.rules = none)
      (set : ask config.rules = some value) :
    Sets config file ask value

/-- The sections for the file are asked from the last to the first. -/
def layered (config : Config) (file : SourcePath) (ask : RuleSections → Option String) :
    Option String :=
  ((config.overrides.reverse.filter fun entry => entry.applies file).findSome?
    fun entry => ask entry.rules) <|> ask config.rules

theorem answer_eq_layered (config : Config) (request : SettingRequest) :
    config.answer request =
      config.layered request.file fun sections => sections.option? request.rule request.key :=
  rfl

section Layers

variable {config : Config} {file : SourcePath} {ask : RuleSections → Option String}
  {value : String}

theorem findSome?_applying (layers : List FileOverride) :
    (layers.filter fun entry => entry.applies file).findSome? (fun entry => ask entry.rules) =
      layers.findSome? fun entry => if entry.applies file then ask entry.rules else none := by
  induction layers with
  | nil => rfl
  | cons entry rest inductionHypothesis =>
      cases applies : entry.applies file with
      | true =>
          rw [List.filter_cons, if_pos applies, List.findSome?_cons, List.findSome?_cons,
            inductionHypothesis, if_pos applies]
      | false =>
          have passed : ¬ entry.applies file = true := Bool.eq_false_iff.mp applies
          rw [List.filter_cons, if_neg passed, List.findSome?_cons, inductionHypothesis,
            if_neg passed]

theorem layered_eq_some_iff : config.layered file ask = some value ↔ config.Sets file ask value := by
  unfold layered
  rw [findSome?_applying, Option.orElse_eq_some, List.findSome?_eq_some_iff,
    List.findSome?_eq_none_iff]
  constructor
  · rintro (⟨later, entry, earlier, place, set, unset⟩ | ⟨unset, set⟩)
    · -- What the search has passed over stands behind the layer that it stops at.
      have ordered : config.overrides = earlier.reverse ++ entry :: later.reverse := by
        simpa using congrArg List.reverse place
      obtain ⟨applies, answered⟩ := Option.ite_none_right_eq_some.mp set
      refine .override _ _ _ ordered applies answered ?_
      intro other listed otherApplies
      simpa [otherApplies] using unset other (List.mem_reverse.mp listed)
    · refine .rules ?_ set
      intro entry listed applies
      simpa [applies] using unset entry (List.mem_reverse.mpr listed)
  · intro sets
    cases sets with
    | override before entry after place applies set unset =>
        have answered : (if entry.applies file then ask entry.rules else none) = some value := by
          rw [if_pos applies, set]
        refine .inl ⟨after.reverse, entry, before.reverse, by simp [place], answered, ?_⟩
        intro later listed
        simpa using unset later (List.mem_reverse.mp listed)
    | rules unset set =>
        refine .inr ⟨?_, set⟩
        intro entry listed
        simpa using unset entry (List.mem_reverse.mp listed)

end Layers

/-- The configurations have the same section under the key, layer by layer. -/
structure SameUnder (key : String) (config other : Config) : Prop where
  rules : other.rules.lookup key = config.rules.lookup key
  overrides : List.Forall₂
    (fun entry second => second.files = entry.files ∧
      second.rules.lookup key = entry.rules.lookup key)
    config.overrides other.overrides

/-- The configuration with the sections of every layer changed. -/
def mapSections (config : Config) (change : RuleSections → RuleSections) : Config :=
  { config with
    rules := change config.rules
    overrides := config.overrides.map fun entry => { entry with rules := change entry.rules } }

section Changes

variable (config : Config) (first second : RuleSections → RuleSections)

theorem mapSections_id : config.mapSections id = config := by
  unfold mapSections
  simp

theorem mapSections_mapSections :
    (config.mapSections first).mapSections second = config.mapSections (second ∘ first) := by
  unfold mapSections
  simp

theorem layered_mapSections (file : SourcePath) (ask : RuleSections → Option String) :
    (config.mapSections first).layered file ask = config.layered file (ask ∘ first) := by
  simp only [layered, mapSections, ← List.map_reverse, List.filter_map, List.findSome?_map]
  rfl

theorem sameUnder_mapSections {key : String}
    (same : ∀ sections, (second sections).lookup key = (first sections).lookup key) :
    SameUnder key (config.mapSections first) (config.mapSections second) where
  rules := same config.rules
  overrides := by
    unfold mapSections
    rw [List.forall₂_map_left_iff, List.forall₂_map_right_iff, List.forall₂_same]
    intro entry _
    exact ⟨rfl, same entry.rules⟩

end Changes

/-! ## Codes read as names -/

/-- What the second configuration says of the first, with the codes read as names. -/
structure CodesRead (codes : List (String × String)) (config other : Config) : Prop where
  codeless : ∀ aliased ∈ codes, aliased.1 ∉ other.sectionNames
  untouched : ∀ key, (∀ aliased ∈ codes, key ≠ aliased.1 ∧ key ≠ aliased.2) →
    config.SameUnder key other
  answer : ∀ aliased ∈ codes, ∀ file key value,
    other.answer { file, rule := aliased.2, key } = some value ↔
      config.Sets file (fun sections => sections.optionUnder? aliased key) value
  enabled : ∀ aliased ∈ codes, (other.rules.lookup aliased.2).bind RuleSection.enabled =
    ((config.rules.lookup aliased.2).bind RuleSection.enabled <|>
      (config.rules.lookup aliased.1).bind RuleSection.enabled)
  severity : ∀ aliased ∈ codes, other.severity? aliased.2 =
    (config.severity? aliased.2 <|> config.severity? aliased.1)

section Aliases

variable {codes : List (String × String)} (aliases : AliasesApart codes) (config : Config)

theorem aliasCodes_eq_mapSections :
    config.aliasCodes codes = config.mapSections fun sections => sections.rekeyAll codes :=
  rfl

include aliases

theorem codesRead_aliasCodes : CodesRead codes config (config.aliasCodes codes) where
  codeless aliased listed := by
    have absent : ∀ sections : RuleSections,
        aliased.1 ∉ (sections.rekeyAll codes).map Prod.fst := by
      intro sections
      rw [← RuleSections.lookup_eq_none_iff_not_mem]
      exact (RuleSections.realiased_rekeyAll aliases sections).code aliased listed
    intro named
    rcases List.mem_append.mp named with inRules | inOverrides
    · exact absent config.rules inRules
    · obtain ⟨entry, entryListed, named⟩ := List.mem_flatMap.mp inOverrides
      obtain ⟨original, _, rfl⟩ := List.mem_map.mp entryListed
      exact absent original.rules named
  untouched key free := by
    have same := config.sameUnder_mapSections id (fun sections => sections.rekeyAll codes)
      fun sections => (RuleSections.realiased_rekeyAll aliases sections).other key free
    rwa [mapSections_id] at same
  answer aliased listed file key value := by
    rw [answer_eq_layered, aliasCodes_eq_mapSections, layered_mapSections, ← layered_eq_some_iff]
    simp only [Function.comp_def, RuleSections.option?_rekeyAll aliases listed]
  enabled aliased listed := by
    have filled := (RuleSections.realiased_rekeyAll aliases config.rules).name aliased listed
    unfold aliasCodes
    rw [filled]
    exact RuleSection.bind_fill? (fun _ _ => rfl) _ _
  severity aliased listed := by
    have filled := (RuleSections.realiased_rekeyAll aliases config.rules).name aliased listed
    unfold severity? aliasCodes
    rw [filled]
    exact RuleSection.bind_fill? (fun _ _ => rfl) _ _

/-- Let no two codes and no two names be the same, and no name be a code.  Once codes
are read as names, no section is left under a code and the sections of other rules
are as they were; a setting of a rule comes from the last layer for the file that has
it under the name or the code, the name first, and the state and the severity of the
rule from its name or else from its code.  The codes may be listed in any order, and
reading them twice is reading them once. -/
theorem codes_mean_names :
    CodesRead codes config (config.aliasCodes codes) ∧
    (∀ other, codes.Perm other →
      (∀ key, SameUnder key (config.aliasCodes codes) (config.aliasCodes other)) ∧
      (config.aliasCodes codes).Agrees (config.aliasCodes other)) ∧
    (config.aliasCodes codes).aliasCodes codes = config.aliasCodes codes := by
  refine ⟨codesRead_aliasCodes aliases config, ?reordered, ?twice⟩
  case reordered =>
    intro other reordered
    refine ⟨?_, agrees_aliasCodes aliases reordered config⟩
    intro key
    rw [aliasCodes_eq_mapSections, aliasCodes_eq_mapSections]
    refine config.sameUnder_mapSections _ _ ?_
    intro sections
    exact RuleSections.lookup_rekeyAll_perm aliases reordered sections key
  case twice =>
    simp only [aliasCodes_eq_mapSections, mapSections_mapSections, Function.comp_def,
      RuleSections.rekeyAll_rekeyAll aliases]

end Aliases

/-- A limit under the name in all files and under the code in one of them, and two
halves of a section. -/
def spelledBothWays : Config :=
  { rules := [
      ("SL001", { enabled := some false, severity := some .info }),
      ("statement-count",
        { enabled := some true, options := [("max_statement_count", .string "10")] })]
    overrides := [
      { files := ["Loader.cs"]
        rules := [("SL001", { options := [("max_statement_count", .string "3")] })] },
      { files := ["Loader.cs"]
        rules := [("statement-count", { severity := some .error })] }] }

theorem codes_mean_names_spelledBothWays :
    let read := spelledBothWays.aliasCodes [("SL001", "statement-count")]
    read.answer ⟨⟨"Loader.cs"⟩, "statement-count", "max_statement_count"⟩ = some "3" ∧
    read.severity? "statement-count" = some .info ∧
    (read.rules.lookup "statement-count").bind RuleSection.enabled = some true ∧
    "SL001" ∉ read.sectionNames ∧
    read.aliasCodes [("SL001", "statement-count")] = read := by
  have aliases : AliasesApart [("SL001", "statement-count")] := ⟨by decide, by decide, by decide⟩
  have listed : ("SL001", "statement-count") ∈ [("SL001", "statement-count")] := List.mem_cons_self
  obtain ⟨reads, _, twice⟩ := codes_mean_names aliases spelledBothWays
  refine ⟨?limit, ?severity, ?enabled, reads.codeless _ listed, twice⟩
  case limit =>
    refine (reads.answer _ listed _ _ _).mpr (.override [] _ _ rfl (by decide +kernel) rfl ?_)
    intro later last _
    rw [List.mem_singleton.mp last]
    rfl
  case severity => exact reads.severity _ listed
  case enabled => exact reads.enabled _ listed

end Config

end StructureLint
