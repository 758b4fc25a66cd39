import StructureLint.Proofs.Rule.Builtin

/-!
Contract: what a further suppression changes.

A suppression behind other attributes is read only where none of them decides.
One that is justified then silences the rules it names and no others.  It is no
override of a limit and no mark of a method that handles no request, for its
name is none of theirs.

Owns:
- suppressions at the end of a list of attributes;
- attributes that suppress one built-in rule with a justification;
- limits on a declaration with a further suppression.

Does not own: where suppressions are applied.
-/

namespace StructureLint

namespace Suppression

variable {marks : List Attribute} {mark : Attribute} {name code : String}

theorem ofAttributes_append_of_spared (spared : targets name code mark = false) :
    ofAttributes (marks ++ [mark]) name code = ofAttributes marks name code := by
  unfold ofAttributes
  rw [List.find?_append, List.find?_cons_of_neg (by simp [spared]), List.find?_nil, Option.or_none]

theorem ofAttributes_append_of_absent (absent : ofAttributes marks name code = .absent)
    (targeted : targets name code mark = true) :
    ofAttributes (marks ++ [mark]) name code = .present (reasonOf mark) := by
  have unmatched : marks.find? (targets name code) = none := by
    unfold ofAttributes at absent
    split at absent
    · assumption
    · cases absent
  unfold ofAttributes
  rw [List.find?_append, unmatched, Option.none_or, List.find?_cons_of_pos targeted]

variable {asks : Bool} {finding : Finding}

theorem apply_append_of_spared (spared : targets name finding.code mark = false) :
    apply (marks ++ [mark]) name asks finding = apply marks name asks finding := by
  rw [apply, ofAttributes_append_of_spared spared, apply]

theorem apply_append_of_absent (absent : ofAttributes marks name finding.code = .absent)
    (targeted : targets name finding.code mark = true)
    (justified : (reasonOf mark).isSome = true) :
    apply (marks ++ [mark]) name asks finding = none := by
  obtain ⟨reason, given⟩ := Option.isSome_iff_exists.mp justified
  rw [apply, ofAttributes_append_of_absent absent targeted, given]

/-! ## Other readers of attributes -/

theorem isNamed_eq_false {names : List String}
    (suppresses : attributeNames.contains (Name.ofAttribute mark.name) = true)
    (apart : ∀ name ∈ names, attributeNames.contains (Name.ofAttribute name) = false) :
    mark.isNamed names = false := by
  rw [Attribute.isNamed, List.any_eq_false]
  intro name listed same
  rw [← eq_of_beq same, apart name listed] at suppresses
  cases suppresses

theorem find?_append {names : List String} (unnamed : mark.isNamed names = false) :
    Attribute.find? names (marks ++ [mark]) = Attribute.find? names marks := by
  unfold Attribute.find?
  rw [List.find?_append, List.find?_cons_of_neg (by simp [unnamed]), List.find?_nil, Option.or_none]

theorem limit_append {limit : Limit} (unnamed : mark.isNamed limit.overrides = false)
    (file : SourcePath) (rule : String) :
    Setting.limit file rule limit (marks ++ [mark]) = Setting.limit file rule limit marks := by
  unfold Setting.limit Setting.overrideCount?
  rw [find?_append unnamed]

/-! ## One rule -/

/-- The attribute suppresses the rule, which is the only thing that its
positional texts name, and gives a justification: the argument that is read for
it, `Justification` or else `Reason`, is a text that is not blank. -/
structure Justified (mark : Attribute) (info : RuleInfo) : Prop where
  suppresses : attributeNames.contains (Name.ofAttribute mark.name) = true
  names : mark.positional.filterMap AttributeValue.str? = [info.name] ∨
    mark.positional.filterMap AttributeValue.str? = [info.code]
  reason : (reasonOf mark).isSome = true

/-- An attribute as it is written to suppress a rule: the rule's name or code, and
one named argument with a justification that is not blank. -/
theorem justified_withNamed {info : RuleInfo} {name target key text : String} (span : Span)
    (suppresses : attributeNames.contains (Name.ofAttribute name) = true)
    (named : target = info.name ∨ target = info.code) (asReason : key ∈ reasonNames)
    (given : Text.trim text ≠ "") :
    Justified ((Attribute.withArgument { name, span } (.str target)).withNamed key (.str text))
      info where
  suppresses := suppresses
  names := named.imp (congrArg fun text => [text]) (congrArg fun text => [text])
  reason := by
    simp only [reasonNames, List.mem_cons, List.not_mem_nil, or_false] at asReason
    rcases asReason with rfl | rfl <;>
      simp [reasonOf, reasonNames, Attribute.named?, Attribute.withNamed, Attribute.withArgument,
        AttributeValue.str?, given]

/-- The name and the code of a built-in rule name this rule and no other one. -/
theorem namesRule_builtin : ∀ info ∈ Preset.everyRule.infos, ∀ other ∈ Preset.everyRule.infos,
    namesRule other.name other.code info.name = (other.name == info.name) ∧
      namesRule other.name other.code info.code = (other.name == info.name) := by
  decide +kernel

theorem Justified.targets_eq {info : RuleInfo} (justified : Justified mark info)
    (builtin : info ∈ Preset.everyRule.infos) (label : IsBuiltinLabel name code) :
    targets name code mark = (name == info.name) := by
  obtain ⟨other, otherBuiltin, rfl, rfl⟩ := label
  obtain ⟨byName, byCode⟩ := namesRule_builtin info builtin other otherBuiltin
  rw [targets, justified.suppresses, Bool.true_and]
  rcases justified.names with named | coded
  · simp [named, byName]
  · simp [coded, byCode]

end Suppression

end StructureLint
