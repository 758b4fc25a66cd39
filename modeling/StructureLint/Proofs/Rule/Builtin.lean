import StructureLint.Proofs.Pass
import StructureLint.Rule.Preset

/-!
Contract: the rules that presets are made of.

Every preset is made of the same four rules, with limits and severities of its
own.  A rule is known by its name and by the code that its findings carry.

Owns:
- the built-in rules about declarations, with any limits and any severity;
- which rules the presets hold, and the code on what they find.

Does not own: when these rules find something.
-/

namespace StructureLint

/-- The rule is one of the built-in rules about declarations. -/
inductive DeclarationRule.Builtin : DeclarationRule → Prop where
  | length (limit : Nat) (severity : Severity) : Builtin (Length.rule limit severity)
  | nesting (limit : Nat) (severity : Severity) : Builtin (Nesting.rule limit severity)
  | arity (methods constructors : Nat) (severity : Severity) :
    Builtin (Arity.rule methods constructors severity)

/-- A built-in rule has that name and that code. -/
def IsBuiltinLabel (name code : String) : Prop :=
  ∃ info ∈ Preset.everyRule.infos, info.name = name ∧ info.code = code

theorem DeclarationRule.Builtin.isLabel {rule : DeclarationRule} (builtin : rule.Builtin) :
    IsBuiltinLabel rule.name rule.code := by
  cases builtin with
  | length limit severity => exact ⟨_, .head _, rfl, rfl⟩
  | nesting limit severity => exact ⟨_, .tail _ (.head _), rfl, rfl⟩
  | arity methods constructors severity => exact ⟨_, .tail _ (.tail _ (.head _)), rfl, rfl⟩

theorem Overload.isLabel : IsBuiltinLabel Overload.ruleName Overload.code :=
  ⟨_, .tail _ (.tail _ (.tail _ (.head _))), rfl, rfl⟩

namespace Preset

theorem builtin_of_mem_rules {preset : Preset} {rule : DeclarationRule}
    (listed : rule ∈ preset.rules.rules) : rule.Builtin := by
  cases preset with
  | recommended =>
      simp only [Preset.rules, List.mem_cons, List.not_mem_nil, or_false] at listed
      rcases listed with rfl | rfl | rfl
      · exact .length _ _
      · exact .nesting _ _
      · exact .arity _ _ _
  | strict =>
      simp only [Preset.rules, List.mem_cons, List.not_mem_nil, or_false] at listed
      rcases listed with rfl | rfl | rfl
      · exact .length _ _
      · exact .nesting _ _
      · exact .arity _ _ _
  | minimal =>
      simp only [Preset.rules, List.mem_cons, List.not_mem_nil, or_false] at listed
      rw [listed]
      exact .length _ _

theorem exists_eq_of_mem_typeRules {preset : Preset} {rule : TypeRule}
    (listed : rule ∈ preset.rules.typeRules) : ∃ severity, rule = Overload.rule severity := by
  cases preset with
  | recommended => exact ⟨_, List.mem_singleton.mp listed⟩
  | strict => exact ⟨_, List.mem_singleton.mp listed⟩
  | minimal => exact absurd listed List.not_mem_nil

end Preset

/-- All rules of the set are built in. -/
structure RuleSet.Builtin (set : RuleSet) : Prop where
  rules : ∀ rule ∈ set.rules, rule.Builtin
  typeRules : ∀ rule ∈ set.typeRules, ∃ severity, rule = Overload.rule severity

theorem RuleSet.Builtin.filter {set : RuleSet} (builtin : set.Builtin)
    (accept : RuleInfo → Bool) : (set.filter accept).Builtin where
  rules rule listed := builtin.rules rule (List.mem_filter.mp listed).1
  typeRules rule listed := builtin.typeRules rule (List.mem_filter.mp listed).1

theorem Preset.builtin (preset : Preset) : preset.rules.Builtin where
  rules _ := builtin_of_mem_rules
  typeRules _ := exists_eq_of_mem_typeRules

/-! ## Codes -/

/-- Every finding carries the code. -/
def AllCoded (code : String) (found : List Finding) : Prop :=
  ∀ finding ∈ found, finding.code = code

theorem Nesting.allCoded_foldl (declaration : Declaration) (severity : Severity) (limit : Nat)
    (placed : List Placed) {log : FindingLog} (coded : AllCoded code log.findings) :
    AllCoded code (placed.foldl (logPlaced declaration severity limit) log).findings := by
  induction placed generalizing log with
  | nil => exact coded
  | cons first rest inductionHypothesis =>
      refine inductionHypothesis ?_
      unfold logPlaced
      split
      · exact coded
      · split
        · exact coded
        · unfold FindingLog.add
          split
          · exact coded
          · intro finding listed
            rcases List.mem_append.mp listed with older | new
            · exact coded finding older
            · rw [List.mem_singleton.mp new]
              rfl

theorem allCoded_nil (code : String) : AllCoded code [] := by
  intro finding listed
  cases listed

theorem allCoded_singleton {finding : Finding} : AllCoded finding.code [finding] := by
  intro other listed
  rw [List.mem_singleton.mp listed]

/-- What a built-in rule finds carries its code. -/
theorem DeclarationRule.Builtin.yields_allCoded {rule : DeclarationRule}
    (builtin : rule.Builtin) (scope : DeclarationScope) :
    (rule.check scope).Yields (AllCoded rule.code) := by
  cases builtin with
  | length limit severity =>
      show (Length.check limit severity scope).Yields _
      unfold Length.check
      cases scope.declaration.body with
      | none => exact allCoded_nil _
      | some body =>
          refine Pass.yields_bind _ fun limit => Pass.yields_bind _ fun options =>
            Pass.yields_bind _ fun total => ?_
          split
          · exact allCoded_nil _
          · exact allCoded_singleton
  | nesting limit severity =>
      show (Nesting.check limit severity scope).Yields _
      unfold Nesting.check
      split
      · refine Pass.yields_bind _ fun limit => Pass.yields_bind _ fun _ => ?_
        exact Nesting.allCoded_foldl _ _ _ _ (allCoded_nil _)
      · exact allCoded_nil _
  | arity methods constructors severity =>
      show (Arity.check methods constructors severity scope).Yields _
      unfold Arity.check
      dsimp only
      split
      · exact allCoded_nil _
      · cases scope.program.symbolOf? scope.declaration with
        | none => exact allCoded_nil _
        | some symbol =>
            refine Pass.yields_bind _ fun limit => ?_
            split
            · exact allCoded_nil _
            · exact allCoded_singleton

end StructureLint
