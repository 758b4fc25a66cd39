import StructureLint.Proofs.Pass.Questions
import StructureLint.Proofs.Rule.Builtin

/-!
Contract: a rule asks for the settings of one file.

A rule is told the file whose settings apply, and asks about no other file.  The
rules about single declarations ask for their own options there; the rule about
overloads asks for none.

Owns:
- confinement of rules and of sets of rules to the file they are told;
- confinement of the presets.

Does not own: what is done with the answers.
-/

namespace StructureLint

/-! ## Rules about declarations -/

theorem Length.asksOnly_check (builtin : Nat) (severity : Severity) (scope : DeclarationScope) :
    (Length.check builtin severity scope).AsksOnly
      (Setting.IsAbout scope.file Length.ruleName) := by
  unfold Length.check
  cases scope.declaration.body with
  | none => exact Pass.asksOnly_pure _
  | some body =>
      refine (Setting.asksOnly_limit _ _ _ _).bind ?_
      intro limit
      have options : (Length.resolveOptions scope.file).AsksOnly
          (Setting.IsAbout scope.file Length.ruleName) := by
        refine (Setting.asksOnly_flag _ _ _ _).bind ?_
        intro guards
        refine (Setting.asksOnly_flag _ _ _ _).bind ?_
        intro logging
        exact (Setting.asksOnly_text _ _ _ _).bind fun _ => Pass.asksOnly_pure _
      refine options.bind ?_
      intro options
      refine ((Pass.asksOnly_checkEach _).bind fun _ => Pass.asksOnly_pure _).bind ?_
      intro total
      split <;> exact Pass.asksOnly_pure _

theorem Nesting.asksOnly_check (builtin : Nat) (severity : Severity) (scope : DeclarationScope) :
    (Nesting.check builtin severity scope).AsksOnly
      (Setting.IsAbout scope.file Nesting.ruleName) := by
  unfold Nesting.check
  split
  · refine (Setting.asksOnly_limit _ _ _ _).bind ?_
    intro limit
    exact (Pass.asksOnly_checkEach _).bind fun _ => Pass.asksOnly_pure _
  · exact Pass.asksOnly_pure _

theorem Arity.asksOnly_check (methodLimit constructorLimit : Nat) (severity : Severity)
    (scope : DeclarationScope) :
    (Arity.check methodLimit constructorLimit severity scope).AsksOnly
      (Setting.IsAbout scope.file Arity.ruleName) := by
  unfold Arity.check
  dsimp only
  split
  · exact Pass.asksOnly_pure _
  · cases scope.program.symbolOf? scope.declaration with
    | none => exact Pass.asksOnly_pure _
    | some symbol =>
        refine (Setting.asksOnly_limit _ _ _ _).bind ?_
        intro limit
        split <;> exact Pass.asksOnly_pure _

/-! ## The rule about overloads -/

namespace Overload

variable {Allowed : SettingRequest → Prop}

theorem asksOnly_delegates (program : Program) (id : MemberId) (member : MemberSymbol)
    (group : List MemberId) : (delegates program id member group).AsksOnly Allowed := by
  unfold delegates
  cases member.declaration with
  | none => exact Pass.asksOnly_pure _
  | some declaration =>
      have targets : (invocationTargets program declaration).AsksOnly Allowed :=
        (Pass.asksOnly_checkEach _).bind fun _ => Pass.asksOnly_pure _
      exact targets.bind fun _ => Pass.asksOnly_pure _

theorem asksOnly_memberProposals (scope : TypeScope) (severity : Severity)
    (group : List MemberId) (canonical : MemberSymbol) (id : MemberId) :
    (memberProposals scope severity group canonical id).AsksOnly Allowed := by
  unfold memberProposals
  cases scope.program.member? id with
  | none => exact Pass.asksOnly_pure _
  | some member =>
      dsimp only
      split
      · refine (asksOnly_delegates _ _ _ _).bind ?_
        intro calls
        cases calls <;> exact Pass.asksOnly_pure _
      · exact Pass.asksOnly_pure _

theorem asksOnly_groupProposals (scope : TypeScope) (severity : Severity) (group : Group) :
    (groupProposals scope severity group).AsksOnly Allowed := by
  refine Pass.asksOnly_check.bind ?_
  intro _
  cases canonical? scope.program group.members with
  | none => exact Pass.asksOnly_pure _
  | some canonicalId =>
      dsimp only [canonicalProposals]
      cases scope.program.member? canonicalId with
      | none => exact Pass.asksOnly_pure _
      | some canonical =>
          refine (Pass.asksOnly_each ?_).bind fun _ => Pass.asksOnly_pure _
          intro id _
          exact asksOnly_memberProposals scope severity group.members canonical id

theorem asksOnly_check (severity : Severity) (scope : TypeScope) :
    (check severity scope).AsksOnly Allowed := by
  unfold check
  split
  · exact Pass.asksOnly_pure _
  · refine (Pass.asksOnly_each ?_).bind fun _ => Pass.asksOnly_pure _
    intro group _
    exact asksOnly_groupProposals scope severity group

end Overload

/-! ## Sets of rules -/

/-- The rules of the set ask about no file but the one they are told. -/
structure RuleSet.Confined (set : RuleSet) : Prop where
  rules : ∀ rule ∈ set.rules, ∀ scope : DeclarationScope,
    (rule.check scope).AsksOnly fun request => request.file = scope.file
  typeRules : ∀ rule ∈ set.typeRules, ∀ scope : TypeScope,
    (rule.check scope).AsksOnly fun request => request.file = scope.file

theorem RuleSet.Confined.filter {set : RuleSet} (confined : set.Confined)
    (accept : RuleInfo → Bool) : (set.filter accept).Confined where
  rules rule listed := confined.rules rule (List.mem_filter.mp listed).1
  typeRules rule listed := confined.typeRules rule (List.mem_filter.mp listed).1

theorem DeclarationRule.Builtin.asksOnly {rule : DeclarationRule} (builtin : rule.Builtin)
    (scope : DeclarationScope) :
    (rule.check scope).AsksOnly (Setting.IsAbout scope.file rule.name) := by
  cases builtin with
  | length limit severity => exact Length.asksOnly_check limit severity scope
  | nesting limit severity => exact Nesting.asksOnly_check limit severity scope
  | arity methods constructors severity =>
      exact Arity.asksOnly_check methods constructors severity scope

theorem RuleSet.Builtin.confined {set : RuleSet} (builtin : set.Builtin) : set.Confined where
  rules rule listed scope :=
    ((builtin.rules rule listed).asksOnly scope).mono fun _ about => about.1
  typeRules rule listed scope := by
    obtain ⟨severity, rfl⟩ := builtin.typeRules rule listed
    exact Overload.asksOnly_check severity scope

theorem Preset.confined (preset : Preset) : preset.rules.Confined :=
  preset.builtin.confined

end StructureLint
