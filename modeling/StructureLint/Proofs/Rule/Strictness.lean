import StructureLint.Proofs.Rule.Overload.Reports
import StructureLint.Proofs.Strictness
import StructureLint.Rule.Preset

/-!
Contract: when a rule is at least as strict as another one.

The rules of a stricter set have lower built-in limits, report at a higher
level, and ask for a justification of suppressions.  Limits that come from a
file or from an attribute are the same for both, and so are malformed settings.

Owns:
- resolution of a limit with a lower built-in value;
- each rule compared with itself at stricter parameters;
- the strict preset compared with the recommended one.

Does not own: what becomes of findings in a report.
-/

namespace StructureLint

variable {mild hard : Severity} (answer : SettingRequest → Option String)

theorem Severity.isError_of_rank_le (harder : mild.rank ≤ hard.rank) :
    (mild == .error) = true → (hard == .error) = true := by
  cases mild <;> cases hard <;> simp_all [Severity.rank]

/-- A limit resolves alike, and no higher, with a lower built-in value. -/
theorem Setting.run_limit_alike (limit : Limit) {loose tight : Nat} (tighter : tight ≤ loose)
    (file : SourcePath) (rule : String) (marks : List Attribute) :
    EndAlike (fun first second => second.value ≤ first.value)
      ((Setting.limit file rule { limit with builtin := loose } marks).run answer)
      ((Setting.limit file rule { limit with builtin := tight } marks).run answer) := by
  unfold Setting.limit
  cases Setting.overrideCount? limit.overrides marks with
  | some value => exact .done (Nat.le_refl _)
  | none =>
      simp only [Setting.fileCount, Pass.run_bind, Pass.run_ask, Except.bind]
      cases answer { file, rule, key := limit.key } with
      | none => exact .done tighter
      | some raw =>
          cases found : Setting.count? raw with
          | none =>
              simp only [found]
              exact .failed _
          | some value =>
              simp only [found]
              exact .done (Nat.le_refl _)

/-- What exceeds a limit exceeds a lower one. -/
theorem report_alike {limit lower : Nat} (descends : lower ≤ limit) (counted : Nat)
    {finding other : Finding} (harder : finding.HardensTo other) :
    EndAlike Finding.AllHarden
      ((if counted ≤ limit then pure [] else pure [finding] : Pass (List Finding)).run answer)
      ((if counted ≤ lower then pure [] else pure [other] : Pass (List Finding)).run answer) := by
  by_cases within : counted ≤ limit
  · rw [if_pos within]
    split <;> exact .done .nil
  · have beyond : ¬ counted ≤ lower := by omega
    rw [if_neg within, if_neg beyond]
    exact .done (.cons harder .nil)

/-! ## Length of bodies -/

theorem Length.check_alike {loose tight : Nat} (tighter : tight ≤ loose)
    (harder : mild.rank ≤ hard.rank) (scope : DeclarationScope) :
    EndAlike Finding.AllHarden ((Length.check loose mild scope).run answer)
      ((Length.check tight hard scope).run answer) := by
  unfold Length.check
  cases scope.declaration.body with
  | none => exact .done .nil
  | some body =>
      simp only [Pass.run_bind]
      refine (Setting.run_limit_alike answer Length.maximum tighter _ _ _).bind ?_
      intro first second lower
      refine (EndAlike.refl _).bind ?_
      rintro options _ rfl
      refine (EndAlike.refl _).bind ?_
      rintro total _ rfl
      exact report_alike answer lower total ⟨rfl, rfl, rfl, harder⟩

/-! ## Number of parameters -/

theorem Arity.check_alike {looseMethod tightMethod looseConstructor tightConstructor : Nat}
    (tighterMethod : tightMethod ≤ looseMethod)
    (tighterConstructor : tightConstructor ≤ looseConstructor)
    (harder : mild.rank ≤ hard.rank) (scope : DeclarationScope) :
    EndAlike Finding.AllHarden
      ((Arity.check looseMethod looseConstructor mild scope).run answer)
      ((Arity.check tightMethod tightConstructor hard scope).run answer) := by
  unfold Arity.check
  by_cases unnamed : scope.declaration.name == ""
  · simp only [unnamed, if_true]
    exact .done .nil
  · simp only [unnamed, Bool.false_eq_true, if_false]
    cases scope.program.symbolOf? scope.declaration with
    | none => exact .done .nil
    | some symbol =>
        simp only [Pass.run_bind]
        refine (?resolved : EndAlike (fun first second : Resolved Nat =>
          second.value ≤ first.value) _ _).bind ?_
        case resolved =>
          cases Arity.isConstructor scope.declaration symbol with
          | true =>
              exact Setting.run_limit_alike answer Arity.constructorMaximum tighterConstructor _ _ _
          | false => exact Setting.run_limit_alike answer Arity.methodMaximum tighterMethod _ _ _
        intro first second lower
        exact report_alike answer lower _ ⟨rfl, rfl, rfl, harder⟩

/-! ## Nesting of control statements -/

/-- Two logs have seen the same, and log no milder findings. -/
structure FindingLog.HardensTo (mild hard : FindingLog) : Prop where
  seen : hard.seen = mild.seen
  findings : List.Forall₂ Finding.HardensTo mild.findings hard.findings

theorem FindingLog.HardensTo.add {first second : FindingLog} (logs : first.HardensTo second)
    {finding other : Finding} (harder : finding.HardensTo other) (anchor : Anchor)
    (kind : String) :
    (first.add anchor kind finding).HardensTo (second.add anchor kind other) := by
  have known : second.contains anchor kind = first.contains anchor kind := by
    rw [FindingLog.contains, FindingLog.contains, logs.seen]
  unfold FindingLog.add
  rw [known]
  split
  · exact logs
  · refine ⟨by rw [logs.seen], ?_⟩
    exact List.rel_append logs.findings (.cons harder .nil)

theorem Nesting.logPlaced_hardens (harder : mild.rank ≤ hard.rank) (declaration : Declaration)
    (limit : Nat) {first second : FindingLog} (logs : first.HardensTo second)
    (placed : Nesting.Placed) :
    (Nesting.logPlaced declaration mild limit first placed).HardensTo
      (Nesting.logPlaced declaration hard limit second placed) := by
  unfold Nesting.logPlaced
  cases Nesting.constructName? placed.stmt.kind with
  | none => exact logs
  | some construct =>
      by_cases shallow : placed.depth + 1 ≤ limit
      · simp only [shallow, if_true]
        exact logs
      · simp only [shallow, if_false]
        refine logs.add ?_ _ _
        exact ⟨rfl, rfl, rfl, harder⟩

theorem Nesting.foldl_logPlaced_hardens (harder : mild.rank ≤ hard.rank)
    (declaration : Declaration) (limit : Nat) (walked : List Nesting.Placed)
    {first second : FindingLog} (logs : first.HardensTo second) :
    (walked.foldl (Nesting.logPlaced declaration mild limit) first).HardensTo
      (walked.foldl (Nesting.logPlaced declaration hard limit) second) := by
  induction walked generalizing first second with
  | nil => exact logs
  | cons placed rest inductionHypothesis =>
      exact inductionHypothesis (Nesting.logPlaced_hardens harder declaration limit logs placed)

/-- With one and the same limit; a lower one could take the place of a finding
in the log. -/
theorem Nesting.check_alike (builtin : Nat) (harder : mild.rank ≤ hard.rank)
    (scope : DeclarationScope) :
    EndAlike Finding.AllHarden ((Nesting.check builtin mild scope).run answer)
      ((Nesting.check builtin hard scope).run answer) := by
  unfold Nesting.check
  cases scope.declaration.body with
  | none => exact .done .nil
  | some body =>
      cases body with
      | expression expr => exact .done .nil
      | block block =>
          simp only [Pass.run_bind, Pass.run_checkEach]
          refine (EndAlike.refl _).bind ?_
          rintro limit _ rfl
          have empty : FindingLog.HardensTo {} {} := ⟨rfl, .nil⟩
          have logs := Nesting.foldl_logPlaced_hardens harder scope.declaration limit.value
            (Nesting.placedBlock 0 block) empty
          exact .done (List.sublistForall₂_iff.mpr ⟨_, logs.findings, .refl _⟩)

/-! ## Overloads -/

namespace Overload

/-- The proposal at another level. -/
def Proposal.withSeverity (severity : Severity) (proposal : Proposal) : Proposal :=
  { proposal with finding := { proposal.finding with severity } }

variable (program : Program) (first second : Severity) (owner : TypeId) (id : MemberId)
  (canonical member : MemberSymbol)

theorem overloadProposal_eq_map (kind message suggestion : String) :
    overloadProposal program second canonical id member kind message suggestion =
      (overloadProposal program first canonical id member kind message suggestion).map
        (Proposal.withSeverity second) := by
  simp [overloadProposal, Proposal.withSeverity]

theorem orderProposal_eq_map :
    orderProposal program second canonical id member =
      (orderProposal program first canonical id member).map (Proposal.withSeverity second) := by
  unfold orderProposal
  cases orderMismatch? member.parameters canonical.parameters with
  | none => rfl
  | some name => exact overloadProposal_eq_map _ _ _ _ _ _ _ _ _

theorem memberReports_eq_map (group : List MemberId) :
    memberReports program second owner group canonical id =
      (memberReports program first owner group canonical id).map
        (Proposal.withSeverity second) := by
  unfold memberReports
  cases program.member? id with
  | none => rfl
  | some member =>
      by_cases asked : isAsked owner member
      · simp only [asked, if_true, List.map_append, ← orderProposal_eq_map]
        congr 1
        split
        · rfl
        · exact overloadProposal_eq_map _ _ _ _ _ _ _ _ _
      · simp [asked]

theorem canonicalReports_eq_map :
    canonicalReports program second owner canonical id =
      (canonicalReports program first owner canonical id).map
        (Proposal.withSeverity second) := by
  unfold canonicalReports
  split
  · simp [virtualProposal, Proposal.withSeverity]
  · rfl

/-- The level of a rule shows in its findings and nowhere else. -/
theorem groupReports_eq_map (group : Group) :
    groupReports program second owner group =
      (groupReports program first owner group).map (Proposal.withSeverity second) := by
  unfold groupReports
  cases canonical? program group.members with
  | none => rfl
  | some canonicalId =>
      cases found : program.member? canonicalId with
      | none => simp [found]
      | some canonical =>
          simp only [Option.bind_some, found, Option.map_some, Option.getD_some, List.map_append,
            List.map_flatMap, ← canonicalReports_eq_map, ← memberReports_eq_map]

variable {program}

/-- What is left of a proposal behind the suppressions is left of it at a higher level. -/
theorem finding?_hardens (harder : mild.rank ≤ hard.rank) {proposal : Proposal} {kept : Finding}
    (stays : (proposal.withSeverity mild).finding? program mild = some kept) :
    ∃ left, (proposal.withSeverity hard).finding? program hard = some left ∧
      kept.HardensTo left := by
  have raised : (proposal.withSeverity mild).finding.HardensTo
      (proposal.withSeverity hard).finding := ⟨rfl, rfl, rfl, harder⟩
  exact Suppression.apply_hardens (Severity.isError_of_rank_le harder) raised stays

theorem check_alike (harder : mild.rank ≤ hard.rank) (scope : TypeScope) :
    EndAlike Finding.AllHarden ((check mild scope).run answer)
      ((check hard scope).run answer) := by
  cases exempt : isExempt scope.symbol with
  | true =>
      simp only [check, exempt, if_true]
      exact .done .nil
  | false =>
      -- Both lists of proposals are one list, put at either level.
      let proposals := (groups scope.program scope.id).flatMap
        (groupReports scope.program mild scope.id)
      have raised : ∀ severity, (groups scope.program scope.id).flatMap
          (groupReports scope.program severity scope.id) =
            proposals.map (Proposal.withSeverity severity) := by
        intro severity
        rw [List.map_flatMap]
        exact List.flatMap_congr fun group _ => groupReports_eq_map _ _ _ _ group
      rw [run_check_of_asked answer exempt, run_check_of_asked answer exempt, raised mild,
        raised hard, List.filterMap_map, List.filterMap_map]
      have same : List.SublistForall₂ Eq proposals proposals :=
        (List.Sublist.refl proposals).sublistForall₂
      refine .done (sublistForall₂_filterMap same ?_)
      rintro proposal _ kept rfl stays
      exact finding?_hardens harder stays

end Overload

/-! ## Rules and sets of rules -/

/-- The second rule goes by the names of the first one and is at least as strict. -/
structure DeclarationRule.HardensTo (mild hard : DeclarationRule) : Prop where
  code : hard.code = mild.code
  name : hard.name = mild.name
  requiresReason : mild.requiresReason = true → hard.requiresReason = true
  check (answer : SettingRequest → Option String) (scope : DeclarationScope) :
    EndAlike Finding.AllHarden ((mild.check scope).run answer) ((hard.check scope).run answer)

/-- The second rule goes by the names of the first one and is at least as strict. -/
structure TypeRule.HardensTo (mild hard : TypeRule) : Prop where
  code : hard.code = mild.code
  name : hard.name = mild.name
  check (answer : SettingRequest → Option String) (scope : TypeScope) :
    EndAlike Finding.AllHarden ((mild.check scope).run answer) ((hard.check scope).run answer)

/-- Two sets hold the same rules in the same order, those of the second at least as strict. -/
structure RuleSet.HardensTo (mild hard : RuleSet) : Prop where
  rules : List.Forall₂ DeclarationRule.HardensTo mild.rules hard.rules
  typeRules : List.Forall₂ TypeRule.HardensTo mild.typeRules hard.typeRules

theorem Length.rule_hardens {loose tight : Nat} (tighter : tight ≤ loose)
    (harder : mild.rank ≤ hard.rank) :
    (Length.rule loose mild).HardensTo (Length.rule tight hard) where
  code := rfl
  name := rfl
  requiresReason := Severity.isError_of_rank_le harder
  check answer scope := Length.check_alike answer tighter harder scope

theorem Nesting.rule_hardens (builtin : Nat) (harder : mild.rank ≤ hard.rank) :
    (Nesting.rule builtin mild).HardensTo (Nesting.rule builtin hard) where
  code := rfl
  name := rfl
  requiresReason := Severity.isError_of_rank_le harder
  check answer scope := Nesting.check_alike answer builtin harder scope

theorem Arity.rule_hardens {looseMethod tightMethod looseConstructor tightConstructor : Nat}
    (tighterMethod : tightMethod ≤ looseMethod)
    (tighterConstructor : tightConstructor ≤ looseConstructor)
    (harder : mild.rank ≤ hard.rank) :
    (Arity.rule looseMethod looseConstructor mild).HardensTo
      (Arity.rule tightMethod tightConstructor hard) where
  code := rfl
  name := rfl
  requiresReason := Severity.isError_of_rank_le harder
  check answer scope :=
    Arity.check_alike answer tighterMethod tighterConstructor harder scope

theorem Overload.rule_hardens (harder : mild.rank ≤ hard.rank) :
    (Overload.rule mild).HardensTo (Overload.rule hard) where
  code := rfl
  name := rfl
  check answer scope := Overload.check_alike answer harder scope

/-- Every recommended rule has a counterpart in the strict preset. -/
theorem Preset.recommended_hardens :
    Preset.recommended.rules.HardensTo Preset.strict.rules where
  rules := .cons (Length.rule_hardens (by decide) (by decide))
    (.cons (Nesting.rule_hardens 2 (by decide))
      (.cons (Arity.rule_hardens (by decide) (by decide) (by decide)) .nil))
  typeRules := .cons (Overload.rule_hardens (by decide)) .nil

end StructureLint
