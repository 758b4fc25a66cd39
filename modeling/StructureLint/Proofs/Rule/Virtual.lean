import StructureLint.Proofs.Program.Virtual
import StructureLint.Proofs.Rule.Builtin
import StructureLint.Proofs.Rule.Overload.Reports
import StructureLint.Proofs.Shedding

/-!
Contract: what the rules make of a program with one more virtual member.

Of all that is asked about a member, one question is whether it is virtual, and it
is asked of the canonical overload of a group in the type that declares it.  Who is
in a group, which overload is canonical and who calls whom is found without it.  So
the rule about overloads has one proposal less at most, and the rules about
declarations go through the same passes.

Owns:
- passes of the built-in rules about declarations;
- groups, calls and proposals of the rule about overloads.

Does not own: which proposals end up in a report.
-/

namespace StructureLint

/-! ## Rules about declarations -/

/-- What a declaration rule is told once a member is declared `virtual`. -/
def DeclarationScope.declareVirtual (fixed : MemberId) (scope : DeclarationScope) :
    DeclarationScope :=
  { scope with program := scope.program.declareVirtual fixed }

theorem Length.check_declareVirtual (fixed : MemberId) (builtin : Nat) (severity : Severity)
    (scope : DeclarationScope) :
    check builtin severity (scope.declareVirtual fixed) = check builtin severity scope := by
  have counted : ∀ body options,
      count (scope.program.declareVirtual fixed) scope.id body options =
        count scope.program scope.id body options := by
    intro body options
    unfold count
    rw [Program.unfoldLocals_declareVirtual]
  have located : reportLocation (scope.declareVirtual fixed) = reportLocation scope := by
    obtain ⟨flag, symbols⟩ :=
      scope.program.exists_symbolOf?_declareVirtual fixed scope.declaration
    unfold reportLocation DeclarationScope.declareVirtual
    dsimp only
    rw [symbols, Option.bind_map]
    rfl
  unfold check
  simp only [located]
  simp only [DeclarationScope.declareVirtual, counted]

theorem Arity.check_declareVirtual (fixed : MemberId) (methods constructors : Nat)
    (severity : Severity) (scope : DeclarationScope) :
    check methods constructors severity (scope.declareVirtual fixed) =
      check methods constructors severity scope := by
  obtain ⟨flag, symbols⟩ :=
    scope.program.exists_symbolOf?_declareVirtual fixed scope.declaration
  unfold check DeclarationScope.declareVirtual
  dsimp only
  rw [symbols]
  cases scope.program.symbolOf? scope.declaration <;> rfl

/-- A built-in rule goes through the same pass. -/
theorem DeclarationRule.Builtin.check_declareVirtual {rule : DeclarationRule}
    (builtin : rule.Builtin) (fixed : MemberId) (scope : DeclarationScope) :
    rule.check (scope.declareVirtual fixed) = rule.check scope := by
  cases builtin with
  | length limit severity =>
      exact Length.check_declareVirtual fixed limit severity scope
  | nesting limit severity => rfl
  | arity methods constructors severity =>
      exact Arity.check_declareVirtual fixed methods constructors severity scope

/-! ## The rule about overloads -/

/-- What a type rule is told once a member is declared `virtual`. -/
def TypeScope.declareVirtual (fixed : MemberId) (scope : TypeScope) : TypeScope :=
  { scope with program := scope.program.declareVirtual fixed }

namespace Overload

variable (program : Program) (fixed : MemberId)

/-! ### Groups -/

def declareVirtualEntry (entry : MemberId × MemberSymbol) : MemberId × MemberSymbol :=
  (entry.1, entry.2.declareVirtual fixed entry.1)

theorem candidates_declareVirtual (owner : TypeId) :
    candidates (program.declareVirtual fixed) owner =
      (candidates program owner).map (declareVirtualEntry fixed) := by
  unfold candidates
  rw [List.map_filterMap]
  show List.filterMap _ ((program.baseChain owner).flatMap program.membersOf) = _
  congr 1
  funext id
  rw [program.member?_declareVirtual fixed id]
  cases program.member? id with
  | none => rfl
  | some member =>
      have same : isCandidate (program.declareVirtual fixed)
          (isController (program.declareVirtual fixed) owner) (member.declareVirtual fixed id) =
          isCandidate program (isController program owner) member := rfl
      simp only [Option.map_some, Option.bind_some, same]
      split <;> rfl

theorem overloads_declareVirtual (owner : TypeId) :
    overloads (program.declareVirtual fixed) owner =
      (overloads program owner).map (declareVirtualEntry fixed) := by
  have keep : ∀ kept entry, keepUnshadowed (kept.map (declareVirtualEntry fixed))
      (declareVirtualEntry fixed entry) =
      (keepUnshadowed kept entry).map (declareVirtualEntry fixed) := by
    intro kept entry
    have shadowed : ((kept.map (declareVirtualEntry fixed)).any fun other =>
        sameSignature other.2 (declareVirtualEntry fixed entry).2) =
        kept.any fun other => sameSignature other.2 entry.2 := List.any_map
    unfold keepUnshadowed
    rw [shadowed]
    split
    · rfl
    · rw [List.map_append]
      rfl
  unfold overloads
  rw [candidates_declareVirtual, List.foldl_map]
  exact @List.foldl_hom _ _ _ (List.map (declareVirtualEntry fixed)) keepUnshadowed
    (fun kept entry => keepUnshadowed kept (declareVirtualEntry fixed entry)) _ [] keep

theorem groups_declareVirtual (owner : TypeId) :
    groups (program.declareVirtual fixed) owner = groups program owner := by
  have names : groupNames ((overloads program owner).map (declareVirtualEntry fixed)) =
      groupNames (overloads program owner) := by
    unfold groupNames
    rw [List.map_map]
    rfl
  unfold groups
  dsimp only
  rw [overloads_declareVirtual, names]
  simp only [List.filter_map, List.map_map]
  rfl

theorem canonical?_declareVirtual (members : List MemberId) :
    canonical? (program.declareVirtual fixed) members = canonical? program members := by
  have arities : arity (program.declareVirtual fixed) = arity program := by
    funext id
    unfold arity
    rw [program.member?_declareVirtual fixed id]
    cases program.member? id <;> rfl
  unfold canonical?
  rw [arities]

/-! ### Calls -/

theorem resolvesTo_declareVirtual (target member : MemberId) :
    resolvesTo (program.declareVirtual fixed) target member =
      resolvesTo program target member := by
  unfold resolvesTo
  rw [program.overrideChain_declareVirtual, program.overrideChain_declareVirtual,
    program.member?_declareVirtual, Option.any_map]
  rfl

theorem delegatesWithin_declareVirtual (id : MemberId) (member : MemberSymbol)
    (group : List MemberId) :
    delegatesWithin (program.declareVirtual fixed) id (member.declareVirtual fixed id) group =
      delegatesWithin program id member group := by
  have called : ∀ declaration, calledMembers (program.declareVirtual fixed) declaration =
      calledMembers program declaration := by
    intro declaration
    unfold calledMembers reachedVisits
    simp only [Program.unfoldLocals_declareVirtual]
    rfl
  have reaches : reachesOther (program.declareVirtual fixed) id group =
      reachesOther program id group := by
    funext target
    unfold reachesOther
    simp only [resolvesTo_declareVirtual]
  unfold delegatesWithin
  simp only [called, reaches]
  rfl

/-! ### Proposals -/

/-- The proposal as it is made once a member is declared `virtual`. -/
def Proposal.declareVirtual (proposal : Proposal) : Proposal :=
  { proposal with member := proposal.member.declareVirtual fixed proposal.id }

/-- The proposal is to declare that member `virtual`. -/
def Proposal.asksVirtual (proposal : Proposal) : Bool :=
  proposal.key == (fixed, "virtual")

variable (severity : Severity) (owner : TypeId)

theorem overloadProposal_declareVirtual (canonical : MemberSymbol) (canonicalId id : MemberId)
    (member : MemberSymbol) (kind message suggestion : String) :
    overloadProposal (program.declareVirtual fixed) severity
        (canonical.declareVirtual fixed canonicalId) id (member.declareVirtual fixed id) kind
        message suggestion =
      (overloadProposal program severity canonical id member kind message suggestion).map
        (Proposal.declareVirtual fixed) := by
  unfold overloadProposal
  rw [List.map_map]
  rfl

theorem orderProposal_declareVirtual (canonical member : MemberSymbol)
    (canonicalId id : MemberId) :
    orderProposal (program.declareVirtual fixed) severity
        (canonical.declareVirtual fixed canonicalId) id (member.declareVirtual fixed id) =
      (orderProposal program severity canonical id member).map (Proposal.declareVirtual fixed) := by
  have mismatch : orderMismatch? (member.declareVirtual fixed id).parameters
      (canonical.declareVirtual fixed canonicalId).parameters =
      orderMismatch? member.parameters canonical.parameters := rfl
  unfold orderProposal
  rw [mismatch]
  cases orderMismatch? member.parameters canonical.parameters with
  | none => rfl
  | some name => exact overloadProposal_declareVirtual ..

theorem memberReports_declareVirtual (group : List MemberId) (canonical : MemberSymbol)
    (canonicalId id : MemberId) :
    memberReports (program.declareVirtual fixed) severity owner group
        (canonical.declareVirtual fixed canonicalId) id =
      (memberReports program severity owner group canonical id).map
        (Proposal.declareVirtual fixed) := by
  unfold memberReports
  rw [program.member?_declareVirtual fixed id]
  cases program.member? id with
  | none => rfl
  | some member =>
      have asked : isAsked owner (member.declareVirtual fixed id) = isAsked owner member := rfl
      dsimp only [Option.map_some]
      rw [asked, delegatesWithin_declareVirtual, orderProposal_declareVirtual]
      split
      · rw [List.map_append]
        congr 1
        split
        · rfl
        · exact overloadProposal_declareVirtual ..
      · rfl

theorem canBeVirtual_declareVirtual (id : MemberId) (member : MemberSymbol) :
    canBeVirtual (program.declareVirtual fixed) (member.declareVirtual fixed id) =
      (id != fixed && canBeVirtual program member) := by
  unfold canBeVirtual
  show ((member.containingType.bind program.type?).any fun owner =>
    !member.isStatic && member.accessibility != .privateAccess && !owner.isSealed &&
      !owner.kind.isValueType && !(id == fixed || member.isVirtual) && !member.isAbstract &&
      !member.isOverride && member.overriddenMember.isNone &&
      member.explicitInterfaceImpls.isEmpty) = _
  cases member.containingType.bind program.type? with
  | none => rw [Option.any_none, Option.any_none, Bool.and_false]
  | some owner =>
      simp only [Option.any_some, bne, Bool.not_or]
      ac_rfl

/-- The proposal about the member is not made any more, and every other one is. -/
theorem canonicalReports_declareVirtual (canonical : MemberSymbol) (id : MemberId) :
    canonicalReports (program.declareVirtual fixed) severity owner
        (canonical.declareVirtual fixed id) id =
      ((canonicalReports program severity owner canonical id).filter fun proposal =>
        !proposal.asksVirtual fixed).map (Proposal.declareVirtual fixed) := by
  have keys : ∀ proposal ∈ canonicalReports program severity owner canonical id,
      proposal.asksVirtual fixed = (id == fixed) := by
    intro proposal listed
    unfold canonicalReports at listed
    split at listed
    · obtain ⟨location, _, rfl⟩ := List.mem_map.mp listed
      show (id == fixed && "virtual" == "virtual") = (id == fixed)
      rw [beq_self_eq_true, Bool.and_true]
    · cases listed
  rw [List.filter_congr fun proposal listed => congrArg not (keys proposal listed)]
  unfold canonicalReports
  rw [canBeVirtual_declareVirtual, bne]
  cases id == fixed with
  | true =>
      rw [Bool.not_true, Bool.false_and, Bool.and_false, if_neg Bool.false_ne_true,
        List.filter_false]
      rfl
  | false =>
      rw [Bool.not_false, Bool.true_and, List.filter_true]
      show (if canonical.containingType == some owner && canBeVirtual program canonical then _
        else _) = _
      split
      · unfold virtualProposal
        rw [List.map_map]
        rfl
      · rfl

theorem asksVirtual_of_mem_overloadProposal {canonical member : MemberSymbol} {id : MemberId}
    {kind message suggestion : String} (other : kind ≠ "virtual") {proposal : Proposal}
    (listed : proposal ∈
      overloadProposal program severity canonical id member kind message suggestion) :
    proposal.asksVirtual fixed = false := by
  obtain ⟨location, _, rfl⟩ := List.mem_map.mp listed
  show (id == fixed && kind == "virtual") = false
  rw [beq_eq_false_iff_ne.mpr other, Bool.and_false]

/-- Nothing but the canonical overload is asked to be virtual. -/
theorem asksVirtual_of_mem_memberReports {group : List MemberId} {canonical : MemberSymbol}
    {id : MemberId} {proposal : Proposal}
    (listed : proposal ∈ memberReports program severity owner group canonical id) :
    proposal.asksVirtual fixed = false := by
  unfold memberReports at listed
  split at listed
  · cases listed
  · split at listed
    · rcases List.mem_append.mp listed with delegation | order
      · split at delegation
        · cases delegation
        · exact asksVirtual_of_mem_overloadProposal program fixed severity (by decide) delegation
      · unfold orderProposal at order
        split at order
        · cases order
        · exact asksVirtual_of_mem_overloadProposal program fixed severity (by decide) order
    · cases listed

theorem groupReports_declareVirtual (group : Group) :
    groupReports (program.declareVirtual fixed) severity owner group =
      ((groupReports program severity owner group).filter fun proposal =>
        !proposal.asksVirtual fixed).map (Proposal.declareVirtual fixed) := by
  unfold groupReports
  rw [canonical?_declareVirtual]
  cases canonical? program group.members with
  | none => rfl
  | some id =>
      dsimp only [Option.bind_some]
      rw [program.member?_declareVirtual fixed id]
      cases program.member? id with
      | none => rfl
      | some canonical =>
          have kept : ∀ proposal ∈ (group.members.filter fun other => other != id).flatMap
              (memberReports program severity owner group.members canonical),
              (!proposal.asksVirtual fixed) = true := by
            intro proposal listed
            obtain ⟨other, _, reported⟩ := List.mem_flatMap.mp listed
            rw [asksVirtual_of_mem_memberReports program fixed severity owner reported]
            rfl
          dsimp only [Option.map_some, Option.getD_some]
          rw [canonicalReports_declareVirtual, List.filter_append, List.map_append,
            List.filter_eq_self.mpr kept, List.map_flatMap]
          congr 1
          exact List.flatMap_congr fun other _ => memberReports_declareVirtual ..

theorem scopeReports_declareVirtual (scope : TypeScope) :
    scopeReports severity (scope.declareVirtual fixed) =
      ((scopeReports severity scope).filter fun proposal =>
        !proposal.asksVirtual fixed).map (Proposal.declareVirtual fixed) := by
  unfold scopeReports TypeScope.declareVirtual
  dsimp only
  split
  · rfl
  · rw [groups_declareVirtual, List.filter_flatMap, List.map_flatMap]
    exact List.flatMap_congr fun group _ => groupReports_declareVirtual ..

/-- The rule sheds what it finds about the member that is declared `virtual`. -/
theorem sheds_findings_declareVirtual (scope : TypeScope) :
    Sheds
      (((scopeReports severity scope).filter (Proposal.asksVirtual fixed)).filterMap
        (Proposal.finding? scope.program severity))
      ((scopeReports severity scope).filterMap (Proposal.finding? scope.program severity))
      ((scopeReports severity (scope.declareVirtual fixed)).filterMap
        (Proposal.finding? (scope.declareVirtual fixed).program severity)) := by
  have remaining : (scopeReports severity (scope.declareVirtual fixed)).filterMap
      (Proposal.finding? (scope.declareVirtual fixed).program severity) =
      (scopeReports severity scope).filterMap fun proposal =>
        if !proposal.asksVirtual fixed then proposal.finding? scope.program severity else none := by
    rw [scopeReports_declareVirtual, List.filterMap_map, List.filterMap_filter]
    rfl
  rw [remaining]
  apply Sheds.filterMap
  intro proposal _
  cases proposal.asksVirtual fixed <;> rfl

end Overload

end StructureLint
