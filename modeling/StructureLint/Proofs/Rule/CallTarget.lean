import StructureLint.Proofs.Program.CallTarget
import StructureLint.Proofs.Rule.Builtin
import StructureLint.Proofs.Rule.Nesting.Skeleton
import StructureLint.Proofs.Rule.Overload.Reports

/-!
Contract: what the rules make of calls that are bound to no member.

The rules about declarations read names and shapes, and no target of a call.  The
rule about overloads asks whether a call reaches another member of a group.  In a
closed program a target outside of the members reaches none: it overrides nothing,
nothing overrides it, and nobody implements it.

Owns:
- passes of the built-in rules about declarations without some targets;
- calls that reach a member of a group;
- findings about overloads without the targets outside of the members.

Does not own: how findings are put together.
-/

namespace StructureLint

/-- What a declaration rule is told without call targets that are not known. -/
def DeclarationScope.keepTargets (known : MemberId → Bool) (scope : DeclarationScope) :
    DeclarationScope :=
  { program := scope.program.keepTargets known
    id := scope.id
    declaration := scope.declaration.keepTargets known
    file := scope.file }

/-- What a type rule is told without call targets that are not known. -/
def TypeScope.keepTargets (known : MemberId → Bool) (scope : TypeScope) : TypeScope :=
  { scope with program := scope.program.keepTargets known }

/-! ## Length -/

namespace Length

variable (known : MemberId → Bool)

theorem memberCall?_keepTargets (stmt : Stmt) :
    memberCall? (stmt.keepTargets known) =
      (memberCall? stmt).map fun call => (call.1.keepTargets known, call.2) := by
  unfold memberCall?
  rw [Stmt.kind_keepTargets]
  cases stmt.kind with
  | expression expr =>
      dsimp only [StmtKind.keepTargets]
      rw [Expr.kind_keepTargets]
      cases expr.kind with
      | invocation callee arguments target =>
          dsimp only [ExprKind.keepTargets]
          rw [Expr.kind_keepTargets]
          cases callee.kind <;> rfl
      | _ => rfl
  | _ => rfl

theorem referenceName?_keepTargets (expr : Expr) :
    referenceName? (expr.keepTargets known) = referenceName? expr := by
  unfold referenceName?
  rw [Expr.kind_keepTargets]
  cases expr.kind <;> rfl

theorem soleStatement_keepTargets (stmt : Stmt) :
    soleStatement (stmt.keepTargets known) = (soleStatement stmt).keepTargets known := by
  unfold soleStatement
  rw [Stmt.kind_keepTargets]
  cases stmt.kind with
  | block inner =>
      dsimp only [StmtKind.keepTargets]
      rw [Block.stmts_keepTargets]
      match inner.stmts with
      | [] => rfl
      | [only] => rfl
      | first :: second :: rest => rfl
  | _ => rfl

theorem throwsGuardException_keepTargets (stmt : Stmt) :
    throwsGuardException (stmt.keepTargets known) = throwsGuardException stmt := by
  unfold throwsGuardException
  rw [Stmt.kind_keepTargets]
  cases stmt.kind with
  | throws thrown =>
      cases thrown with
      | none => rfl
      | some thrown =>
          dsimp only [StmtKind.keepTargets, Expr.keepTargetsOption]
          rw [Expr.kind_keepTargets]
          cases thrown.kind <;> rfl
  | _ => rfl

theorem isThrowingCheck_keepTargets (stmt : Stmt) :
    isThrowingCheck (stmt.keepTargets known) = isThrowingCheck stmt := by
  unfold isThrowingCheck
  rw [Stmt.kind_keepTargets]
  cases stmt.kind with
  | branch condition thenBranch elseBranch =>
      cases elseBranch with
      | none =>
          dsimp only [StmtKind.keepTargets, Stmt.keepTargetsOption]
          rw [soleStatement_keepTargets, throwsGuardException_keepTargets]
      | some elseBranch => rfl
  | _ => rfl

theorem isGuard_keepTargets (stmt : Stmt) : isGuard (stmt.keepTargets known) = isGuard stmt := by
  unfold isGuard isGuardCall
  rw [isThrowingCheck_keepTargets, memberCall?_keepTargets]
  cases memberCall? stmt with
  | none => rfl
  | some call =>
      dsimp only [Option.map_some]
      rw [referenceName?_keepTargets]

theorem isLoggingCall_keepTargets (loggers : List String) (stmt : Stmt) :
    isLoggingCall loggers (stmt.keepTargets known) = isLoggingCall loggers stmt := by
  unfold isLoggingCall
  rw [memberCall?_keepTargets]
  cases memberCall? stmt with
  | none => rfl
  | some call =>
      dsimp only [Option.map_some]
      rw [Expr.typeName_keepTargets]

theorem isSignificant_keepTargets (options : Options) (stmt : Stmt) :
    isSignificant options (stmt.keepTargets known) = isSignificant options stmt := by
  unfold isSignificant
  rw [Stmt.kind_keepTargets, isLoggingCall_keepTargets]
  cases stmt.kind <;> rfl

theorem measuredVisits_keepTargets (options : Options) (body : Body) :
    measuredVisits options (body.keepTargets known) =
      (measuredVisits options body).map (Visit.keepTargets known) := by
  cases body with
  | expression expr => exact (Visit.expr expr).visits_keepTargets known
  | block block =>
      have behind : behindGuards options (block.keepTargets known).stmts =
          (behindGuards options block.stmts).map (Stmt.keepTargets known) := by
        unfold behindGuards
        rw [Block.stmts_keepTargets]
        split
        · rw [List.dropWhile_map]
          congr 2
          funext stmt
          exact isGuard_keepTargets known stmt
        · rfl
      show Stmt.visitsAll (behindGuards options (block.keepTargets known).stmts) =
        (Stmt.visitsAll (behindGuards options block.stmts)).map (Visit.keepTargets known)
      rw [behind, Stmt.visitsAll_eq_flatMap, Stmt.visitsAll_eq_flatMap, List.flatMap_map,
        List.map_flatMap]
      exact List.flatMap_congr fun stmt _ => (Visit.stmt stmt).visits_keepTargets known

theorem countSignificant_keepTargets (options : Options) (visits : List Visit) :
    countSignificant options (visits.map (Visit.keepTargets known)) =
      countSignificant options visits := by
  unfold countSignificant
  rw [List.countP_map]
  congr 1
  funext visit
  simp only [Function.comp_apply, Visit.stmt?_keepTargets, Option.any_map]
  congr 1
  funext stmt
  exact isSignificant_keepTargets known options stmt

/-- Bodies are counted through the same checkpoints to the same number. -/
theorem count_keepTargets (program : Program) (owner : DeclarationId) (body : Body)
    (options : Options) :
    count (program.keepTargets known) owner (body.keepTargets known) options =
      count program owner body options := by
  have steps : ∀ visits : List Visit, Pass.checkEach
      ((visits.map (Visit.keepTargets known)).filter Visit.isStep) =
      Pass.checkEach (visits.filter Visit.isStep) := by
    intro visits
    rw [List.filter_map, Pass.checkEach_map]
    congr 2
    funext visit
    exact visit.isStep_keepTargets known
  unfold count
  rw [measuredVisits_keepTargets, Program.unfoldLocals_keepTargets]
  simp only [steps, countSignificant_keepTargets]

theorem check_keepTargets (builtin : Nat) (severity : Severity) (scope : DeclarationScope) :
    check builtin severity (scope.keepTargets known) = check builtin severity scope := by
  obtain ⟨program, id, ⟨name, kind, symbol, file, span, modifiers, attributes, body⟩, path⟩ := scope
  cases body with
  | none => rfl
  | some body =>
      unfold check
      dsimp only [DeclarationScope.keepTargets, Declaration.keepTargets, Option.map_some]
      simp only [count_keepTargets]
      cases body <;> rfl

end Length

/-! ## Nesting and arity -/

theorem Nesting.keepsSkeleton_keepTargets (known : MemberId → Bool) :
    KeepsSkeleton (Stmt.keepTargets known) where
  id := Stmt.id_keepTargets known
  span := Stmt.span_keepTargets known
  construct stmt := by
    rw [Stmt.kind_keepTargets]
    cases stmt.kind <;> rfl
  parts stmt := by
    have direct : ∀ node : Visit, (node.keepTargets known).directStmts =
        node.directStmts.map (Stmt.keepTargets known) := by
      intro node
      cases node with
      | block block => exact Block.stmts_keepTargets known block
      | _ => rfl
    have plain : ∀ kind : StmtKind,
        (((kind.keepTargets known).children.flatMap Visit.directStmts).map Site.plain) =
          ((kind.children.flatMap Visit.directStmts).map Site.plain).map
            (Site.map (Stmt.keepTargets known)) := by
      intro kind
      rw [StmtKind.children_keepTargets, List.flatMap_map]
      simp only [direct, ← List.map_flatMap, List.map_map]
      rfl
    rw [Stmt.kind_keepTargets]
    generalize stmt.kind = kind
    specialize plain kind
    cases kind with
    | branch condition thenBranch elseBranch => cases elseBranch <;> rfl
    | _ => exact plain

theorem Nesting.check_keepTargets (known : MemberId → Bool) (builtin : Nat) (severity : Severity)
    (scope : DeclarationScope) :
    check builtin severity (scope.keepTargets known) = check builtin severity scope := by
  cases bodied : scope.declaration.body with
  | none =>
      unfold check
      simp only [DeclarationScope.keepTargets, Declaration.keepTargets, bodied, Option.map_none]
  | some body =>
      cases body with
      | expression expr =>
          unfold check
          simp only [DeclarationScope.keepTargets, Declaration.keepTargets, bodied,
            Option.map_some, Body.keepTargets]
      | block block =>
          have declared : (scope.keepTargets known).declaration =
              { scope.declaration with body := some (.block (block.keepTargets known)) } := by
            simp only [DeclarationScope.keepTargets, Declaration.keepTargets, bodied,
              Option.map_some, Body.keepTargets]
          have file : (scope.keepTargets known).file = scope.file := rfl
          exact check_of_keepsSkeleton (keepsSkeleton_keepTargets known) bodied
            (Block.stmts_keepTargets known block) file declared builtin severity

theorem Arity.check_keepTargets (known : MemberId → Bool) (methods constructors : Nat)
    (severity : Severity) (scope : DeclarationScope) :
    check methods constructors severity (scope.keepTargets known) =
      check methods constructors severity scope :=
  rfl

/-- A built-in rule about declarations goes through the same pass. -/
theorem DeclarationRule.Builtin.check_keepTargets {rule : DeclarationRule}
    (builtin : rule.Builtin) (known : MemberId → Bool) (scope : DeclarationScope) :
    rule.check (scope.keepTargets known) = rule.check scope := by
  cases builtin with
  | length limit severity => exact Length.check_keepTargets known limit severity scope
  | nesting limit severity => exact Nesting.check_keepTargets known limit severity scope
  | arity methods constructors severity =>
      exact Arity.check_keepTargets known methods constructors severity scope

/-! ## Overloads -/

namespace Overload

section Lookups

variable (known : MemberId → Bool) (program : Program)

theorem memberLocation?_keepTargets (member : MemberSymbol) :
    memberLocation? (program.keepTargets known) member = memberLocation? program member := by
  unfold memberLocation?
  rw [Program.declarationOf?_keepTargets, Option.map_map]
  rfl

theorem virtualInsertion?_keepTargets (member : MemberSymbol) :
    virtualInsertion? (program.keepTargets known) member = virtualInsertion? program member := by
  unfold virtualInsertion?
  rw [Program.declarationOf?_keepTargets]
  cases program.declarationOf? member <;> rfl

theorem memberAttributes_keepTargets (member : MemberSymbol) :
    memberAttributes (program.keepTargets known) member = memberAttributes program member := by
  unfold memberAttributes
  rw [Program.declarationOf?_keepTargets]
  cases program.declarationOf? member <;> rfl

theorem isCandidate_keepTargets (controller : Bool) (member : MemberSymbol) :
    isCandidate (program.keepTargets known) controller member =
      isCandidate program controller member := by
  unfold isCandidate
  rw [Program.declarationOf?_keepTargets, Option.any_map]
  congr 2
  funext declaration
  simp only [Declaration.keepTargets, Option.isSome_map]
  rfl

theorem groups_keepTargets (owner : TypeId) :
    groups (program.keepTargets known) owner = groups program owner := by
  have same : candidates (program.keepTargets known) owner = candidates program owner := by
    unfold candidates
    simp only [isCandidate_keepTargets]
    rfl
  unfold groups overloads
  rw [same]

/-- A declaration calls the known members among those that it called. -/
theorem calledMembers_keepTargets (declaration : DeclarationId) :
    calledMembers (program.keepTargets known) declaration =
      (calledMembers program declaration).filter known := by
  have reached : reachedVisits (program.keepTargets known) declaration =
      (reachedVisits program declaration).map (Visit.keepTargets known) := by
    unfold reachedVisits
    rw [Program.body?_keepTargets]
    cases program.body? declaration with
    | none => rfl
    | some body =>
        dsimp only [Option.map_some]
        rw [Body.visits_keepTargets, Program.unfoldLocals_keepTargets]
  unfold calledMembers
  rw [reached, List.filterMap_map, List.filter_filterMap]
  congr 1
  funext visit
  exact visit.invocationTarget?_keepTargets known

end Lookups

variable {program : Program}

/-- In a closed program, a target that is no member reaches no member. -/
theorem not_resolvesTo_of_unknown (closed : program.dangling? = none) {target member : MemberId}
    (unknown : program.knows target = false) (known : program.knows member = true) :
    resolvesTo program target member = false := by
  rw [Bool.eq_false_iff]
  intro resolves
  -- The target is the member, is overridden by it, overrides it or is implemented by
  -- it.  Only a member overrides, and what a member refers to has been checked.
  have targetKnown : program.knows target = true := by
    rcases resolvesTo_iff.mp resolves with rfl | overrides | overrides | ⟨symbol, found, implemented⟩
    · exact known
    · exact overrides.knows closed known
    · rw [← overrides.eq_of_unknown unknown]
      exact known
    · have listed := Program.mem_members_of_member? found
      rcases implemented with explicit | implicit
      · exact decide_eq_true (Program.dangling?_eq_none_iff.mp closed _ _
          (.explicitImplementation listed explicit))
      · exact decide_eq_true (Program.dangling?_eq_none_iff.mp closed _ _
          (.implementedMember listed implicit))
  rw [unknown] at targetKnown
  cases targetKnown

/-- Whether an overload delegates does not depend on calls that leave the program. -/
theorem delegatesWithin_withoutDanglingTargets (closed : program.dangling? = none)
    {group : List MemberId} (members : ∀ other ∈ group, program.knows other = true)
    (id : MemberId) (member : MemberSymbol) :
    delegatesWithin program.withoutDanglingTargets id member group =
      delegatesWithin program id member group := by
  have harmless : ∀ target, (program.knows target && reachesOther program id group target) =
      reachesOther program id group target := by
    intro target
    cases unknown : program.knows target with
    | true => rfl
    | false =>
        symm
        rw [Bool.false_and, Bool.eq_false_iff]
        intro reaches
        obtain ⟨_, other, listed, _, resolves⟩ : target ≠ id ∧ ∃ other ∈ group, other ≠ id ∧
            resolvesTo program target other = true := by
          simpa [reachesOther] using reaches
        rw [not_resolvesTo_of_unknown closed unknown (members other listed)] at resolves
        cases resolves
  unfold delegatesWithin Program.withoutDanglingTargets
  cases member.declaration with
  | none => rfl
  | some declaration =>
      rw [Option.all_some, Option.all_some, calledMembers_keepTargets, List.any_filter]
      congr 1
      funext target
      exact harmless target

theorem memberReports_withoutDanglingTargets (closed : program.dangling? = none)
    {group : List MemberId} (members : ∀ other ∈ group, program.knows other = true)
    (severity : Severity) (owner : TypeId) (canonical : MemberSymbol) (id : MemberId) :
    memberReports program.withoutDanglingTargets severity owner group canonical id =
      memberReports program severity owner group canonical id := by
  have proposals : ∀ member kind message suggestion,
      overloadProposal program.withoutDanglingTargets severity canonical id member kind message
        suggestion =
      overloadProposal program severity canonical id member kind message suggestion := by
    intro member kind message suggestion
    unfold overloadProposal Program.withoutDanglingTargets
    rw [memberLocation?_keepTargets, memberLocation?_keepTargets]
  unfold memberReports
  simp only [delegatesWithin_withoutDanglingTargets closed members, delegationProposal,
    orderProposal, proposals]
  rfl

theorem groupReports_withoutDanglingTargets (closed : program.dangling? = none)
    (severity : Severity) {owner : TypeId} {group : Group} (listed : group ∈ groups program owner) :
    groupReports program.withoutDanglingTargets severity owner group =
      groupReports program severity owner group := by
  have members : ∀ other ∈ group.members, program.knows other = true := by
    intro other contained
    obtain ⟨symbol, found, _, _⟩ := exists_symbol_of_mem_members listed contained
    exact Program.knows_iff_isSome.mpr (by rw [found]; rfl)
  have reports : ∀ canonical, memberReports program.withoutDanglingTargets severity owner
      group.members canonical = memberReports program severity owner group.members canonical :=
    fun canonical => funext fun id =>
      memberReports_withoutDanglingTargets closed members severity owner canonical id
  have virtual : ∀ id canonical, virtualProposal program.withoutDanglingTargets severity id
      canonical = virtualProposal program severity id canonical := by
    intro id canonical
    unfold virtualProposal Program.withoutDanglingTargets
    rw [memberLocation?_keepTargets, virtualInsertion?_keepTargets]
  unfold groupReports
  simp only [canonicalReports, virtual, reports]
  rfl

/-- The rule finds the same about a type of a closed program. -/
theorem run_check_withoutDanglingTargets (answer : SettingRequest → Option String)
    (severity : Severity) {scope : TypeScope} (closed : scope.program.dangling? = none) :
    (check severity (scope.keepTargets scope.program.knows)).run answer =
      (check severity scope).run answer := by
  have reports : scopeReports severity (scope.keepTargets scope.program.knows) =
      scopeReports severity scope := by
    unfold scopeReports
    show (if isExempt scope.symbol then [] else
      (groups (scope.program.keepTargets scope.program.knows) scope.id).flatMap
        (groupReports scope.program.withoutDanglingTargets severity scope.id)) = _
    rw [groups_keepTargets]
    congr 1
    exact List.flatMap_congr fun group listed =>
      groupReports_withoutDanglingTargets closed severity listed
  have findings : Proposal.finding? (scope.program.keepTargets scope.program.knows) severity =
      Proposal.finding? scope.program severity := by
    funext proposal
    unfold Proposal.finding?
    rw [memberAttributes_keepTargets]
  rw [run_check_eq_scopeReports, run_check_eq_scopeReports, reports]
  show Except.ok ((scopeReports severity scope).filterMap
    (Proposal.finding? (scope.program.keepTargets scope.program.knows) severity)) = _
  rw [findings]

end Overload

end StructureLint
