import StructureLint.Proofs.Pass
import StructureLint.Proofs.Program.Orbit
import StructureLint.Proofs.Program.Reach
import StructureLint.Rule.Overload.Consistency

/-!
Contract: calls that stay in a group.

Owns:
- the calls that a declaration makes, in its body and in the local functions
  that this body leads to;
- which members a bound call may reach;
- delegation of an overload to another one of its group.

Does not own: which overloads have to delegate.
-/

namespace StructureLint.Overload

open Program

variable {program : Program} {id target : MemberId} {declaration : DeclarationId}

/-- A call bound to `target` stands in the body of the declaration or in that of
a local function that this body leads to. -/
inductive Calls (program : Program) (declaration : DeclarationId) (target : MemberId) : Prop where
  | directly {body : Body} {call : Expr} (found : program.body? declaration = some body)
      (contained : (Visit.body body).Contains (.expr call))
      (bound : call.invocationTarget? = some target)
  | locally {body inner : Body} {id : DeclarationId} {call : Expr}
      (found : program.body? declaration = some body)
      (reached : program.Reached declaration [.body body] id)
      (opened : program.body? id = some inner)
      (contained : (Visit.body inner).Contains (.expr call))
      (bound : call.invocationTarget? = some target)

/-- The members that a declaration calls, in visiting order. -/
def calledMembers (program : Program) (declaration : DeclarationId) : List MemberId :=
  (reachedVisits program declaration).filterMap fun visit =>
    visit.expr?.bind Expr.invocationTarget?

theorem mem_calledMembers {visits : List Visit} :
    target ∈ visits.filterMap (fun visit => visit.expr?.bind Expr.invocationTarget?) ↔
      ∃ call, .expr call ∈ visits ∧ call.invocationTarget? = some target := by
  rw [List.mem_filterMap]
  constructor
  · rintro ⟨visit, member, bound⟩
    cases visit with
    | expr call => exact ⟨call, member, bound⟩
    | _ => cases bound
  · rintro ⟨call, member, bound⟩
    exact ⟨.expr call, member, bound⟩

/-- The visits of a declaration with a body are those of the body and those of
every local function that it leads to. -/
theorem mem_reachedVisits_iff {body : Body} (found : program.body? declaration = some body)
    (visit : Visit) :
    visit ∈ reachedVisits program declaration ↔
      (Visit.body body).Contains visit ∨
        ∃ id inner, program.Reached declaration [.body body] id ∧
          program.body? id = some inner ∧ (Visit.body inner).Contains visit := by
  have roots : body.visits = [Visit.body body].flatMap Visit.visits := by
    simp [Visit.visits]
  obtain ⟨opened, opens⟩ :=
    exists_opens program [declaration] ([Visit.body body].flatMap Visit.visits)
  have visited (inner : Body) : visit ∈ inner.visits ↔ (Visit.body inner).Contains visit :=
    @Visit.mem_visits_iff_contains (.body inner) visit
  rw [reachedVisits, found]
  simp only [roots]
  rw [opens.perm.mem_iff, ← roots, List.mem_append, visited, List.mem_flatMap]
  constructor
  · rintro (direct | ⟨id, member, within⟩)
    · exact .inl direct
    · obtain ⟨reached, _, bodied⟩ := (opens.mem_iff id).mp member
      obtain ⟨inner, entered⟩ := Option.isSome_iff_exists.mp bodied
      rw [bodyVisits, entered] at within
      exact .inr ⟨id, inner, reaches_iff_reached.mp reached, entered, (visited inner).mp within⟩
  · rintro (direct | ⟨id, inner, reached, entered, contained⟩)
    · exact .inl direct
    · by_cases own : id = declaration
      · rw [own, found] at entered
        cases entered
        exact .inl contained
      · refine .inr ⟨id, (opens.mem_iff id).mpr ⟨reaches_iff_reached.mpr reached, ?_, ?_⟩, ?_⟩
        · simpa using own
        · simp [entered]
        · rw [bodyVisits, entered]
          exact (visited inner).mpr contained

theorem mem_calledMembers_iff_calls :
    target ∈ calledMembers program declaration ↔ Calls program declaration target := by
  unfold calledMembers
  rw [mem_calledMembers]
  cases found : program.body? declaration with
  | none =>
      simp only [reachedVisits, found, List.not_mem_nil, false_and, exists_false, false_iff]
      intro calls
      cases calls with
      | directly located => rw [found] at located; cases located
      | locally located => rw [found] at located; cases located
  | some body =>
      simp only [mem_reachedVisits_iff found]
      constructor
      · rintro ⟨call, contained | ⟨id, inner, reached, opened, contained⟩, bound⟩
        · exact .directly found contained bound
        · exact .locally found reached opened contained bound
      · intro calls
        cases calls with
        | directly located contained bound =>
            rw [found] at located
            cases located
            exact ⟨_, .inl contained, bound⟩
        | locally located reached opened contained bound =>
            rw [found] at located
            cases located
            exact ⟨_, .inr ⟨_, _, reached, opened, contained⟩, bound⟩

/-! ## Resolution -/

/-- A call bound to `target` may reach `member`: they are the same, one overrides
the other, or the member implements the target. -/
def Resolves (program : Program) (target member : MemberId) : Prop :=
  target = member ∨ program.Overrides member target ∨ program.Overrides target member ∨
    ∃ symbol, program.member? member = some symbol ∧
      (target ∈ symbol.explicitInterfaceImpls ∨ target ∈ symbol.implementedInterfaceMembers)

theorem resolvesTo_iff {member : MemberId} :
    resolvesTo program target member = true ↔ Resolves program target member := by
  simp [resolvesTo, Resolves, mem_overrideChain_iff, Option.any_eq_true, or_assoc]

/-- The declaration of the member calls another member than itself, and this call
may reach another one of the group. -/
def Delegates (program : Program) (id : MemberId) (declaration : DeclarationId)
    (group : List MemberId) : Prop :=
  ∃ target, Calls program declaration target ∧ target ≠ id ∧
    ∃ other ∈ group, other ≠ id ∧ Resolves program target other

/-- The member calls another one of the group; one without a declaration is not asked. -/
def delegatesWithin (program : Program) (id : MemberId) (member : MemberSymbol)
    (group : List MemberId) : Bool :=
  member.declaration.all fun declaration =>
    (calledMembers program declaration).any (reachesOther program id group)

theorem delegatesWithin_iff {member : MemberSymbol} {group : List MemberId}
    (declared : member.declaration = some declaration) :
    delegatesWithin program id member group = true ↔ Delegates program id declaration group := by
  simp [delegatesWithin, declared, Delegates, reachesOther, List.any_eq_true,
    mem_calledMembers_iff_calls, resolvesTo_iff]

theorem run_delegates (answer : SettingRequest → Option String) (member : MemberSymbol)
    (group : List MemberId) :
    (delegates program id member group).run answer =
      .ok (delegatesWithin program id member group) := by
  unfold delegates delegatesWithin
  cases member.declaration with
  | none => rfl
  | some declaration =>
      simp only [invocationTargets, Pass.run_bind, Pass.run_checkEach, Pass.run_pure, Except.bind]
      rfl

end StructureLint.Overload
