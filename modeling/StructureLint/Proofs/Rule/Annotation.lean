import StructureLint.Proofs.Program.Annotation
import StructureLint.Proofs.Rule.Overload.Reports
import StructureLint.Proofs.Suppression

/-!
Contract: what the rules make of a program with a further suppression.

The rules measure bodies, parameters and calls.  Of the attributes they read the
overrides of their limits and the mark of a method that handles no request, and
a suppression is none of these.  So every rule about declarations goes through
the same pass, and the rule about overloads has the same proposals.

Owns:
- passes of the built-in rules on an annotated program;
- proposals about the overloads of an annotated program, and the attributes that
  suppress them.

Does not own: what is left of them behind suppressions.
-/

namespace StructureLint

/-! ## Rules about declarations -/

/-- What a declaration rule is told in an annotated program. -/
def DeclarationScope.annotate (annotated : DeclarationId) (mark : Attribute)
    (scope : DeclarationScope) : DeclarationScope :=
  { program := scope.program.annotate annotated mark
    id := scope.id
    declaration := scope.declaration.annotate annotated mark scope.id
    file := scope.file }

section Suppressing

variable {mark : Attribute} (annotated : DeclarationId)

theorem limit_annotate {overrides : List String} (unnamed : mark.isNamed overrides = false)
    (scope : DeclarationScope) (rule : String) {limit : Limit}
    (overridden : limit.overrides = overrides) :
    Setting.limit (scope.annotate annotated mark).file rule limit
        (scope.annotate annotated mark).declaration.attributes =
      Setting.limit scope.file rule limit scope.declaration.attributes := by
  show Setting.limit scope.file rule limit (annotatedMarks annotated mark scope.id _) = _
  unfold annotatedMarks
  split
  · exact Suppression.limit_append (overridden ▸ unnamed) scope.file rule
  · rfl

theorem Length.count_annotate (program : Program) (owner : DeclarationId) (body : Body)
    (options : Options) :
    count (program.annotate annotated mark) owner body options =
      count program owner body options := by
  unfold count
  rw [Program.unfoldLocals_annotate]

variable (suppresses :
  Suppression.attributeNames.contains (Name.ofAttribute mark.name) = true)

include suppresses

theorem Length.check_annotate (builtin : Nat) (severity : Severity) (scope : DeclarationScope) :
    check builtin severity (scope.annotate annotated mark) = check builtin severity scope := by
  have unnamed : mark.isNamed maximum.overrides = false :=
    Suppression.isNamed_eq_false suppresses (by decide +kernel)
  have counted : ∀ body options, count (scope.annotate annotated mark).program
      (scope.annotate annotated mark).id body options =
      count scope.program scope.id body options :=
    count_annotate annotated scope.program scope.id
  unfold check
  rw [limit_annotate annotated unnamed scope ruleName]
  · simp only [counted]
    rfl
  · rfl

theorem Nesting.check_annotate (builtin : Nat) (severity : Severity) (scope : DeclarationScope) :
    check builtin severity (scope.annotate annotated mark) = check builtin severity scope := by
  have unnamed : mark.isNamed maximum.overrides = false :=
    Suppression.isNamed_eq_false suppresses (by decide +kernel)
  unfold check
  rw [limit_annotate annotated unnamed scope ruleName]
  · rfl
  · rfl

theorem Arity.check_annotate (methods constructors : Nat) (severity : Severity)
    (scope : DeclarationScope) :
    check methods constructors severity (scope.annotate annotated mark) =
      check methods constructors severity scope := by
  have unnamed : mark.isNamed overrides = false :=
    Suppression.isNamed_eq_false suppresses (by decide +kernel)
  have found : (scope.annotate annotated mark).program.symbolOf?
      (scope.annotate annotated mark).declaration = scope.program.symbolOf? scope.declaration := rfl
  unfold check
  dsimp only
  rw [found]
  cases scope.program.symbolOf? scope.declaration with
  | none => rfl
  | some symbol =>
      dsimp only
      rw [limit_annotate annotated unnamed scope ruleName]
      · rfl
      · split <;> rfl

/-- A built-in rule goes through the same pass. -/
theorem DeclarationRule.Builtin.check_annotate {rule : DeclarationRule} (builtin : rule.Builtin)
    (scope : DeclarationScope) :
    rule.check (scope.annotate annotated mark) = rule.check scope := by
  cases builtin with
  | length limit severity => exact Length.check_annotate annotated suppresses limit severity scope
  | nesting limit severity => exact Nesting.check_annotate annotated suppresses limit severity scope
  | arity methods constructors severity =>
      exact Arity.check_annotate annotated suppresses methods constructors severity scope

end Suppressing

/-! ## The rule about overloads -/

/-- What a type rule is told in an annotated program. -/
def TypeScope.annotate (annotated : DeclarationId) (mark : Attribute) (scope : TypeScope) :
    TypeScope :=
  { scope with program := scope.program.annotate annotated mark }

namespace Overload

variable {mark : Attribute} (annotated : DeclarationId) (program : Program)

theorem memberLocation?_annotate (member : MemberSymbol) :
    memberLocation? (program.annotate annotated mark) member = memberLocation? program member := by
  unfold memberLocation?
  rw [program.map_declarationOf?_annotate annotated mark Declaration.location fun _ _ => rfl]

theorem virtualInsertion?_annotate (member : MemberSymbol) :
    virtualInsertion? (program.annotate annotated mark) member =
      virtualInsertion? program member := by
  unfold virtualInsertion?
  rcases program.declarationOf?_annotate_cases annotated mark member with
    ⟨after, before⟩ | ⟨id, declaration, _, before, after⟩
  · rw [after, before]
  · rw [after, before]
    rfl

theorem delegatesWithin_annotate (id : MemberId) (member : MemberSymbol)
    (group : List MemberId) :
    delegatesWithin (program.annotate annotated mark) id member group =
      delegatesWithin program id member group := by
  have called : ∀ declaration, calledMembers (program.annotate annotated mark) declaration =
      calledMembers program declaration := by
    intro declaration
    unfold calledMembers reachedVisits
    rw [Program.body?_annotate]
    simp only [Program.unfoldLocals_annotate]
  unfold delegatesWithin
  simp only [called]
  rfl

theorem virtualProposal_annotate (severity : Severity) (id : MemberId)
    (canonical : MemberSymbol) :
    virtualProposal (program.annotate annotated mark) severity id canonical =
      virtualProposal program severity id canonical := by
  unfold virtualProposal
  rw [memberLocation?_annotate, virtualInsertion?_annotate]

theorem overloadProposal_annotate (severity : Severity) (canonical : MemberSymbol)
    (id : MemberId) (member : MemberSymbol) (kind message suggestion : String) :
    overloadProposal (program.annotate annotated mark) severity canonical id member kind message
        suggestion =
      overloadProposal program severity canonical id member kind message suggestion := by
  unfold overloadProposal
  rw [memberLocation?_annotate, memberLocation?_annotate]

theorem memberReports_annotate (severity : Severity) (owner : TypeId) (group : List MemberId)
    (canonical : MemberSymbol) (id : MemberId) :
    memberReports (program.annotate annotated mark) severity owner group canonical id =
      memberReports program severity owner group canonical id := by
  unfold memberReports
  simp only [delegatesWithin_annotate, delegationProposal, orderProposal,
    overloadProposal_annotate]
  rfl

theorem groupReports_annotate (severity : Severity) (owner : TypeId) (group : Group) :
    groupReports (program.annotate annotated mark) severity owner group =
      groupReports program severity owner group := by
  have members : ∀ canonical, memberReports (program.annotate annotated mark) severity owner
      group.members canonical = memberReports program severity owner group.members canonical :=
    fun canonical => funext fun id => memberReports_annotate ..
  unfold groupReports
  simp only [canonicalReports, virtualProposal_annotate, members]
  rfl

/-- Every proposal is about a declaration of the program, whose attributes the
annotated program adds to if it is the annotated one. -/
theorem Proposal.IsAnchored.exists_memberAttributes {program : Program} {proposal : Proposal}
    (anchored : proposal.IsAnchored program) (annotated : DeclarationId) (mark : Attribute) :
    ∃ id declaration, proposal.member.declaration = some id ∧
      (id, declaration) ∈ program.numberedDeclarations ∧
      memberAttributes program proposal.member = declaration.attributes ∧
      memberAttributes (program.annotate annotated mark) proposal.member =
        annotatedMarks annotated mark id declaration.attributes := by
  have declared := anchored.declared
  rcases program.declarationOf?_annotate_cases annotated mark proposal.member with
    ⟨_, before⟩ | ⟨id, declaration, numbered, before, after⟩
  · rw [before] at declared
    cases declared
  · refine ⟨id, declaration, numbered, ?_, ?_, ?_⟩
    · apply program.mem_numberedDeclarations_of_declaration?
      rw [Program.declarationOf?, numbered] at before
      exact before
    · rw [memberAttributes, before]
      rfl
    · rw [memberAttributes, after]
      rfl

section Groups

variable (suppresses :
  Suppression.attributeNames.contains (Name.ofAttribute mark.name) = true)

include suppresses

theorem isAction_annotate (member : MemberSymbol) (id : DeclarationId)
    (declaration : Declaration) :
    isAction member (declaration.annotate annotated mark id) = isAction member declaration := by
  have unnamed : mark.isNamed nonActionMarks = false :=
    Suppression.isNamed_eq_false suppresses (by decide +kernel)
  have found : Attribute.find? nonActionMarks (declaration.annotate annotated mark id).attributes =
      Attribute.find? nonActionMarks declaration.attributes := by
    show Attribute.find? nonActionMarks (annotatedMarks annotated mark id _) = _
    unfold annotatedMarks
    split
    · exact Suppression.find?_append unnamed
    · rfl
  unfold isAction
  rw [found]

theorem isCandidate_annotate (controller : Bool) (member : MemberSymbol) :
    isCandidate (program.annotate annotated mark) controller member =
      isCandidate program controller member := by
  unfold isCandidate
  rcases program.declarationOf?_annotate_cases annotated mark member with
    ⟨after, before⟩ | ⟨id, declaration, _, before, after⟩
  · rw [after, before]
  · rw [after, before, Option.any_some, Option.any_some, isAction_annotate annotated suppresses]
    rfl

theorem groups_annotate (owner : TypeId) :
    groups (program.annotate annotated mark) owner = groups program owner := by
  have same : candidates (program.annotate annotated mark) owner = candidates program owner := by
    unfold candidates
    simp only [isCandidate_annotate annotated program suppresses]
    rfl
  unfold groups overloads
  rw [same]

theorem scopeReports_annotate (severity : Severity) (scope : TypeScope) :
    scopeReports severity (scope.annotate annotated mark) = scopeReports severity scope := by
  have reports : groupReports (scope.program.annotate annotated mark) severity scope.id =
      groupReports scope.program severity scope.id :=
    funext fun group => groupReports_annotate ..
  unfold scopeReports
  show (if isExempt scope.symbol then [] else
    (groups (scope.program.annotate annotated mark) scope.id).flatMap
      (groupReports (scope.program.annotate annotated mark) severity scope.id)) = _
  rw [groups_annotate annotated scope.program suppresses, reports]

end Groups

end Overload

end StructureLint
