import StructureLint.Program.Reach
import StructureLint.Rule.Basic
import StructureLint.Rule.Overload.Group

/-!
Contract: the rule about overloads.

The canonical overload of a group holds the behaviour: it is virtual where it
can be, the other overloads call into the group, and shared parameters keep
its order.  Members whose shape is dictated elsewhere are not asked.

Owns:
- calls that a declaration makes, and whether they stay in the group;
- the rule.
-/

namespace StructureLint.Overload

/-- The code of the rule. -/
def code : String := "SL004"

/-- The name of the rule. -/
def ruleName : String := "overload-consistency"

/-- Types whose overloads follow the conventions of a framework. -/
def frameworkTypes : List String := ["Controller", "ControllerBase", "PageModel"]

/-- The member could be declared `virtual`. -/
def canBeVirtual (program : Program) (member : MemberSymbol) : Bool :=
  (member.containingType.bind program.type?).any fun owner =>
    !member.isStatic && member.accessibility != .privateAccess && !owner.isSealed &&
      !owner.kind.isValueType && !member.isVirtual && !member.isAbstract &&
      !member.isOverride && member.overriddenMember.isNone &&
      member.explicitInterfaceImpls.isEmpty

/-! ## Calls -/

/-- The visits of a declaration's body, local functions included. -/
def reachedVisits (program : Program) (id : DeclarationId) : List Visit :=
  match program.body? id with
  | none => []
  | some body => program.unfoldLocals [id] body.visits

/-- The members that the body of a declaration calls, in visiting order. -/
def invocationTargets (program : Program) (id : DeclarationId) : Pass (List MemberId) := do
  let visits := reachedVisits program id
  Pass.checkEach (visits.filter Visit.isStep)
  return visits.filterMap fun visit => visit.expr?.bind Expr.invocationTarget?

/-- A call of `target` reaches `member`: one overrides the other, or the member
implements the target. -/
def resolvesTo (program : Program) (target member : MemberId) : Bool :=
  target == member || (program.overrideChain member).contains target ||
    (program.overrideChain target).contains member ||
    (program.member? member).any fun symbol =>
      symbol.explicitInterfaceImpls.contains target ||
        symbol.implementedInterfaceMembers.contains target

/-- A call of `target` leaves the member for another one of the group. -/
def reachesOther (program : Program) (id : MemberId) (group : List MemberId)
    (target : MemberId) : Bool :=
  target != id && group.any fun other => other != id && resolvesTo program target other

/-- The member calls another one of the group. -/
def delegates (program : Program) (id : MemberId) (member : MemberSymbol)
    (group : List MemberId) : Pass Bool := do
  match member.declaration with
  | none => return true
  | some declaration =>
    let targets ← invocationTargets program declaration
    return targets.any (reachesOther program id group)

/-! ## Findings -/

/-- Where a member is reported: at its declaration, else at its symbol. -/
def memberLocation? (program : Program) (member : MemberSymbol) : Option Location :=
  ((program.declarationOf? member).map Declaration.location).or member.location

/-- A finding about a member, before suppressions. -/
structure Proposal where
  id : MemberId
  member : MemberSymbol
  kind : String
  finding : Finding

/-- The insertion that declares a member `virtual`. -/
def virtualInsertion? (program : Program) (member : MemberSymbol) : Option Replacement := do
  let declaration ← program.declarationOf? member
  let span ← declaration.modifiersSpan
  return {
    location := .ofSpan declaration.file { span with length := 0 }
    newText := "virtual " }

/-- The proposal about a canonical overload that is not virtual. -/
def virtualProposal (program : Program) (severity : Severity) (id : MemberId)
    (canonical : MemberSymbol) : List Proposal :=
  (memberLocation? program canonical).toList.map fun location =>
    { id
      member := canonical
      kind := "virtual"
      finding :=
        { code
          rule := ruleName
          severity
          location
          message := "Canonical overload `" ++ canonical.signature ++ "` should be virtual"
          suggestion := some
            { message := "Declare it `virtual`"
              replacement := virtualInsertion? program canonical } } }

/-- The proposal about an overload, with a label at the canonical one. -/
def overloadProposal (program : Program) (severity : Severity) (canonical : MemberSymbol)
    (id : MemberId) (member : MemberSymbol) (kind message suggestion : String) :
    List Proposal :=
  (memberLocation? program member).toList.map fun location =>
    { id
      member
      kind
      finding :=
        { code
          rule := ruleName
          severity
          location
          message
          suggestion := some { message := suggestion }
          labels := (memberLocation? program canonical).toList.map fun target =>
            { location := target, message := "canonical overload declared here" } } }

/-- The proposal about an overload that calls no other one. -/
def delegationProposal (program : Program) (severity : Severity) (canonical : MemberSymbol)
    (id : MemberId) (member : MemberSymbol) : List Proposal :=
  overloadProposal program severity canonical id member "delegation"
    ("Overload `" ++ member.signature ++ "` should call another overload of `" ++
      member.name ++ "`")
    ("Forward to `" ++ canonical.signature ++ "`")

/-- The proposal about an overload whose parameters are out of order. -/
def orderProposal (program : Program) (severity : Severity) (canonical : MemberSymbol)
    (id : MemberId) (member : MemberSymbol) : List Proposal :=
  match orderMismatch? member.parameters canonical.parameters with
  | none => []
  | some name =>
    overloadProposal program severity canonical id member "order"
      ("Parameter `" ++ name ++ "` of `" ++ member.signature ++ "` is out of order with `" ++
        canonical.signature ++ "`")
      "Declare shared parameters in the canonical overload's order"

/-- The overload is declared in the type, and its shape is its author's choice. -/
def isAsked (owner : TypeId) (member : MemberSymbol) : Bool :=
  member.containingType == some owner && !member.overrides && !member.hidesBaseMember &&
    !member.implementsInterface

/-- The proposals about an overload that is not canonical. -/
def memberProposals (scope : TypeScope) (severity : Severity) (group : List MemberId)
    (canonical : MemberSymbol) (id : MemberId) : Pass (List Proposal) := do
  match scope.program.member? id with
  | none => return []
  | some member =>
    if isAsked scope.id member then
      let calls ← delegates scope.program id member group
      let order := orderProposal scope.program severity canonical id member
      if calls then
        return order
      else
        return delegationProposal scope.program severity canonical id member ++ order
    else
      return []

/-- The proposals about a group with that canonical overload. -/
def canonicalProposals (scope : TypeScope) (severity : Severity) (group : List MemberId)
    (canonicalId : MemberId) : Pass (List Proposal) := do
  match scope.program.member? canonicalId with
  | none => return []
  | some canonical =>
    let own :=
      if canonical.containingType == some scope.id && canBeVirtual scope.program canonical then
        virtualProposal scope.program severity canonicalId canonical
      else
        []
    let others ← Pass.each (memberProposals scope severity group canonical)
      (group.filter fun id => id != canonicalId)
    return own ++ others.flatten

/-- The proposals about a group; one without a canonical overload has none. -/
def groupProposals (scope : TypeScope) (severity : Severity) (group : Group) :
    Pass (List Proposal) := do
  Pass.check
  match canonical? scope.program group.members with
  | none => return []
  | some canonicalId => canonicalProposals scope severity group.members canonicalId

/-- The attributes on a member's declaration. -/
def memberAttributes (program : Program) (member : MemberSymbol) : List Attribute :=
  (program.declarationOf? member).elim [] Declaration.attributes

/-- Logs a proposal unless it is suppressed on the member. -/
def logProposal (program : Program) (severity : Severity) (log : FindingLog)
    (proposal : Proposal) : FindingLog :=
  match Suppression.apply (memberAttributes program proposal.member) ruleName
      (severity == .error) proposal.finding with
  | none => log
  | some finding => log.add (.member proposal.id) proposal.kind finding

/-- The type is not asked: it has no bodies, or a framework dictates its shape. -/
def isExempt (symbol : TypeSymbol) : Bool :=
  symbol.kind == .interfaceType || symbol.kind == .enumType ||
    Name.matchesAny symbol.name frameworkTypes

/-- Reports the groups of a type that are not consistent. -/
def check (severity : Severity) (scope : TypeScope) : Pass (List Finding) := do
  if isExempt scope.symbol then
    return []
  else
    let proposals ← Pass.each (groupProposals scope severity) (groups scope.program scope.id)
    return (proposals.flatten.foldl (logProposal scope.program severity) {}).findings

/-- The rule with a severity. -/
def rule (severity : Severity := .warning) : TypeRule where
  code := code
  name := ruleName
  description := "Keeps overloads delegating to one canonical, overridable implementation"
  severity := severity
  check := check severity

end StructureLint.Overload
