import StructureLint.Proofs.FindingLog
import StructureLint.Proofs.Rule.Overload.Calls
import StructureLint.Proofs.Rule.Overload.Group

/-!
Contract: what the rule about overloads reports, in closed form.

Against a host that never calls it off, the rule always succeeds.  Its proposals
are a function of the program, no two of them in a type have one member and one
kind, and so the log only takes away what is suppressed.

Owns:
- the proposals about a type as a list;
- their members and kinds, and the declarations behind them;
- the findings of the rule as the proposals that are not suppressed.

Does not own: when a proposal is due.
-/

namespace StructureLint.Overload

variable {program : Program} {severity : Severity} {owner : TypeId} {id : MemberId}
  {member canonical : MemberSymbol}

def Proposal.key (proposal : Proposal) : MemberId × String :=
  (proposal.id, proposal.kind)

/-- What is left of a proposal behind the suppressions on its member. -/
def Proposal.finding? (program : Program) (severity : Severity) (proposal : Proposal) :
    Option Finding :=
  Suppression.apply (memberAttributes program proposal.member) ruleName (severity == .error)
    proposal.finding

/-- The proposals about an overload that is not canonical. -/
def memberReports (program : Program) (severity : Severity) (owner : TypeId)
    (group : List MemberId) (canonical : MemberSymbol) (id : MemberId) : List Proposal :=
  match program.member? id with
  | none => []
  | some member =>
    if isAsked owner member then
      (if delegatesWithin program id member group then []
        else delegationProposal program severity canonical id member) ++
      orderProposal program severity canonical id member
    else
      []

def canonicalReports (program : Program) (severity : Severity) (owner : TypeId)
    (canonical : MemberSymbol) (id : MemberId) : List Proposal :=
  if canonical.containingType == some owner && canBeVirtual program canonical then
    virtualProposal program severity id canonical
  else
    []

/-- The proposals about a group; one without a canonical overload has none. -/
def groupReports (program : Program) (severity : Severity) (owner : TypeId) (group : Group) :
    List Proposal :=
  ((canonical? program group.members).bind fun id =>
    (program.member? id).map fun canonical =>
      canonicalReports program severity owner canonical id ++
        (group.members.filter fun other => other != id).flatMap
          (memberReports program severity owner group.members canonical)).getD []

/-- The proposals about a type; one that does not exist or is exempt has none. -/
def typeReports (program : Program) (severity : Severity) (owner : TypeId) : List Proposal :=
  if (program.type? owner).any fun symbol => !isExempt symbol then
    (groups program owner).flatMap (groupReports program severity owner)
  else
    []

/-! ## Runs -/

variable (answer : SettingRequest → Option String)

theorem run_memberProposals (scope : TypeScope) (group : List MemberId) :
    (memberProposals scope severity group canonical id).run answer =
      .ok (memberReports scope.program severity scope.id group canonical id) := by
  unfold memberProposals memberReports
  cases scope.program.member? id with
  | none => rfl
  | some member =>
      by_cases asked : isAsked scope.id member
      · simp only [asked, if_true, Pass.run_bind, run_delegates, Except.bind]
        cases delegatesWithin scope.program id member group <;> rfl
      · simp only [asked]
        rfl

theorem run_groupProposals (scope : TypeScope) (group : Group) :
    (groupProposals scope severity group).run answer =
      .ok (groupReports scope.program severity scope.id group) := by
  unfold groupProposals groupReports
  cases canonical? scope.program group.members with
  | none => rfl
  | some canonicalId =>
      simp only [Pass.run_bind, Pass.run_check, Except.bind, canonicalProposals]
      cases found : scope.program.member? canonicalId with
      | none => simp [found]
      | some canonical =>
          simp only [Pass.run_bind, Except.bind, Option.bind_some, found, Option.map_some,
            Option.getD_some]
          rw [Pass.run_each_of_ok answer _ (memberReports scope.program severity scope.id
            group.members canonical) _ fun id _ => run_memberProposals answer scope group.members]
          rfl

/-! ## Members and kinds -/

def memberKinds (program : Program) (owner : TypeId) (group : List MemberId)
    (canonical : MemberSymbol) (id : MemberId) (member : MemberSymbol) : List String :=
  if isAsked owner member then
    (if delegatesWithin program id member group then [] else ["delegation"]) ++
      (if (orderMismatch? member.parameters canonical.parameters).isSome then ["order"] else [])
  else
    []

theorem nodup_memberKinds (program : Program) (owner : TypeId) (group : List MemberId)
    (canonical : MemberSymbol) (id : MemberId) (member : MemberSymbol) :
    (memberKinds program owner group canonical id member).Nodup := by
  unfold memberKinds
  split
  · split <;> split <;> decide
  · exact List.nodup_nil

theorem ne_virtual_of_mem_memberKinds {group : List MemberId} {kind : String}
    (mem : kind ∈ memberKinds program owner group canonical id member) : kind ≠ "virtual" := by
  rintro rfl
  unfold memberKinds at mem
  split at mem
  · split at mem <;> split at mem <;> exact absurd mem (by decide)
  · cases mem

theorem isSome_memberLocation? (declared : (program.declarationOf? member).isSome) :
    ∃ location, memberLocation? program member = some location := by
  obtain ⟨declaration, found⟩ := Option.isSome_iff_exists.mp declared
  exact ⟨declaration.location, by simp [memberLocation?, found]⟩

theorem map_key_overloadProposal (declared : (program.declarationOf? member).isSome)
    (kind message suggestion : String) :
    (overloadProposal program severity canonical id member kind message suggestion).map
      Proposal.key = [(id, kind)] := by
  obtain ⟨location, found⟩ := isSome_memberLocation? declared
  simp [overloadProposal, found, Proposal.key]

theorem map_key_orderProposal (declared : (program.declarationOf? member).isSome) :
    (orderProposal program severity canonical id member).map Proposal.key =
      if (orderMismatch? member.parameters canonical.parameters).isSome then [(id, "order")]
      else [] := by
  unfold orderProposal
  cases orderMismatch? member.parameters canonical.parameters with
  | none => rfl
  | some name => exact map_key_overloadProposal declared _ _ _

/-- The members and kinds of the proposals about an overload that is not canonical. -/
def memberKeys (program : Program) (owner : TypeId) (group : List MemberId)
    (canonical : MemberSymbol) (id : MemberId) : List (MemberId × String) :=
  (program.member? id).elim [] fun member =>
    (memberKinds program owner group canonical id member).map (Prod.mk id)

theorem mem_memberKeys_iff {group : List MemberId} {key : MemberId × String} :
    key ∈ memberKeys program owner group canonical id ↔
      key.1 = id ∧ ∃ member, program.member? id = some member ∧
        key.2 ∈ memberKinds program owner group canonical id member := by
  unfold memberKeys
  cases program.member? id with
  | none => simp
  | some member =>
      simp only [Option.elim_some, List.mem_map, Option.some.injEq, exists_eq_left']
      constructor
      · rintro ⟨kind, mem, rfl⟩
        exact ⟨rfl, mem⟩
      · rintro ⟨rfl, mem⟩
        exact ⟨key.2, mem, rfl⟩

theorem nodup_memberKeys (program : Program) (owner : TypeId) (group : List MemberId)
    (canonical : MemberSymbol) (id : MemberId) :
    (memberKeys program owner group canonical id).Nodup := by
  unfold memberKeys
  cases program.member? id with
  | none => exact List.nodup_nil
  | some member =>
      refine List.Nodup.map ?_ (nodup_memberKinds _ _ _ _ _ _)
      intro left right same
      exact (Prod.mk.inj same).2

theorem map_key_memberReports {group : List MemberId} (found : program.member? id = some member)
    (declared : (program.declarationOf? member).isSome) :
    (memberReports program severity owner group canonical id).map Proposal.key =
      memberKeys program owner group canonical id := by
  unfold memberReports memberKeys memberKinds
  rw [found]
  by_cases asked : isAsked owner member
  · simp only [asked, if_true, List.map_append, map_key_orderProposal declared,
      Option.elim_some]
    congr 1
    · split
      · rfl
      · exact map_key_overloadProposal declared _ _ _
    · split <;> rfl
  · simp [asked]

theorem map_key_canonicalReports (declared : (program.declarationOf? canonical).isSome) :
    (canonicalReports program severity owner canonical id).map Proposal.key =
      if canonical.containingType == some owner && canBeVirtual program canonical then
        [(id, "virtual")]
      else [] := by
  obtain ⟨location, found⟩ := isSome_memberLocation? declared
  unfold canonicalReports
  split
  · simp [virtualProposal, found, Proposal.key]
  · rfl

/-! ## Groups -/

/-- The members and kinds of the proposals about a group with that canonical overload. -/
def groupKeys (program : Program) (owner : TypeId) (group : List MemberId)
    (canonicalId : MemberId) (canonical : MemberSymbol) : List (MemberId × String) :=
  (if canonical.containingType == some owner && canBeVirtual program canonical then
    [(canonicalId, "virtual")] else []) ++
  (group.filter fun other => other != canonicalId).flatMap
    (memberKeys program owner group canonical)

variable {group : Group} {members : List MemberId} {canonicalId : MemberId}

theorem map_key_groupReports (listed : group ∈ groups program owner)
    (longest : Longest program group.members canonicalId)
    (found : program.member? canonicalId = some canonical) :
    (groupReports program severity owner group).map Proposal.key =
      groupKeys program owner group.members canonicalId canonical := by
  have chosen := (canonical?_eq_some_iff (nodup_members_of_mem_groups listed)).mpr longest
  have declared := isSome_declarationOf?_of_mem_members listed longest.mem found
  unfold groupReports groupKeys
  simp only [chosen, found, Option.bind_some, Option.map_some, Option.getD_some, List.map_append,
    map_key_canonicalReports declared, List.map_flatMap]
  congr 1
  apply List.flatMap_congr
  intro id kept
  have contained := List.mem_of_mem_filter kept
  obtain ⟨member, located, _, _⟩ := exists_symbol_of_mem_members listed contained
  exact map_key_memberReports located
    (isSome_declarationOf?_of_mem_members listed contained located)

/-- A group has a canonical overload with a symbol, or no proposals. -/
theorem exists_longest_or_groupReports_eq_nil (severity : Severity)
    (listed : group ∈ groups program owner) :
    (∃ canonicalId canonical, Longest program group.members canonicalId ∧
      program.member? canonicalId = some canonical) ∨
      groupReports program severity owner group = [] := by
  unfold groupReports
  cases chosen : canonical? program group.members with
  | none => exact .inr rfl
  | some canonicalId =>
      have longest := (canonical?_eq_some_iff (nodup_members_of_mem_groups listed)).mp chosen
      obtain ⟨canonical, found, _, _⟩ := exists_symbol_of_mem_members listed longest.mem
      exact .inl ⟨canonicalId, canonical, longest, found⟩

theorem mem_groupKeys_iff {kind : String} :
    (id, kind) ∈ groupKeys program owner members canonicalId canonical ↔
      (id = canonicalId ∧ kind = "virtual" ∧
        canonical.containingType = some owner ∧ canBeVirtual program canonical = true) ∨
      (id ∈ members ∧ id ≠ canonicalId ∧ ∃ member, program.member? id = some member ∧
        kind ∈ memberKinds program owner members canonical id member) := by
  unfold groupKeys
  rw [List.mem_append, List.mem_flatMap]
  apply or_congr
  · split
    · next holds => simp_all
    · next fails => simp_all
  · constructor
    · rintro ⟨other, kept, mem⟩
      obtain ⟨rfl, member, found, kindMem⟩ := mem_memberKeys_iff.mp mem
      obtain ⟨contained, different⟩ := List.mem_filter.mp kept
      exact ⟨contained, by simpa using different, member, found, kindMem⟩
    · rintro ⟨contained, different, member, found, kindMem⟩
      exact ⟨id, List.mem_filter.mpr ⟨contained, by simpa using different⟩,
        mem_memberKeys_iff.mpr ⟨rfl, member, found, kindMem⟩⟩

theorem nodup_groupKeys (distinct : members.Nodup) :
    (groupKeys program owner members canonicalId canonical).Nodup := by
  unfold groupKeys
  refine List.nodup_append.mpr ⟨by split <;> simp, ?_, ?_⟩
  · rw [List.nodup_flatMap]
    refine ⟨fun id _ => nodup_memberKeys program owner members canonical id, ?_⟩
    refine (distinct.filter _).imp ?_
    intro left right different key inLeft inRight
    have leftId := (mem_memberKeys_iff.mp inLeft).1
    have rightId := (mem_memberKeys_iff.mp inRight).1
    exact different (leftId.symm.trans rightId)
  · -- The canonical overload is reported for a kind that no other overload is.
    intro own ownMem other otherMem same
    obtain ⟨id, _, mem⟩ := List.mem_flatMap.mp otherMem
    obtain ⟨_, member, _, kindMem⟩ := mem_memberKeys_iff.mp mem
    have virtualKind : own.2 = "virtual" := by
      split at ownMem
      · rw [List.mem_singleton.mp ownMem]
      · cases ownMem
    rw [same] at virtualKind
    exact ne_virtual_of_mem_memberKinds kindMem virtualKind

/-- A group is reported at its own members, no two of them twice for one kind. -/
theorem nodup_groupReports (severity : Severity) (listed : group ∈ groups program owner) :
    ((groupReports program severity owner group).map Proposal.key).Nodup ∧
      ∀ key ∈ (groupReports program severity owner group).map Proposal.key,
        key.1 ∈ group.members := by
  rcases exists_longest_or_groupReports_eq_nil severity listed with
    ⟨canonicalId, canonical, longest, found⟩ | none
  · rw [map_key_groupReports listed longest found]
    refine ⟨nodup_groupKeys (nodup_members_of_mem_groups listed), ?_⟩
    intro key mem
    rcases mem_groupKeys_iff.mp mem with ⟨same, _⟩ | ⟨contained, _⟩
    · exact same ▸ longest.mem
    · exact contained
  · simp [none]

/-! ## Types -/

/-- A type is reported through one of its groups. -/
theorem mem_map_key_typeReports_iff {key : MemberId × String} :
    key ∈ (typeReports program severity owner).map Proposal.key ↔
      (∃ symbol, program.type? owner = some symbol ∧ isExempt symbol = false) ∧
        ∃ group ∈ groups program owner, ∃ canonicalId canonical,
          Longest program group.members canonicalId ∧
          program.member? canonicalId = some canonical ∧
          key ∈ groupKeys program owner group.members canonicalId canonical := by
  unfold typeReports
  split
  · next asked =>
      have typed : ∃ symbol, program.type? owner = some symbol ∧ isExempt symbol = false := by
        simpa [Option.any_eq_true] using asked
      rw [List.map_flatMap, List.mem_flatMap]
      constructor
      · rintro ⟨group, listed, mem⟩
        rcases exists_longest_or_groupReports_eq_nil severity listed with
          ⟨canonicalId, canonical, longest, found⟩ | none
        · rw [map_key_groupReports listed longest found] at mem
          exact ⟨typed, group, listed, canonicalId, canonical, longest, found, mem⟩
        · rw [none] at mem
          cases mem
      · rintro ⟨_, group, listed, canonicalId, canonical, longest, found, mem⟩
        refine ⟨group, listed, ?_⟩
        rw [map_key_groupReports listed longest found]
        exact mem
  · next unasked =>
      constructor
      · intro mem
        cases mem
      · rintro ⟨⟨symbol, typed, asked⟩, _⟩
        simp [typed, asked] at unasked

theorem containingType_of_mem_typeReports {key : MemberId × String}
    (mem : key ∈ (typeReports program severity owner).map Proposal.key) :
    ∃ member, program.member? key.1 = some member ∧ member.containingType = some owner := by
  obtain ⟨_, group, _, canonicalId, canonical, _, found, keyMem⟩ :=
    mem_map_key_typeReports_iff.mp mem
  rcases mem_groupKeys_iff.mp keyMem with ⟨same, _, own, _⟩ | ⟨_, _, member, located, kindMem⟩
  · exact ⟨canonical, same ▸ found, own⟩
  · refine ⟨member, located, ?_⟩
    unfold memberKinds at kindMem
    split at kindMem
    · next asked =>
        simp only [isAsked, Bool.and_eq_true, beq_iff_eq] at asked
        exact asked.1.1.1
    · cases kindMem

/-- The groups of a type have no members in common. -/
theorem nodup_flatMap_groupReports (program : Program) (severity : Severity) (owner : TypeId) :
    (((groups program owner).flatMap (groupReports program severity owner)).map
      Proposal.key).Nodup := by
  rw [List.map_flatMap, List.nodup_flatMap]
  refine ⟨fun group listed => (nodup_groupReports severity listed).1, ?_⟩
  refine (pairwise_groups program owner).imp_of_mem ?_
  intro left right leftListed rightListed disjoint key inLeft inRight
  exact disjoint key.1 ((nodup_groupReports severity leftListed).2 key inLeft)
    ((nodup_groupReports severity rightListed).2 key inRight)

theorem nodup_typeReports (program : Program) (severity : Severity) (owner : TypeId) :
    ((typeReports program severity owner).map Proposal.key).Nodup := by
  unfold typeReports
  split
  · exact nodup_flatMap_groupReports program severity owner
  · exact List.nodup_nil

/-- No member is reported twice for one kind, whichever types are asked. -/
theorem nodup_flatMap_typeReports (program : Program) (severity : Severity)
    {owners : List TypeId} (distinct : owners.Nodup) :
    ((owners.flatMap (typeReports program severity)).map Proposal.key).Nodup := by
  rw [List.map_flatMap, List.nodup_flatMap]
  refine ⟨fun owner _ => nodup_typeReports program severity owner, ?_⟩
  refine distinct.imp ?_
  intro left right different key inLeft inRight
  obtain ⟨member, found, leftOwner⟩ := containingType_of_mem_typeReports inLeft
  obtain ⟨other, located, rightOwner⟩ := containingType_of_mem_typeReports inRight
  rw [found] at located
  cases located
  exact different (Option.some.inj (leftOwner.symm.trans rightOwner))

/-! ## The rule -/

def Proposal.logged? (program : Program) (severity : Severity) (proposal : Proposal) :
    Option FindingLog.Entry :=
  (proposal.finding? program severity).map fun finding =>
    { anchor := .member proposal.id, kind := proposal.kind, finding }

theorem logProposal_eq_elim (program : Program) (severity : Severity) (log : FindingLog)
    (proposal : Proposal) :
    logProposal program severity log proposal =
      (proposal.logged? program severity).elim log log.addEntry := by
  unfold logProposal Proposal.logged? Proposal.finding?
  cases Suppression.apply (memberAttributes program proposal.member) ruleName
    (severity == .error) proposal.finding <;> rfl

/-- Proposals that differ in member or kind keep differing in the log. -/
theorem nodup_entries {proposals : List Proposal}
    (distinct : (proposals.map Proposal.key).Nodup) :
    ((proposals.filterMap (Proposal.logged? program severity)).map
      FindingLog.Entry.key).Nodup := by
  rw [List.Nodup, List.pairwise_map] at distinct
  rw [List.Nodup, List.pairwise_map, List.pairwise_filterMap]
  refine distinct.imp ?_
  intro left right different leftEntry leftLogged rightEntry rightLogged same
  obtain ⟨leftFinding, _, rfl⟩ := Option.map_eq_some_iff.mp leftLogged
  obtain ⟨rightFinding, _, rfl⟩ := Option.map_eq_some_iff.mp rightLogged
  obtain ⟨sameAnchor, sameKind⟩ := Prod.mk.inj same
  exact different (Prod.ext (Anchor.member.inj sameAnchor) sameKind)

/-- Asked of a type that is not exempt, the rule reports the proposals about its
groups as far as they are not suppressed. -/
theorem run_check_of_asked {scope : TypeScope} (asked : isExempt scope.symbol = false) :
    (check severity scope).run answer =
      .ok (((groups scope.program scope.id).flatMap
        (groupReports scope.program severity scope.id)).filterMap
          (Proposal.finding? scope.program severity)) := by
  have values := Pass.run_each_of_ok answer (groupProposals scope severity)
    (groupReports scope.program severity scope.id) (groups scope.program scope.id)
    fun group _ => run_groupProposals answer scope group
  simp only [check, asked, Bool.false_eq_true, if_false, Pass.run_bind, values, Except.bind,
    Pass.run_pure, ← List.flatMap_def]
  rw [FindingLog.findings_foldl (Proposal.logged? scope.program severity)
    (logProposal_eq_elim scope.program severity)
    (nodup_entries (nodup_flatMap_groupReports _ _ _)), List.map_filterMap]
  congr 2
  funext proposal
  simp [Proposal.logged?, Function.comp_def]

/-- Asked of a type of the program, the rule reports its proposals as far as they
are not suppressed. -/
theorem run_check {scope : TypeScope}
    (typed : scope.program.type? scope.id = some scope.symbol) :
    (check severity scope).run answer =
      .ok ((typeReports scope.program severity scope.id).filterMap
        (Proposal.finding? scope.program severity)) := by
  cases exempt : isExempt scope.symbol with
  | true => simp [check, exempt, typeReports, typed]
  | false =>
      have reports : typeReports scope.program severity scope.id =
          (groups scope.program scope.id).flatMap
            (groupReports scope.program severity scope.id) := by
        simp [typeReports, typed, exempt]
      rw [run_check_of_asked answer exempt, reports]

/-- The proposals about a type of which the rule is told. -/
def scopeReports (severity : Severity) (scope : TypeScope) : List Proposal :=
  if isExempt scope.symbol then []
  else (groups scope.program scope.id).flatMap (groupReports scope.program severity scope.id)

theorem scopeReports_eq_typeReports (severity : Severity) {scope : TypeScope}
    (typed : scope.program.type? scope.id = some scope.symbol) :
    scopeReports severity scope = typeReports scope.program severity scope.id := by
  unfold scopeReports typeReports
  rw [typed, Option.any_some]
  cases isExempt scope.symbol <;> rfl

/-- Whatever type it is told of, the rule reports the proposals about it as far as
they are not suppressed. -/
theorem run_check_eq_scopeReports (severity : Severity) (scope : TypeScope) :
    (check severity scope).run answer =
      .ok ((scopeReports severity scope).filterMap
        (Proposal.finding? scope.program severity)) := by
  unfold scopeReports
  cases exempt : isExempt scope.symbol with
  | true =>
      unfold check
      rw [exempt]
      rfl
  | false => exact run_check_of_asked answer exempt

/-! ## Anchors -/

/-- The proposal carries the code of the rule and is about a member with a declaration. -/
structure Proposal.IsAnchored (program : Program) (proposal : Proposal) : Prop where
  code : proposal.finding.code = Overload.code
  declared : (program.declarationOf? proposal.member).isSome

section Anchors

variable {proposal : Proposal}

theorem isAnchored_of_mem_overloadProposal (declared : (program.declarationOf? member).isSome)
    {kind message suggestion : String}
    (listed : proposal ∈
      overloadProposal program severity canonical id member kind message suggestion) :
    proposal.IsAnchored program := by
  obtain ⟨location, _, rfl⟩ := List.mem_map.mp listed
  exact ⟨rfl, declared⟩

theorem isAnchored_of_mem_canonicalReports
    (declared : (program.declarationOf? canonical).isSome)
    (listed : proposal ∈ canonicalReports program severity owner canonical id) :
    proposal.IsAnchored program := by
  unfold canonicalReports at listed
  split at listed
  · obtain ⟨location, _, rfl⟩ := List.mem_map.mp listed
    exact ⟨rfl, declared⟩
  · cases listed

theorem isAnchored_of_mem_memberReports (found : program.member? id = some member)
    (declared : (program.declarationOf? member).isSome)
    (listed : proposal ∈ memberReports program severity owner members canonical id) :
    proposal.IsAnchored program := by
  unfold memberReports orderProposal at listed
  simp only [found] at listed
  split at listed
  · rcases List.mem_append.mp listed with delegation | order
    · split at delegation
      · cases delegation
      · exact isAnchored_of_mem_overloadProposal declared delegation
    · split at order
      · cases order
      · exact isAnchored_of_mem_overloadProposal declared order
  · cases listed

theorem isAnchored_of_mem_groupReports (grouped : group ∈ groups program owner)
    (listed : proposal ∈ groupReports program severity owner group) :
    proposal.IsAnchored program := by
  rcases exists_longest_or_groupReports_eq_nil severity grouped with
    ⟨canonicalId, canonical, longest, found⟩ | none
  · have chosen := (canonical?_eq_some_iff (nodup_members_of_mem_groups grouped)).mpr longest
    unfold groupReports at listed
    simp only [chosen, found, Option.bind_some, Option.map_some, Option.getD_some] at listed
    rcases List.mem_append.mp listed with own | others
    · exact isAnchored_of_mem_canonicalReports
        (isSome_declarationOf?_of_mem_members grouped longest.mem found) own
    · obtain ⟨id, kept, reported⟩ := List.mem_flatMap.mp others
      have contained := List.mem_of_mem_filter kept
      obtain ⟨member, located, _, _⟩ := exists_symbol_of_mem_members grouped contained
      exact isAnchored_of_mem_memberReports located
        (isSome_declarationOf?_of_mem_members grouped contained located) reported
  · rw [none] at listed
    cases listed

theorem isAnchored_of_mem_scopeReports {scope : TypeScope}
    (listed : proposal ∈ scopeReports severity scope) : proposal.IsAnchored scope.program := by
  unfold scopeReports at listed
  split at listed
  · cases listed
  · obtain ⟨group, grouped, reported⟩ := List.mem_flatMap.mp listed
    exact isAnchored_of_mem_groupReports grouped reported

end Anchors

end StructureLint.Overload
