import StructureLint.Proofs.Program.Normalization
import StructureLint.Proofs.Program.Orbit
import StructureLint.Proofs.Rule.Overload.Group

/-!
Contract: the groups of a type hold what they should, and nothing else.

The members that a type has from its base chain stand in an order: the most
derived type first, and within a type as in the program.  Of the members that
take part in groups, the first one of each name and list of parameter types is
kept.  A group is made of all that is kept under one name, if that is more than
one member.

Owns:
- the order of a type's members, own and inherited;
- who takes part and who is kept, without reference to how groups are built;
- soundness and completeness of groups.

Does not own: what is asked of a group.
-/

namespace StructureLint.Overload

open Program

/-! ## The order of members -/

/-- The members that the types of a base chain declare, type by type. -/
def lineage (program : Program) (owner : TypeId) : List MemberId :=
  (program.baseChain owner).flatMap program.membersOf

/-- The member is declared in the type at that depth of the base chain. -/
def Placed (program : Program) (owner : TypeId) (id : MemberId) (depth : Nat) : Prop :=
  ∃ member type, program.member? id = some member ∧ member.containingType = some type ∧
    (program.baseChain owner)[depth]? = some type

/-- The first member belongs to a more derived type, or comes first in the one
type that both belong to. -/
def Precedes (program : Program) (owner : TypeId) (first second : MemberId) : Prop :=
  ∃ shallow deep, Placed program owner first shallow ∧ Placed program owner second deep ∧
    (shallow < deep ∨ shallow = deep ∧ first.index < second.index)

/-- What normalization makes of the members that a type has from its base chain:
they are listed by their places in the program, type by type.  As long as their
numbers can tell all members of the program apart, these are the members that are
declared in the types of the chain, in order. -/
structure LineageOrdered (program normalized : Program) (owner : TypeId) : Prop where
  places : lineage normalized owner =
    ((normalized.baseChain owner).flatMap program.memberPositions).map memberAt
  mem_iff (fits : program.members.length ≤ UInt32.size) (id : MemberId) :
    id ∈ lineage normalized owner ↔ ∃ depth, Placed normalized owner id depth
  ordered (fits : program.members.length ≤ UInt32.size) :
    (lineage normalized owner).Pairwise (Precedes normalized owner)

section Normalized

variable {program normalized : Program} {owner : TypeId} {id : MemberId}
  (indexed : Indexed program normalized)

include indexed

theorem member?_of_indexed : normalized.member? id = program.member? id := by
  rw [member?, member?, indexed.members]

/-- A member that a type of the chain declares is listed, whatever its number. -/
theorem mem_lineage_of_placed {depth : Nat} (placed : Placed normalized owner id depth) :
    id ∈ lineage normalized owner := by
  obtain ⟨member, type, found, contained, located⟩ := placed
  rw [member?_of_indexed indexed] at found
  refine List.mem_flatMap.mpr ⟨type, List.mem_of_getElem? located, ?_⟩
  rw [indexed.membersOf_eq]
  exact List.mem_map.mpr
    ⟨id.index.toNat, mem_memberPositions_iff.mpr ⟨member, found, contained⟩, by simp [memberAt]⟩

theorem placed_of_mem_membersOf (fits : program.members.length ≤ UInt32.size) {type : TypeId}
    {depth : Nat} (located : (normalized.baseChain owner)[depth]? = some type)
    (listed : id ∈ normalized.membersOf type) : Placed normalized owner id depth := by
  obtain ⟨member, found, contained⟩ := (indexed.mem_membersOf_iff type fits id).mp listed
  exact ⟨member, type, (member?_of_indexed indexed).trans found, contained, located⟩

theorem pairwise_lineage (fits : program.members.length ≤ UInt32.size) :
    (lineage normalized owner).Pairwise (Precedes normalized owner) := by
  refine List.pairwise_flatMap.mpr ⟨?_, ?_⟩
  · intro type inChain
    obtain ⟨depth, located⟩ := List.mem_iff_getElem?.mp inChain
    refine (indexed.ascending type fits).imp_of_mem ?_
    intro first second firstListed secondListed ascending
    exact ⟨depth, depth, placed_of_mem_membersOf indexed fits located firstListed,
      placed_of_mem_membersOf indexed fits located secondListed, .inr ⟨rfl, ascending⟩⟩
  · rw [List.pairwise_iff_getElem]
    intro shallow deep shallowBound deepBound deeper first firstListed second secondListed
    exact ⟨shallow, deep,
      placed_of_mem_membersOf indexed fits (List.getElem?_eq_getElem shallowBound) firstListed,
      placed_of_mem_membersOf indexed fits (List.getElem?_eq_getElem deepBound) secondListed,
      .inl deeper⟩

theorem lineageOrdered (owner : TypeId) : LineageOrdered program normalized owner where
  places := by
    unfold lineage
    rw [List.map_flatMap]
    exact List.flatMap_congr fun type _ => indexed.membersOf_eq type
  mem_iff fits id := by
    constructor
    · intro listed
      obtain ⟨type, inChain, member⟩ := List.mem_flatMap.mp listed
      obtain ⟨depth, located⟩ := List.mem_iff_getElem?.mp inChain
      exact ⟨depth, placed_of_mem_membersOf indexed fits located member⟩
    · rintro ⟨depth, placed⟩
      exact mem_lineage_of_placed indexed placed
  ordered fits := pairwise_lineage indexed fits

end Normalized

/-! ## Who takes part -/

variable {program : Program} {owner : TypeId} {id other : MemberId}
  {member : MemberSymbol} {entry : MemberId × MemberSymbol}

/-- A proper base of the type is a controller. -/
def DerivesFromController (program : Program) (owner : TypeId) : Prop :=
  ∃ base ∈ program.baseChain owner, base ≠ owner ∧ ∃ symbol, program.type? base = some symbol ∧
    ∃ name ∈ controllerBases, Name.simple name = Name.simple symbol.name

/-- The member would answer requests in a controller: it is public, not static, and
not marked as something else. -/
def AnswersRequests (member : MemberSymbol) (declaration : Declaration) : Prop :=
  member.accessibility = .publicAccess ∧ member.isStatic = false ∧
    ∀ mark ∈ declaration.attributes, Name.ofAttribute "NonAction" ≠ Name.ofAttribute mark.name

/-- The member takes part in the groups of a type: it is a method with a body that
does not answer requests. -/
structure TakesPart (program : Program) (owner : TypeId) (member : MemberSymbol) : Prop where
  regular : member.kind = .ordinary ∨ member.kind = .explicitInterfaceImplementation ∨
    member.kind = .reducedExtension
  bodied : ∃ declaration body, program.declarationOf? member = some declaration ∧
    declaration.body = some body ∧
    (DerivesFromController program owner → ¬ AnswersRequests member declaration)

theorem isController_iff :
    isController program owner = true ↔ DerivesFromController program owner := by
  simp only [isController, List.any_eq_true, mem_drop_baseChain_iff, DerivesFromController,
    Option.any_eq_true, Name.matchesAny, beq_iff_eq, and_assoc]

theorem isAction_iff {declaration : Declaration} :
    isAction member declaration = true ↔ AnswersRequests member declaration := by
  simp [isAction, AnswersRequests, Attribute.find?, Attribute.isNamed, nonActionMarks, and_assoc]

theorem isRegularMethod_iff {kind : MemberKind} :
    kind.isRegularMethod = true ↔ kind = .ordinary ∨ kind = .explicitInterfaceImplementation ∨
      kind = .reducedExtension := by
  cases kind <;> simp [MemberKind.isRegularMethod]

theorem isCandidate_iff :
    isCandidate program (isController program owner) member = true ↔
      TakesPart program owner member := by
  have spared (declaration : Declaration) :
      (!(isController program owner && isAction member declaration)) = true ↔
        (DerivesFromController program owner → ¬ AnswersRequests member declaration) := by
    rw [← isController_iff, ← isAction_iff]
    cases isController program owner <;> simp
  simp only [isCandidate, Bool.and_eq_true, Option.any_eq_true, isRegularMethod_iff,
    Option.isSome_iff_exists, spared]
  constructor
  · rintro ⟨regular, declaration, found, ⟨body, bodied⟩, free⟩
    exact ⟨regular, declaration, body, found, bodied, free⟩
  · rintro ⟨regular, declaration, body, found, bodied, free⟩
    exact ⟨regular, declaration, found, ⟨body, bodied⟩, free⟩

/-- The member with its symbol, if it takes part. -/
def candidate? (program : Program) (owner : TypeId) (id : MemberId) :
    Option (MemberId × MemberSymbol) :=
  (program.member? id).bind fun member =>
    if isCandidate program (isController program owner) member then some (id, member) else none

theorem candidates_eq_filterMap (program : Program) (owner : TypeId) :
    candidates program owner = (lineage program owner).filterMap (candidate? program owner) :=
  rfl

theorem candidate?_eq_some_iff :
    candidate? program owner id = some entry ↔
      id = entry.1 ∧ program.member? id = some entry.2 ∧ TakesPart program owner entry.2 := by
  simp only [candidate?, Option.bind_eq_some_iff, ← isCandidate_iff]
  constructor
  · rintro ⟨member, found, kept⟩
    split at kept
    · next takesPart =>
        cases kept
        exact ⟨rfl, found, takesPart⟩
    · cases kept
  · rintro ⟨same, found, takesPart⟩
    exact ⟨entry.2, found, by rw [if_pos takesPart, same]⟩

/-! ## Who is kept -/

/-- Both members have one name and one list of parameter types. -/
def SameSignature (first second : MemberSymbol) : Prop :=
  first.name = second.name ∧ first.parameterTypes = second.parameterTypes

theorem sameSignature_iff {first second : MemberSymbol} :
    sameSignature first second = true ↔ SameSignature first second := by
  simp [sameSignature, SameSignature, MemberSymbol.sameParameterTypes]

theorem SameSignature.trans {first second third : MemberSymbol}
    (left : SameSignature first second) (right : SameSignature second third) :
    SameSignature first third :=
  ⟨left.1.trans right.1, left.2.trans right.2⟩

/-- The member is kept under its name: it takes part, and no member in front of it
that takes part has its signature. -/
def Kept (program : Program) (owner : TypeId) (id : MemberId) (member : MemberSymbol) : Prop :=
  program.member? id = some member ∧ TakesPart program owner member ∧
    ∃ before behind, lineage program owner = before ++ id :: behind ∧
      ∀ other ∈ before, ∀ symbol, program.member? other = some symbol →
        TakesPart program owner symbol → ¬ SameSignature symbol member

/-- Every candidate has its signature among those that are kept. -/
theorem exists_mem_foldl_sameSignature (entries : List (MemberId × MemberSymbol))
    (listed : entry ∈ entries) :
    ∃ kept ∈ entries.foldl keepUnshadowed [], SameSignature kept.2 entry.2 := by
  induction entries using List.reverseRecOn with
  | nil => exact absurd listed List.not_mem_nil
  | append_singleton front last inductionHypothesis =>
      rw [List.foldl_append, List.foldl_cons, List.foldl_nil, keepUnshadowed]
      rcases List.mem_append.mp listed with earlier | single
      · obtain ⟨kept, member, same⟩ := inductionHypothesis earlier
        split
        · exact ⟨kept, member, same⟩
        · exact ⟨kept, List.mem_append_left _ member, same⟩
      · cases List.mem_singleton.mp single
        split
        · next shadowed =>
            obtain ⟨kept, member, same⟩ := List.any_eq_true.mp shadowed
            exact ⟨kept, member, sameSignature_iff.mp same⟩
        · exact ⟨entry, List.mem_append_right _ (List.mem_singleton_self _), rfl, rfl⟩

/-- A candidate is shadowed by one that was kept exactly if one in front of it has
its signature. -/
theorem any_foldl_sameSignature_iff (entry : MemberId × MemberSymbol)
    (entries : List (MemberId × MemberSymbol)) :
    ((entries.foldl keepUnshadowed []).any fun kept => sameSignature kept.2 entry.2) = true ↔
      ∃ earlier ∈ entries, SameSignature earlier.2 entry.2 := by
  rw [List.any_eq_true]
  constructor
  · rintro ⟨kept, member, same⟩
    exact ⟨kept, (foldl_keepUnshadowed_sublist entries []).subset member,
      sameSignature_iff.mp same⟩
  · rintro ⟨earlier, member, same⟩
    obtain ⟨kept, keptMember, keptSame⟩ := exists_mem_foldl_sameSignature entries member
    exact ⟨kept, keptMember, sameSignature_iff.mpr (keptSame.trans same)⟩

/-- What is kept of a list has nothing of its signature in front of it. -/
theorem mem_foldl_keepUnshadowed_iff (entries : List (MemberId × MemberSymbol)) :
    entry ∈ entries.foldl keepUnshadowed [] ↔
      ∃ before behind, entries = before ++ entry :: behind ∧
        ∀ earlier ∈ before, ¬ SameSignature earlier.2 entry.2 := by
  induction entries using List.reverseRecOn with
  | nil => simp
  | append_singleton front last inductionHypothesis =>
      have shadowing := any_foldl_sameSignature_iff last front
      rw [List.foldl_append, List.foldl_cons, List.foldl_nil, keepUnshadowed]
      constructor
      · intro member
        have split : entry ∈ front.foldl keepUnshadowed [] ∨ entry = last ∧
            ∀ earlier ∈ front, ¬ SameSignature earlier.2 last.2 := by
          split at member
          · exact .inl member
          · next unshadowed =>
              rcases List.mem_append.mp member with earlier | single
              · exact .inl earlier
              · refine .inr ⟨List.mem_singleton.mp single, fun earlier listed same => ?_⟩
                exact unshadowed (shadowing.mpr ⟨earlier, listed, same⟩)
        rcases split with kept | ⟨rfl, alone⟩
        · obtain ⟨before, behind, rfl, alone⟩ := inductionHypothesis.mp kept
          exact ⟨before, behind ++ [last], by simp, alone⟩
        · exact ⟨front, [], rfl, alone⟩
      · rintro ⟨before, behind, whole, alone⟩
        rcases List.eq_nil_or_concat behind with rfl | ⟨middle, final, rfl⟩
        · obtain ⟨rfl, single⟩ := List.append_inj' whole rfl
          cases single
          rw [if_neg fun shadowed => ?_]
          · exact List.mem_append_right _ (List.mem_singleton_self _)
          · obtain ⟨earlier, listed, same⟩ := shadowing.mp shadowed
            exact alone earlier listed same
        · have parts : front ++ [last] = (before ++ entry :: middle) ++ [final] := by
            simpa using whole
          obtain ⟨rfl, _⟩ := List.append_inj' parts rfl
          have kept := inductionHypothesis.mpr ⟨before, middle, rfl, alone⟩
          split
          · exact kept
          · exact List.mem_append_left _ kept

/-- The overloads of a type are the members that are kept. -/
theorem mem_overloads_iff : (id, member) ∈ overloads program owner ↔
    Kept program owner id member := by
  rw [overloads, mem_foldl_keepUnshadowed_iff, candidates_eq_filterMap]
  constructor
  · rintro ⟨before, behind, parted, alone⟩
    obtain ⟨front, rest, whole, rfl, found⟩ := List.filterMap_eq_append_iff.mp parted
    obtain ⟨skipped, first, last, rfl, absent, chosen, rfl⟩ := List.filterMap_eq_cons_iff.mp found
    obtain ⟨rfl, located, takesPart⟩ := candidate?_eq_some_iff.mp chosen
    refine ⟨located, takesPart, front ++ skipped, last, by simp [whole], ?_⟩
    intro other inFront symbol symbolFound symbolTakesPart
    have listed : candidate? program owner other = some (other, symbol) :=
      candidate?_eq_some_iff.mpr ⟨rfl, symbolFound, symbolTakesPart⟩
    rcases List.mem_append.mp inFront with early | late
    · exact alone (other, symbol) (List.mem_filterMap.mpr ⟨other, early, listed⟩)
    · rw [absent other late] at listed
      cases listed
  · rintro ⟨located, takesPart, before, behind, whole, alone⟩
    have chosen : candidate? program owner id = some (id, member) :=
      candidate?_eq_some_iff.mpr ⟨rfl, located, takesPart⟩
    refine ⟨before.filterMap (candidate? program owner),
      behind.filterMap (candidate? program owner), ?_, ?_⟩
    · rw [whole, List.filterMap_append, List.filterMap_cons_some chosen]
    · intro earlier listed
      obtain ⟨other, inFront, otherChosen⟩ := List.mem_filterMap.mp listed
      obtain ⟨rfl, found, earlierTakesPart⟩ := candidate?_eq_some_iff.mp otherChosen
      exact alone _ inFront _ found earlierTakesPart

/-- One that takes part has a kept one of its signature no later than itself. -/
theorem exists_kept_of_mem {before behind : List MemberId}
    (whole : lineage program owner = before ++ behind) (listed : id ∈ before)
    (found : program.member? id = some member) (takesPart : TakesPart program owner member) :
    ∃ other ∈ before, ∃ symbol, Kept program owner other symbol ∧
      SameSignature symbol member := by
  have chosen : candidate? program owner id = some (id, member) :=
    candidate?_eq_some_iff.mpr ⟨rfl, found, takesPart⟩
  obtain ⟨kept, inFold, same⟩ := exists_mem_foldl_sameSignature _
    (List.mem_filterMap.mpr ⟨id, listed, chosen⟩)
  obtain ⟨front, rest, parted, alone⟩ := (mem_foldl_keepUnshadowed_iff _).mp inFold
  -- What is in front of it among the first members is all that is in front of it.
  have overload : (kept.1, kept.2) ∈ overloads program owner := by
    refine (mem_foldl_keepUnshadowed_iff _).mpr
      ⟨front, rest ++ behind.filterMap (candidate? program owner), ?_, alone⟩
    rw [candidates_eq_filterMap, whole, List.filterMap_append, parted]
    simp
  have inFront : kept ∈ before.filterMap (candidate? program owner) := by
    rw [parted]
    exact List.mem_append_right _ List.mem_cons_self
  obtain ⟨other, otherListed, otherChosen⟩ := List.mem_filterMap.mp inFront
  obtain ⟨rfl, _⟩ := candidate?_eq_some_iff.mp otherChosen
  exact ⟨kept.1, otherListed, kept.2, mem_overloads_iff.mp overload, same⟩

/-- One that takes part is kept, or shadowed by a kept one in front of it. -/
theorem kept_or_shadowed (listed : id ∈ lineage program owner)
    (found : program.member? id = some member) (takesPart : TakesPart program owner member) :
    Kept program owner id member ∨ ∃ other symbol, Kept program owner other symbol ∧
      [other, id].Sublist (lineage program owner) ∧ SameSignature symbol member := by
  obtain ⟨before, behind, whole⟩ := List.append_of_mem listed
  by_cases alone : ∀ other ∈ before, ∀ symbol, program.member? other = some symbol →
      TakesPart program owner symbol → ¬ SameSignature symbol member
  · exact .inl ⟨found, takesPart, before, behind, whole, alone⟩
  · push Not at alone
    obtain ⟨earlier, inFront, earlierSymbol, earlierFound, earlierTakesPart, alike⟩ := alone
    obtain ⟨other, otherInFront, symbol, kept, same⟩ :=
      exists_kept_of_mem whole inFront earlierFound earlierTakesPart
    refine .inr ⟨other, symbol, kept, ?_, same.trans alike⟩
    rw [whole]
    exact (List.singleton_sublist.mpr otherInFront).append
      (List.singleton_sublist.mpr List.mem_cons_self)

/-! ## Groups -/

/-- A group holds, in order, all members that are kept under its name. -/
structure SoundGroup (program : Program) (owner : TypeId) (group : Group) : Prop where
  plural : 2 ≤ group.members.length
  mem_iff : ∀ id, id ∈ group.members ↔
    ∃ member, Kept program owner id member ∧ member.name = group.name
  inherited : group.members.Sublist (lineage program owner)
  distinct : group.members.Nodup
  unlike : group.members.Pairwise fun first second =>
    (program.member? first).map MemberSymbol.parameterTypes ≠
      (program.member? second).map MemberSymbol.parameterTypes

theorem map_fst_candidates (program : Program) (owner : TypeId) :
    (candidates program owner).map Prod.fst =
      (lineage program owner).filter fun id => (candidate? program owner id).isSome := by
  rw [candidates_eq_filterMap]
  induction lineage program owner with
  | nil => rfl
  | cons id rest inductionHypothesis =>
      cases chosen : candidate? program owner id with
      | none =>
          rw [List.filterMap_cons_none chosen, List.filter_cons_of_neg (by simp [chosen]),
            inductionHypothesis]
      | some entry =>
          rw [List.filterMap_cons_some chosen, List.filter_cons_of_pos (by simp [chosen]),
            List.map_cons, inductionHypothesis, (candidate?_eq_some_iff.mp chosen).1]

theorem map_fst_overloads_sublist (program : Program) (owner : TypeId) :
    ((overloads program owner).map Prod.fst).Sublist (lineage program owner) := by
  have kept := foldl_keepUnshadowed_sublist (candidates program owner) []
  refine (kept.map Prod.fst).trans ?_
  rw [List.nil_append, map_fst_candidates]
  exact List.filter_sublist

theorem pairwise_overloads (program : Program) (owner : TypeId) :
    (overloads program owner).Pairwise fun left right => ¬ SameSignature left.2 right.2 := by
  have apart : (overloads program owner).Pairwise fun left right =>
      ¬ sameSignature left.2 right.2 := pairwise_foldl_keepUnshadowed List.Pairwise.nil
  exact apart.imp fun unlike same => unlike (sameSignature_iff.mpr same)

theorem soundGroup_of_mem_groups {group : Group} (listed : group ∈ groups program owner) :
    SoundGroup program owner group where
  plural := by simpa using (List.mem_filter.mp listed).2
  mem_iff id := by
    rw [members_eq_of_mem_groups listed]
    simp only [List.mem_map, List.mem_filter, beq_iff_eq, Prod.exists, exists_and_right,
      exists_eq_right, mem_overloads_iff]
  inherited := by
    rw [members_eq_of_mem_groups listed]
    exact (List.filter_sublist.map _).trans (map_fst_overloads_sublist program owner)
  distinct := nodup_members_of_mem_groups listed
  unlike := by
    rw [members_eq_of_mem_groups listed, List.pairwise_map]
    refine ((pairwise_overloads program owner).filter _).imp_of_mem ?_
    intro first second firstListed secondListed unlike same
    obtain ⟨firstOverload, firstNamed⟩ := List.mem_filter.mp firstListed
    obtain ⟨secondOverload, secondNamed⟩ := List.mem_filter.mp secondListed
    rw [(mem_overloads firstOverload).1, (mem_overloads secondOverload).1] at same
    exact unlike ⟨(beq_iff_eq.mp firstNamed).trans (beq_iff_eq.mp secondNamed).symm,
      Option.some.inj same⟩

/-- A kept member is in the group of its name, or alone under its name. -/
theorem grouped_or_alone (kept : Kept program owner id member) :
    (∃ group ∈ groups program owner, group.name = member.name ∧ id ∈ group.members) ∨
      ∀ other symbol, Kept program owner other symbol → symbol.name = member.name →
        other = id := by
  have overload := mem_overloads_iff.mpr kept
  let namesakes := (overloads program owner).filter fun entry => entry.2.name == member.name
  have listed : (id, member) ∈ namesakes := List.mem_filter.mpr ⟨overload, beq_self_eq_true _⟩
  by_cases plural : 2 ≤ namesakes.length
  · refine .inl ⟨{ name := member.name, members := namesakes.map Prod.fst }, ?_, rfl,
      List.mem_map_of_mem listed⟩
    have named : member.name ∈ groupNames (overloads program owner) :=
      List.mem_mergeSort.mpr (List.mem_eraseDups.mpr
        (List.mem_map_of_mem (f := fun entry => entry.2.name) overload))
    exact List.mem_filter.mpr ⟨List.mem_map_of_mem named, by simpa using plural⟩
  · refine .inr ?_
    intro other symbol otherKept named
    have otherListed : (other, symbol) ∈ namesakes :=
      List.mem_filter.mpr ⟨mem_overloads_iff.mpr otherKept, beq_iff_eq.mpr named⟩
    have single : namesakes.length = 1 :=
      le_antisymm (by omega) (List.length_pos_of_mem listed)
    obtain ⟨only, whole⟩ := List.length_eq_one_iff.mp single
    rw [whole, List.mem_singleton] at listed otherListed
    exact congrArg Prod.fst (otherListed.trans listed.symm)

/-- Each name has at most one group.  A group has at least two members; these are
the members that take part in groups, are declared along the base chain and are
kept under the group's name, in order, and no two of them have the same parameter
types.  Conversely, a member that takes part is in the group of its name, or a kept
member in front of it has its name and parameter types, or it is the only one that
is kept under its name. -/
theorem groups_sound_and_complete {program normalized : Program}
    (accepted : program.normalize = .ok normalized) (owner : TypeId) :
    LineageOrdered program normalized owner ∧
    ((groups normalized owner).map Group.name).Nodup ∧
    (∀ group ∈ groups normalized owner, SoundGroup normalized owner group ∧
      (program.members.length ≤ UInt32.size →
        group.members.Pairwise (Precedes normalized owner))) ∧
    ∀ id member depth, normalized.member? id = some member → Placed normalized owner id depth →
      TakesPart normalized owner member →
      (∃ group ∈ groups normalized owner, group.name = member.name ∧ id ∈ group.members) ∨
      (∃ other symbol, Kept normalized owner other symbol ∧
        [other, id].Sublist (lineage normalized owner) ∧ SameSignature symbol member) ∨
      Kept normalized owner id member ∧ ∀ other symbol, Kept normalized owner other symbol →
        symbol.name = member.name → other = id := by
  have indexed := indexed_of_normalize accepted
  refine ⟨lineageOrdered indexed owner, nodup_names_groups normalized owner, ?sound, ?complete⟩
  case sound =>
    intro group listed
    have sound := soundGroup_of_mem_groups listed
    exact ⟨sound, fun fits => (pairwise_lineage indexed fits).sublist sound.inherited⟩
  case complete =>
    intro id member depth found placed takesPart
    rcases kept_or_shadowed (mem_lineage_of_placed indexed placed) found takesPart with
      kept | shadowed
    · rcases grouped_or_alone kept with grouped | alone
      · exact .inl grouped
      · exact .inr (.inr ⟨kept, alone⟩)
    · exact .inr (.inl shadowed)

/-- Two types that are each other's base.  The derived one's overloads stand behind
one of the base, and repeat the signature of another. -/
def circularReaders : Program :=
  let text : Parameter := { name := "text", typeName := "string" }
  let size : Parameter := { name := "size", typeName := "int" }
  let read (owner : TypeId) (parameters : List Parameter) : MemberSymbol :=
    { name := "Read", containingType := some owner, parameters, declaration := some ⟨0⟩ }
  { types := [{ name := "Reader", kind := .classType, baseType := some ⟨1⟩ },
      { name := "Source", kind := .classType, baseType := some ⟨0⟩ }]
    members := [read ⟨1⟩ [size], read ⟨0⟩ [text], read ⟨0⟩ [text, size], read ⟨1⟩ [text]]
    declarations := [
      { name := "Read", kind := .method, file := ⟨"Reader.cs"⟩
        body := some (.block (.ofStmts [])) }] }

/-- The same types with their members indexed and the one block numbered. -/
def indexedReaders : Program :=
  { circularReaders with
    declarations := ((numberDeclarations circularReaders.declarations).run 1).1
    memberIndex := circularReaders.buildIndex
    isNormalized := true }

def readGroup : Group :=
  { name := "Read", members := [⟨1⟩, ⟨2⟩, ⟨0⟩] }

theorem groups_sound_and_complete_circular :
    circularReaders.normalize = .ok indexedReaders ∧
      groups indexedReaders ⟨0⟩ = [readGroup] ∧ SoundGroup indexedReaders ⟨0⟩ readGroup ∧
      readGroup.members.Pairwise (Precedes indexedReaders ⟨0⟩) ∧
      Placed indexedReaders ⟨0⟩ ⟨3⟩ 1 ∧
      ∃ other symbol, Kept indexedReaders ⟨0⟩ other symbol ∧
        [other, ⟨3⟩].Sublist (lineage indexedReaders ⟨0⟩) ∧
        symbol.parameterTypes = ["string"] := by
  have accepted : circularReaders.normalize = .ok indexedReaders := rfl
  have only : groups indexedReaders ⟨0⟩ = [readGroup] := by cbv
  have placed : Placed indexedReaders ⟨0⟩ ⟨3⟩ 1 := ⟨_, ⟨1⟩, rfl, rfl, rfl⟩
  obtain ⟨_, _, sound, complete⟩ := groups_sound_and_complete accepted ⟨0⟩
  obtain ⟨readSound, readOrdered⟩ := sound readGroup (only ▸ List.mem_singleton_self _)
  refine ⟨accepted, only, readSound, readOrdered (by decide), placed, ?_⟩
  rcases complete ⟨3⟩ _ 1 rfl placed (isCandidate_iff.mp (by cbv)) with
    ⟨group, listed, _, contained⟩ | ⟨other, symbol, kept, before, _, alike⟩ | ⟨_, alone⟩
  · rw [only, List.mem_singleton] at listed
    rw [listed] at contained
    exact absurd contained (by decide)
  · exact ⟨other, symbol, kept, before, alike⟩
  · obtain ⟨first, firstKept, named⟩ := (readSound.mem_iff ⟨1⟩).mp (by decide)
    exact absurd (alone ⟨1⟩ first firstKept named) (by decide)

end StructureLint.Overload
