import Mathlib.Data.List.Induction
import Mathlib.Data.List.Nodup
import StructureLint.Rule.Overload.Group

/-!
Contract: who is in a group of overloads.

Shadowing keeps one overload for each name and list of parameter types, so a
member is in at most one group of a type, and in that group once.  The canonical
overload of a group is its only longest member.

Owns:
- the members of a group, with their symbols;
- separation of the groups of a type;
- the canonical overload in terms of parameter counts.

Does not own: what is asked of a group.
-/

namespace StructureLint.Overload

variable {program : Program} {owner : TypeId} {id : MemberId} {member : MemberSymbol}

/-! ## Overloads -/

theorem mem_candidates {entry : MemberId × MemberSymbol}
    (listed : entry ∈ candidates program owner) :
    program.member? entry.1 = some entry.2 ∧
      isCandidate program (isController program owner) entry.2 := by
  obtain ⟨memberId, _, chosen⟩ := List.mem_filterMap.mp listed
  obtain ⟨symbol, found, kept⟩ := Option.bind_eq_some_iff.mp chosen
  split at kept
  · next candidate =>
      cases kept
      exact ⟨found, candidate⟩
  · cases kept

/-- What is kept comes from what was there, in that order. -/
theorem foldl_keepUnshadowed_sublist (entries kept : List (MemberId × MemberSymbol)) :
    (entries.foldl keepUnshadowed kept).Sublist (kept ++ entries) := by
  induction entries generalizing kept with
  | nil => simp
  | cons entry rest inductionHypothesis =>
      rw [List.foldl_cons]
      refine (inductionHypothesis _).trans ?_
      unfold keepUnshadowed
      split
      · exact List.Sublist.append_left (List.sublist_cons_self _ _) _
      · simp

/-- No two kept overloads have one signature. -/
theorem pairwise_foldl_keepUnshadowed {entries kept : List (MemberId × MemberSymbol)}
    (different : kept.Pairwise fun left right => ¬ sameSignature left.2 right.2) :
    (entries.foldl keepUnshadowed kept).Pairwise fun left right =>
      ¬ sameSignature left.2 right.2 := by
  induction entries generalizing kept with
  | nil => exact different
  | cons entry rest inductionHypothesis =>
      rw [List.foldl_cons]
      apply inductionHypothesis
      unfold keepUnshadowed
      split
      · exact different
      · next unshadowed =>
          refine List.pairwise_append.mpr ⟨different, List.pairwise_singleton _ _, ?_⟩
          intro other listed last single
          cases List.mem_singleton.mp single
          intro same
          exact unshadowed (List.any_eq_true.mpr ⟨other, listed, same⟩)

theorem mem_overloads {entry : MemberId × MemberSymbol}
    (listed : entry ∈ overloads program owner) :
    program.member? entry.1 = some entry.2 ∧
      isCandidate program (isController program owner) entry.2 := by
  have sublist := foldl_keepUnshadowed_sublist (candidates program owner) []
  exact mem_candidates (sublist.subset listed)

/-- No member is an overload twice: it would shadow itself. -/
theorem nodup_overloads (program : Program) (owner : TypeId) :
    ((overloads program owner).map Prod.fst).Nodup := by
  rw [List.Nodup, List.pairwise_map]
  have different : (overloads program owner).Pairwise fun left right =>
      ¬ sameSignature left.2 right.2 := pairwise_foldl_keepUnshadowed List.Pairwise.nil
  refine different.imp_of_mem ?_
  intro left right leftListed rightListed unlike same
  have leftFound := (mem_overloads leftListed).1
  have rightFound := (mem_overloads rightListed).1
  have sameSymbol : left.2 = right.2 := by
    rw [same, rightFound] at leftFound
    exact (Option.some.inj leftFound).symm
  rw [sameSymbol] at unlike
  exact unlike (by simp [sameSignature, MemberSymbol.sameParameterTypes])

/-! ## Groups -/

theorem nodup_eraseDups (names : List String) : names.eraseDups.Nodup := by
  induction names using List.reverseRecOn with
  | nil => exact List.nodup_nil
  | append_singleton front last inductionHypothesis =>
      rw [List.eraseDups_append]
      by_cases seen : last ∈ front
      · simpa [List.removeAll, seen] using inductionHypothesis
      · have fresh : ([last].removeAll front).eraseDups = [last] := by
          simp [List.removeAll, seen, List.eraseDups_cons]
        rw [fresh, List.nodup_append]
        refine ⟨inductionHypothesis, List.nodup_singleton last, ?_⟩
        intro name earlier other single same
        rw [same, List.mem_singleton.mp single] at earlier
        exact seen (List.mem_eraseDups.mp earlier)

variable {group other : Group}

/-- A group holds the overloads of its name. -/
theorem members_eq_of_mem_groups (listed : group ∈ groups program owner) :
    group.members =
      ((overloads program owner).filter fun entry => entry.2.name == group.name).map Prod.fst := by
  obtain ⟨built, _⟩ := List.mem_filter.mp listed
  obtain ⟨name, _, rfl⟩ := List.mem_map.mp built
  rfl

theorem nodup_members_of_mem_groups (listed : group ∈ groups program owner) :
    group.members.Nodup := by
  rw [members_eq_of_mem_groups listed]
  exact (nodup_overloads program owner).sublist (List.filter_sublist.map _)

/-- The members of a group have symbols of the group's name, and bodies. -/
theorem exists_symbol_of_mem_members (listed : group ∈ groups program owner)
    (contained : id ∈ group.members) :
    ∃ member, program.member? id = some member ∧ member.name = group.name ∧
      isCandidate program (isController program owner) member := by
  rw [members_eq_of_mem_groups listed] at contained
  obtain ⟨entry, kept, rfl⟩ := List.mem_map.mp contained
  obtain ⟨overload, named⟩ := List.mem_filter.mp kept
  obtain ⟨found, candidate⟩ := mem_overloads overload
  exact ⟨entry.2, found, by simpa using named, candidate⟩

theorem isSome_declarationOf?_of_isCandidate {controller : Bool}
    (candidate : isCandidate program controller member) :
    (program.declarationOf? member).isSome := by
  unfold isCandidate at candidate
  cases found : program.declarationOf? member with
  | none => simp [found] at candidate
  | some declaration => rfl

/-- The members of a group are declared. -/
theorem isSome_declarationOf?_of_mem_members (listed : group ∈ groups program owner)
    (contained : id ∈ group.members) (found : program.member? id = some member) :
    (program.declarationOf? member).isSome := by
  obtain ⟨symbol, located, _, candidate⟩ := exists_symbol_of_mem_members listed contained
  rw [found] at located
  cases located
  exact isSome_declarationOf?_of_isCandidate candidate

theorem nodup_names_groups (program : Program) (owner : TypeId) :
    ((groups program owner).map Group.name).Nodup := by
  have sorted : (groupNames (overloads program owner)).Nodup :=
    (List.mergeSort_perm _ _).nodup_iff.mpr (nodup_eraseDups _)
  refine List.Nodup.sublist (List.filter_sublist.map _) ?_
  rw [List.map_map]
  simpa [Function.comp_def] using sorted

/-- Different groups of a type share no member. -/
theorem pairwise_groups (program : Program) (owner : TypeId) :
    (groups program owner).Pairwise fun left right =>
      ∀ id ∈ left.members, id ∉ right.members := by
  have named := nodup_names_groups program owner
  rw [List.Nodup, List.pairwise_map] at named
  refine named.imp_of_mem ?_
  intro left right leftListed rightListed different id inLeft inRight
  obtain ⟨leftSymbol, leftFound, leftName, _⟩ := exists_symbol_of_mem_members leftListed inLeft
  obtain ⟨rightSymbol, rightFound, rightName, _⟩ :=
    exists_symbol_of_mem_members rightListed inRight
  rw [leftFound] at rightFound
  cases rightFound
  exact different (leftName.symm.trans rightName)

/-! ## The canonical overload -/

/-- The member has more parameters than every other one. -/
structure Longest (program : Program) (members : List MemberId) (id : MemberId) : Prop where
  mem : id ∈ members
  shorter : ∀ other ∈ members, other ≠ id → arity program other < arity program id

private theorem mem_filter_longest_iff {members : List MemberId} :
    id ∈ members.filter (fun id => (members.map (arity program)).all fun count =>
        count ≤ arity program id) ↔
      id ∈ members ∧ ∀ other ∈ members, arity program other ≤ arity program id := by
  simp

theorem longest_of_canonical?_eq_some {members : List MemberId}
    (chosen : canonical? program members = some id) : Longest program members id := by
  unfold canonical? at chosen
  split at chosen
  · next only =>
      cases chosen
      have selected := mem_filter_longest_iff.mp (only ▸ List.mem_singleton_self id)
      refine ⟨selected.1, ?_⟩
      intro other listed different
      have atMost := selected.2 other listed
      by_contra longer
      -- A member of the same length would have been selected as well.
      have alsoSelected : other ∈ [id] := by
        rw [← only, mem_filter_longest_iff]
        refine ⟨listed, ?_⟩
        intro third member
        have thirdAtMost := selected.2 third member
        omega
      exact different (List.mem_singleton.mp alsoSelected)
  · cases chosen

theorem Longest.canonical?_eq_some {members : List MemberId} (distinct : members.Nodup)
    (longest : Longest program members id) : canonical? program members = some id := by
  have only : members.filter (fun id => (members.map (arity program)).all fun count =>
      count ≤ arity program id) = [id] := by
    rw [← List.perm_singleton,
      List.perm_ext_iff_of_nodup (distinct.filter _) (List.nodup_singleton id)]
    intro other
    rw [mem_filter_longest_iff, List.mem_singleton]
    constructor
    · rintro ⟨listed, longer⟩
      by_contra different
      have below := longest.shorter other listed different
      have above := longer id longest.mem
      omega
    · rintro rfl
      refine ⟨longest.mem, ?_⟩
      intro third listed
      by_cases same : third = other
      · exact Nat.le_of_eq (congrArg _ same)
      · exact Nat.le_of_lt (longest.shorter third listed same)
  unfold canonical?
  rw [only]

/-- The canonical overload is the only longest one. -/
theorem canonical?_eq_some_iff {members : List MemberId} (distinct : members.Nodup) :
    canonical? program members = some id ↔ Longest program members id :=
  ⟨longest_of_canonical?_eq_some, Longest.canonical?_eq_some distinct⟩

end StructureLint.Overload
