import Mathlib.Data.List.Perm.Subperm
import Mathlib.Logic.Relation
import StructureLint.Program.Basic

/-!
Contract: chains of links as reachability.

A chain follows a link until it ends or comes back.  Nothing is lost by the
bound on its length: the elements of a chain are exactly those that the link
leads to in any number of steps, whether the link is cyclic or leads nowhere.

Owns:
- membership in an orbit, and that nothing is in it twice;
- membership in the chain of overridden members;
- the proper bases of a type.

Does not own: the order of a chain.
-/

namespace StructureLint

variable {α : Type} {next : α → Option α}

/-- The link leads from one element to the next. -/
def Links (next : α → Option α) (source target : α) : Prop :=
  next source = some target

/-- Everything in an orbit is led to. -/
theorem reflTransGen_of_mem_orbit [DecidableEq α] {bound : Nat} {visited : List α}
    {current element : α}
    (member : element ∈ orbit next bound visited current) :
    Relation.ReflTransGen (Links next) current element := by
  induction bound generalizing visited current with
  | zero => cases member
  | succ bound inductionHypothesis =>
      rw [orbit] at member
      split at member
      · cases member
      · rcases List.mem_cons.mp member with rfl | later
        · exact .refl
        · split at later
          · cases later
          · next following linked =>
              exact .head linked (inductionHypothesis later)

/-- Where the link never leaves a set, nothing outside is led to. -/
theorem mem_of_reflTransGen {visited : List α} {current element : α}
    (closed : ∀ source ∈ visited, ∀ target, next source = some target → target ∈ visited)
    (start : current ∈ visited) (led : Relation.ReflTransGen (Links next) current element) :
    element ∈ visited := by
  induction led with
  | refl => exact start
  | tail _ linked inductionHypothesis => exact closed _ inductionHypothesis _ linked

/-- The elements visited on the way to the current one: each once, each with a
successor that was visited as well or is the current one. -/
structure LinkWalk (next : α → Option α) (domain visited : List α) (current : α) : Prop where
  distinct : visited.Nodup
  inside : ∀ source ∈ visited, source ∈ domain
  follows : ∀ source ∈ visited, ∀ target, next source = some target →
    target ∈ visited ∨ target = current

theorem LinkWalk.step {domain visited : List α} {current following : α}
    (walk : LinkWalk next domain visited current) (fresh : current ∉ visited)
    (known : current ∈ domain) (linked : next current = some following) :
    LinkWalk next domain (current :: visited) following where
  distinct := List.nodup_cons.mpr ⟨fresh, walk.distinct⟩
  inside := by
    intro source member
    rcases List.mem_cons.mp member with rfl | earlier
    · exact known
    · exact walk.inside source earlier
  follows := by
    intro source member target found
    rcases List.mem_cons.mp member with rfl | earlier
    · rw [linked] at found
      exact .inr (Option.some.inj found).symm
    · rcases walk.follows source earlier target found with stays | rfl
      · exact .inl (List.mem_cons_of_mem _ stays)
      · exact .inl List.mem_cons_self

/-- A walk that comes back has seen everything. -/
theorem LinkWalk.mem_of_returned {domain visited : List α} {current element : α}
    (walk : LinkWalk next domain visited current) (returned : current ∈ visited)
    (led : Relation.ReflTransGen (Links next) current element) : element ∈ visited := by
  refine mem_of_reflTransGen ?_ returned led
  intro source member target linked
  rcases walk.follows source member target linked with stays | rfl
  · exact stays
  · exact returned

/-- Everything led to has been visited or is still met. -/
theorem mem_visited_or_mem_orbit [DecidableEq α] {domain : List α}
    (covers : ∀ source target, next source = some target → source ∈ domain)
    {bound : Nat} {visited : List α} {current element : α}
    (walk : LinkWalk next domain visited current) (enough : domain.length < bound + visited.length)
    (led : Relation.ReflTransGen (Links next) current element) :
    element ∈ visited ∨ element ∈ orbit next bound visited current := by
  induction bound generalizing visited current with
  | zero =>
      -- The bound is not used up: what was visited fits into the domain.
      have fits : visited.length ≤ domain.length :=
        (List.subperm_of_subset walk.distinct walk.inside).length_le
      omega
  | succ bound inductionHypothesis =>
      rw [orbit]
      by_cases returned : current ∈ visited
      · exact .inl (walk.mem_of_returned returned led)
      · rw [if_neg returned]
        rcases Relation.ReflTransGen.cases_head led with rfl | ⟨following, linked, rest⟩
        · exact .inr List.mem_cons_self
        · have found : next current = some following := linked
          rw [found]
          have room : domain.length < bound + (current :: visited).length := by
            rw [List.length_cons]
            omega
          rcases inductionHypothesis (walk.step returned (covers _ _ found) found) room rest with
            seen | met
          · rcases List.mem_cons.mp seen with rfl | earlier
            · exact .inr List.mem_cons_self
            · exact .inl earlier
          · exact .inr (List.mem_cons_of_mem _ met)

/-- An orbit with room for every element that has a successor holds exactly what
the link leads to. -/
theorem mem_orbit_iff [DecidableEq α] {domain : List α}
    (covers : ∀ source target, next source = some target → source ∈ domain)
    {bound : Nat} (enough : domain.length < bound) {current element : α} :
    element ∈ orbit next bound [] current ↔
      Relation.ReflTransGen (Links next) current element := by
  constructor
  · exact reflTransGen_of_mem_orbit
  · intro led
    have start : LinkWalk next domain [] current := ⟨List.nodup_nil, by simp, by simp⟩
    simpa using mem_visited_or_mem_orbit covers start (by simpa using enough) led

/-- An orbit meets nothing twice, and nothing that was visited before. -/
theorem nodup_orbit [DecidableEq α] (next : α → Option α) (bound : Nat) (visited : List α)
    (current : α) :
    (orbit next bound visited current).Nodup ∧
      ∀ element ∈ orbit next bound visited current, element ∉ visited := by
  induction bound generalizing visited current with
  | zero => exact ⟨List.nodup_nil, fun _ member => absurd member List.not_mem_nil⟩
  | succ bound inductionHypothesis =>
      rw [orbit]
      split
      · exact ⟨List.nodup_nil, fun _ member => absurd member List.not_mem_nil⟩
      · next fresh =>
          cases next current with
          | none => simpa using fresh
          | some following =>
              obtain ⟨distinct, later⟩ := inductionHypothesis (current :: visited) following
              refine ⟨List.nodup_cons.mpr ⟨fun member => ?_, distinct⟩, ?_⟩
              · exact later current member List.mem_cons_self
              · intro element member
                rcases List.mem_cons.mp member with rfl | met
                · exact fresh
                · exact fun seen => later element met (List.mem_cons_of_mem _ seen)

namespace Program

/-- The member is the other one or overrides it, directly or through others. -/
def Overrides (program : Program) : MemberId → MemberId → Prop :=
  Relation.ReflTransGen
    (Links fun id => (program.member? id).bind MemberSymbol.overriddenMember)

theorem mem_numberedMembers_of_member? {program : Program} {id : MemberId}
    {member : MemberSymbol} (found : program.member? id = some member) :
    (id, member) ∈ program.numberedMembers := by
  refine List.mem_map.mpr ⟨(member, id.index.toNat), ?_, by simp⟩
  exact List.mem_zipIdx_iff_getElem?.mpr found

/-- A chain of overridden members holds exactly the members that are overridden. -/
theorem mem_overrideChain_iff {program : Program} {id other : MemberId} :
    other ∈ program.overrideChain id ↔ program.Overrides id other := by
  have covers (source target : MemberId)
      (linked : (program.member? source).bind MemberSymbol.overriddenMember = some target) :
      source ∈ program.numberedMembers.map Prod.fst := by
    obtain ⟨member, found, _⟩ := Option.bind_eq_some_iff.mp linked
    exact List.mem_map_of_mem (mem_numberedMembers_of_member? found)
  exact mem_orbit_iff covers (by simp [numberedMembers])

/-- Behind the type itself, its chain of base types holds the others of the chain. -/
theorem mem_drop_baseChain_iff {program : Program} {id base : TypeId} :
    base ∈ (program.baseChain id).drop 1 ↔ base ∈ program.baseChain id ∧ base ≠ id := by
  have distinct : (program.baseChain id).Nodup := (nodup_orbit _ _ _ _).1
  obtain ⟨others, chain⟩ : ∃ others, program.baseChain id = id :: others := ⟨_, rfl⟩
  rw [chain] at distinct ⊢
  rw [List.drop_one, List.tail_cons, List.mem_cons]
  constructor
  · intro member
    refine ⟨.inr member, ?_⟩
    rintro rfl
    exact (List.nodup_cons.mp distinct).1 member
  · rintro ⟨same | member, different⟩
    · exact absurd same different
    · exact member

end Program

end StructureLint
