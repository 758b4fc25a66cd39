import Mathlib.Data.List.Chain
import Mathlib.Data.List.Nodup
import StructureLint.Proofs.Program.Orbit

/-!
Contract: chains of links as the work of an unbounded loop.

The loop that follows a link has nothing to stop it but its list of what it met:
it ends where the link ends or comes back.  It always comes to an end, and the
chains of base types and of overridden members are what it ends with, so the
bound in the definition of an orbit is never what cuts a chain short.

Owns:
- the loop, and that it ends with the orbit;
- the order of a chain, and where a chain ends;
- the chains of base types and of overridden members.

Does not own: which elements an orbit holds.
-/

namespace StructureLint

variable {α : Type} {next : α → Option α}

/-! ## The loop -/

/-- The loop that follows the link from `current`, having met `chain` in this order,
comes to an end with `result`. -/
inductive Chases (next : α → Option α) : (chain : List α) → (current : Option α) →
    (result : List α) → Prop where
  | ended {chain : List α} : Chases next chain none chain
  | returned {chain : List α} {current : α} (met : current ∈ chain) :
      Chases next chain (some current) chain
  | onward {chain result : List α} {current : α} (fresh : current ∉ chain)
      (rest : Chases next (chain ++ [current]) (next current) result) :
      Chases next chain (some current) result

/-- The loop ends with the orbit behind what it had met: before the bound is used up,
every element with a successor has been met. -/
theorem chases_orbit [DecidableEq α] {domain : List α}
    (covers : ∀ source target, next source = some target → source ∈ domain)
    {bound : Nat} {visited : List α} {current : α}
    (walk : LinkWalk next domain visited current)
    (enough : domain.length < bound + visited.length) :
    Chases next visited.reverse (some current)
      (visited.reverse ++ orbit next bound visited current) := by
  induction bound generalizing visited current with
  | zero =>
      have fits : visited.length ≤ domain.length :=
        (List.subperm_of_subset walk.distinct walk.inside).length_le
      omega
  | succ bound inductionHypothesis =>
      rw [orbit]
      by_cases returned : current ∈ visited
      · rw [if_pos returned, List.append_nil]
        exact .returned (List.mem_reverse.mpr returned)
      · rw [if_neg returned, List.append_cons, ← List.reverse_cons]
        refine .onward (fun met => returned (List.mem_reverse.mp met)) ?_
        rw [← List.reverse_cons]
        cases linked : next current with
        | none =>
            rw [List.append_nil]
            exact .ended
        | some following =>
            refine inductionHypothesis (walk.step returned (covers _ _ linked) linked) ?_
            rw [List.length_cons]
            omega

/-! ## The order of a chain -/

/-- What the loop has met so far: each element once, each the successor of the one
before it, and the loop stands at the successor of the last one. -/
structure Trail (next : α → Option α) (chain : List α) (current : Option α) : Prop where
  distinct : chain.Nodup
  linked : chain.IsChain (Links next)
  heading : ∀ last, chain.getLast? = some last → next last = current

theorem Trail.nil (next : α → Option α) (current : Option α) : Trail next [] current where
  distinct := List.nodup_nil
  linked := .nil
  heading := by simp

theorem Trail.push {chain : List α} {current : α} (trail : Trail next chain (some current))
    (fresh : current ∉ chain) : Trail next (chain ++ [current]) (next current) where
  distinct := by
    rw [← List.concat_eq_append]
    exact List.Nodup.concat fresh trail.distinct
  linked := by
    refine List.isChain_append.mpr ⟨trail.linked, List.isChain_singleton current, ?_⟩
    intro last isLast head isHead
    rw [List.head?_singleton, Option.mem_some_iff] at isHead
    subst isHead
    exact trail.heading last isLast
  heading := by
    intro last isLast
    rw [List.getLast?_concat, Option.some.injEq] at isLast
    rw [isLast]

/-- A loop that ends does so where the link ends or leads back into the chain. -/
theorem Chases.trail_of_trail {chain result : List α} {current : Option α}
    (chased : Chases next chain current result) (trail : Trail next chain current) :
    ∃ last, Trail next result last ∧ ∀ element ∈ last, element ∈ result := by
  induction chased with
  | ended => exact ⟨none, trail, by simp⟩
  | returned met => exact ⟨_, trail, by simpa using met⟩
  | onward fresh _ inductionHypothesis => exact inductionHypothesis (trail.push fresh)

/-- What has been met stays in front. -/
theorem Chases.chain_isPrefix {chain result : List α} {current : Option α}
    (chased : Chases next chain current result) : chain <+: result := by
  induction chased with
  | ended => exact List.prefix_rfl
  | returned _ => exact List.prefix_rfl
  | onward _ _ inductionHypothesis => exact (List.prefix_append _ _).trans inductionHypothesis

theorem Chases.head?_eq {start : α} {result : List α}
    (chased : Chases next [] (some start) result) : result.head? = some start := by
  cases chased with
  | returned met => exact absurd met List.not_mem_nil
  | onward _ rest =>
      obtain ⟨behind, rfl⟩ := rest.chain_isPrefix
      rfl

/-! ## Chains through an arena -/

section Arena

variable {σ : Type} (find? : α → Option σ) (link : σ → Option α)

/-- The link from the number of an entry to what the entry links to, if there is such
an entry. -/
def arenaLink (source : α) : Option α :=
  (find? source).bind link

/-- The chain from `start` in full: the loop that follows the link ends with it.  It
begins at `start`, meets nothing twice, and goes from each element to the one that
its entry links to; behind its last element there is no entry, an entry without a
link, or an entry that links back into the chain.  So it holds what the link leads to,
in any number of steps. -/
structure WholeChain (start : α) (chain : List α) : Prop where
  chased : Chases (arenaLink find? link) [] (some start) chain
  starts : chain.head? = some start
  distinct : chain.Nodup
  linked : chain.IsChain (Links (arenaLink find? link))
  ends : ∀ last, chain.getLast? = some last →
    find? last = none ∨ ∃ entry, find? last = some entry ∧
      (link entry = none ∨ ∃ following ∈ chain, link entry = some following)
  complete : ∀ element,
    element ∈ chain ↔ Relation.ReflTransGen (Links (arenaLink find? link)) start element

variable {find? link}

theorem wholeChain_orbit [DecidableEq α] {domain : List α}
    (covers : ∀ source entry, find? source = some entry → source ∈ domain)
    {bound : Nat} (enough : domain.length < bound) (start : α) :
    WholeChain find? link start (orbit (arenaLink find? link) bound [] start) := by
  have linkCovers (source target : α) (linked : arenaLink find? link source = some target) :
      source ∈ domain := by
    obtain ⟨entry, found, _⟩ := Option.bind_eq_some_iff.mp linked
    exact covers source entry found
  have begun : LinkWalk (arenaLink find? link) domain [] start := ⟨List.nodup_nil, by simp, by simp⟩
  have chased := chases_orbit linkCovers begun enough
  obtain ⟨final, trail, back⟩ := chased.trail_of_trail (Trail.nil _ _)
  refine ⟨chased, chased.head?_eq, trail.distinct, trail.linked, ?_, fun _ =>
    mem_orbit_iff linkCovers enough⟩
  intro last isLast
  have heading : (find? last).bind link = final := trail.heading last isLast
  cases found : find? last with
  | none => exact .inl rfl
  | some entry =>
      rw [found, Option.bind_some] at heading
      refine .inr ⟨entry, rfl, ?_⟩
      cases ended : final with
      | none => exact .inl (heading.trans ended)
      | some following => exact .inr ⟨following, back following ended, heading.trans ended⟩

end Arena

namespace Program

theorem mem_numberedTypes_of_type? {program : Program} {id : TypeId} {symbol : TypeSymbol}
    (found : program.type? id = some symbol) : (id, symbol) ∈ program.numberedTypes := by
  refine List.mem_map.mpr ⟨(symbol, id.index.toNat), ?_, by simp⟩
  exact List.mem_zipIdx_iff_getElem?.mpr found

/-- In every program, whether its links lead anywhere or not and whether they are
cyclic or not, the chains of base types and of overridden members are chains in full. -/
theorem chains_are_whole (program : Program) :
    (∀ id, WholeChain program.type? TypeSymbol.baseType id (program.baseChain id)) ∧
    (∀ id, WholeChain program.member? MemberSymbol.overriddenMember id
      (program.overrideChain id)) := by
  have typeNumbers (source : TypeId) (symbol : TypeSymbol)
      (found : program.type? source = some symbol) :
      source ∈ program.numberedTypes.map Prod.fst :=
    List.mem_map_of_mem (mem_numberedTypes_of_type? found)
  have memberNumbers (source : MemberId) (member : MemberSymbol)
      (found : program.member? source = some member) :
      source ∈ program.numberedMembers.map Prod.fst :=
    List.mem_map_of_mem (mem_numberedMembers_of_member? found)
  exact ⟨wholeChain_orbit typeNumbers (by simp [numberedTypes]),
    wholeChain_orbit memberNumbers (by simp [numberedMembers])⟩

/-- The chain of a type whose base types come back to the middle of it. -/
example :
    let derivedFrom (base : Nat) : TypeSymbol :=
      { name := "", kind := .classType, baseType := some ⟨UInt32.ofNat base⟩ }
    ({ types := [derivedFrom 1, derivedFrom 2, derivedFrom 1] } : Program).baseChain ⟨0⟩ =
      [⟨0⟩, ⟨1⟩, ⟨2⟩] := by
  decide

end Program

end StructureLint
