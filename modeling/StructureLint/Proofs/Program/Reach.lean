import StructureLint.Program.Reach
import StructureLint.Proofs.Syntax.Nodes

/-!
Contract: which local functions belong to a body.

A body leads to the local functions that it mentions, and through their bodies
to further ones.  Unfolding enters each of them once: up to order, the unfolded
visits are the visits at hand and the visits of every body that is reached.

Owns:
- reachability of local functions, with declarations whose bodies stay shut;
- the unfolded visits as a permutation of what is reached;
- sums over what is unfolded, and its growth with what is unfolded from.

Does not own: what is counted or collected on the way.
-/

namespace StructureLint.Program

/-- The local functions that visits lead to: those that they mention, and those
mentioned in the body of one that they lead to and that is not shut. -/
inductive Reaches (program : Program) (shut : List DeclarationId) (pending : List Visit) :
    DeclarationId → Prop where
  | mentioned {id : DeclarationId} (member : .localFunction id ∈ pending) :
      Reaches program shut pending id
  | through {id other : DeclarationId} {body : Body} (reached : Reaches program shut pending other)
      (entered : other ∉ shut) (found : program.body? other = some body)
      (member : .localFunction id ∈ body.visits) : Reaches program shut pending id

variable {program : Program} {shut : List DeclarationId} {pending rest : List Visit}
  {id other : DeclarationId}

theorem not_reaches_nil : ¬ Reaches program shut [] id := by
  intro reached
  induction reached with
  | mentioned member => exact List.not_mem_nil member
  | through _ _ _ _ inductionHypothesis => exact inductionHypothesis

theorem Reaches.of_subset {wider : List Visit} (reached : Reaches program shut pending id)
    (subset : ∀ visit ∈ pending, visit ∈ wider) : Reaches program shut wider id := by
  induction reached with
  | mentioned member => exact .mentioned (subset _ member)
  | through _ entered found member inductionHypothesis =>
      exact .through inductionHypothesis entered found member

theorem reaches_cons_of_ne {visit : Visit} (different : ∀ id, visit ≠ .localFunction id) :
    Reaches program shut (visit :: rest) id ↔ Reaches program shut rest id := by
  constructor
  · intro reached
    induction reached with
    | mentioned member =>
        rcases List.mem_cons.mp member with same | later
        · exact absurd same.symm (different _)
        · exact .mentioned later
    | through _ entered found member inductionHypothesis =>
        exact .through inductionHypothesis entered found member
  · intro reached
    exact reached.of_subset fun _ member => List.mem_cons_of_mem _ member

/-- A local function that is shut or has no body leads to itself only. -/
theorem reaches_cons_of_shut (closed : id ∈ shut ∨ program.body? id = none) :
    Reaches program shut (.localFunction id :: rest) other ↔
      other = id ∨ Reaches program shut rest other := by
  constructor
  · intro reached
    induction reached with
    | mentioned member =>
        rcases List.mem_cons.mp member with same | later
        · exact .inl (Visit.localFunction.inj same)
        · exact .inr (.mentioned later)
    | through _ entered found member inductionHypothesis =>
        rcases inductionHypothesis with rfl | reached
        · rcases closed with closed | bodiless
          · exact absurd closed entered
          · rw [bodiless] at found
            cases found
        · exact .inr (.through reached entered found member)
  · rintro (rfl | reached)
    · exact .mentioned List.mem_cons_self
    · exact reached.of_subset fun _ member => List.mem_cons_of_mem _ member

/-- A local function that is entered leads to itself and to where its body
leads; nothing new comes from entering it again. -/
theorem reaches_cons_of_open {body : Body} (fresh : id ∉ shut)
    (found : program.body? id = some body) :
    Reaches program shut (.localFunction id :: rest) other ↔
      other = id ∨ Reaches program (id :: shut) (body.visits ++ rest) other := by
  constructor
  · intro reached
    induction reached with
    | mentioned member =>
        rcases List.mem_cons.mp member with same | later
        · exact .inl (Visit.localFunction.inj same)
        · exact .inr (.mentioned (List.mem_append_right _ later))
    | @through next middle inner _ entered located member inductionHypothesis =>
        by_cases same : middle = id
        · subst same
          rw [found] at located
          cases located
          exact .inr (.mentioned (List.mem_append_left _ member))
        · rcases inductionHypothesis with equal | reached
          · exact absurd equal same
          · have stillOpen : middle ∉ id :: shut := by simp [same, entered]
            exact .inr (.through reached stillOpen located member)
  · rintro (rfl | reached)
    · exact .mentioned List.mem_cons_self
    · induction reached with
      | mentioned member =>
          rcases List.mem_append.mp member with inBody | later
          · exact .through (.mentioned List.mem_cons_self) fresh found inBody
          · exact .mentioned (List.mem_cons_of_mem _ later)
      | through _ entered located member inductionHypothesis =>
          have wasOpen := fun closed => entered (List.mem_cons_of_mem _ closed)
          exact .through inductionHypothesis wasOpen located member

/-! ## Unfolding -/

theorem unfoldLocals_cons_of_ne {visit : Visit} (different : ∀ id, visit ≠ .localFunction id) :
    program.unfoldLocals shut (visit :: rest) = visit :: program.unfoldLocals shut rest := by
  cases visit with
  | localFunction id => exact absurd rfl (different id)
  | _ => rw [unfoldLocals]; intro id same; cases same

theorem unfoldLocals_cons_of_shut (closed : id ∈ shut ∨ program.body? id = none) :
    program.unfoldLocals shut (.localFunction id :: rest) =
      .localFunction id :: program.unfoldLocals shut rest := by
  rw [unfoldLocals]
  split
  · next fresh =>
      split
      · rfl
      · next body found =>
          rcases closed with closed | bodiless
          · exact absurd closed fresh
          · rw [bodiless] at found
            cases found
  · rfl

theorem unfoldLocals_cons_of_open {body : Body} (fresh : id ∉ shut)
    (found : program.body? id = some body) :
    program.unfoldLocals shut (.localFunction id :: rest) =
      .localFunction id :: program.unfoldLocals (id :: shut) (body.visits ++ rest) := by
  rw [unfoldLocals, dif_pos fresh]
  split
  · next bodiless =>
      rw [found] at bodiless
      cases bodiless
  · next other located =>
      rw [found] at located
      cases located
      rfl

/-- Programs with the same bodies unfold alike. -/
theorem unfoldLocals_congr {changed : Program}
    (same : ∀ id, changed.body? id = program.body? id) (entered : List DeclarationId)
    (pending : List Visit) :
    changed.unfoldLocals entered pending = program.unfoldLocals entered pending := by
  induction entered, pending using unfoldLocals.induct program with
  | case1 entered => simp only [unfoldLocals]
  | case2 entered id rest fresh bodiless inductionHypothesis =>
      have still := (same id).trans bodiless
      rw [unfoldLocals_cons_of_shut (.inr bodiless), unfoldLocals_cons_of_shut (.inr still),
        inductionHypothesis]
  | case3 entered id rest fresh body found smaller inductionHypothesis =>
      have still := (same id).trans found
      rw [unfoldLocals_cons_of_open fresh found, unfoldLocals_cons_of_open fresh still,
        inductionHypothesis]
  | case4 entered id rest closed inductionHypothesis =>
      have known := Decidable.not_not.mp closed
      rw [unfoldLocals_cons_of_shut (.inl known), unfoldLocals_cons_of_shut (.inl known),
        inductionHypothesis]
  | case5 entered visit rest different inductionHypothesis =>
      rw [unfoldLocals_cons_of_ne different, unfoldLocals_cons_of_ne different,
        inductionHypothesis]

def bodyVisits (program : Program) (id : DeclarationId) : List Visit :=
  (program.body? id).elim [] Body.visits

/-- The bodies that unfolding enters: those that are reached, exist and were
not entered before, each once. -/
structure Opens (program : Program) (entered : List DeclarationId) (pending : List Visit)
    (opened : List DeclarationId) : Prop where
  nodup : opened.Nodup
  mem_iff : ∀ id, id ∈ opened ↔
    Reaches program entered pending id ∧ id ∉ entered ∧ (program.body? id).isSome
  perm : (program.unfoldLocals entered pending).Perm
    (pending ++ opened.flatMap program.bodyVisits)

private theorem Opens.cons_of_shut {entered opened : List DeclarationId}
    (closed : id ∈ entered ∨ program.body? id = none) (opens : Opens program entered rest opened) :
    Opens program entered (.localFunction id :: rest) opened where
  nodup := opens.nodup
  mem_iff other := by
    rw [opens.mem_iff, reaches_cons_of_shut closed]
    constructor
    · rintro ⟨reached, fresh, bodied⟩
      exact ⟨.inr reached, fresh, bodied⟩
    · rintro ⟨rfl | reached, fresh, bodied⟩
      · rcases closed with closed | bodiless
        · exact absurd closed fresh
        · simp [bodiless] at bodied
      · exact ⟨reached, fresh, bodied⟩
  perm := by
    rw [unfoldLocals_cons_of_shut closed]
    exact opens.perm.cons _

private theorem Opens.cons_of_ne {entered opened : List DeclarationId} {visit : Visit}
    (different : ∀ id, visit ≠ .localFunction id) (opens : Opens program entered rest opened) :
    Opens program entered (visit :: rest) opened where
  nodup := opens.nodup
  mem_iff other := by rw [opens.mem_iff, reaches_cons_of_ne different]
  perm := by
    rw [unfoldLocals_cons_of_ne different]
    exact opens.perm.cons _

/-- A mention that opens a body opens what that body leads to as well. -/
private theorem Opens.cons_of_open {entered opened : List DeclarationId} {body : Body}
    (fresh : id ∉ entered) (found : program.body? id = some body)
    (opens : Opens program (id :: entered) (body.visits ++ rest) opened) :
    Opens program entered (.localFunction id :: rest) (id :: opened) where
  nodup := by
    refine List.nodup_cons.mpr ⟨?_, opens.nodup⟩
    intro member
    exact ((opens.mem_iff id).mp member).2.1 List.mem_cons_self
  mem_iff other := by
    rw [List.mem_cons, opens.mem_iff, reaches_cons_of_open fresh found]
    constructor
    · rintro (rfl | ⟨reached, outside, bodied⟩)
      · exact ⟨.inl rfl, fresh, by simp [found]⟩
      · exact ⟨.inr reached, fun closed => outside (List.mem_cons_of_mem _ closed), bodied⟩
    · rintro ⟨reached, outside, bodied⟩
      by_cases same : other = id
      · exact .inl same
      · exact .inr ⟨reached.resolve_left same, by simp [same, outside], bodied⟩
  perm := by
    have entry : program.bodyVisits id = body.visits := by simp [bodyVisits, found]
    rw [unfoldLocals_cons_of_open fresh found, List.flatMap_cons, entry, List.cons_append,
      ← List.append_assoc]
    -- The body moves from in front of the pending visits to behind them.
    exact (opens.perm.trans (List.Perm.append_right _ List.perm_append_comm)).cons _

/-- Unfolding enters every reached body once. -/
theorem exists_opens (program : Program) (entered : List DeclarationId) (pending : List Visit) :
    ∃ opened, Opens program entered pending opened := by
  induction entered, pending using unfoldLocals.induct program with
  | case1 entered =>
      refine ⟨[], List.nodup_nil, ?_, by simp [unfoldLocals]⟩
      intro id
      simp [not_reaches_nil]
  | case2 entered id rest fresh bodiless inductionHypothesis =>
      obtain ⟨opened, opens⟩ := inductionHypothesis
      exact ⟨opened, opens.cons_of_shut (.inr bodiless)⟩
  | case3 entered id rest fresh body found smaller inductionHypothesis =>
      obtain ⟨opened, opens⟩ := inductionHypothesis
      exact ⟨id :: opened, opens.cons_of_open fresh found⟩
  | case4 entered id rest closed inductionHypothesis =>
      obtain ⟨opened, opens⟩ := inductionHypothesis
      exact ⟨opened, opens.cons_of_shut (.inl (Decidable.not_not.mp closed))⟩
  | case5 entered visit rest different inductionHypothesis =>
      obtain ⟨opened, opens⟩ := inductionHypothesis
      exact ⟨opened, opens.cons_of_ne different⟩

/-- The sum of a weight over the body of a declaration. -/
def bodyTotal (program : Program) (weight : Visit → Nat) (id : DeclarationId) : Nat :=
  (program.body? id).elim 0 fun body => (Visit.body body).total weight

theorem sum_map_bodyVisits (program : Program) (weight : Visit → Nat) (id : DeclarationId) :
    ((program.bodyVisits id).map weight).sum = program.bodyTotal weight id := by
  unfold bodyVisits bodyTotal
  cases program.body? id with
  | none => rfl
  | some body => exact Visit.sum_map_visits weight (.body body)

/-- Summing over what is unfolded takes in the roots and each body that is opened once. -/
theorem Opens.sum_eq {entered opened : List DeclarationId} {roots : List Visit}
    (opens : Opens program entered (roots.flatMap Visit.visits) opened) (weight : Visit → Nat) :
    ((program.unfoldLocals entered (roots.flatMap Visit.visits)).map weight).sum =
      (roots.map (Visit.total weight)).sum + (opened.map (program.bodyTotal weight)).sum := by
  have rootSums : (fun root => ((Visit.visits root).map weight).sum) = Visit.total weight :=
    funext (Visit.sum_map_visits weight)
  have bodySums : (fun id => ((program.bodyVisits id).map weight).sum) =
      program.bodyTotal weight := funext (sum_map_bodyVisits program weight)
  rw [(opens.perm.map _).sum_eq, List.map_append, List.sum_append, List.map_flatMap,
    List.map_flatMap, List.flatMap_def, List.flatMap_def, List.sum_flatten, List.sum_flatten,
    List.map_map, List.map_map]
  exact congrArg₂ (fun first second => (roots.map first).sum + (opened.map second).sum)
    rootSums bodySums

/-- Unfolding more visits enters no fewer bodies: every visit that is unfolded from
some of them is unfolded from all of them, at least as often. -/
theorem unfoldLocals_subperm {wider : List Visit} (program : Program)
    (entered : List DeclarationId) (fewer : pending.Subperm wider) :
    (program.unfoldLocals entered pending).Subperm (program.unfoldLocals entered wider) := by
  obtain ⟨opened, opens⟩ := exists_opens program entered pending
  obtain ⟨more, opensMore⟩ := exists_opens program entered wider
  have subset : ∀ id ∈ opened, id ∈ more := by
    intro id member
    obtain ⟨reached, fresh, bodied⟩ := (opens.mem_iff id).mp member
    exact (opensMore.mem_iff id).mpr
      ⟨reached.of_subset fun _ listed => fewer.subset listed, fresh, bodied⟩
  obtain ⟨chosen, same, part⟩ := List.subperm_of_subset opens.nodup subset
  have bodies : (opened.flatMap program.bodyVisits).Subperm (more.flatMap program.bodyVisits) :=
    (same.symm.flatMap_right _).subperm.trans (part.flatMap _).subperm
  exact opens.perm.subperm.trans ((fewer.append bodies).trans opensMore.perm.symm.subperm)

/-! ## What an owner reaches -/

/-- The local functions that nodes of an owner's body lead to: the least set
that holds those mentioned in the nodes, and those mentioned in the body of a
member other than the owner. -/
inductive Reached (program : Program) (owner : DeclarationId) (roots : List Visit) :
    DeclarationId → Prop where
  | mentioned {root : Visit} {id : DeclarationId} (member : root ∈ roots)
      (contained : root.Contains (.localFunction id)) : Reached program owner roots id
  | through {id other : DeclarationId} {body : Body} (reached : Reached program owner roots other)
      (foreign : other ≠ owner) (found : program.body? other = some body)
      (contained : (Visit.body body).Contains (.localFunction id)) :
      Reached program owner roots id

theorem reaches_iff_reached {owner : DeclarationId} {roots : List Visit} :
    Reaches program [owner] (roots.flatMap Visit.visits) id ↔ Reached program owner roots id := by
  constructor
  · intro reached
    induction reached with
    | mentioned member =>
        obtain ⟨root, rootMember, visited⟩ := List.mem_flatMap.mp member
        exact .mentioned rootMember (Visit.mem_visits_iff_contains.mp visited)
    | @through next middle body _ entered found member inductionHypothesis =>
        have foreign : middle ≠ owner := by simpa using entered
        exact .through inductionHypothesis foreign found (Visit.mem_visits_iff_contains.mp member)
  · intro reached
    induction reached with
    | mentioned member contained =>
        exact .mentioned (List.mem_flatMap.mpr
          ⟨_, member, Visit.mem_visits_iff_contains.mpr contained⟩)
    | @through next middle body _ foreign found contained inductionHypothesis =>
        have entered : middle ∉ [owner] := by simpa using foreign
        exact .through inductionHypothesis entered found
          (Visit.mem_visits_iff_contains.mpr contained)

end StructureLint.Program
