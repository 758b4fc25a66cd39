import StructureLint.Proofs.Rule.Overload.Calls

/-!
Contract: the calls that a declaration makes, each as often as it is written.

A declaration leads to the local functions that its body mentions, and through
their bodies to further ones, perhaps back to itself.  However they mention each
other, the collected targets are those of the calls in the bodies that the
declaration leads to, and every such body adds its calls once.

Owns:
- declarations that a declaration leads to, in any number of mentions;
- calls in a body, with their number;
- the collected targets in terms of both.

Does not own: which targets matter to a group.
-/

namespace StructureLint

namespace Program

/-- The body of a declaration mentions the other one as a local function, in
whatever statement, expression or lambda. -/
def Mentions (program : Program) (id other : DeclarationId) : Prop :=
  ∃ body, program.body? id = some body ∧ (Visit.body body).Contains (.localFunction other)

variable {program : Program} {id other : DeclarationId}

/-- A declaration without a body leads nowhere. -/
theorem not_transGen_mentions (bodiless : program.body? id = none) :
    ¬ Relation.TransGen program.Mentions id other := by
  intro led
  obtain ⟨first, ⟨body, found, _⟩, _⟩ := Relation.TransGen.head'_iff.mp led
  rw [bodiless] at found
  cases found

/-- Nothing new comes from leading back to the owner: what its body reaches with
the owner shut is all that it leads to. -/
theorem transGen_mentions_iff_reached {body : Body} (found : program.body? id = some body) :
    Relation.TransGen program.Mentions id other ↔ program.Reached id [.body body] other := by
  constructor
  · intro led
    induction led with
    | single mentions =>
        obtain ⟨inner, located, contained⟩ := mentions
        rw [found] at located
        cases located
        exact .mentioned (List.mem_singleton_self _) contained
    | @tail middle last _ mentions inductionHypothesis =>
        obtain ⟨inner, located, contained⟩ := mentions
        by_cases own : middle = id
        · rw [own, found] at located
          cases located
          exact .mentioned (List.mem_singleton_self _) contained
        · exact .through inductionHypothesis own located contained
  · intro reached
    induction reached with
    | mentioned member contained =>
        rw [List.mem_singleton.mp member] at contained
        exact .single ⟨body, found, contained⟩
    | through _ _ located contained inductionHypothesis =>
        exact inductionHypothesis.tail ⟨_, located, contained⟩

/-- The declaration is the other one or leads to it. -/
def LeadsTo (program : Program) (id other : DeclarationId) : Prop :=
  other = id ∨ Relation.TransGen program.Mentions id other

end Program

namespace Overload

open Program

variable {program : Program} {id holder : DeclarationId} {target : MemberId}

/-- A call bound to the target stands in the body of the declaration. -/
def Invokes (program : Program) (holder : DeclarationId) (target : MemberId) : Prop :=
  ∃ body call callee arguments, program.body? holder = some body ∧
    (Visit.body body).Contains (.expr call) ∧
    call.kind = .invocation callee arguments (some target)

/-- One for a call bound to the target. -/
def callWeight (target : MemberId) : Visit → Nat
  | .expr call => if call.invocationTarget? = some target then 1 else 0
  | _ => 0

/-- The number of calls bound to the target in the body of a declaration. -/
def callsIn (program : Program) (target : MemberId) (holder : DeclarationId) : Nat :=
  program.bodyTotal (callWeight target) holder

theorem invocationTarget?_eq_some_iff {call : Expr} :
    call.invocationTarget? = some target ↔
      ∃ callee arguments, call.kind = .invocation callee arguments (some target) := by
  unfold Expr.invocationTarget?
  constructor
  · intro bound
    split at bound
    next callee arguments _ kind =>
      cases bound
      exact ⟨callee, arguments, kind⟩
    next => cases bound
  · rintro ⟨callee, arguments, kind⟩
    rw [kind]

/-- A declaration calls what is called in a body that it leads to. -/
theorem calls_iff_exists_invokes :
    Calls program id target ↔
      ∃ holder, program.LeadsTo id holder ∧ Invokes program holder target := by
  constructor
  · intro calls
    cases calls with
    | directly found contained bound =>
        obtain ⟨callee, arguments, kind⟩ := invocationTarget?_eq_some_iff.mp bound
        exact ⟨id, .inl rfl, _, _, callee, arguments, found, contained, kind⟩
    | locally found reached opened contained bound =>
        obtain ⟨callee, arguments, kind⟩ := invocationTarget?_eq_some_iff.mp bound
        exact ⟨_, .inr ((transGen_mentions_iff_reached found).mpr reached),
          _, _, callee, arguments, opened, contained, kind⟩
  · rintro ⟨holder, rfl | led, inner, call, callee, arguments, opened, contained, kind⟩
    · exact .directly opened contained (invocationTarget?_eq_some_iff.mpr ⟨callee, arguments, kind⟩)
    · cases found : program.body? id with
      | none => exact absurd led (not_transGen_mentions found)
      | some body =>
          exact .locally found ((transGen_mentions_iff_reached found).mp led) opened contained
            (invocationTarget?_eq_some_iff.mpr ⟨callee, arguments, kind⟩)

theorem run_invocationTargets (program : Program) (id : DeclarationId)
    (answer : SettingRequest → Option String) :
    (invocationTargets program id).run answer = .ok (calledMembers program id) := by
  rw [invocationTargets, Pass.run_bind, Pass.run_checkEach]
  rfl

/-- How often a target is collected from visits. -/
theorem count_filterMap_eq_sum (target : MemberId) (visits : List Visit) :
    (visits.filterMap fun visit => visit.expr?.bind Expr.invocationTarget?).count target =
      (visits.map (callWeight target)).sum := by
  induction visits with
  | nil => rfl
  | cons visit rest inductionHypothesis =>
      rw [List.map_cons, List.sum_cons, ← inductionHypothesis, List.filterMap_cons]
      cases visit with
      | expr call =>
          cases bound : call.invocationTarget? with
          | none => simp [callWeight, Visit.expr?, bound]
          | some called =>
              simp only [callWeight, Visit.expr?, Option.bind_some, bound, List.count_cons,
                Option.some.injEq, beq_iff_eq]
              exact Nat.add_comm _ _
      | _ => exact (Nat.zero_add _).symm

/-- The bodies that a declaration leads to, each once, with their calls. -/
theorem exists_holders (program : Program) (id : DeclarationId) :
    ∃ holders : List DeclarationId, holders.Nodup ∧
      (∀ holder, holder ∈ holders ↔ program.LeadsTo id holder ∧ (program.body? holder).isSome) ∧
      ∀ target, (calledMembers program id).count target =
        (holders.map (callsIn program target)).sum := by
  unfold calledMembers reachedVisits
  cases found : program.body? id with
  | none =>
      refine ⟨[], List.nodup_nil, ?_, fun _ => rfl⟩
      intro holder
      refine ⟨fun member => absurd member List.not_mem_nil, ?_⟩
      rintro ⟨rfl | led, bodied⟩
      · rw [found] at bodied
        cases bodied
      · exact absurd led (not_transGen_mentions found)
  | some body =>
      obtain ⟨opened, opens⟩ := exists_opens program [id] ([Visit.body body].flatMap Visit.visits)
      have roots : body.visits = [Visit.body body].flatMap Visit.visits := by simp [Visit.visits]
      have mem_opened (holder : DeclarationId) : holder ∈ opened ↔
          Relation.TransGen program.Mentions id holder ∧ holder ≠ id ∧
            (program.body? holder).isSome := by
        rw [opens.mem_iff, reaches_iff_reached, ← transGen_mentions_iff_reached found,
          List.mem_singleton]
      refine ⟨id :: opened, List.nodup_cons.mpr ⟨?_, opens.nodup⟩, ?_, ?_⟩
      · intro member
        exact ((mem_opened id).mp member).2.1 rfl
      · intro holder
        rw [List.mem_cons, mem_opened]
        by_cases own : holder = id
        · simp [own, LeadsTo, found]
        · simp [own, LeadsTo]
      · intro target
        have own : (Visit.body body).total (callWeight target) = callsIn program target id := by
          simp [callsIn, bodyTotal, found]
        simp only [roots]
        rw [count_filterMap_eq_sum, opens.sum_eq, List.map_singleton, List.sum_singleton, own]
        rfl

/-- Collecting the calls of a declaration ends.  A member is among the targets
exactly if it is called in the body of the declaration or in one that the
declaration leads to, and it is there once for each such call: every one of these
bodies is taken in, and none of them twice. -/
theorem invocationTargets_of_every_body (program : Program) (id : DeclarationId)
    (answer : SettingRequest → Option String) :
    ∃ targets, (invocationTargets program id).run answer = .ok targets ∧
      (∀ target, target ∈ targets ↔
        ∃ holder, program.LeadsTo id holder ∧ Invokes program holder target) ∧
      ∃ holders : List DeclarationId, holders.Nodup ∧
        (∀ holder, holder ∈ holders ↔
          program.LeadsTo id holder ∧ (program.body? holder).isSome) ∧
        ∀ target, targets.count target = (holders.map (callsIn program target)).sum := by
  refine ⟨_, run_invocationTargets program id answer, ?_, exists_holders program id⟩
  intro target
  rw [mem_calledMembers_iff_calls, calls_iff_exists_invokes]

end Overload

end StructureLint
