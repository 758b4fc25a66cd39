import StructureLint.Proofs.Pass.Token
import StructureLint.Proofs.Program.Reach

/-!
Contract: a walk that remembers being called off.

A patrol goes through a body and the local functions that it leads to.  It does
not end at the poll at which its host says stop: it raises a flag, leaves the
statement or expression at hand, and still returns to everything that is
pending, which it passes over without asking again.  Only at the very end the
flag decides what becomes of what was gathered.

Owns:
- patrols, with the declarations they have entered and the polls they have made;
- their outcome in terms of the unfolded visits: nothing that was gathered in
  part is ever handed out.

Does not own: what is gathered at a node.
-/

namespace StructureLint.Program

structure Patrol (σ : Type) where
  gathered : σ
  entered : List DeclarationId
  polls : Nat := 0
  stopped : Bool := false

namespace Patrol

variable {σ : Type}

/-- Asks the host, unless it has said stop before. -/
def ask (token : Token) (patrol : Patrol σ) : Patrol σ :=
  if patrol.stopped then
    patrol
  else
    { patrol with polls := patrol.polls + 1, stopped := token.fired patrol.polls }

def outcome (patrol : Patrol σ) : PassOutcome σ :=
  if patrol.stopped then .cancelled else .done patrol.gathered

@[simp] theorem entered_ask (token : Token) (patrol : Patrol σ) :
    (patrol.ask token).entered = patrol.entered := by
  unfold ask
  split <;> rfl

theorem stopped_ask (token : Token) {patrol : Patrol σ} (stopped : patrol.stopped = true) :
    (patrol.ask token).stopped = true := by
  rw [ask, if_pos stopped]
  exact stopped

end Patrol

section Walk

variable {σ : Type} (program : Program) (token : Token) (take : σ → Visit → σ)

theorem length_flatMap_children_lt (node : Visit) (rest : List Visit) :
    ((node.children ++ rest).flatMap Visit.visits).length <
      ((node :: rest).flatMap Visit.visits).length := by
  rw [List.flatMap_cons, node.visits_eq_cons, List.flatMap_append]
  exact Nat.lt_succ_self _

theorem length_flatMap_rest_lt (node : Visit) (rest : List Visit) :
    (rest.flatMap Visit.visits).length < ((node :: rest).flatMap Visit.visits).length := by
  rw [List.flatMap_cons, node.visits_eq_cons, List.length_append, List.length_cons]
  omega

/-- Goes on with the pending nodes. -/
def patrol (state : Patrol σ) : (pending : List Visit) → Patrol σ
  | [] => state
  | .localFunction id :: rest =>
    if fresh : id ∉ state.entered then
      match found : program.body? id with
      | none => patrol state rest
      | some body =>
        have := unenteredCount_cons_lt (mem_declarationIds_of_body? found) fresh
        patrol { state with entered := id :: state.entered } (.body body :: rest)
    else
      patrol state rest
  | node :: rest =>
    if node.isStep then
      let asked := state.ask token
      if asked.stopped then
        patrol asked rest
      else
        patrol { asked with gathered := take asked.gathered node } (node.children ++ rest)
    else
      patrol state (node.children ++ rest)
termination_by pending => (program.unenteredCount state.entered,
  (pending.flatMap Visit.visits).length)
decreasing_by
  · exact Prod.Lex.right _ (length_flatMap_rest_lt _ _)
  · exact Prod.Lex.left _ _ (by assumption)
  · exact Prod.Lex.right _ (length_flatMap_rest_lt _ _)
  · rw [Patrol.entered_ask]
    exact Prod.Lex.right _ (length_flatMap_rest_lt _ _)
  · rw [Patrol.entered_ask]
    exact Prod.Lex.right _ (length_flatMap_children_lt _ _)
  · exact Prod.Lex.right _ (length_flatMap_children_lt _ _)

variable {program token take}

/-- A flag that is raised stays raised. -/
theorem stopped_patrol {state : Patrol σ} {pending : List Visit}
    (stopped : state.stopped = true) :
    (patrol program token take state pending).stopped = true := by
  fun_induction patrol program token take state pending with
  | case1 => exact stopped
  | case2 _ _ _ _ _ inductionHypothesis => exact inductionHypothesis stopped
  | case3 _ _ _ _ _ _ _ inductionHypothesis => exact inductionHypothesis stopped
  | case4 _ _ _ _ inductionHypothesis => exact inductionHypothesis stopped
  | case5 _ _ _ _ _ _ asked inductionHypothesis => exact inductionHypothesis asked
  | case6 state _ _ _ _ _ going => exact absurd (state.stopped_ask token stopped) going
  | case7 _ _ _ _ _ inductionHypothesis => exact inductionHypothesis stopped

/-- The statements and expressions ahead: those of the pending nodes and of the
local functions that they open. -/
def stepsAhead (program : Program) (entered : List DeclarationId) (pending : List Visit) :
    List Visit :=
  (program.unfoldLocals entered (pending.flatMap Visit.visits)).filter Visit.isStep

section Ahead

variable {entered : List DeclarationId} {node : Visit} {rest : List Visit} {id : DeclarationId}

theorem stepsAhead_cons_of_ne (different : ∀ id, node ≠ .localFunction id) :
    program.stepsAhead entered (node :: rest) =
      (if node.isStep then [node] else []) ++
        program.stepsAhead entered (node.children ++ rest) := by
  have opened : (node :: rest).flatMap Visit.visits =
      node :: (node.children ++ rest).flatMap Visit.visits := by
    rw [List.flatMap_cons, node.visits_eq_cons, List.flatMap_append]
    rfl
  rw [stepsAhead, opened, unfoldLocals_cons_of_ne different, List.filter_cons]
  split <;> rfl

theorem stepsAhead_cons_of_shut (closed : id ∈ entered ∨ program.body? id = none) :
    program.stepsAhead entered (.localFunction id :: rest) = program.stepsAhead entered rest := by
  have opened : (Visit.localFunction id :: rest).flatMap Visit.visits =
      .localFunction id :: rest.flatMap Visit.visits := rfl
  rw [stepsAhead, opened, unfoldLocals_cons_of_shut closed]
  rfl

theorem stepsAhead_cons_of_open {body : Body} (fresh : id ∉ entered)
    (found : program.body? id = some body) :
    program.stepsAhead entered (.localFunction id :: rest) =
      program.stepsAhead (id :: entered) (.body body :: rest) := by
  have opened : (Visit.localFunction id :: rest).flatMap Visit.visits =
      .localFunction id :: rest.flatMap Visit.visits := rfl
  rw [stepsAhead, opened, unfoldLocals_cons_of_open fresh found]
  rfl

end Ahead

/-- A patrol that has not been called off so far ends cancelled if the token
fires at one of the steps ahead, and else with all of them taken. -/
theorem outcome_patrol {state : Patrol σ} {pending : List Visit}
    (going : state.stopped = false) :
    (patrol program token take state pending).outcome =
      if token.FiresWithin state.polls (program.stepsAhead state.entered pending).length then
        .cancelled
      else
        .done ((program.stepsAhead state.entered pending).foldl take state.gathered) := by
  fun_induction patrol program token take state pending with
  | case1 state =>
      have nothing : program.stepsAhead state.entered [] = [] := by
        simp [stepsAhead, unfoldLocals]
      rw [nothing, List.length_nil, if_neg (token.not_firesWithin_zero _), Patrol.outcome, going]
      rfl
  | case2 state id rest _ bodiless inductionHypothesis =>
      rw [stepsAhead_cons_of_shut (.inr bodiless)]
      exact inductionHypothesis going
  | case3 state id rest fresh body found _ inductionHypothesis =>
      rw [stepsAhead_cons_of_open fresh found]
      exact inductionHypothesis going
  | case4 state id rest closed inductionHypothesis =>
      rw [stepsAhead_cons_of_shut (.inl (Decidable.not_not.mp closed))]
      exact inductionHypothesis going
  | case5 state node rest different step asked stopped inductionHypothesis =>
      have fires : token.fired state.polls = true := by
        simpa [asked, Patrol.ask, going] using stopped
      have flagged : (patrol program token take asked rest).stopped = true :=
        stopped_patrol stopped
      rw [Patrol.outcome, if_pos flagged, stepsAhead_cons_of_ne different, if_pos step,
        if_pos]
      exact ⟨state.polls, Nat.le_refl _, by simp, fires⟩
  | case6 state node rest different step asked unstopped inductionHypothesis =>
      have quiet : ¬ token.fired state.polls = true := by
        simpa [asked, Patrol.ask, going] using unstopped
      have polls : asked.polls = state.polls + 1 := by simp [asked, Patrol.ask, going]
      have gathered : asked.gathered = state.gathered := by simp [asked, Patrol.ask, going]
      have later : token.FiresWithin state.polls
          ((program.stepsAhead state.entered (node.children ++ rest)).length + 1) ↔
          token.FiresWithin (state.polls + 1)
            (program.stepsAhead state.entered (node.children ++ rest)).length := by
        rw [token.firesWithin_succ_iff]
        exact or_iff_right quiet
      rw [inductionHypothesis (Bool.eq_false_iff.mpr unstopped), stepsAhead_cons_of_ne different,
        if_pos step]
      simp only [polls, gathered, asked, Patrol.entered_ask, List.singleton_append,
        List.length_cons, List.foldl_cons, later]
  | case7 state node rest different unstep inductionHypothesis =>
      rw [stepsAhead_cons_of_ne different, if_neg unstep]
      exact inductionHypothesis going

end Walk

end StructureLint.Program
