import StructureLint.Proofs.Analysis.Outcomes
import StructureLint.Proofs.Program.Patrol
import StructureLint.Proofs.Rule.Length
import StructureLint.Proofs.Rule.Overload.Calls
import StructureLint.Rule.Nesting

/-!
Contract: what is called off is called off as a whole.

Counting statements, collecting calls, the rules about nesting and overloads and
the analysis of a program poll their host on the way.  Whenever the host says
stop, before, between or behind these polls, each of them ends cancelled or with
the result of the uninterrupted run.  Counting and collecting may as well be
done by a patrol that raises a flag and goes on: it has the same outcome.

Owns:
- the polls of composed passes;
- counts and calls gathered by patrols;
- files that are worked on side by side;
- all or nothing for the walks, the rules and the analysis.

Does not own: passes against tokens in general.
-/

namespace StructureLint

namespace Pass

variable {α β : Type} (answer : SettingRequest → Option String)

/-- A sequence polls as its parts do; behind a malformed setting nothing polls. -/
theorem polls_bind (pass : Pass α) (next : α → Pass β) :
    (pass >>= next).polls answer =
      pass.polls answer + ((pass.run answer).toOption.elim 0 fun value =>
        (next value).polls answer) := by
  show (pass.bind next).polls answer = _
  induction pass with
  | done value => exact (Nat.zero_add _).symm
  | fail error => rfl
  | checkpoint rest inductionHypothesis =>
      show (rest.bind next).polls answer + 1 = rest.polls answer + 1 + _
      rw [inductionHypothesis, Nat.add_right_comm]
      rfl
  | lookup request rest inductionHypothesis => exact inductionHypothesis (answer request)

theorem polls_checkEach (elements : List α) :
    (Pass.checkEach elements).polls answer = elements.length := by
  induction elements with
  | nil => rfl
  | cons element rest inductionHypothesis => exact congrArg (· + 1) inductionHypothesis

/-- A walk that polls once for each element and then hands out a value. -/
theorem under_checkEach (token : Token) (elements : List α) (value : β) :
    (Pass.checkEach elements >>= fun _ => pure value).under answer token =
      if token.FiresWithin 0 elements.length then .cancelled else .done value := by
  have polls : (Pass.checkEach elements >>= fun _ => (pure value : Pass β)).polls answer =
      elements.length := by
    rw [polls_bind, polls_checkEach, run_checkEach]
    rfl
  rw [under_eq, polls, run_bind, run_checkEach]
  rfl

end Pass

/-! ## Patrols that count and collect -/

namespace Length

/-- The length of a body, counted by a patrol. -/
def patrolCount (program : Program) (owner : DeclarationId) (body : Body) (options : Options)
    (token : Token) : PassOutcome Nat :=
  (program.patrol token (fun total visit => total + significance options visit)
    { gathered := 0, entered := [owner] } (measuredRoots options body)).outcome

theorem foldl_significance (options : Options) (visits : List Visit) (start : Nat) :
    (visits.filter Visit.isStep).foldl (fun total visit => total + significance options visit)
      start = start + countSignificant options visits := by
  rw [countSignificant_eq_sum]
  induction visits generalizing start with
  | nil => rfl
  | cons visit rest inductionHypothesis =>
      rw [List.filter_cons, List.map_cons, List.sum_cons, ← Nat.add_assoc]
      by_cases step : visit.isStep = true
      · rw [if_pos step, List.foldl_cons]
        exact inductionHypothesis _
      · have weightless : significance options visit = 0 := by
          cases visit with
          | stmt stmt => exact absurd rfl step
          | _ => rfl
        rw [if_neg step, weightless]
        exact inductionHypothesis start

theorem patrolCount_eq_under (program : Program) (owner : DeclarationId) (body : Body)
    (options : Options) (answer : SettingRequest → Option String) (token : Token) :
    patrolCount program owner body options token =
      (count program owner body options).under answer token := by
  have steps : program.stepsAhead [owner] (measuredRoots options body) =
      (program.unfoldLocals [owner] (measuredVisits options body)).filter Visit.isStep := by
    rw [Program.stepsAhead, measuredVisits_eq_flatMap]
  have counted := foldl_significance options
    (program.unfoldLocals [owner] (measuredVisits options body)) 0
  rw [patrolCount, Program.outcome_patrol rfl, steps, counted, Nat.zero_add]
  exact (Pass.under_checkEach answer token _ _).symm

end Length

namespace Overload

/-- The calls of a declaration, collected by a patrol. -/
def patrolTargets (program : Program) (id : DeclarationId) (token : Token) :
    PassOutcome (List MemberId) :=
  (program.patrol token
    (fun targets visit => targets ++ (visit.expr?.bind Expr.invocationTarget?).toList)
    { gathered := [], entered := [id] } ((program.body? id).toList.map .body)).outcome

theorem foldl_invocationTarget (visits : List Visit) (start : List MemberId) :
    (visits.filter Visit.isStep).foldl
      (fun targets visit => targets ++ (visit.expr?.bind Expr.invocationTarget?).toList) start =
      start ++ visits.filterMap fun visit => visit.expr?.bind Expr.invocationTarget? := by
  induction visits generalizing start with
  | nil => exact (List.append_nil start).symm
  | cons visit rest inductionHypothesis =>
      have first : (visit :: rest).filterMap (fun visit =>
          visit.expr?.bind Expr.invocationTarget?) =
          (visit.expr?.bind Expr.invocationTarget?).toList ++
            rest.filterMap fun visit => visit.expr?.bind Expr.invocationTarget? := by
        rw [List.filterMap_cons]
        cases visit.expr?.bind Expr.invocationTarget? <;> rfl
      rw [List.filter_cons, first, ← List.append_assoc]
      by_cases step : visit.isStep = true
      · rw [if_pos step, List.foldl_cons]
        exact inductionHypothesis _
      · have nothing : visit.expr? = none := by
          cases visit with
          | expr expr => exact absurd rfl step
          | _ => rfl
        rw [if_neg step, nothing]
        simpa using inductionHypothesis start

theorem patrolTargets_eq_under (program : Program) (id : DeclarationId)
    (answer : SettingRequest → Option String) (token : Token) :
    patrolTargets program id token = (invocationTargets program id).under answer token := by
  have steps : program.stepsAhead [id] ((program.body? id).toList.map .body) =
      (reachedVisits program id).filter Visit.isStep := by
    unfold Program.stepsAhead reachedVisits
    cases program.body? id with
    | none => simp [Program.unfoldLocals]
    | some body => simp [Visit.visits]
  have collected := foldl_invocationTarget (reachedVisits program id) []
  rw [patrolTargets, Program.outcome_patrol rfl, steps, collected, List.nil_append]
  exact (Pass.under_checkEach answer token _ _).symm

end Overload

/-! ## Files side by side -/

namespace Analysis

variable (analysis : Analysis) (answer : SettingRequest → Option String)

/-- The outcome if the files are worked on side by side: each of them polls what
it gets to see of the host's token, and `last` is the poll behind all of them. -/
def sideBySide (tokens : FileUnit → Token) (last : Bool) : PassOutcome Report :=
  let endings := analysis.units.mapM fun unit =>
    (((analysis.filePass unit).attempt.under answer (tokens unit)).value?).map
      (fileReport unit.file)
  match endings with
  | some reports => if last then .cancelled else .done (reports.foldl Report.merge {}).sort
  | none => .cancelled

private theorem mapM_eq_none_or_map {α β : Type} {pick : α → Option β} {value : α → β}
    (elements : List α)
    (each : ∀ element, pick element = none ∨ pick element = some (value element)) :
    elements.mapM pick = none ∨ elements.mapM pick = some (elements.map value) := by
  induction elements with
  | nil => exact .inr rfl
  | cons element rest inductionHypothesis =>
      rw [List.mapM_cons]
      rcases each element with missing | found
      · exact .inl (by rw [missing]; rfl)
      · rw [found]
        rcases inductionHypothesis with missing | others
        · exact .inl (by rw [missing]; rfl)
        · exact .inr (by rw [others]; rfl)

theorem under_never : analysis.pass.under answer .never = .ofExcept (analysis.report answer) :=
  (Pass.allOrNothing answer analysis.pass .never).uninterrupted

theorem sideBySide_cancelled_or_whole (tokens : FileUnit → Token) (last : Bool) :
    analysis.sideBySide answer tokens last = .cancelled ∨
      analysis.sideBySide answer tokens last = analysis.pass.under answer .never := by
  have ending : ∀ unit, (((analysis.filePass unit).attempt.under answer (tokens unit)).value?).map
      (fileReport unit.file) = none ∨
      (((analysis.filePass unit).attempt.under answer (tokens unit)).value?).map
        (fileReport unit.file) = some (analysis.contribution answer unit) := by
    intro unit
    have file := Pass.allOrNothing answer (analysis.filePass unit).attempt (tokens unit)
    rcases file.whole with cancelled | whole
    · exact .inl (by rw [cancelled]; rfl)
    · rw [whole, file.uninterrupted, Pass.run_attempt]
      exact .inr rfl
  unfold sideBySide
  rcases mapM_eq_none_or_map analysis.units ending with missing | reports
  · exact .inl (by rw [missing])
  · rw [reports, under_never, report_eq_merge]
    cases last with
    | true => exact .inl rfl
    | false => exact .inr rfl

end Analysis

/-! ## All or nothing -/

/-- An analysis polls at least once, behind its last file. -/
theorem Analysis.polls_pass_pos (analysis : Analysis) (answer : SettingRequest → Option String) :
    0 < analysis.pass.polls answer := by
  have reported : analysis.pass.run answer = .ok _ := analysis.report_eq answer
  unfold Analysis.pass at reported ⊢
  rw [Pass.polls_bind]
  rw [Pass.run_bind] at reported
  generalize (Pass.each _ analysis.units).run answer = reports at reported ⊢
  cases reports with
  | error error => cases reported
  | ok reports => exact Nat.lt_add_left _ Nat.one_pos

/-- Whatever the token says and whenever it fires: a count, a list of calls, the
findings about nesting and about overloads, and the report of an analysis are
those of the uninterrupted run, or there is none of them.  So it is for the
report if the files poll side by side. -/
theorem cancellation_all_or_nothing (token : Token) (answer : SettingRequest → Option String) :
    (∀ program owner body options,
      (Length.count program owner body options).AllOrNothing answer token ∧
        Length.patrolCount program owner body options token =
          (Length.count program owner body options).under answer token) ∧
    (∀ builtin severity scope,
      (Nesting.check builtin severity scope).AllOrNothing answer token) ∧
    (∀ program id,
      (Overload.invocationTargets program id).AllOrNothing answer token ∧
        Overload.patrolTargets program id token =
          (Overload.invocationTargets program id).under answer token) ∧
    (∀ severity scope, (Overload.check severity scope).AllOrNothing answer token) ∧
    ∀ analysis : Analysis,
      analysis.pass.AllOrNothing answer token ∧ 0 < analysis.pass.polls answer ∧
        ∀ tokens last, analysis.sideBySide answer tokens last = .cancelled ∨
          analysis.sideBySide answer tokens last = analysis.pass.under answer .never := by
  refine ⟨?counting, ?nesting, ?calling, ?overloads, ?analysis⟩
  case counting =>
    intro program owner body options
    exact ⟨Pass.allOrNothing answer _ token,
      Length.patrolCount_eq_under program owner body options answer token⟩
  case nesting =>
    intro builtin severity scope
    exact Pass.allOrNothing answer _ token
  case calling =>
    intro program id
    exact ⟨Pass.allOrNothing answer _ token,
      Overload.patrolTargets_eq_under program id answer token⟩
  case overloads =>
    intro severity scope
    exact Pass.allOrNothing answer _ token
  case analysis =>
    intro analysis
    exact ⟨Pass.allOrNothing answer _ token, analysis.polls_pass_pos answer,
      analysis.sideBySide_cancelled_or_whole answer⟩

end StructureLint
