import StructureLint.Pass

/-!
Contract: what a pass does against a host that never calls it off.

`run` is a morphism: it carries the composition of passes to the composition of
their outcomes.  Everything that is said about an uninterrupted pass is said
about `Except` through the laws below.

Owns:
- the laws of `run` for sequencing, checkpoints, lists and attempts;
- the outcome of a run as that of a host that never stops;
- properties of all values that a pass may return.

Does not own: hosts that stop.
-/

namespace StructureLint

/-- How a run that is not called off ends. -/
def PassOutcome.ofExcept {α : Type} : Except SettingError α → PassOutcome α
  | .ok value => .done value
  | .error error => .failed error

theorem PassOutcome.ofExcept_ne_cancelled {α : Type} (ending : Except SettingError α) :
    PassOutcome.ofExcept ending ≠ .cancelled := by
  intro same
  cases ending <;> cases same

namespace Pass

variable {α β : Type} (answer : SettingRequest → Option String)

@[simp] theorem run_pure (value : α) : (pure value : Pass α).run answer = .ok value :=
  rfl

@[simp] theorem run_fail (error : SettingError) :
    (Pass.fail error : Pass α).run answer = .error error :=
  rfl

@[simp] theorem run_check : Pass.check.run answer = .ok () :=
  rfl

@[simp] theorem run_ask (request : SettingRequest) :
    (Pass.ask request).run answer = .ok (answer request) :=
  rfl

@[simp] theorem run_bind (pass : Pass α) (next : α → Pass β) :
    (pass >>= next).run answer = (pass.run answer).bind fun value => (next value).run answer := by
  show (pass.bind next).run answer = _
  induction pass with
  | done value => rfl
  | fail error => rfl
  | checkpoint rest inductionHypothesis => exact inductionHypothesis
  | lookup request rest inductionHypothesis => exact inductionHypothesis (answer request)

@[simp] theorem run_checkEach (elements : List α) :
    (Pass.checkEach elements).run answer = .ok () := by
  induction elements with
  | nil => rfl
  | cons element rest inductionHypothesis => exact inductionHypothesis

/-- Checkpoints do not tell what they stand for. -/
theorem checkEach_map (change : α → β) (elements : List α) :
    Pass.checkEach (elements.map change) = Pass.checkEach elements := by
  induction elements with
  | nil => rfl
  | cons element rest inductionHypothesis => exact congrArg checkpoint inductionHypothesis

/-- An attempt always ends with a value: the outcome of what was attempted. -/
@[simp] theorem run_attempt (pass : Pass α) :
    pass.attempt.run answer = .ok (pass.run answer) := by
  induction pass with
  | done value => rfl
  | fail error => rfl
  | checkpoint rest inductionHypothesis => exact inductionHypothesis
  | lookup request rest inductionHypothesis => exact inductionHypothesis (answer request)

/-- A pass over a list whose parts all succeed. -/
theorem run_each_of_ok (work : α → Pass β) (value : α → β) (elements : List α)
    (succeeds : ∀ element ∈ elements, (work element).run answer = .ok (value element)) :
    (Pass.each work elements).run answer = .ok (elements.map value) := by
  induction elements with
  | nil => rfl
  | cons element rest inductionHypothesis =>
      have headSucceeds := succeeds element (by simp)
      have tailSucceeds := inductionHypothesis fun other member =>
        succeeds other (List.mem_cons_of_mem _ member)
      simp only [Pass.each, run_bind, headSucceeds, tailSucceeds, run_pure, List.map_cons,
        Except.bind]

/-- Every value that the pass may return, whatever it is answered, has the property. -/
def Yields (Holds : α → Prop) : Pass α → Prop
  | .done value => Holds value
  | .fail _ => True
  | .checkpoint rest => rest.Yields Holds
  | .lookup _ rest => ∀ value, (rest value).Yields Holds

theorem yields_bind {Holds : β → Prop} (pass : Pass α) {next : α → Pass β}
    (later : ∀ value, (next value).Yields Holds) : (pass >>= next).Yields Holds := by
  show (pass.bind next).Yields Holds
  induction pass with
  | done value => exact later value
  | fail error => exact trivial
  | checkpoint rest inductionHypothesis => exact inductionHypothesis
  | lookup request rest inductionHypothesis => exact inductionHypothesis

theorem Yields.of_run {Holds : α → Prop} {pass : Pass α} (yields : pass.Yields Holds)
    {value : α} (ran : pass.run answer = .ok value) : Holds value := by
  induction pass with
  | done result =>
      cases ran
      exact yields
  | fail error => cases ran
  | checkpoint rest inductionHypothesis => exact inductionHypothesis yields ran
  | lookup request rest inductionHypothesis =>
      exact inductionHypothesis (answer request) (yields (answer request)) ran

end Pass

end StructureLint
