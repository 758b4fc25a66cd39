import StructureLint.Proofs.Pass

/-!
Contract: passes against a host that may call them off.

A token is what the host says at each poll: no until some moment, and yes ever
after.  A pass that is run against a token polls it at its checkpoints.  If the
token has fired by the last poll of the uninterrupted run, the pass ends
cancelled; if it has not, the pass ends as the uninterrupted run does.

Owns:
- tokens, and the outcome of a pass against one;
- the polls of an uninterrupted run;
- all or nothing, for every pass.

Does not own: where a particular pass has its checkpoints.
-/

namespace StructureLint

/-- What a host says at its polls; it never takes a stop back. -/
structure Token where
  fired : Nat → Bool
  stays : ∀ poll, fired poll = true → fired (poll + 1) = true

namespace Token

def never : Token where
  fired := fun _ => false
  stays := fun _ fires => fires

/-- The next poll; the state is the number of polls so far. -/
def poll (token : Token) : StateM Nat Bool :=
  modifyGet fun asked => (token.fired asked, asked + 1)

theorem fired_of_le (token : Token) {first later : Nat} (order : first ≤ later)
    (fires : token.fired first = true) : token.fired later = true := by
  induction order with
  | refl => exact fires
  | step _ inductionHypothesis => exact token.stays _ inductionHypothesis

/-- The token fires at one of `count` polls, the first of which has number `start`. -/
def FiresWithin (token : Token) (start count : Nat) : Prop :=
  ∃ poll, start ≤ poll ∧ poll < start + count ∧ token.fired poll = true

instance (token : Token) (start count : Nat) : Decidable (token.FiresWithin start count) :=
  decidable_of_iff (∃ offset < count, token.fired (start + offset) = true) (by
    constructor
    · rintro ⟨offset, below, fires⟩
      exact ⟨start + offset, by omega, by omega, fires⟩
    · rintro ⟨poll, above, below, fires⟩
      refine ⟨poll - start, by omega, ?_⟩
      rwa [Nat.add_sub_cancel' above])

theorem not_firesWithin_zero (token : Token) (start : Nat) : ¬ token.FiresWithin start 0 := by
  rintro ⟨poll, above, below, _⟩
  omega

theorem not_firesWithin_never (start count : Nat) : ¬ never.FiresWithin start count := by
  rintro ⟨poll, _, _, fires⟩
  exact Bool.false_ne_true fires

theorem firesWithin_succ_iff (token : Token) (start count : Nat) :
    token.FiresWithin start (count + 1) ↔
      token.fired start = true ∨ token.FiresWithin (start + 1) count := by
  constructor
  · rintro ⟨poll, above, below, fires⟩
    rcases Nat.eq_or_lt_of_le above with same | later
    · exact .inl (same ▸ fires)
    · exact .inr ⟨poll, later, by omega, fires⟩
  · rintro (fires | ⟨poll, above, below, fires⟩)
    · exact ⟨start, Nat.le_refl _, by omega, fires⟩
    · exact ⟨poll, by omega, by omega, fires⟩

/-- What fires at some poll has fired by the last one. -/
theorem firesWithin_iff_last (token : Token) (count : Nat) :
    token.FiresWithin 0 count ↔ 0 < count ∧ token.fired (count - 1) = true := by
  constructor
  · rintro ⟨poll, _, below, fires⟩
    have upToLast : poll ≤ count - 1 := by omega
    exact ⟨by omega, token.fired_of_le upToLast fires⟩
  · rintro ⟨positive, fires⟩
    exact ⟨count - 1, Nat.zero_le _, by omega, fires⟩

end Token

/-- What a pass that came to its end hands out. -/
def PassOutcome.value? {α : Type} : PassOutcome α → Option α
  | .done value => some value
  | _ => none

namespace Pass

variable {α : Type} (answer : SettingRequest → Option String)

/-- How many polls the uninterrupted run makes. -/
def polls : Pass α → Nat
  | .done _ => 0
  | .fail _ => 0
  | .checkpoint rest => rest.polls + 1
  | .lookup request rest => (rest (answer request)).polls

/-- The outcome of a pass whose host answers questions and polls the token. -/
def under (token : Token) (pass : Pass α) : PassOutcome α :=
  (Id.run ((pass.interpret token.poll fun request => pure (answer request)).run 0)).1

/-- From the poll of number `start` on, the host calls a pass off at the first
poll at which the token has fired, and otherwise lets it end by itself. -/
theorem interpret_token (token : Token) (pass : Pass α) (start : Nat) :
    (Id.run ((pass.interpret token.poll fun request => pure (answer request)).run start)).1 =
      if token.FiresWithin start (pass.polls answer) then .cancelled
      else .ofExcept (pass.run answer) := by
  induction pass generalizing start with
  | done value => exact (if_neg (token.not_firesWithin_zero start)).symm
  | fail error => exact (if_neg (token.not_firesWithin_zero start)).symm
  | lookup request rest inductionHypothesis => exact inductionHypothesis (answer request) start
  | checkpoint rest inductionHypothesis =>
      have opened : (Id.run (((Pass.checkpoint rest).interpret token.poll
          fun request => pure (answer request)).run start)).1 =
          if token.fired start then .cancelled
          else (Id.run ((rest.interpret token.poll
            fun request => pure (answer request)).run (start + 1))).1 := by
        show (Id.run ((if token.fired start then pure .cancelled else _ :
          StateM Nat (PassOutcome α)).run (start + 1))).1 = _
        split <;> rfl
      rw [opened, inductionHypothesis (start + 1)]
      show _ = if token.FiresWithin start (rest.polls answer + 1) then _ else _
      by_cases fires : token.fired start = true
      · rw [if_pos fires, if_pos ((token.firesWithin_succ_iff _ _).mpr (.inl fires))]
      · rw [if_neg fires]
        have later : token.FiresWithin start (rest.polls answer + 1) ↔
            token.FiresWithin (start + 1) (rest.polls answer) := by
          rw [token.firesWithin_succ_iff]
          exact or_iff_right fires
        simp only [later]
        rfl

theorem under_eq (token : Token) (pass : Pass α) :
    pass.under answer token =
      if token.FiresWithin 0 (pass.polls answer) then .cancelled
      else .ofExcept (pass.run answer) :=
  interpret_token answer token pass 0

/-- The pass ends cancelled or as if the token never fired.  It ends cancelled
exactly if the token has fired by the last poll of the uninterrupted run. -/
structure AllOrNothing (pass : Pass α) (token : Token) : Prop where
  whole : pass.under answer token = .cancelled ∨
    pass.under answer token = pass.under answer .never
  uninterrupted : pass.under answer .never = .ofExcept (pass.run answer)
  cancelled_iff : pass.under answer token = .cancelled ↔
    0 < pass.polls answer ∧ token.fired (pass.polls answer - 1) = true

theorem allOrNothing (pass : Pass α) (token : Token) : pass.AllOrNothing answer token := by
  have uninterrupted : pass.under answer .never = .ofExcept (pass.run answer) := by
    rw [under_eq, if_neg (Token.not_firesWithin_never _ _)]
  by_cases fires : token.FiresWithin 0 (pass.polls answer)
  · have cancelled : pass.under answer token = .cancelled := by rw [under_eq, if_pos fires]
    exact {
      whole := .inl cancelled
      uninterrupted
      cancelled_iff := ⟨fun _ => (token.firesWithin_iff_last _).mp fires, fun _ => cancelled⟩ }
  · have undisturbed : pass.under answer token = .ofExcept (pass.run answer) := by
      rw [under_eq, if_neg fires]
    refine { whole := .inr (undisturbed.trans uninterrupted.symm), uninterrupted,
             cancelled_iff := ?_ }
    constructor
    · intro cancelled
      exact absurd (undisturbed.symm.trans cancelled) (PassOutcome.ofExcept_ne_cancelled _)
    · intro last
      exact absurd ((token.firesWithin_iff_last _).mpr last) fires

end Pass

end StructureLint
