import StructureLint.Command

/-!
Contract: the loop over the models of a check.

The loop makes two choices: a model that was normalized when it was loaded is
normalized again before its analysis, and its settings are looked up through the
cache that the models before it have used.  Here both choices are left open, so
that what they amount to can be said of the loop as a whole.

Owns:
- the loop with its choices left open, and the choices of a check;
- work behind the loading of a model;
- what of the way in which analyses are run shows in the loop.

Does not own: what the choices amount to.
-/

namespace StructureLint.Command

variable {m : Type → Type} [Monad m] (disk : Disk m)

/-- Analyzes models in turn.  A model is `shared` if its analysis takes it as it was
loaded, and `analyze` says how an analysis is run. -/
def analyzeModelsWith (config : Config) (rules : RuleSet) (shared : Bool)
    (analyze : CompilationId → Analysis → StateM SettingsCache (PassOutcome Report)) :
    (index : Nat) → SettingsCache → List SourcePath → Work m Report
  | _, _, [] => return {}
  | index, cache, path :: rest => do
    let program ← loadModel disk path
    match Analysis.prepare program shared config rules with
    | .error error => throw (.unprepared path error)
    | .ok analysis =>
      let (outcome, cache) := (analyze ⟨index⟩ analysis).run cache
      match outcome with
      | .cancelled => throw (.unfinished path AnalysisError.cancelled.message)
      | .failed error => throw (.unfinished path error.message)
      | .done report =>
        report.failures.forM fun failure =>
          warn ("Abandoning " ++ failure.file.text ++ ": " ++ failure.message)
        let others ← analyzeModelsWith config rules shared analyze (index + 1) cache rest
        return report.merge others

/-- A check normalizes what it has loaded once more, and uses one cache throughout. -/
theorem analyzeModels_eq_with (config : Config) (rules : RuleSet) (index : Nat)
    (cache : SettingsCache) (paths : List SourcePath) :
    analyzeModels disk config rules index cache paths =
      analyzeModelsWith disk config rules false (fun id analysis => analyzeWithCache analysis id)
        index cache paths := by
  induction paths generalizing index cache with
  | nil => rfl
  | cons path rest inductionHypothesis =>
      unfold analyzeModels analyzeModelsWith
      refine congrArg (loadModel disk path >>= ·) (funext ?_)
      intro program
      cases Analysis.prepare program false config rules with
      | error error => rfl
      | ok analysis =>
          dsimp only
          rcases (analyzeWithCache analysis ⟨index⟩).run cache with ⟨outcome, left⟩
          cases outcome with
          | cancelled => rfl
          | failed error => rfl
          | done report =>
              dsimp only
              rw [inductionHypothesis]

private theorem throw_bind [LawfulMonad m] {α β : Type} (error : CommandError)
    (next : α → Work m β) : (throw error : Work m α) >>= next = throw error := by
  apply ExceptT.ext
  simp

/-- Work behind the loading of a model gets to see normalized programs only. -/
theorem loadModel_bind_congr [LawfulMonad m] {α : Type} (path : SourcePath)
    {next other : Program → Work m α}
    (agree : ∀ program normalized : Program, program.normalize = .ok normalized →
      next normalized = other normalized) :
    loadModel disk path >>= next = loadModel disk path >>= other := by
  unfold loadModel
  rw [bind_assoc, bind_assoc]
  refine congrArg (onDisk (disk.read path) >>= ·) (funext ?_)
  intro content
  cases content with
  | error error => rw [throw_bind, throw_bind]
  | ok text =>
      dsimp only
      cases Program.parse? text with
      | none => rw [throw_bind, throw_bind]
      | some program =>
          dsimp only
          cases accepted : program.normalize with
          | error dangling => rw [throw_bind, throw_bind]
          | ok normalized => rw [pure_bind, pure_bind, agree program normalized accepted]

/-- How analyses are run shows in their outcomes only, whatever is passed on from
one model to the next. -/
theorem analyzeModelsWith_eq_of_outcome (config : Config) (rules : RuleSet) (shared : Bool)
    {analyze : CompilationId → Analysis → StateM SettingsCache (PassOutcome Report)}
    {outcome : Analysis → PassOutcome Report} {Passed : Nat → SettingsCache → Prop}
    (turn : ∀ {program analysis index cache},
      Analysis.prepare program shared config rules = .ok analysis → Passed index cache →
        ∃ left, Passed (index + 1) left ∧
          (analyze ⟨index⟩ analysis).run cache = (outcome analysis, left))
    {index : Nat} {cache : SettingsCache} (passed : Passed index cache) (other : SettingsCache)
    (paths : List SourcePath) :
    analyzeModelsWith disk config rules shared analyze index cache paths =
      analyzeModelsWith disk config rules shared (fun _ analysis => pure (outcome analysis))
        index other paths := by
  induction paths generalizing index cache with
  | nil => rfl
  | cons path rest inductionHypothesis =>
      unfold analyzeModelsWith
      refine congrArg (loadModel disk path >>= ·) (funext ?_)
      intro program
      cases prepared : Analysis.prepare program shared config rules with
      | error error => rfl
      | ok analysis =>
          obtain ⟨left, after, ran⟩ := turn prepared passed
          dsimp only
          rw [ran, StateT.run_pure]
          cases outcome analysis with
          | cancelled => rfl
          | failed error => rfl
          | done report =>
              simp only [inductionHypothesis after]
              rfl

end StructureLint.Command
