import StructureLint.Proofs.Analysis.SharedCache
import StructureLint.Proofs.Command.Discovery

/-!
Contract: models that are analyzed more than once.

Warnings are written on the way and never read, so work ends in one way whatever
was warned of before.  A check ends with the reports of the models that it has
discovered, each as if it were the only one, merged and put in order.  A model
that is listed twice is read twice and its findings are reported twice.

Owns:
- how work ends;
- models in turn against each model by itself;
- how often a model of a check is analyzed.

Does not own: which models are discovered.
-/

namespace StructureLint

theorem Report.merge_empty (report : Report) : report.merge {} = report := by
  simp [Report.merge]

/-- The operations on a tree that stays as it is. -/
def DiskNode.atRest (root : DiskNode) : Disk Id where
  kind path := root.kindAt path
  read path := root.textAt path
  list path := root.listingAt path
  above path := root.above path
  write path content := (root.write path content).map fun _ => ()

namespace Command

/-! ## Endings -/

section Endings

variable {α β : Type}

/-- How work ends, given the warnings before it. -/
def endingFrom (warnings : List String) (work : Work Id α) : Except CommandError α :=
  (Id.run (work.run.run warnings)).1

/-- How work ends. -/
def ending (work : Work Id α) : Except CommandError α :=
  endingFrom [] work

/-- Work that ends in one way whatever was warned of before. -/
def Steady (work : Work Id α) : Prop :=
  ∀ warnings, endingFrom warnings work = ending work

theorem endingFrom_bind {next : α → Work Id β} (steady : ∀ value, Steady (next value))
    (work : Work Id α) (warnings : List String) :
    endingFrom warnings (work >>= next) =
      (endingFrom warnings work).bind fun value => ending (next value) := by
  simp only [endingFrom, ExceptT.run_bind, StateT.run_bind, Id.run_bind]
  rcases Id.run (work.run.run warnings) with ⟨outcome, left⟩
  cases outcome with
  | error error => rfl
  | ok value => exact steady value left

theorem Steady.bind {work : Work Id α} {next : α → Work Id β} (first : Steady work)
    (second : ∀ value, Steady (next value)) : Steady (work >>= next) := by
  intro warnings
  rw [ending, endingFrom_bind second, endingFrom_bind second, first warnings, first []]

theorem steady_pure (value : α) : Steady (pure value) :=
  fun _ => rfl

theorem steady_throw (error : CommandError) : Steady (throw error : Work Id α) :=
  fun _ => rfl

theorem steady_onDisk (step : Id α) : Steady (onDisk step) :=
  fun _ => rfl

theorem endingFrom_onDisk_bind (step : Id α) (next : α → Work Id β) (warnings : List String) :
    endingFrom warnings (onDisk step >>= next) = endingFrom warnings (next (Id.run step)) :=
  rfl

theorem endingFrom_forM_warn {messages : List α} {text : α → String} (warnings : List String) :
    endingFrom warnings (messages.forM fun message => warn (text message)) = .ok () := by
  induction messages generalizing warnings with
  | nil => rfl
  | cons message rest inductionHypothesis => exact inductionHypothesis _

theorem steady_forM_warn (messages : List α) (text : α → String) :
    Steady (messages.forM fun message => warn (text message)) := by
  intro warnings
  rw [ending, endingFrom_forM_warn, endingFrom_forM_warn]

end Endings

/-! ## Models in turn -/

section Turns

variable (disk : Disk Id) (config : Config)

/-- Analyzes one model, without a cache. -/
def analyzeModel (rules : RuleSet) (path : SourcePath) : Work Id Report := do
  let program ← loadModel disk path
  match Analysis.prepare program false config rules with
  | .error error => throw (.unprepared path error)
  | .ok analysis =>
    match PassOutcome.ofExcept (analysis.report analysis.config.answer) with
    | .cancelled => throw (.unfinished path AnalysisError.cancelled.message)
    | .failed error => throw (.unfinished path error.message)
    | .done report =>
      report.failures.forM fun failure =>
        warn ("Abandoning " ++ failure.file.text ++ ": " ++ failure.message)
      return report

theorem steady_loadModel (path : SourcePath) : Steady (loadModel disk path) := by
  refine (steady_onDisk _).bind ?_
  intro content
  cases content with
  | error error => exact steady_throw _
  | ok text =>
      dsimp only
      cases Program.parse? text with
      | none => exact steady_throw _
      | some program =>
          dsimp only
          cases program.normalize with
          | error dangling => exact steady_throw _
          | ok normalized => exact steady_pure normalized

variable (rules : RuleSet)

theorem steady_analyzeModel (path : SourcePath) : Steady (analyzeModel disk config rules path) := by
  refine (steady_loadModel disk path).bind ?_
  intro program
  cases Analysis.prepare program false config rules with
  | error error => exact steady_throw _
  | ok analysis =>
      dsimp only
      cases PassOutcome.ofExcept (analysis.report analysis.config.answer) with
      | cancelled => exact steady_throw _
      | failed error => exact steady_throw _
      | done report => exact (steady_forM_warn _ _).bind fun _ => steady_pure report

/-- One turn of the loop is the analysis of one model. -/
theorem analyzeModelsWith_uncached_cons (index : Nat) (cache : SettingsCache) (path : SourcePath)
    (rest : List SourcePath) :
    analyzeModelsWith disk config rules false (fun _ analysis => analyzeUncached analysis)
        index cache (path :: rest) =
      (do
        let report ← analyzeModel disk config rules path
        let others ← analyzeModelsWith disk config rules false
          (fun _ analysis => analyzeUncached analysis) (index + 1) cache rest
        return report.merge others) := by
  unfold analyzeModel
  rw [analyzeModelsWith, bind_assoc]
  refine congrArg (loadModel disk path >>= ·) (funext ?_)
  intro program
  cases Analysis.prepare program false config rules with
  | error error => rfl
  | ok analysis =>
      simp only [analyzeUncached, StateT.run_pure]
      cases PassOutcome.ofExcept (analysis.report analysis.config.answer) with
      | cancelled => rfl
      | failed error => rfl
      | done report => rw [bind_assoc]; rfl

/-- Reports one behind the other, in one. -/
def mergeAll (reports : List Report) : Report :=
  reports.foldr Report.merge {}

/-- Without a cache, models in turn are reported on as each by itself. -/
theorem endingFrom_analyzeModelsWith_uncached (index : Nat) (cache : SettingsCache)
    (paths : List SourcePath) (warnings : List String) :
    endingFrom warnings (analyzeModelsWith disk config rules false
        (fun _ analysis => analyzeUncached analysis) index cache paths) =
      (paths.mapM fun path => ending (analyzeModel disk config rules path)).map mergeAll := by
  induction paths generalizing index warnings with
  | nil => rfl
  | cons path rest inductionHypothesis =>
      rw [analyzeModelsWith_uncached_cons, endingFrom_bind, steady_analyzeModel, List.mapM_cons]
      · have others := inductionHypothesis (index + 1) []
        cases ending (analyzeModel disk config rules path) with
        | error error => rfl
        | ok report =>
            show ending _ = _
            rw [ending, endingFrom_bind fun _ => steady_pure _, others]
            cases rest.mapM fun path => ending (analyzeModel disk config rules path) <;> rfl
      · intro report
        refine Steady.bind ?_ fun _ => steady_pure _
        intro before
        rw [ending, inductionHypothesis, inductionHypothesis]

variable {rules}

/-- The report on a model that is the only one. -/
def modelReport (rules : RuleSet) (path : SourcePath) : Except CommandError Report :=
  ending (analyzeModels disk config rules 0 {} [path])

theorem modelReport_eq (confined : rules.Confined) (path : SourcePath) :
    modelReport disk config rules path = ending (analyzeModel disk config rules path) := by
  rw [modelReport, analyzeModels_eq_uncached disk config confined, ending,
    endingFrom_analyzeModelsWith_uncached]
  simp only [List.mapM_cons, List.mapM_nil]
  cases ending (analyzeModel disk config rules path) with
  | error error => rfl
  | ok report => exact congrArg Except.ok report.merge_empty

/-- Models in turn, all with one cache, are reported on as each by itself. -/
theorem endingFrom_analyzeModels (confined : rules.Confined) (paths : List SourcePath)
    (warnings : List String) :
    endingFrom warnings (analyzeModels disk config rules 0 {} paths) =
      (paths.mapM (modelReport disk config rules)).map mergeAll := by
  rw [analyzeModels_eq_uncached disk config confined, endingFrom_analyzeModelsWith_uncached,
    funext (modelReport_eq disk config confined)]

/-- Analyzes the models that were discovered. -/
def reportOn (rules : RuleSet) (models : List SourcePath) : Work Id Report := do
  if models.isEmpty then
    warn ("No `*" ++ modelSuffix ++ "` models found")
  return (← analyzeModels disk config rules 0 {} models).sort

theorem endingFrom_reportOn (confined : rules.Confined) (models : List SourcePath)
    (warnings : List String) :
    endingFrom warnings (reportOn disk config rules models) =
      (models.mapM (modelReport disk config rules)).map fun reports => (mergeAll reports).sort := by
  have sorted : ∀ before, endingFrom before (do
      return (← analyzeModels disk config rules 0 {} models).sort) =
        (models.mapM (modelReport disk config rules)).map fun reports =>
          (mergeAll reports).sort := by
    intro before
    rw [endingFrom_bind fun _ => steady_pure _, endingFrom_analyzeModels disk config confined]
    cases models.mapM (modelReport disk config rules) <;> rfl
  unfold reportOn
  by_cases nothing : models.isEmpty
  · rw [if_pos nothing]
    exact sorted _
  · rw [if_neg nothing]
    exact sorted warnings

theorem endingFrom_analyzePaths (confined : rules.Confined) (environment : Environment)
    (paths : List SourcePath) (warnings : List String) :
    endingFrom warnings (analyzePaths disk environment config rules paths) =
      (Id.run (discover disk environment paths)).2.bind fun models =>
        (models.mapM (modelReport disk config rules)).map fun reports =>
          (mergeAll reports).sort := by
  have shape : analyzePaths disk environment config rules paths =
      onDisk (discover disk environment paths) >>= fun discovered =>
        (discovered.1.forM fun message => warn message) >>= fun _ =>
          analyzePaths.liftExcept discovered.2 >>= reportOn disk config rules := rfl
  have ends : ∀ found before, endingFrom before
      (analyzePaths.liftExcept found >>= reportOn disk config rules) =
        found.bind fun models =>
          (models.mapM (modelReport disk config rules)).map fun reports =>
            (mergeAll reports).sort := by
    intro found before
    cases found with
    | error error => rfl
    | ok models => exact endingFrom_reportOn disk config confined models before
  rw [shape, endingFrom_onDisk_bind, endingFrom_bind, endingFrom_forM_warn]
  · exact ends _ []
  · intro _ before
    rw [ending, ends, ends]

/-- The findings of a model that is the only one; none if its analysis fails. -/
def modelFindings (rules : RuleSet) (path : SourcePath) : List Finding :=
  match modelReport disk config rules path with
  | .ok report => report.findings
  | .error _ => []

theorem flatMap_findings_of_mapM {models : List SourcePath} {reports : List Report}
    (ran : models.mapM (modelReport disk config rules) = .ok reports) :
    reports.flatMap Report.findings = models.flatMap (modelFindings disk config rules) := by
  induction models generalizing reports with
  | nil =>
      cases ran
      rfl
  | cons path rest inductionHypothesis =>
      rw [List.mapM_cons] at ran
      rw [List.flatMap_cons, modelFindings]
      cases own : modelReport disk config rules path with
      | error error =>
          rw [own] at ran
          cases ran
      | ok report =>
          cases others : rest.mapM (modelReport disk config rules) with
          | error error =>
              rw [own, others] at ran
              cases ran
          | ok further =>
              rw [own, others] at ran
              cases ran
              rw [List.flatMap_cons, inductionHypothesis others]

theorem findings_mergeAll (reports : List Report) :
    (mergeAll reports).findings = reports.flatMap Report.findings := by
  induction reports with
  | nil => rfl
  | cons report rest inductionHypothesis =>
      rw [List.flatMap_cons, ← inductionHypothesis]
      rfl

/-- The findings of a check are those of its models, in order. -/
theorem findings_sort_perm {models : List SourcePath} {reports : List Report}
    (ran : models.mapM (modelReport disk config rules) = .ok reports) :
    (mergeAll reports).sort.findings.Perm (models.flatMap (modelFindings disk config rules)) := by
  rw [← flatMap_findings_of_mapM disk config ran, ← findings_mergeAll]
  exact List.mergeSort_perm _ _

theorem confined_selectRules (preset : Preset) (listed : Option String) :
    (selectRules preset listed).Confined := by
  cases listed with
  | none => exact preset.confined
  | some names => exact preset.confined.filter _

end Turns

/-! ## Models of a check -/

/-- On every file system that stays as it is, a check of paths either finds nothing
at one of them and says so, or it ends with the reports of discovered models, as
many as are listed.  All models that the paths stand for are listed, and nothing
else is.  Which of them are listed twice is decided by the order in which they are
met: those that are met again behind another one. -/
theorem analyzed_once_iff_together (disk : Disk Id) (environment : Environment) (config : Config)
    (preset : Preset) (listed : Option String) (paths : List SourcePath) :
    (∃ missing, firstMissing? disk paths = some missing ∧
      (Id.run (discover disk environment paths)).2 = .error (.noSuchPath missing) ∧
      ∀ warnings, endingFrom warnings
        (analyzePaths disk environment config (selectRules preset listed) paths) =
          .error (.noSuchPath missing)) ∨
    firstMissing? disk paths = none ∧ ∃ models,
      (Id.run (discover disk environment paths)).2 = .ok models ∧
      Discovery disk (globalRules disk environment) paths models ∧
      (∀ warnings, endingFrom warnings
        (analyzePaths disk environment config (selectRules preset listed) paths) =
          (models.mapM (modelReport disk config (selectRules preset listed))).map
            fun reports => (mergeAll reports).sort) ∧
      ∀ reports, models.mapM (modelReport disk config (selectRules preset listed)) = .ok reports →
        (mergeAll reports).sort.findings.Perm
          (models.flatMap (modelFindings disk config (selectRules preset listed))) := by
  have ends := endingFrom_analyzePaths disk config (confined_selectRules preset listed)
    environment paths
  have found := discover_eq disk environment paths
  cases first : firstMissing? disk paths with
  | some missing =>
      rw [first] at found
      refine .inl ⟨missing, rfl, found, ?_⟩
      intro warnings
      rw [ends, found]
      rfl
  | none =>
      rw [first] at found
      refine .inr ⟨rfl, _, found, discovery_dropRepeats _ _ _, ?_,
        fun _ ran => findings_sort_perm disk config ran⟩
      intro warnings
      rw [ends, found]
      rfl

def firstModel : SourcePath := ⟨"a.shapelint.json"⟩

def secondModel : SourcePath := ⟨"b.shapelint.json"⟩

def twoModels : DiskNode :=
  .directory [(firstModel.text, .file "\x7b\x7d"), (secondModel.text, .file "\x7b\x7d")]

/-- A model that is named again behind another one is listed and analyzed again. -/
theorem model_analyzed_twice :
    (Id.run (discover twoModels.atRest {} [firstModel, secondModel, firstModel])).2 =
      .ok [firstModel, secondModel, firstModel] ∧
    ¬ ([firstModel, secondModel, firstModel].Pairwise fun left right => ¬ left.Same right) ∧
    ending (analyzePaths twoModels.atRest {} {} (selectRules .recommended none)
        [firstModel, secondModel, firstModel]) =
      ([firstModel, secondModel, firstModel].mapM
        (modelReport twoModels.atRest {} (selectRules .recommended none))).map fun reports =>
          (mergeAll reports).sort := by
  have found : (Id.run (discover twoModels.atRest {} [firstModel, secondModel, firstModel])).2 =
      .ok [firstModel, secondModel, firstModel] := by decide +kernel
  refine ⟨found, by decide +kernel, ?_⟩
  rw [ending, endingFrom_analyzePaths _ _ (confined_selectRules _ _), found]
  rfl

end Command

end StructureLint
