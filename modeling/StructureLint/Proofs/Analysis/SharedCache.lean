import StructureLint.Proofs.Analysis.Coverage
import StructureLint.Proofs.Analysis.Isolation
import StructureLint.Proofs.Command.Models
import StructureLint.Proofs.Setting.Restriction

/-!
Contract: one cache for the analyses of several programs.

Keys tell paths apart by their components, and a configuration may tell their
spellings apart.  Yet an analysis asks about each of its files in one spelling,
and the entries of one program are dropped before the next one is served.  So
each program gets the report that it gets with a cache of its own, and without
any.

Owns:
- settings by key for the files of a program;
- analyses in turn, with the cache passed on from one to the next;
- a check with one cache, with a cache for each model, and with none;
- analyses that share a cache step by step.

Does not own: how a cache knows a program.
-/

namespace StructureLint

namespace SettingsCache

/-- The programs that the cache has served so far have smaller numbers. -/
def ServedBefore (index : Nat) (cache : SettingsCache) : Prop :=
  ∀ owner, cache.owner = some owner → owner.index < index

theorem servedBefore_empty (index : Nat) : ServedBefore index {} := by
  intro owner owned
  cases owned

theorem ServedBefore.owner_ne {index : Nat} {cache : SettingsCache}
    (before : cache.ServedBefore index) : cache.owner ≠ some ⟨index⟩ := by
  intro owned
  exact Nat.lt_irrefl index (before ⟨index⟩ owned)

end SettingsCache

/-- A prepared analysis has confined rules if it was given confined rules. -/
theorem RuleSet.Confined.of_prepare {rules : RuleSet} (confined : rules.Confined)
    {program : Program} {shared : Bool} {config : Config} {analysis : Analysis}
    (prepared : Analysis.prepare program shared config rules = .ok analysis) :
    analysis.rules.Confined := by
  rw [(Analysis.prepare_eq_ok prepared).2.2]
  exact confined.filter _

namespace Command

/-- Analyses one after the other, each with the cache that the one before has left. -/
def analyzeInTurn : (index : Nat) → List Analysis → StateM SettingsCache (List (PassOutcome Report))
  | _, [] => return []
  | index, analysis :: rest => do
    let outcome ← analyzeWithCache analysis ⟨index⟩
    return outcome :: (← analyzeInTurn (index + 1) rest)

/-- An analysis with a cache of its own, which is thrown away. -/
def analyzeAlone (analysis : Analysis) (id : CompilationId) :
    StateM SettingsCache (PassOutcome Report) :=
  return (Id.run ((analyzeWithCache analysis id).run {})).1

/-- An analysis whose settings are looked up without a cache. -/
def analyzeUncached (analysis : Analysis) : StateM SettingsCache (PassOutcome Report) :=
  return .ofExcept (analysis.report analysis.config.answer)

section Confined

variable {analysis : Analysis} (confined : analysis.rules.Confined)

include confined

theorem analyzeAlone_eq (id : CompilationId) :
    analyzeAlone analysis id = analyzeUncached analysis := by
  have alone : (Id.run ((analyzeWithCache analysis id).run {})).1 = _ :=
    Analysis.run_analyzeWithCache confined (by simp)
  rw [analyzeAlone, alone]
  rfl

/-- One analysis in turn: its outcome does not depend on the cache, and the cache
that it leaves is one that the next may be given. -/
theorem run_analyzeWithCache_servedBefore {index : Nat} {cache : SettingsCache}
    (before : cache.ServedBefore index) :
    ∃ left : SettingsCache, left.ServedBefore (index + 1) ∧
      Id.run ((analyzeWithCache analysis ⟨index⟩).run cache) =
        (.ofExcept (analysis.report analysis.config.answer), left) := by
  refine ⟨_, ?_, Prod.ext (Analysis.run_analyzeWithCache confined before.owner_ne) rfl⟩
  intro owner owned
  have either := @SettingsCache.owner_interpret_answer ⟨index⟩ analysis.config.answer _
    analysis.pass cache
  rcases either with kept | served
  · exact Nat.lt_succ_of_lt (before owner (kept.symm.trans owned))
  · cases Option.some.inj (served.symm.trans owned)
    exact Nat.lt_succ_self index

end Confined

theorem run_analyzeInTurn {analyses : List Analysis}
    (confined : ∀ analysis ∈ analyses, analysis.rules.Confined) {index : Nat}
    {cache : SettingsCache} (before : cache.ServedBefore index) :
    (Id.run ((analyzeInTurn index analyses).run cache)).1 =
      analyses.map fun analysis => .ofExcept (analysis.report analysis.config.answer) := by
  -- All that the later analyses need to know of the cache is whom it has served.
  induction analyses generalizing index cache with
  | nil => rfl
  | cons analysis rest inductionHypothesis =>
      obtain ⟨left, after, ran⟩ :=
        run_analyzeWithCache_servedBefore (confined analysis List.mem_cons_self) before
      have others := inductionHypothesis
        (fun other listed => confined other (List.mem_cons_of_mem _ listed)) after
      rw [analyzeInTurn, StateT.run_bind, Id.run_bind, ran, List.map_cons, ← others]
      rfl

section Checks

variable {m : Type → Type} [Monad m] (disk : Disk m) (config : Config) {rules : RuleSet}
  (confined : rules.Confined) (paths : List SourcePath)

include confined

/-- A check with one cache for all models is one without a cache. -/
theorem analyzeModels_eq_uncached :
    analyzeModels disk config rules 0 {} paths =
      analyzeModelsWith disk config rules false (fun _ analysis => analyzeUncached analysis)
        0 {} paths := by
  rw [analyzeModels_eq_with]
  refine analyzeModelsWith_eq_of_outcome disk config rules false ?_
    (SettingsCache.servedBefore_empty 0) {} paths
  intro program analysis index cache prepared before
  exact run_analyzeWithCache_servedBefore (confined.of_prepare prepared) before

/-- A check with a cache for each model is one without a cache. -/
theorem analyzeModelsWith_alone_eq_uncached :
    analyzeModelsWith disk config rules false (fun id analysis => analyzeAlone analysis id)
        0 {} paths =
      analyzeModelsWith disk config rules false (fun _ analysis => analyzeUncached analysis)
        0 {} paths := by
  have turn : ∀ {program analysis index} {cache : SettingsCache},
      Analysis.prepare program false config rules = .ok analysis → True →
        ∃ left : SettingsCache, True ∧ (analyzeAlone analysis ⟨index⟩).run cache =
          (PassOutcome.ofExcept (analysis.report analysis.config.answer), left) := by
    intro program analysis index cache prepared _
    refine ⟨cache, trivial, ?_⟩
    rw [analyzeAlone_eq (confined.of_prepare prepared)]
    rfl
  exact analyzeModelsWith_eq_of_outcome disk config rules false turn trivial {} paths

end Checks

end Command

/-! ## Step by step -/

namespace Analysis

variable (analysis : Analysis)

/-- The setting of a file of the program, in the spelling in which an analysis
asks about that file. -/
def answerByKey (request : SettingRequest) : Option String :=
  (analysis.units.find? fun unit => decide (request.file.Same unit.file)).bind fun unit =>
    analysis.config.answer { request with file := unit.file }

theorem stable_answerByKey : StableProvider (fun _ => True) analysis.answerByKey := by
  rintro ⟨file, rule, key⟩ ⟨otherFile, otherRule, otherKey⟩ _ _ same
  obtain ⟨path, rfl, rfl⟩ : file.Same otherFile ∧ rule = otherRule ∧ key = otherKey := by
    simpa [SettingRequest.cacheKey, SourcePath.Same] using same
  have alike : ∀ unit : FileUnit,
      decide (file.Same unit.file) = decide (otherFile.Same unit.file) := by
    intro unit
    exact decide_eq_decide.mpr ⟨path.symm.trans, path.trans⟩
  unfold answerByKey
  simp only [alike]

theorem answerByKey_eq {unit : FileUnit} (listed : unit ∈ analysis.units)
    {request : SettingRequest} (own : request.file = unit.file) :
    analysis.answerByKey request = analysis.config.answer request := by
  obtain ⟨file, rule, key⟩ := request
  obtain rfl : file = unit.file := own
  unfold answerByKey
  rw [← List.head?_filter, analysis.filter_units_same listed]
  rfl

end Analysis

namespace Interleaving

/-- What happens where several analyses share a cache. -/
inductive Errand where
  | create (compilation : CompilationId)
  | drop (compilation : CompilationId)
  | analyze (compilation : CompilationId)
  | advance (index : Nat)

variable (analysisOf : CompilationId → Analysis)

def Errand.action : Errand → Action
  | .create compilation => .create compilation
  | .drop compilation => .drop compilation
  | .analyze compilation => .start compilation (analysisOf compilation).pass
  | .advance index => .advance index

/-- Programs at addresses, each with the settings of its analysis. -/
def hostingOf (address : CompilationId → Nat) : Hosting :=
  { address, provider := fun compilation => (analysisOf compilation).config.answer }

/-- The pass is an analysis on its way. -/
inductive Worker.Analyzes : Worker → Prop where
  | intro (compilation : CompilationId) (left : Pass Report) (missed : Bool) :
    Analyzes { compilation, work := (analysisOf compilation).pass, left, missed }

variable {analysisOf}

theorem Worker.Analyzes.turn {hosting : Hosting} {living : List CompilationId}
    {cache : SettingsCache} {worker : Worker} {turn : Hosting.Turn}
    (analyzes : worker.Analyzes analysisOf)
    (turned : hosting.turn? living cache worker = some turn) :
    turn.worker.Analyzes analysisOf := by
  obtain ⟨compilation, left, missed⟩ := analyzes
  unfold Hosting.turn? at turned
  cases left with
  | done report => cases turned
  | fail error => cases turned
  | checkpoint rest =>
      cases turned
      exact .intro compilation rest missed
  | lookup request rest =>
      dsimp only at turned
      split at turned
      · cases turned
        exact .intro compilation _ false
      · split at turned
        · cases turned
          exact .intro compilation _ missed
        · cases turned
          exact .intro compilation _ true

/-- An analysis in a world of confined analyses ends as it does without a cache, and
comes to its end. -/
theorem ends_as_uncached (confined : ∀ compilation, (analysisOf compilation).rules.Confined)
    {address : CompilationId → Nat} {errands : List Errand} {world : World}
    (reached : (hostingOf analysisOf address).run {} (errands.map (Errand.action analysisOf)) =
      some world)
    {index : Nat} {worker : Worker} (found : world.workers[index]? = some worker) :
    ∃ compilation left missed,
      worker = { compilation, work := (analysisOf compilation).pass, left, missed } ∧
      (∀ ending, left = ended ending →
        (analysisOf compilation).report (analysisOf compilation).config.answer = ending) ∧
      ComesTo (hostingOf analysisOf address) world index compilation (analysisOf compilation).pass
        ((analysisOf compilation).report (analysisOf compilation).config.answer) := by
  -- Settings that tell spellings apart do not depend on questions through their keys
  -- alone.  Those by key do, and no analysis asks a question on which the two differ.
  let Allowed (compilation : CompilationId) (request : SettingRequest) : Prop :=
    ∃ unit ∈ (analysisOf compilation).units, request.file = unit.file
  let settled : Hosting :=
    { address, provider := fun compilation => (analysisOf compilation).answerByKey }
  have agrees : (hostingOf analysisOf address).AgreesOn Allowed settled := by
    refine ⟨rfl, ?_⟩
    rintro compilation request ⟨unit, listed, own⟩
    exact (analysisOf compilation).answerByKey_eq listed own
  have stable : ∀ compilation, StableProvider (fun _ => True) (settled.provider compilation) :=
    fun compilation => (analysisOf compilation).stable_answerByKey
  have asks : ∀ action ∈ errands.map (Errand.action analysisOf),
      action.Starts (Worker.AsksOnly Allowed) := by
    intro action listed
    obtain ⟨errand, _, rfl⟩ := List.mem_map.mp listed
    cases errand with
    | create compilation => exact trivial
    | drop compilation => exact trivial
    | advance index => exact trivial
    | analyze compilation =>
        have bound := Analysis.asksOnly_pass (confined compilation)
        exact ⟨bound, bound⟩
  have starts : ∀ action ∈ errands.map (Errand.action analysisOf),
      action.Starts (Worker.Analyzes analysisOf) := by
    intro action listed
    obtain ⟨errand, _, rfl⟩ := List.mem_map.mp listed
    cases errand with
    | create compilation => exact trivial
    | drop compilation => exact trivial
    | advance index => exact trivial
    | analyze compilation => exact .intro compilation _ false
  have analyzes := forall_workers_run Worker.Analyzes.turn (by simp) starts reached worker
    (List.mem_of_getElem? found)
  have ends := ends_within_bound agrees stable asks reached found
  obtain ⟨compilation, left, missed⟩ := analyzes
  exact ⟨compilation, left, missed, rfl, ends⟩

end Interleaving

/-! ## One cache for all -/

section OneCache

open Analysis Command Interleaving

/-- Let rules ask about the file that they are told only.  Then analyses of any
programs that are run one after the other with one cache have the outcomes that
they have with caches of their own, and without a cache; and so has a check of
models.  The same is true where programs are known by their addresses and live
and die while their analyses take their steps in any order, as long as no program
is created at the address of one that lives or that the cache holds on to. -/
theorem shared_cache_unnoticed {rules : RuleSet} (confined : rules.Confined) (config : Config) :
    (∀ analyses : List Analysis,
      (∀ analysis ∈ analyses, ∃ program shared,
        prepare program shared config rules = .ok analysis) →
      (Id.run ((analyzeInTurn 0 analyses).run {})).1 =
        (analyses.map fun analysis => (Id.run ((analyzeWithCache analysis ⟨0⟩).run {})).1) ∧
      (Id.run ((analyzeInTurn 0 analyses).run {})).1 =
        analyses.map fun analysis => .ofExcept (analysis.report analysis.config.answer)) ∧
    (∀ {m : Type → Type} [Monad m] (disk : Disk m) (paths : List SourcePath),
      analyzeModels disk config rules 0 {} paths =
        analyzeModelsWith disk config rules false (fun id analysis => analyzeAlone analysis id)
          0 {} paths ∧
      analyzeModels disk config rules 0 {} paths =
        analyzeModelsWith disk config rules false (fun _ analysis => analyzeUncached analysis)
          0 {} paths) ∧
    ∀ (analysisOf : CompilationId → Analysis),
      (∀ compilation, ∃ program shared,
        prepare program shared config rules = .ok (analysisOf compilation)) →
      ∀ (address : CompilationId → Nat) (errands : List Errand) (world : World),
        (hostingOf analysisOf address).run {} (errands.map (Errand.action analysisOf)) =
          some world →
        ∀ index worker, world.workers[index]? = some worker → ∃ compilation left missed,
          worker = { compilation, work := (analysisOf compilation).pass, left, missed } ∧
          (∀ ending, left = ended ending →
            (analysisOf compilation).report (analysisOf compilation).config.answer = ending) ∧
          ComesTo (hostingOf analysisOf address) world index compilation
            (analysisOf compilation).pass
            ((analysisOf compilation).report (analysisOf compilation).config.answer) := by
  refine ⟨?inTurn, ?check, ?sideBySide⟩
  case inTurn =>
    intro analyses prepared
    have enabled : ∀ analysis ∈ analyses, analysis.rules.Confined := by
      intro analysis listed
      obtain ⟨program, shared, accepted⟩ := prepared analysis listed
      exact confined.of_prepare accepted
    have uncached := run_analyzeInTurn enabled (SettingsCache.servedBefore_empty 0)
    refine ⟨?_, uncached⟩
    rw [uncached]
    refine List.map_congr_left ?_
    intro analysis listed
    exact (run_analyzeWithCache (enabled analysis listed) (by simp)).symm
  case check =>
    intro m _ disk paths
    have uncached := analyzeModels_eq_uncached disk config confined paths
    have alone := analyzeModelsWith_alone_eq_uncached disk config confined paths
    exact ⟨uncached.trans alone.symm, uncached⟩
  case sideBySide =>
    intro analysisOf prepared address errands world reached index worker found
    have enabled : ∀ compilation, (analysisOf compilation).rules.Confined := by
      intro compilation
      obtain ⟨program, shared, accepted⟩ := prepared compilation
      exact confined.of_prepare accepted
    exact ends_as_uncached enabled reached found

def methodIn (path : String) : Program :=
  { declarations := [
      { name := "Load", kind := .method, file := ⟨path⟩, span := .at 1 1
        body := some (.block (.mk ⟨1⟩ {} [.mk ⟨2⟩ {} .breaks])) }]
    isNormalized := true }

/-- A configuration that tells two spellings of one path apart. -/
def plainSpellingOnly : Config :=
  { overrides := [
      { files := ["src/Loader.cs"]
        rules := [("statement-count", { options := [("max_statement_count", .string "0")] })] }] }

def limitIn (path : String) : SettingRequest :=
  ⟨⟨path⟩, "statement-count", "max_statement_count"⟩

/-- One program for each of two spellings. -/
def spellingOf (id : CompilationId) : String :=
  if id.index = 0 then "src//Loader.cs" else "src/Loader.cs"

def spelledAnalysis (id : CompilationId) : Analysis :=
  equip plainSpellingOnly Preset.minimal.rules (methodIn (spellingOf id))

theorem prepare_methodIn (id : CompilationId) :
    prepare (methodIn (spellingOf id)) false plainSpellingOnly Preset.minimal.rules =
      .ok (spelledAnalysis id) :=
  rfl

def startBoth : List Errand :=
  [.create ⟨0⟩, .create ⟨1⟩, .analyze ⟨0⟩, .analyze ⟨1⟩]

/-- The two analyses ask questions with one key, are answered differently, and do
not disturb each other, neither in turn nor side by side. -/
theorem shared_cache_unnoticed_spellings :
    (limitIn "src//Loader.cs").cacheKey = (limitIn "src/Loader.cs").cacheKey ∧
    (spelledAnalysis ⟨0⟩).config.answer (limitIn "src//Loader.cs") = none ∧
    (spelledAnalysis ⟨1⟩).config.answer (limitIn "src/Loader.cs") = some "0" ∧
    (Id.run ((analyzeInTurn 0 [spelledAnalysis ⟨0⟩, spelledAnalysis ⟨1⟩]).run {})).1 =
      ([spelledAnalysis ⟨0⟩, spelledAnalysis ⟨1⟩].map fun analysis =>
        .ofExcept (analysis.report analysis.config.answer)) ∧
    ∃ world, (hostingOf spelledAnalysis CompilationId.index).run {}
        (startBoth.map (Errand.action spelledAnalysis)) = some world ∧
      ComesTo (hostingOf spelledAnalysis CompilationId.index) world 1 ⟨1⟩
        (spelledAnalysis ⟨1⟩).pass
        ((spelledAnalysis ⟨1⟩).report (spelledAnalysis ⟨1⟩).config.answer) := by
  have reached : (hostingOf spelledAnalysis CompilationId.index).run {}
    (startBoth.map (Errand.action spelledAnalysis)) = some _ := rfl
  obtain ⟨inTurn, _, sideBySide⟩ :=
    shared_cache_unnoticed (Preset.confined .minimal) plainSpellingOnly
  refine ⟨by decide +kernel, by decide +kernel, by decide +kernel, (inTurn _ ?_).2, _, reached, ?_⟩
  · intro analysis listed
    rcases List.mem_cons.mp listed with rfl | others
    · exact ⟨_, _, prepare_methodIn ⟨0⟩⟩
    · rw [List.mem_singleton.mp others]
      exact ⟨_, _, prepare_methodIn ⟨1⟩⟩
  · obtain ⟨compilation, _, _, shape, _, comes⟩ := sideBySide spelledAnalysis
      (fun id => ⟨_, _, prepare_methodIn id⟩) _ _ _ reached 1 _ rfl
    obtain rfl : ⟨1⟩ = compilation := congrArg Worker.compilation shape
    exact comes

end OneCache

end StructureLint
