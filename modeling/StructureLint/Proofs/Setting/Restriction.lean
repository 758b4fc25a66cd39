import StructureLint.Proofs.Setting.Interleaving

/-!
Contract: passes that share a cache and are bound in what they ask.

Settings need not depend on a question through its key alone.  Where the passes
for a program ask no questions but those on which they do, the settings may be
replaced by others that depend on the key everywhere: no step of any pass shows
the difference.  So every pass comes to the end that it has without a cache.

Owns:
- properties that every pass of a world keeps;
- hostings that agree on what passes may ask, step by step and in whole runs;
- the endings of passes with such a bound, and that they come to them.

Does not own: why questions within the bound depend on their key.
-/

namespace StructureLint.Interleaving

/-! ## What holds of every pass -/

/-- A pass that is started has the property. -/
def Action.Starts (Holds : Worker → Prop) : Action → Prop
  | .start compilation work => Holds { compilation, work }
  | .create _ | .drop _ | .advance _ => True

section Workers

variable {hosting : Hosting} {Holds : Worker → Prop}
  (kept : ∀ {living cache worker turn}, Holds worker →
    hosting.turn? living cache worker = some turn → Holds turn.worker)

include kept

theorem forall_workers_step {world next : World} (holds : ∀ worker ∈ world.workers, Holds worker)
    {action : Action} (starts : action.Starts Holds)
    (stepped : hosting.step world action = some next) : ∀ worker ∈ next.workers, Holds worker := by
  cases action with
  | create compilation =>
      obtain ⟨_, ⟨⟩⟩ := Option.ite_none_right_eq_some.mp stepped
      exact holds
  | drop compilation =>
      obtain ⟨_, ⟨⟩⟩ := Option.ite_none_right_eq_some.mp stepped
      exact holds
  | start compilation work =>
      obtain ⟨_, ⟨⟩⟩ := Option.ite_none_right_eq_some.mp stepped
      intro worker listed
      rcases List.mem_append.mp listed with older | new
      · exact holds worker older
      · rw [List.mem_singleton.mp new]
        exact starts
  | advance index =>
      obtain ⟨worker, found, turnedTo⟩ := Option.bind_eq_some_iff.mp stepped
      obtain ⟨turn, turned, rfl⟩ := Option.map_eq_some_iff.mp turnedTo
      intro one listed
      rcases List.mem_or_eq_of_mem_set listed with older | rfl
      · exact holds one older
      · exact kept (holds worker (List.mem_of_getElem? found)) turned

/-- What every pass has when it is started, and keeps in its steps, it always has. -/
theorem forall_workers_run {world reached : World}
    (holds : ∀ worker ∈ world.workers, Holds worker) {actions : List Action}
    (starts : ∀ action ∈ actions, action.Starts Holds)
    (ran : hosting.run world actions = some reached) :
    ∀ worker ∈ reached.workers, Holds worker := by
  induction actions generalizing world with
  | nil =>
      cases ran
      exact holds
  | cons action rest inductionHypothesis =>
      obtain ⟨next, stepped, ranOn⟩ := Option.bind_eq_some_iff.mp ran
      have after := forall_workers_step kept holds (starts action List.mem_cons_self) stepped
      exact inductionHypothesis after
        (fun later listed => starts later (List.mem_cons_of_mem _ listed)) ranOn

end Workers

/-! ## Passes within a bound -/

variable {Allowed : CompilationId → SettingRequest → Prop}

/-- All that a pass asks, and what it has still to ask, is allowed for its program. -/
structure Worker.AsksOnly (Allowed : CompilationId → SettingRequest → Prop) (worker : Worker) :
    Prop where
  work : worker.work.AsksOnly (Allowed worker.compilation)
  left : worker.left.AsksOnly (Allowed worker.compilation)

theorem Worker.AsksOnly.turn {hosting : Hosting} {living : List CompilationId}
    {cache : SettingsCache} {worker : Worker} {turn : Hosting.Turn}
    (asks : worker.AsksOnly Allowed)
    (turned : hosting.turn? living cache worker = some turn) : turn.worker.AsksOnly Allowed := by
  obtain ⟨work, left⟩ := asks
  unfold Hosting.turn? at turned
  split at turned
  · cases turned
  · cases turned
  · next rest now =>
    rw [now] at left
    cases turned
    cases left with
    | checkpoint later => exact ⟨work, later⟩
  · next request rest now =>
    have unchanged := left
    rw [now] at left
    cases left with
    | lookup _ later =>
        dsimp only at turned
        split at turned
        · cases turned
          exact ⟨work, later _⟩
        · split at turned
          · cases turned
            exact ⟨work, later _⟩
          · cases turned
            exact ⟨work, unchanged⟩

/-! ## Hostings that agree -/

/-- Programs lie at the same addresses, and allowed questions have the same answers. -/
structure Hosting.AgreesOn (Allowed : CompilationId → SettingRequest → Prop)
    (hosting other : Hosting) : Prop where
  address : other.address = hosting.address
  provider : ∀ compilation request, Allowed compilation request →
    other.provider compilation request = hosting.provider compilation request

section Agreement

variable {hosting other : Hosting} (agrees : hosting.AgreesOn Allowed other)

include agrees

theorem bind_agrees (living : List CompilationId) (cache : SettingsCache)
    (compilation : CompilationId) :
    other.bind living cache compilation = hosting.bind living cache compilation := by
  unfold Hosting.bind
  rw [agrees.address]

theorem turn?_agrees (living : List CompilationId) (cache : SettingsCache) {worker : Worker}
    (asks : worker.AsksOnly Allowed) :
    other.turn? living cache worker = hosting.turn? living cache worker := by
  have left := asks.left
  unfold Hosting.turn?
  rw [bind_agrees agrees]
  cases now : worker.left with
  | done value => rfl
  | fail error => rfl
  | checkpoint rest => rfl
  | lookup request rest =>
      rw [now] at left
      cases left with
      | lookup allowed _ =>
          dsimp only
          rw [agrees.provider worker.compilation request allowed]

theorem step_agrees {world : World} (asks : ∀ worker ∈ world.workers, worker.AsksOnly Allowed)
    (action : Action) : other.step world action = hosting.step world action := by
  cases action with
  | create compilation =>
      unfold Hosting.step Hosting.isFree
      rw [agrees.address]
  | drop compilation => rfl
  | start compilation work => rfl
  | advance index =>
      rw [Hosting.step, Hosting.step]
      cases found : world.workers[index]? with
      | none => rfl
      | some worker =>
          rw [Option.bind_some, Option.bind_some,
            turn?_agrees agrees _ _ (asks worker (List.mem_of_getElem? found))]

theorem run_agrees {world : World} (asks : ∀ worker ∈ world.workers, worker.AsksOnly Allowed)
    {actions : List Action} (starts : ∀ action ∈ actions, action.Starts (Worker.AsksOnly Allowed)) :
    other.run world actions = hosting.run world actions := by
  induction actions generalizing world with
  | nil => rfl
  | cons action rest inductionHypothesis =>
      rw [Hosting.run, Hosting.run, step_agrees agrees asks]
      cases stepped : hosting.step world action with
      | none => rfl
      | some next =>
          have after := forall_workers_step Worker.AsksOnly.turn asks
            (starts action List.mem_cons_self) stepped
          exact inductionHypothesis after fun later listed =>
            starts later (List.mem_cons_of_mem _ listed)

end Agreement

/-! ## Endings -/

/-- Let settings that depend on questions through their keys agree with the actual
ones on all that is allowed.  Then passes within that bound, in any order of their
steps, end as they do without a cache, and each of them comes to its end. -/
theorem ends_within_bound {hosting settled : Hosting} (agrees : hosting.AgreesOn Allowed settled)
    (stable : ∀ compilation, StableProvider (fun _ => True) (settled.provider compilation))
    {actions : List Action}
    (starts : ∀ action ∈ actions, action.Starts (Worker.AsksOnly Allowed))
    {world : World} (reached : hosting.run {} actions = some world) {index : Nat}
    {worker : Worker} (found : world.workers[index]? = some worker) :
    (∀ ending, worker.left = ended ending →
      worker.work.run (hosting.provider worker.compilation) = ending) ∧
    ComesTo hosting world index worker.compilation worker.work
      (worker.work.run (hosting.provider worker.compilation)) := by
  have listed := List.mem_of_getElem? found
  have nobody : ∀ worker ∈ ({} : World).workers, worker.AsksOnly Allowed := by
    intro worker listed
    cases listed
  have asks := forall_workers_run Worker.AsksOnly.turn nobody starts reached
  have reachedToo : settled.run {} actions = some world := by
    rw [run_agrees agrees nobody starts]
    exact reached
  have sound := sound_empty.run stable reachedToo
  have same : worker.work.run (hosting.provider worker.compilation) =
      worker.work.run (settled.provider worker.compilation) :=
    (asks worker listed).work.run_congr fun request own =>
      (agrees.provider worker.compilation request own).symm
  rw [same]
  constructor
  · intro ending finished
    exact sound.ending listed finished
  · rw [← (sound.workers worker listed).onTrack]
    obtain ⟨turns, later, missed, ran, finished⟩ :=
      comesTo_run stable worker.compilation worker.work worker.left index sound found
    refine ⟨turns, later, missed, ?_, finished⟩
    rw [← ran]
    refine (run_agrees agrees asks ?_).symm
    intro action replicated
    rw [List.eq_of_mem_replicate replicated]
    exact trivial

end StructureLint.Interleaving
