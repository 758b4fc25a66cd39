import StructureLint.Proofs.Setting.Cached

/-!
Contract: passes that share a cache step by step.

Several passes work for several programs and share one cache.  Between the two
steps of an answer, looking for it and remembering it, any other pass may take
its turn, and programs come and go.  The cache knows the program it serves by
its address and by whether it is still there.  No address is given away while
the program at it lives or the cache holds on to it.  That is enough: addresses
tell programs apart whenever the cache looks at one, so that nothing is ever
remembered for a program that it was not asked for.

Owns:
- worlds of programs, passes and a cache, and what may happen in them;
- the invariant that every reachable world has;
- every answer and every ending in every reachable world.

Does not own: what the passes ask for.
-/

namespace StructureLint.Interleaving

/-- Where programs lie, and what the settings of each of them are. -/
structure Hosting where
  address : CompilationId → Nat
  provider : CompilationId → SettingRequest → Option String

/-- A pass on its way.  `missed` says that the answer to its next question was
looked for in vain and is now asked for. -/
structure Worker where
  compilation : CompilationId
  {Result : Type}
  work : Pass Result
  left : Pass Result := work
  missed : Bool := false

/-- An answer that was given to a pass. -/
structure Reply where
  compilation : CompilationId
  request : SettingRequest
  value : Option String

/-- The programs that live, the cache, the passes, and all answers given so far. -/
structure World where
  living : List CompilationId := []
  cache : SettingsCache := {}
  workers : List Worker := []
  replies : List Reply := []

/-- What may happen next. -/
inductive Action where
  | create (compilation : CompilationId)
  | drop (compilation : CompilationId)
  | start (compilation : CompilationId) {Result : Type} (work : Pass Result)
  | advance (index : Nat)

/-- The pass has come to its end. -/
def isOver {α : Type} : Pass α → Bool
  | .done _ | .fail _ => true
  | .checkpoint _ | .lookup _ _ => false

namespace Hosting

variable (hosting : Hosting)

/-- The cache in the service of a program, which it knows by its address: a
program that lives at the address of the owner is taken for the owner. -/
def bind (living : List CompilationId) (cache : SettingsCache) (compilation : CompilationId) :
    SettingsCache :=
  if cache.owner.any fun owner =>
      decide (owner ∈ living) && hosting.address owner == hosting.address compilation then
    cache
  else
    { owner := some compilation, entries := [] }

/-- What a step of a pass changes. -/
structure Turn where
  cache : SettingsCache
  worker : Worker
  reply : Option Reply := none

/-- The next step of a pass, unless it is over. -/
def turn? (living : List CompilationId) (cache : SettingsCache) (worker : Worker) : Option Turn :=
  match worker.left with
  | .done _ => none
  | .fail _ => none
  | .checkpoint rest => some { cache, worker := { worker with left := rest } }
  | .lookup request rest =>
    let bound := hosting.bind living cache worker.compilation
    if worker.missed then
      let value := hosting.provider worker.compilation request
      some {
        cache := bound.remember request value
        worker := { worker with left := rest value, missed := false }
        reply := some { compilation := worker.compilation, request, value } }
    else
      match bound.find? request with
      | some value =>
        some {
          cache := bound
          worker := { worker with left := rest value }
          reply := some { compilation := worker.compilation, request, value } }
      | none => some { cache := bound, worker := { worker with missed := true } }

/-- No program that lives and no owner of the cache lies at the address. -/
def isFree (world : World) (address : Nat) : Bool :=
  (world.living ++ world.cache.owner.toList).all fun other => hosting.address other != address

/-- What becomes of a world, if the action is possible: programs are created at
free addresses, and live as long as a pass works for them. -/
def step (world : World) : Action → Option World
  | .create compilation =>
    if hosting.isFree world (hosting.address compilation) then
      some { world with living := compilation :: world.living }
    else
      none
  | .drop compilation =>
    if world.workers.all fun worker => isOver worker.left || worker.compilation != compilation then
      some { world with living := world.living.filter (· != compilation) }
    else
      none
  | .start compilation work =>
    if compilation ∈ world.living then
      some { world with workers := world.workers ++ [{ compilation, work }] }
    else
      none
  | .advance index =>
    world.workers[index]?.bind fun worker =>
      (hosting.turn? world.living world.cache worker).map fun turn =>
        { world with
          cache := turn.cache
          workers := world.workers.set index turn.worker
          replies := turn.reply.toList ++ world.replies }

/-- Actions one after the other. -/
def run (world : World) : List Action → Option World
  | [] => some world
  | action :: rest => (hosting.step world action).bind fun next => run next rest

end Hosting

/-! ## The invariant -/

/-- The worker's end does not depend on what it was answered so far, and its
program lives until then. -/
structure Worker.Sound (hosting : Hosting) (living : List CompilationId) (worker : Worker) :
    Prop where
  onTrack : worker.left.run (hosting.provider worker.compilation) =
    worker.work.run (hosting.provider worker.compilation)
  lives : isOver worker.left = false → worker.compilation ∈ living

/-- What the cache may hold, given the programs that live. -/
structure CacheSound (hosting : Hosting) (living : List CompilationId) (cache : SettingsCache) :
    Prop where
  truthful : ∀ owner, cache.owner = some owner →
    cache.Truthful (fun _ => True) (hosting.provider owner)
  unowned : cache.owner = none → cache.entries = []
  held : ∀ owner, cache.owner = some owner → ∀ compilation ∈ living,
    hosting.address compilation = hosting.address owner → compilation = owner

/-- What holds of every world that can be reached. -/
structure World.Sound (hosting : Hosting) (world : World) : Prop where
  apart : ∀ compilation ∈ world.living, ∀ other ∈ world.living,
    hosting.address compilation = hosting.address other → compilation = other
  cache : CacheSound hosting world.living world.cache
  workers : ∀ worker ∈ world.workers, worker.Sound hosting world.living
  replies : ∀ reply ∈ world.replies,
    reply.value = hosting.provider reply.compilation reply.request

variable {hosting : Hosting}

/-- Among living programs, addresses are as good as identities. -/
theorem CacheSound.bind_eq {living : List CompilationId} {cache : SettingsCache}
    (sound : CacheSound hosting living cache) {compilation : CompilationId}
    (lives : compilation ∈ living) :
    hosting.bind living cache compilation = cache.bind compilation := by
  unfold Hosting.bind SettingsCache.bind
  cases owned : cache.owner with
  | none => simp
  | some owner =>
      by_cases same : owner = compilation
      · simp [same, lives]
      · have elsewhere : hosting.address owner ≠ hosting.address compilation := by
          intro address
          exact same (sound.held owner owned compilation lives address.symm).symm
        simp [same, elsewhere]

/-- A cache that serves a living program is sound if its entries are that program's. -/
theorem CacheSound.of_owner {living : List CompilationId} {cache : SettingsCache}
    (apart : ∀ compilation ∈ living, ∀ other ∈ living,
      hosting.address compilation = hosting.address other → compilation = other)
    {compilation : CompilationId} (lives : compilation ∈ living)
    (owned : cache.owner = some compilation)
    (truthful : cache.Truthful (fun _ => True) (hosting.provider compilation)) :
    CacheSound hosting living cache where
  truthful owner same := by
    obtain rfl : compilation = owner := Option.some.inj (owned.symm.trans same)
    exact truthful
  unowned absent := by
    rw [owned] at absent
    cases absent
  held owner same other otherLives := by
    obtain rfl : compilation = owner := Option.some.inj (owned.symm.trans same)
    exact apart other otherLives compilation lives

theorem sound_empty : World.Sound hosting {} where
  apart := by simp
  cache :=
    { truthful := by simp
      unowned := fun _ => rfl
      held := by simp }
  workers := by simp
  replies := by simp

/-! ## One step -/

/-- What is sound about a step of a pass. -/
structure Hosting.Turn.Sound (hosting : Hosting) (living : List CompilationId)
    (turn : Hosting.Turn) : Prop where
  cache : CacheSound hosting living turn.cache
  worker : turn.worker.Sound hosting living
  reply : ∀ reply ∈ turn.reply, reply.value = hosting.provider reply.compilation reply.request

theorem World.Sound.turn (stable : ∀ compilation,
      StableProvider (fun _ => True) (hosting.provider compilation))
    {world : World} (sound : world.Sound hosting) {worker : Worker}
    (listed : worker ∈ world.workers) {turn : Hosting.Turn}
    (turned : hosting.turn? world.living world.cache worker = some turn) :
    turn.Sound hosting world.living := by
  obtain ⟨onTrack, lives⟩ := sound.workers worker listed
  unfold Hosting.turn? at turned
  split at turned
  · cases turned
  · cases turned
  · next rest left =>
    cases turned
    rw [left] at onTrack lives
    exact { cache := sound.cache, worker := ⟨onTrack, fun _ => lives rfl⟩, reply := by simp }
  · next request rest left =>
    rw [left] at onTrack lives
    have alive := lives rfl
    have bound := SettingsCache.Truthful.of_bind (sound.cache.truthful worker.compilation)
    rw [sound.cache.bind_eq alive] at turned
    dsimp only at turned
    split at turned
    · cases turned
      exact {
        cache := .of_owner sound.apart alive SettingsCache.owner_bind (bound.remember trivial)
        worker := ⟨onTrack, fun _ => alive⟩
        reply := by rintro _ ⟨⟩; rfl }
    · have kept : CacheSound hosting world.living (world.cache.bind worker.compilation) :=
        .of_owner sound.apart alive SettingsCache.owner_bind bound
      split at turned
      · next value found =>
        cases turned
        have right := bound.find? (stable worker.compilation) trivial found
        refine { cache := kept, worker := ⟨?_, fun _ => alive⟩, reply := ?_ }
        · rw [right]
          exact onTrack
        · rintro _ ⟨⟩
          exact right
      · cases turned
        refine { cache := kept, worker := ⟨?_, fun _ => alive⟩, reply := by simp }
        rw [left]
        exact onTrack

theorem Worker.Sound.of_subset {living more : List CompilationId} {worker : Worker}
    (sound : worker.Sound hosting living)
    (kept : isOver worker.left = false → worker.compilation ∈ living → worker.compilation ∈ more) :
    worker.Sound hosting more :=
  ⟨sound.onTrack, fun unfinished => kept unfinished (sound.lives unfinished)⟩

theorem World.Sound.create {world : World} (sound : world.Sound hosting)
    {compilation : CompilationId}
    (free : hosting.isFree world (hosting.address compilation) = true) :
    World.Sound hosting { world with living := compilation :: world.living } := by
  have elsewhere : ∀ other ∈ world.living ++ world.cache.owner.toList,
      hosting.address other ≠ hosting.address compilation := by
    intro other held
    simpa using List.all_eq_true.mp free other held
  refine { apart := ?apart, cache := ?cache, workers := ?workers, replies := sound.replies }
  case apart =>
    intro one oneListed other otherListed address
    rcases List.mem_cons.mp oneListed with rfl | oneLives <;>
      rcases List.mem_cons.mp otherListed with rfl | otherLives
    · rfl
    · exact absurd address.symm (elsewhere other (List.mem_append_left _ otherLives))
    · exact absurd address (elsewhere one (List.mem_append_left _ oneLives))
    · exact sound.apart one oneLives other otherLives address
  case cache =>
    refine { truthful := sound.cache.truthful, unowned := sound.cache.unowned, held := ?_ }
    intro owner owned one oneListed address
    rcases List.mem_cons.mp oneListed with rfl | oneLives
    · have held : owner ∈ world.living ++ world.cache.owner.toList :=
        List.mem_append_right _ (Option.mem_toList.mpr owned)
      exact absurd address.symm (elsewhere owner held)
    · exact sound.cache.held owner owned one oneLives address
  case workers =>
    intro worker listed
    exact (sound.workers worker listed).of_subset fun _ lives => List.mem_cons_of_mem _ lives

theorem World.Sound.drop {world : World} (sound : world.Sound hosting)
    {compilation : CompilationId}
    (idle : (world.workers.all fun worker =>
      isOver worker.left || worker.compilation != compilation) = true) :
    World.Sound hosting { world with living := world.living.filter (· != compilation) } := by
  have smaller : ∀ one ∈ world.living.filter (· != compilation), one ∈ world.living :=
    fun one listed => (List.mem_filter.mp listed).1
  refine { apart := ?apart, cache := ?cache, workers := ?workers, replies := sound.replies }
  case apart =>
    intro one oneListed other otherListed
    exact sound.apart one (smaller one oneListed) other (smaller other otherListed)
  case cache =>
    refine { truthful := sound.cache.truthful, unowned := sound.cache.unowned, held := ?_ }
    intro owner owned one oneListed
    exact sound.cache.held owner owned one (smaller one oneListed)
  case workers =>
    intro worker listed
    refine (sound.workers worker listed).of_subset ?_
    intro unfinished lives
    have spared := List.all_eq_true.mp idle worker listed
    rw [unfinished, Bool.false_or] at spared
    exact List.mem_filter.mpr ⟨lives, spared⟩

theorem World.Sound.start {world : World} (sound : world.Sound hosting)
    {compilation : CompilationId} (lives : compilation ∈ world.living) {Result : Type}
    (work : Pass Result) :
    World.Sound hosting { world with workers := world.workers ++ [{ compilation, work }] } := by
  refine { apart := sound.apart, cache := sound.cache, workers := ?_, replies := sound.replies }
  intro worker listed
  rcases List.mem_append.mp listed with older | new
  · exact sound.workers worker older
  · rw [List.mem_singleton.mp new]
    exact ⟨rfl, fun _ => lives⟩

section Stable

variable (stable : ∀ compilation,
  StableProvider (fun _ => True) (hosting.provider compilation))

include stable

theorem World.Sound.advance {world : World} (sound : world.Sound hosting) {worker : Worker}
    (listed : worker ∈ world.workers) (index : Nat) {turn : Hosting.Turn}
    (turned : hosting.turn? world.living world.cache worker = some turn) :
    World.Sound hosting { world with
      cache := turn.cache
      workers := world.workers.set index turn.worker
      replies := turn.reply.toList ++ world.replies } := by
  have after := sound.turn stable listed turned
  refine { apart := sound.apart, cache := after.cache, workers := ?workers, replies := ?replies }
  case workers =>
    intro other otherListed
    rcases List.mem_or_eq_of_mem_set otherListed with older | rfl
    · exact sound.workers other older
    · exact after.worker
  case replies =>
    intro reply given
    rcases List.mem_append.mp given with now | before
    · exact after.reply reply (Option.mem_toList.mp now)
    · exact sound.replies reply before

theorem World.Sound.step {world next : World} (sound : world.Sound hosting) {action : Action}
    (stepped : hosting.step world action = some next) : next.Sound hosting := by
  cases action with
  | create compilation =>
      obtain ⟨free, ⟨⟩⟩ := Option.ite_none_right_eq_some.mp stepped
      exact sound.create free
  | drop compilation =>
      obtain ⟨idle, ⟨⟩⟩ := Option.ite_none_right_eq_some.mp stepped
      exact sound.drop idle
  | start compilation work =>
      obtain ⟨lives, ⟨⟩⟩ := Option.ite_none_right_eq_some.mp stepped
      exact sound.start lives work
  | advance index =>
      obtain ⟨worker, found, turnedTo⟩ := Option.bind_eq_some_iff.mp stepped
      obtain ⟨turn, turned, rfl⟩ := Option.map_eq_some_iff.mp turnedTo
      exact sound.advance stable (List.mem_of_getElem? found) index turned

/-- Whatever happens, in whatever order, a sound world stays sound. -/
theorem World.Sound.run {world reached : World} (sound : world.Sound hosting)
    {actions : List Action} (ran : hosting.run world actions = some reached) :
    reached.Sound hosting := by
  induction actions generalizing world with
  | nil =>
      cases ran
      exact sound
  | cons action rest inductionHypothesis =>
      obtain ⟨next, stepped, ranOn⟩ := Option.bind_eq_some_iff.mp ran
      exact inductionHypothesis (sound.step stable stepped) ranOn

/-! ## Progress -/

omit stable in
/-- A step of a pass that is not over is always possible. -/
theorem step_advance {world : World} {index : Nat} {worker : Worker} {turn : Hosting.Turn}
    (found : world.workers[index]? = some worker)
    (turned : hosting.turn? world.living world.cache worker = some turn) :
    ∃ next, hosting.step world (.advance index) = some next ∧
      next.workers[index]? = some turn.worker := by
  refine ⟨_, by rw [Hosting.step, found, Option.bind_some, turned, Option.map_some], ?_⟩
  obtain ⟨inside, _⟩ := List.getElem?_eq_some_iff.mp found
  exact List.getElem?_set_self inside

/-- The pass that is over as the run of another one is. -/
def ended {α : Type} : Except SettingError α → Pass α
  | .ok value => .done value
  | .error error => .fail error

/-- Turns of one pass alone bring it to that end. -/
def ComesTo (hosting : Hosting) (world : World) (index : Nat) (compilation : CompilationId)
    {Result : Type} (work : Pass Result) (ending : Except SettingError Result) : Prop :=
  ∃ turns later missed,
    hosting.run world (List.replicate turns (.advance index)) = some later ∧
      later.workers[index]? = some { compilation, work, left := ended ending, missed }

omit stable in
theorem ComesTo.of_step {world next : World} {index : Nat} {compilation : CompilationId}
    {Result : Type} {work : Pass Result} {ending : Except SettingError Result}
    (comes : ComesTo hosting next index compilation work ending)
    (stepped : hosting.step world (.advance index) = some next) :
    ComesTo hosting world index compilation work ending := by
  obtain ⟨turns, later, missed, ran, finished⟩ := comes
  refine ⟨turns + 1, later, missed, ?_, finished⟩
  rw [List.replicate_succ, Hosting.run, stepped, Option.bind_some, ran]

/-- A pass that keeps getting its turn comes to the end that it has without a cache. -/
theorem comesTo_run {Result : Type} (compilation : CompilationId) (work left : Pass Result)
    (index : Nat) {world : World} (sound : world.Sound hosting) {missed : Bool}
    (found : world.workers[index]? = some { compilation, work, left, missed }) :
    ComesTo hosting world index compilation work
      (left.run (hosting.provider compilation)) := by
  induction left generalizing world missed with
  | done value => exact ⟨0, world, missed, rfl, found⟩
  | fail error => exact ⟨0, world, missed, rfl, found⟩
  | checkpoint rest inductionHypothesis =>
      obtain ⟨next, stepped, there⟩ := step_advance found rfl
      exact (inductionHypothesis (sound.step stable stepped) there).of_step stepped
  | lookup request rest inductionHypothesis =>
      have asked : ∀ {world : World}, world.Sound hosting →
          world.workers[index]? =
            some { compilation, work, left := .lookup request rest, missed := true } →
          ComesTo hosting world index compilation work
            ((Pass.lookup request rest).run (hosting.provider compilation)) := by
        intro world sound found
        obtain ⟨next, stepped, there⟩ := step_advance found rfl
        exact (inductionHypothesis _ (sound.step stable stepped) there).of_step stepped
      cases missed with
      | true => exact asked sound found
      | false =>
          cases probed : (hosting.bind world.living world.cache compilation).find? request with
          | none =>
              have turned : hosting.turn? world.living world.cache
                  { compilation, work, left := .lookup request rest } = some {
                    cache := hosting.bind world.living world.cache compilation
                    worker := { compilation, work, left := .lookup request rest
                                missed := true } } := by
                simp [Hosting.turn?, probed]
              obtain ⟨next, stepped, there⟩ := step_advance found turned
              exact (asked (sound.step stable stepped) there).of_step stepped
          | some value =>
              have turned : hosting.turn? world.living world.cache
                  { compilation, work, left := .lookup request rest } = some {
                    cache := hosting.bind world.living world.cache compilation
                    worker := { compilation, work, left := rest value }
                    reply := some { compilation, request, value } } := by
                simp [Hosting.turn?, probed]
              have right : value = hosting.provider compilation request :=
                (sound.turn stable (List.mem_of_getElem? found) turned).reply _ rfl
              obtain ⟨next, stepped, there⟩ := step_advance found turned
              rw [right] at there
              exact (inductionHypothesis _ (sound.step stable stepped) there).of_step stepped

/-! ## Transparency -/

/-- With the world's cache the pass ends, for every program that lives, as it does without. -/
def World.Transparent (hosting : Hosting) (world : World) {α : Type} (pass : Pass α) : Prop :=
  ∀ compilation ∈ world.living,
    (Id.run ((pass.interpret (pure false) (SettingsCache.answer compilation fun request =>
      pure (hosting.provider compilation request))).run world.cache)).1 =
        .ofExcept (pass.run (hosting.provider compilation))

theorem World.Sound.transparent {world : World} (sound : world.Sound hosting) {α : Type}
    {pass : Pass α} (asks : pass.AsksOnly fun _ => True) : world.Transparent hosting pass := by
  intro compilation _
  exact SettingsCache.interpret_answer (stable compilation) asks
    (sound.cache.truthful compilation)

omit stable in
theorem World.Sound.ending {world : World} (sound : world.Sound hosting) {worker : Worker}
    (listed : worker ∈ world.workers) {ending : Except SettingError worker.Result}
    (finished : worker.left = ended ending) :
    worker.work.run (hosting.provider worker.compilation) = ending := by
  rw [← (sound.workers worker listed).onTrack, finished]
  cases ending <;> rfl

theorem World.Sound.entry {world : World} (sound : world.Sound hosting)
    {entry : CacheKey × Option String} (listed : entry ∈ world.cache.entries) :
    ∃ owner, world.cache.owner = some owner ∧
      (∃ request : SettingRequest, request.cacheKey = entry.1) ∧
      ∀ request : SettingRequest, request.cacheKey = entry.1 →
        entry.2 = hosting.provider owner request := by
  cases owned : world.cache.owner with
  | none =>
      rw [sound.cache.unowned owned] at listed
      exact absurd listed List.not_mem_nil
  | some owner =>
      obtain ⟨asked, _, key, answered⟩ := sound.cache.truthful owner owned entry listed
      refine ⟨owner, rfl, ⟨asked, key⟩, ?_⟩
      intro request sameKey
      exact answered.symm.trans
        (stable owner asked request trivial trivial (key.trans sameKey.symm))

/-- Let passes for any programs share a cache, take their steps in any order, and
let programs come and go between them.  If the settings of each program depend
on a question through its key only, then every entry of the cache is right for
the program that the cache serves, every answer that was given is right for the
program it was given for, and every pass comes to the end that it has without a
cache.  So it is for every kind of option. -/
theorem settings_cache_transparent {actions : List Action} {world : World}
    (reached : hosting.run {} actions = some world) :
    (∀ entry ∈ world.cache.entries, ∃ owner, world.cache.owner = some owner ∧
      (∃ request : SettingRequest, request.cacheKey = entry.1) ∧
      ∀ request : SettingRequest, request.cacheKey = entry.1 →
        entry.2 = hosting.provider owner request) ∧
    (∀ reply ∈ world.replies,
      reply.value = hosting.provider reply.compilation reply.request) ∧
    (∀ worker ∈ world.workers, ∀ ending, worker.left = ended ending →
      worker.work.run (hosting.provider worker.compilation) = ending) ∧
    (∀ index worker, world.workers[index]? = some worker →
      ComesTo hosting world index worker.compilation worker.work
        (worker.work.run (hosting.provider worker.compilation))) ∧
    ∀ (file : SourcePath) (rule : String),
      (∀ limit marks, world.Transparent hosting (Setting.limit file rule limit marks)) ∧
      (∀ key builtin, world.Transparent hosting (Setting.fileCount file rule key builtin)) ∧
      (∀ key builtin, world.Transparent hosting (Setting.flag file rule key builtin)) ∧
      ∀ key builtin, world.Transparent hosting (Setting.text file rule key builtin) := by
  have sound := sound_empty.run stable reached
  refine ⟨fun entry listed => sound.entry stable listed, sound.replies,
    fun worker listed ending finished => sound.ending listed finished, ?progress, ?options⟩
  case progress =>
    intro index worker found
    have onTrack := (sound.workers worker (List.mem_of_getElem? found)).onTrack
    rw [← onTrack]
    exact comesTo_run stable worker.compilation worker.work worker.left index sound found
  case options =>
    have unbounded : ∀ {file : SourcePath} {rule : String} (request : SettingRequest),
        Setting.IsAbout file rule request → True := fun _ _ => trivial
    intro file rule
    refine ⟨?_, ?_, ?_, ?_⟩
    · intro limit marks
      exact sound.transparent stable ((Setting.asksOnly_limit file rule limit marks).mono unbounded)
    · intro key builtin
      exact sound.transparent stable
        ((Setting.asksOnly_fileCount file rule key builtin).mono unbounded)
    · intro key builtin
      exact sound.transparent stable ((Setting.asksOnly_flag file rule key builtin).mono unbounded)
    · intro key builtin
      exact sound.transparent stable ((Setting.asksOnly_text file rule key builtin).mono unbounded)

end Stable

/-- Programs 0 and 1 lie at one address, though not at one time. -/
def sharedAddress : Hosting where
  address compilation := if compilation.index = 2 then 9 else 7
  provider compilation _ := some (toString (compilation.index + 3))

/-- A question for a limit, the same one for every program. -/
def loaderLimit : Pass (Resolved Nat) :=
  Setting.fileCount ⟨"src/Loader.cs"⟩ "statement-count" "max_statement_count" 10

/-- The passes for programs 0 and 2 take the cache from each other between
looking for their answers and remembering them.  Then program 1 moves in where
program 0 has been. -/
def tugOfWar : List Action :=
  [.create ⟨0⟩, .create ⟨2⟩, .start ⟨0⟩ loaderLimit, .start ⟨2⟩ loaderLimit,
    .advance 0, .advance 1, .advance 0, .advance 1,
    .drop ⟨0⟩, .create ⟨1⟩, .start ⟨1⟩ loaderLimit, .advance 2, .advance 2]

theorem settings_cache_transparent_tugOfWar :
    ∃ world, sharedAddress.run {} tugOfWar = some world ∧
      world.cache.owner = some ⟨1⟩ ∧ world.cache.size = 1 ∧
      (world.replies.map fun reply => (reply.compilation, reply.value)) =
        [(⟨1⟩, some "4"), (⟨2⟩, some "5"), (⟨0⟩, some "3")] ∧
      (∀ reply ∈ world.replies,
        reply.value = sharedAddress.provider reply.compilation reply.request) ∧
      ∀ worker ∈ world.workers, ∀ ending, worker.left = ended ending →
        worker.work.run (sharedAddress.provider worker.compilation) = ending := by
  have reached : ∃ world, sharedAddress.run {} tugOfWar = some world ∧
      world.cache.owner = some ⟨1⟩ ∧ world.cache.size = 1 ∧
      (world.replies.map fun reply => (reply.compilation, reply.value)) =
        [(⟨1⟩, some "4"), (⟨2⟩, some "5"), (⟨0⟩, some "3")] :=
    ⟨_, rfl, rfl, rfl, rfl⟩
  obtain ⟨world, ran, owner, size, replies⟩ := reached
  have transparent := settings_cache_transparent (fun _ _ _ _ _ _ => rfl) ran
  exact ⟨world, ran, owner, size, replies, transparent.2.1, transparent.2.2.1⟩

end StructureLint.Interleaving
