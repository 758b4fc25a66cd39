import StructureLint.Proofs.Pass.Questions
import StructureLint.Setting.Cache

/-!
Contract: a pass cannot tell a cache from the provider behind it.

A remembered answer is given to every question with its key.  That is right
where the provider gives questions with one key one answer, and where the cache
holds nothing but answers of this provider.  Both are said for the questions
that may be asked at all.

Owns:
- truthful caches, and the steps that keep them truthful;
- one answer, and a whole pass, with a cache.

Does not own: passes that share a cache step by step.
-/

namespace StructureLint

/-- The provider gives one answer to allowed questions with one key. -/
def StableProvider (Allowed : SettingRequest → Prop)
    (provider : SettingRequest → Option String) : Prop :=
  ∀ request other, Allowed request → Allowed other → request.cacheKey = other.cacheKey →
    provider request = provider other

namespace SettingsCache

/-- Every entry is the provider's answer to an allowed question with its key. -/
def Truthful (Allowed : SettingRequest → Prop) (provider : SettingRequest → Option String)
    (cache : SettingsCache) : Prop :=
  ∀ entry ∈ cache.entries, ∃ request,
    Allowed request ∧ request.cacheKey = entry.1 ∧ provider request = entry.2

variable {Allowed : SettingRequest → Prop} {provider : SettingRequest → Option String}
  {cache : SettingsCache} {compilation : CompilationId} {request : SettingRequest}

/-! ## Steps of a cache -/

@[simp] theorem owner_bind : (cache.bind compilation).owner = some compilation := by
  unfold bind
  split
  · assumption
  · rfl

@[simp] theorem bind_bind : (cache.bind compilation).bind compilation = cache.bind compilation :=
  if_pos owner_bind

theorem mem_entries_of_find? {remembered : Option String}
    (found : cache.find? request = some remembered) :
    (request.cacheKey, remembered) ∈ cache.entries := by
  obtain ⟨before, behind, split, _⟩ := List.lookup_eq_some_iff.mp found
  rw [split]
  exact List.mem_append_right before List.mem_cons_self

/-- Binding keeps the entries of a program that is served already, and drops all others. -/
theorem Truthful.of_bind
    (truthful : cache.owner = some compilation → cache.Truthful Allowed provider) :
    (cache.bind compilation).Truthful Allowed provider := by
  unfold bind
  split
  · next owned => exact truthful owned
  · intro entry listed
    exact absurd listed List.not_mem_nil

theorem Truthful.remember (truthful : cache.Truthful Allowed provider)
    (allowed : Allowed request) :
    (cache.remember request (provider request)).Truthful Allowed provider := by
  intro entry listed
  rcases List.mem_cons.mp listed with rfl | older
  · exact ⟨request, allowed, rfl, rfl⟩
  · exact truthful entry (List.mem_filter.mp older).1

theorem Truthful.find? (stable : StableProvider Allowed provider)
    (truthful : cache.Truthful Allowed provider) (allowed : Allowed request)
    {remembered : Option String} (found : cache.find? request = some remembered) :
    remembered = provider request := by
  obtain ⟨other, otherAllowed, key, answered⟩ := truthful _ (mem_entries_of_find? found)
  exact answered.symm.trans (stable other request otherAllowed allowed key)

/-! ## Answers and passes with a cache -/

/-- An answer through the cache: from its entries, or asked for and remembered. -/
theorem run_answer (provider : SettingRequest → Option String) (cache : SettingsCache) :
    Id.run ((answer (m := Id) compilation (fun request => pure (provider request)) request).run
        cache) =
      match (cache.bind compilation).find? request with
      | some remembered => (remembered, cache.bind compilation)
      | none => (provider request,
          (cache.bind compilation).remember request (provider request)) := by
  cases found : (cache.bind compilation).find? request <;> simp [answer, found]

/-- The answer through a truthful cache is the provider's, and leaves the cache truthful. -/
theorem run_answer_truthful (stable : StableProvider Allowed provider)
    (truthful : cache.owner = some compilation → cache.Truthful Allowed provider)
    (allowed : Allowed request) :
    ∃ left : SettingsCache, left.Truthful Allowed provider ∧
      Id.run ((answer compilation (fun request => pure (provider request)) request).run cache) =
        (provider request, left) := by
  have bound := Truthful.of_bind truthful
  rw [run_answer]
  cases found : (cache.bind compilation).find? request with
  | some remembered =>
      have right := bound.find? stable allowed found
      exact ⟨cache.bind compilation, bound, by rw [right]⟩
  | none => exact ⟨_, bound.remember allowed, rfl⟩

/-- A pass with a truthful cache ends as it does with the provider alone. -/
theorem interpret_answer (stable : StableProvider Allowed provider) {α : Type} {pass : Pass α}
    (asks : pass.AsksOnly Allowed)
    (truthful : cache.owner = some compilation → cache.Truthful Allowed provider) :
    (Id.run ((pass.interpret (pure false)
      (answer compilation fun request => pure (provider request))).run cache)).1 =
        .ofExcept (pass.run provider) := by
  induction asks generalizing cache with
  | done value => rfl
  | fail error => rfl
  | checkpoint _ inductionHypothesis => exact inductionHypothesis truthful
  | @lookup request rest allowed _ inductionHypothesis =>
      obtain ⟨left, kept, answered⟩ := run_answer_truthful stable truthful allowed
      rw [Pass.interpret, StateT.run_bind, Id.run_bind, answered]
      exact inductionHypothesis (provider request) fun _ => kept

/-- A pass leaves the cache in the service of its program, or as it was. -/
theorem owner_interpret_answer (provider : SettingRequest → Option String) {α : Type}
    (pass : Pass α) (cache : SettingsCache) :
    let left := (Id.run ((pass.interpret (pure false)
      (answer compilation fun request => pure (provider request))).run cache)).2
    left.owner = cache.owner ∨ left.owner = some compilation := by
  induction pass generalizing cache with
  | done value => exact .inl rfl
  | fail error => exact .inl rfl
  | checkpoint rest inductionHypothesis => exact inductionHypothesis cache
  | lookup request rest inductionHypothesis =>
      dsimp only
      rw [Pass.interpret, StateT.run_bind, Id.run_bind, run_answer]
      cases (cache.bind compilation).find? request with
      | some remembered =>
          have later := inductionHypothesis remembered (cache.bind compilation)
          rw [owner_bind, or_self] at later
          exact .inr later
      | none =>
          have later := inductionHypothesis (provider request)
            ((cache.bind compilation).remember request (provider request))
          have served : ((cache.bind compilation).remember request (provider request)).owner =
            some compilation := owner_bind
          rw [served, or_self] at later
          exact .inr later

end SettingsCache

end StructureLint
