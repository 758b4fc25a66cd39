import StructureLint.Setting.Value

/-!
Contract: remembered answers to questions for settings.

A cache serves one program at a time.  A question asked for another program
empties it first.  Questions about different spellings of one path are the
same question.

Owns:
- the two steps of an answer: look for it, and remember it;
- an answer with both steps around the actual question.

Does not own: the life of a program; its identity is never given to another
program.
-/

namespace StructureLint

/-- The identity of a program that settings are asked for. -/
structure CompilationId where
  index : Nat
  deriving DecidableEq, Repr

/-- What makes two questions the same. -/
structure CacheKey where
  path : List PathComponent
  rule : String
  key : String
  deriving DecidableEq, Repr

/-- The key of a question. -/
def SettingRequest.cacheKey (request : SettingRequest) : CacheKey :=
  { path := request.file.components, rule := request.rule, key := request.key }

/-- Remembered answers for one program. -/
structure SettingsCache where
  owner : Option CompilationId := none
  entries : List (CacheKey × Option String) := []

namespace SettingsCache

/-- The number of remembered answers. -/
def size (cache : SettingsCache) : Nat :=
  cache.entries.length

/-- The cache in the service of a program: emptied if it served another one. -/
def bind (cache : SettingsCache) (compilation : CompilationId) : SettingsCache :=
  if cache.owner = some compilation then cache else { owner := some compilation, entries := [] }

/-- The remembered answer to a question. -/
def find? (cache : SettingsCache) (request : SettingRequest) : Option (Option String) :=
  cache.entries.lookup request.cacheKey

/-- Remembers an answer in place of an earlier one to the same question. -/
def remember (cache : SettingsCache) (request : SettingRequest) (answer : Option String) :
    SettingsCache :=
  { cache with
    entries := (request.cacheKey, answer) ::
      cache.entries.filter fun entry => entry.1 != request.cacheKey }

/-- Answers a question from the cache, or asks it and remembers the answer. -/
def answer {m : Type → Type} [Monad m] (compilation : CompilationId)
    (ask : SettingRequest → m (Option String)) (request : SettingRequest) :
    StateT SettingsCache m (Option String) := do
  modify fun cache => cache.bind compilation
  match (← get).find? request with
  | some remembered => return remembered
  | none =>
    let value ← ask request
    modify fun cache => (cache.bind compilation).remember request value
    return value

end SettingsCache

end StructureLint
