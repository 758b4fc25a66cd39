import StructureLint.Setting.Value

/-!
Contract: work that can be called off and that asks for settings.

A pass is a tree of its interactions with the host: checkpoints, at which the
host may call the work off, and questions for settings.  It does nothing else
that the host could see, so a pass that was called off leaves no partial
result.

Owns:
- passes and their composition;
- running a pass against any host, and against one that never calls it off.

Does not own: what a particular pass computes.
-/

namespace StructureLint

/-- Work that ends with a value or a malformed setting, unless the host calls
it off at a checkpoint. -/
inductive Pass (α : Type) where
  | done (value : α)
  | fail (error : SettingError)
  | checkpoint (next : Pass α)
  | lookup (request : SettingRequest) (next : Option String → Pass α)

/-- How a pass ends. -/
inductive PassOutcome (α : Type) where
  | done (value : α)
  | failed (error : SettingError)
  | cancelled
  deriving DecidableEq, Repr

namespace Pass

/-- Continues with the value of a pass. -/
def bind {α β : Type} : Pass α → (α → Pass β) → Pass β
  | .done value, next => next value
  | .fail error, _ => .fail error
  | .checkpoint rest, next => .checkpoint (rest.bind next)
  | .lookup request rest, next => .lookup request fun answer => (rest answer).bind next

instance : Monad Pass where
  pure := .done
  bind := bind

/-- A single checkpoint. -/
def check : Pass Unit :=
  .checkpoint (.done ())

/-- A single question. -/
def ask (request : SettingRequest) : Pass (Option String) :=
  .lookup request .done

/-- The pass with a malformed setting as a value instead of an end. -/
def attempt {α : Type} : Pass α → Pass (Except SettingError α)
  | .done value => .done (.ok value)
  | .fail error => .done (.error error)
  | .checkpoint rest => .checkpoint rest.attempt
  | .lookup request rest => .lookup request fun answer => (rest answer).attempt

/-- One checkpoint for every element. -/
def checkEach {α : Type} : List α → Pass Unit
  | [] => .done ()
  | _ :: rest => .checkpoint (checkEach rest)

/-- The results of a pass for each element, in order. -/
def each {α β : Type} (work : α → Pass β) : List α → Pass (List β)
  | [] => .done []
  | element :: rest => do
    let result ← work element
    let others ← each work rest
    return result :: others

/-- Runs a pass against a host that says whether to stop and answers questions. -/
def interpret {m : Type → Type} [Monad m] {α : Type} (stop : m Bool)
    (answer : SettingRequest → m (Option String)) : Pass α → m (PassOutcome α)
  | .done value => pure (.done value)
  | .fail error => pure (.failed error)
  | .checkpoint rest => do
    if ← stop then
      pure .cancelled
    else
      rest.interpret stop answer
  | .lookup request rest => do
    let value ← answer request
    (rest value).interpret stop answer

/-- Runs a pass against a host that never calls it off. -/
def run {α : Type} (answer : SettingRequest → Option String) : Pass α → Except SettingError α
  | .done value => .ok value
  | .fail error => .error error
  | .checkpoint rest => rest.run answer
  | .lookup request rest => (rest (answer request)).run answer

end Pass

end StructureLint
