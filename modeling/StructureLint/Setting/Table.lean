import StructureLint.Json.Record
import StructureLint.Setting.Value

/-!
Contract: settings written out one by one.

An entry names the questions that it answers by their file, rule and key, each
as it is spelled; a part that is left out fits every question.  The first entry
that fits a question answers it.

Owns:
- entries, their reading, and the answer of a table of them.
-/

namespace StructureLint

/-- A raw value for the questions that it fits. -/
structure SettingEntry where
  file : Option String := none
  rule : Option String := none
  key : Option String := none
  value : String
  deriving DecidableEq, Repr

namespace SettingEntry

/-- The entry fits the question. -/
def fits (entry : SettingEntry) (request : SettingRequest) : Bool :=
  entry.file.all (· == request.file.text) && entry.rule.all (· == request.rule) &&
    entry.key.all (· == request.key)

/-- Reads an entry. -/
def decode? (value : Json) : Option SettingEntry := do
  let record ← value.record? ["file", "rule", "key", "value"]
  return {
    file := ← record.orElse? "file" none (Json.option? Json.str?)
    rule := ← record.orElse? "rule" none (Json.option? Json.str?)
    key := ← record.orElse? "key" none (Json.option? Json.str?)
    value := ← record.required? "value" Json.str? }

end SettingEntry

/-- The answer of the first entry that fits. -/
def SettingEntry.answer (entries : List SettingEntry) (request : SettingRequest) : Option String :=
  (entries.find? fun entry => entry.fits request).map SettingEntry.value

end StructureLint
