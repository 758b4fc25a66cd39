import StructureLint.Json.Record
import StructureLint.Text.Blank

/-!
Contract: how serious a finding is.

Owns:
- the three levels and their order;
- their spelling, and the more lenient spelling accepted from people.
-/

namespace StructureLint

/-- How serious a finding is. -/
inductive Severity where
  | info
  | warning
  | error
  deriving DecidableEq, Repr, Inhabited

namespace Severity

/-- Levels ascend from information to error. -/
def rank : Severity → Nat
  | .info => 0
  | .warning => 1
  | .error => 2

/-- The first level is at least as serious as the second. -/
def atLeast (severity threshold : Severity) : Bool :=
  threshold.rank ≤ severity.rank

/-- How a level is spelled. -/
def spelling : Severity → String
  | .info => "info"
  | .warning => "warning"
  | .error => "error"

/-- Reads a level in its exact spelling. -/
def decode? : Json → Option Severity :=
  Json.choice? spelling [.info, .warning, .error]

/-- A text that names no level; the text is kept in lower case. -/
structure Unknown where
  text : String
  deriving DecidableEq, Repr

/-- The text of the refusal. -/
def Unknown.message (unknown : Unknown) : String :=
  "unknown severity `" ++ unknown.text ++ "`"

/-- Reads a level as people write it: in any case, and `warn` for a warning. -/
def parse (text : String) : Except Unknown Severity :=
  let lowered := Text.lowerAscii text
  if lowered == "info" then .ok .info
  else if lowered == "warning" || lowered == "warn" then .ok .warning
  else if lowered == "error" then .ok .error
  else .error ⟨lowered⟩

end Severity

end StructureLint
