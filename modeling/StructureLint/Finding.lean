import StructureLint.Position
import StructureLint.Severity
import StructureLint.Syntax.Tree

/-!
Contract: what a rule reports.

Owns:
- findings with their labels and suggestions, and their text forms;
- the order of findings;
- the log that keeps one finding for each anchor and kind.

Does not own: when a rule reports.
-/

namespace StructureLint

/-- A further place that helps to understand a finding. -/
structure Label where
  location : Location
  message : String
  deriving DecidableEq, Repr, Inhabited

/-- A change of text: the range at `location` becomes `newText`. -/
structure Replacement where
  location : Location
  newText : String
  deriving DecidableEq, Repr, Inhabited

/-- What to do about a finding. -/
structure Suggestion where
  message : String
  replacement : Option Replacement := none
  deriving DecidableEq, Repr, Inhabited

/-- What a rule found at a place. -/
structure Finding where
  code : String
  rule : String
  severity : Severity
  location : Location
  message : String
  suggestion : Option Suggestion := none
  labels : List Label := []
  deriving DecidableEq, Repr, Inhabited

/-- A line and a column, divided by a colon. -/
def Location.lineAndColumn (location : Location) : String :=
  toString location.line.toNat ++ ":" ++ toString location.column.toNat

/-- The file, the line and the column, divided by colons. -/
def Location.describe (location : Location) : String :=
  location.file.text ++ ":" ++ location.lineAndColumn

namespace Finding

/-- The finding on one line. -/
def line (finding : Finding) : String :=
  finding.location.describe ++ ": " ++ finding.severity.spelling ++ " [" ++ finding.code ++ "] " ++
    finding.message

/-- The finding as a block of lines, with its labels and its suggestion. -/
def block (finding : Finding) : String :=
  let heading :=
    finding.code ++ " " ++ finding.rule ++ " at " ++ finding.location.describe ++ "\n" ++
      "  " ++ finding.severity.spelling ++ ": " ++ finding.message ++ "\n"
  let notes := finding.labels.map fun label =>
    "  = note: " ++ label.message ++ " (" ++ label.location.lineAndColumn ++ ")\n"
  let help := finding.suggestion.toList.map fun suggestion =>
    "  = help: " ++ suggestion.message ++ "\n"
  heading ++ String.join (notes ++ help)

/-- The code and the message, as the heading of a diagnostic. -/
def heading (finding : Finding) : String :=
  "[" ++ finding.code ++ "] " ++ finding.message

/-- Findings sort by file, line, column, code and message. -/
def compare (left right : Finding) : Ordering :=
  (left.location.file.compare right.location.file).then
    ((Ord.compare left.location.line right.location.line).then
      ((Ord.compare left.location.column right.location.column).then
        ((Ord.compare left.code right.code).then
          (Ord.compare left.message right.message))))

end Finding

/-! ## The log of a rule -/

/-- What a finding is about. -/
inductive Anchor where
  | node (id : NodeId)
  | member (id : MemberId)
  | declaration (id : DeclarationId)
  deriving DecidableEq, Repr

/-- The findings of one rule, at most one for each anchor and kind. -/
structure FindingLog where
  seen : List (Anchor × String) := []
  findings : List Finding := []

namespace FindingLog

/-- A finding about that anchor and of that kind has been logged. -/
def contains (log : FindingLog) (anchor : Anchor) (kind : String) : Bool :=
  log.seen.contains (anchor, kind)

/-- Logs a finding unless one with its anchor and kind is there. -/
def add (log : FindingLog) (anchor : Anchor) (kind : String) (finding : Finding) : FindingLog :=
  if log.contains anchor kind then
    log
  else
    { seen := (anchor, kind) :: log.seen, findings := log.findings ++ [finding] }

end FindingLog

end StructureLint
