import StructureLint.Finding

/-!
Contract: the outcome of an analysis.

Owns:
- reports, their counts and their summary;
- merging and sorting of reports.

Does not own: how a report is shown.
-/

namespace StructureLint

/-- A file whose pass was given up. -/
structure FileFailure where
  file : SourcePath
  message : String
  deriving DecidableEq, Repr, Inhabited

/-- What an analysis found, and how much of the program it covered. -/
structure Report where
  findings : List Finding := []
  failures : List FileFailure := []
  filesChecked : Nat := 0
  declarationsChecked : Nat := 0
  deriving DecidableEq, Repr, Inhabited

namespace Report

/-- Some finding is at least that serious. -/
def hasFindingAtLeast (report : Report) (threshold : Severity) : Bool :=
  report.findings.any fun finding => finding.severity.atLeast threshold

/-- Some file's pass was given up. -/
def hasFailures (report : Report) : Bool :=
  !report.failures.isEmpty

/-- The number of findings of a level. -/
def countOf (report : Report) (severity : Severity) : Nat :=
  report.findings.countP fun finding => finding.severity == severity

/-- The counts of findings and files on one line. -/
def summary (report : Report) : String :=
  "Found " ++ toString (report.countOf .error) ++ " error(s), " ++
    toString (report.countOf .warning) ++ " warning(s), " ++
    toString (report.countOf .info) ++ " info(s) in " ++
    toString report.filesChecked ++ " file(s)"

/-- Both reports in one, the second behind the first. -/
def merge (first second : Report) : Report :=
  { findings := first.findings ++ second.findings
    failures := first.failures ++ second.failures
    filesChecked := first.filesChecked + second.filesChecked
    declarationsChecked := first.declarationsChecked + second.declarationsChecked }

/-- The report in order: findings by place, code and message, failures by file.
Equal entries keep their order. -/
def sort (report : Report) : Report :=
  { report with
    findings := report.findings.mergeSort fun left right => (left.compare right).isLE
    failures := report.failures.mergeSort fun left right => (left.file.compare right.file).isLE }

end Report

end StructureLint
