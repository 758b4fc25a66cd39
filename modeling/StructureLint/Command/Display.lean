import StructureLint.Command.Invocation
import StructureLint.Json.Printer
import StructureLint.Report.Codec
import StructureLint.Text.Line

/-!
Contract: what commands print.

In the text form every file with findings has a header, its findings stand
below it, and a blank line ends the group.

Owns:
- reports as text, as JSON and in compact form;
- lines of the log;
- the list of rules, and the configuration to start from.
-/

namespace StructureLint.Command

/-- Lines, each with its end. -/
def joinLines (lines : List String) : String :=
  String.join (lines.map fun line => line ++ "\n")

/-- The text with blanks in front up to a width. -/
def padLeft (width : Nat) (text : String) : String :=
  String.ofList (List.replicate (width - text.length) ' ') ++ text

/-- The text with blanks behind it up to a width. -/
def padRight (width : Nat) (text : String) : String :=
  text ++ String.ofList (List.replicate (width - text.length) ' ')

/-! ## The log -/

/-- Characters that steer a terminal: bell, backspace, form feed, escape, delete. -/
def steersTerminal (character : Char) : Bool :=
  [0x07, 0x08, 0x0C, 0x1B, 0x7F].contains character.toNat

/-- A character of the log; those that steer a terminal are written by their codes. -/
def logChar (character : Char) : List Char :=
  let digits := Nat.toDigits 16 character.toNat
  if steersTerminal character then
    '\\' :: 'x' :: (List.replicate (2 - digits.length) '0' ++ digits)
  else if 0x80 ≤ character.toNat && character.toNat ≤ 0x9F then
    ['\\', 'u', '\x7b'] ++ digits ++ ['\x7d']
  else
    [character]

/-- The line of the log that a message starts; what is behind its first line shows
no longer as part of it. -/
def logLine (message : String) : String :=
  (Text.printedLines (String.ofList (message.toList.flatMap logChar))).headD ""

/-! ## Reports as text -/

/-- How a piece of text stands out on a terminal. -/
inductive Style where
  | red
  | yellow
  | blue
  | green
  | bold
  deriving DecidableEq, Repr

/-- The number of a style among the graphic renditions of a terminal. -/
def Style.number : Style → String
  | .red => "31"
  | .yellow => "33"
  | .blue => "34"
  | .green => "32"
  | .bold => "1"

/-- The text in a style. -/
def Style.apply (style : Style) (text : String) : String :=
  "\x1b[" ++ style.number ++ "m" ++ text ++ "\x1b[0m"

/-- The style of a level. -/
def severityStyle : Severity → Style
  | .error => .red
  | .warning => .yellow
  | .info => .blue

/-- The blanks in front of notes. -/
def noteIndent : String := "             "

/-- A finding below the header of its file. -/
def findingLines (finding : Finding) : List String :=
  let place :=
    "  " ++ padLeft 4 (toString finding.location.line.toNat) ++ ":" ++
      padRight 3 (toString finding.location.column.toNat)
  let heading :=
    place ++ " " ++ (severityStyle finding.severity).apply finding.severity.spelling ++ " [" ++
      finding.code ++ "] " ++ finding.message
  let notes := finding.labels.map fun label =>
    noteIndent ++ "= note: " ++ label.message ++ " (" ++ label.location.lineAndColumn ++ ")"
  let help := finding.suggestion.toList.map fun suggestion =>
    noteIndent ++ "= help: " ++ suggestion.message
  heading :: notes ++ help

/-- The header of a file. -/
def headerLine (file : SourcePath) : String :=
  Style.bold.apply file.text

/-- Findings in order; a header stands where the file changes, behind a blank
line unless it is the first. -/
def groupedLines : (current : Option SourcePath) → List Finding → List String
  | none, [] => []
  | some _, [] => [""]
  | none, finding :: rest =>
    headerLine finding.location.file ::
      findingLines finding ++ groupedLines (some finding.location.file) rest
  | some file, finding :: rest =>
    if file.Same finding.location.file then
      findingLines finding ++ groupedLines (some file) rest
    else
      "" :: headerLine finding.location.file ::
        findingLines finding ++ groupedLines (some finding.location.file) rest

/-- The failures, with a blank line behind them. -/
def failureLines (failures : List FileFailure) : List String :=
  failures.map (fun failure =>
    Style.red.apply "failed" ++ " " ++ failure.file.text ++ ": " ++ failure.message) ++
    if failures.isEmpty then [] else [""]

/-- The style of the summary. -/
def summaryStyle (report : Report) : Style :=
  if 0 < report.countOf .error || report.hasFailures then .red
  else if 0 < report.countOf .warning then .yellow
  else .green

/-- A report for people. -/
def textLines (report : Report) : List String :=
  groupedLines none report.findings ++ failureLines report.failures ++
    [(summaryStyle report).apply report.summary]

/-! ## Other forms -/

/-- A report with one line for each entry. -/
def compactLines (report : Report) : List String :=
  report.findings.map Finding.line ++
    report.failures.map fun failure =>
      failure.file.text ++ ": error [config] " ++ failure.message

/-- A report in a format. -/
def renderReport (report : Report) : OutputFormat → String
  | .text => joinLines (textLines report)
  | .json => joinLines [report.encode.renderIndented]
  | .compact => joinLines (compactLines report)

/-! ## Other commands -/

/-- A row of the list of rules. -/
def ruleRow (code name presets description : String) : String :=
  padRight 8 code ++ " " ++ padRight 26 name ++ " " ++ padRight 28 presets ++ " " ++ description

/-- The list of rules. -/
def ruleListing : String :=
  joinLines (
    ["Available rules:", "", ruleRow "Code" "Name" "Presets" "Description",
      String.ofList (List.replicate 100 '-')] ++
    (Preset.everyRule.infos.map fun info =>
      ruleRow info.code info.name
        (String.intercalate ", " ((Preset.including info.name).map Preset.name))
        info.description) ++
    ["", "Presets:",
      "  recommended  - All rules with default limits (default)",
      "  strict       - All rules as errors with tighter limits",
      "  minimal      - SL001 only (for gradual adoption)",
      "", "Use --rules to filter specific rules, e.g.:",
      "  shapelint check --rules statement-count,parameter-count",
      "  shapelint check --rules SL001,SL004"])

/-- The configuration to start from. -/
def configTemplate : String :=
  joinLines [
    "# shapelint configuration",
    "",
    "# Rule preset: \x22recommended\x22, \x22strict\x22 or \x22minimal\x22",
    "preset = \x22recommended\x22",
    "",
    "# Lowest severity that makes `shapelint check` exit non-zero",
    "fail_on = \x22error\x22",
    "",
    "# Each rule can be enabled/disabled and have its severity overridden.",
    "# Declarations can raise their own limits with attributes such as",
    "# [MaxLength(n)], [MaxDepth(n)] or [MaxParameters(n)].",
    "",
    "[rules.statement-count]",
    "enabled = true",
    "# severity = \x22error\x22",
    "max_statement_count = 10",
    "",
    "[rules.control-statement-depth]",
    "enabled = true",
    "max_control_statement_depth = 2",
    "",
    "[rules.parameter-count]",
    "enabled = true",
    "max_method_parameter_count = 4",
    "max_constructor_parameter_count = 4",
    "",
    "[rules.overload-consistency]",
    "enabled = true",
    "",
    "# Per-file settings; the last matching section wins.",
    "# [[overrides]]",
    "# files = [\x22src/Legacy/**\x22]",
    "#",
    "# [overrides.rules.statement-count]",
    "# max_statement_count = 25"]

/-- What stands behind a new configuration. -/
def creationNotice : String :=
  joinLines ["Created shapelint.toml", "", "Next steps:",
    "  1. Edit shapelint.toml to configure rules", "  2. Run: shapelint check"]

/-- The version of the program. -/
def versionLine : String := "shapelint 0.3.0"

/-- How the program is called. -/
def usageText : String :=
  joinLines ["Structural linter for exported program models", "",
    "Usage: shapelint [OPTIONS] <COMMAND>", "",
    "Commands:",
    "  check       Run lint checks",
    "  list-rules  List available rules",
    "  init        Initialize configuration file",
    "", "Options:",
    "  -v, --verbose          Enable verbose output",
    "  -c, --config <CONFIG>  Path to configuration file",
    "  -h, --help             Print help",
    "  -V, --version          Print version"]

end StructureLint.Command
