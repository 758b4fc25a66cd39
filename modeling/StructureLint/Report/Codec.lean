import StructureLint.Position.Codec
import StructureLint.Report

/-!
Contract: the written form of findings and reports.

A report leaves its failures out when there are none; all other fields are
written.
-/

namespace StructureLint

namespace Label

/-- Writes a label. -/
def encode (label : Label) : Json :=
  .obj [("location", label.location.encode), ("message", .str label.message)]

/-- Reads a label. -/
def decode? (value : Json) : Option Label := do
  let record ← value.record? ["location", "message"]
  return {
    location := ← record.required? "location" Location.decode?
    message := ← record.required? "message" Json.str? }

end Label

namespace Replacement

/-- Writes a replacement. -/
def encode (replacement : Replacement) : Json :=
  .obj [("location", replacement.location.encode), ("new_text", .str replacement.newText)]

/-- Reads a replacement. -/
def decode? (value : Json) : Option Replacement := do
  let record ← value.record? ["location", "new_text"]
  return {
    location := ← record.required? "location" Location.decode?
    newText := ← record.required? "new_text" Json.str? }

end Replacement

namespace Suggestion

/-- Writes a suggestion. -/
def encode (suggestion : Suggestion) : Json :=
  .obj [("message", .str suggestion.message),
    ("replacement", Json.option Replacement.encode suggestion.replacement)]

/-- Reads a suggestion. -/
def decode? (value : Json) : Option Suggestion := do
  let record ← value.record? ["message", "replacement"]
  return {
    message := ← record.required? "message" Json.str?
    replacement := ← record.nullable? "replacement" Replacement.decode? }

end Suggestion

namespace Finding

/-- Writes a finding. -/
def encode (finding : Finding) : Json :=
  .obj [("code", .str finding.code), ("rule", .str finding.rule),
    ("severity", .str finding.severity.spelling), ("location", finding.location.encode),
    ("message", .str finding.message),
    ("suggestion", Json.option Suggestion.encode finding.suggestion),
    ("labels", Json.list Label.encode finding.labels)]

/-- Reads a finding. -/
def decode? (value : Json) : Option Finding := do
  let record ← value.record?
    ["code", "rule", "severity", "location", "message", "suggestion", "labels"]
  return {
    code := ← record.required? "code" Json.str?
    rule := ← record.required? "rule" Json.str?
    severity := ← record.required? "severity" Severity.decode?
    location := ← record.required? "location" Location.decode?
    message := ← record.required? "message" Json.str?
    suggestion := ← record.nullable? "suggestion" Suggestion.decode?
    labels := ← record.required? "labels" (Json.list? Label.decode?) }

end Finding

namespace FileFailure

/-- Writes a failure. -/
def encode (failure : FileFailure) : Json :=
  .obj [("file", failure.file.encode), ("message", .str failure.message)]

/-- Reads a failure. -/
def decode? (value : Json) : Option FileFailure := do
  let record ← value.record? ["file", "message"]
  return {
    file := ← record.required? "file" SourcePath.decode?
    message := ← record.required? "message" Json.str? }

end FileFailure

namespace Report

/-- Writes a report. -/
def encode (report : Report) : Json :=
  .obj ([("violations", Json.list Finding.encode report.findings)] ++
    (if report.failures.isEmpty then []
      else [("errors", Json.list FileFailure.encode report.failures)]) ++
    [("files_checked", .nat report.filesChecked),
      ("declarations_checked", .nat report.declarationsChecked)])

/-- Reads a report. -/
def decode? (value : Json) : Option Report := do
  let record ← value.record?
    ["violations", "errors", "files_checked", "declarations_checked"]
  let filesChecked ← record.required? "files_checked" Json.word64?
  let declarationsChecked ← record.orElse? "declarations_checked" 0 Json.word64?
  return {
    findings := ← record.required? "violations" (Json.list? Finding.decode?)
    failures := ← record.orElse? "errors" [] (Json.list? FileFailure.decode?)
    filesChecked := filesChecked.toNat
    declarationsChecked := declarationsChecked.toNat }

end Report

end StructureLint
