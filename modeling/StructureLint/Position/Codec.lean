import StructureLint.Json.Record
import StructureLint.Position

/-!
Contract: the written form of places in source text.
-/

namespace StructureLint

/-- A path is written as it is spelled. -/
def SourcePath.encode (path : SourcePath) : Json :=
  .str path.text

/-- Reads a path. -/
def SourcePath.decode? (value : Json) : Option SourcePath :=
  value.str?.map SourcePath.mk

/-- A number of lines, columns or bytes. -/
def encodeWord (value : UInt64) : Json :=
  .nat value.toNat

namespace Span

/-- A span is written with all its fields. -/
def encode (span : Span) : Json :=
  .obj [("line", encodeWord span.line), ("column", encodeWord span.column),
    ("offset", encodeWord span.offset), ("length", encodeWord span.length)]

/-- Reads a span; missing fields are zero. -/
def decode? (value : Json) : Option Span := do
  let record ← value.record? ["line", "column", "offset", "length"]
  return {
    line := ← record.orElse? "line" 0 Json.word64?
    column := ← record.orElse? "column" 0 Json.word64?
    offset := ← record.orElse? "offset" 0 Json.word64?
    length := ← record.orElse? "length" 0 Json.word64? }

end Span

namespace Location

/-- A location is written with all its fields. -/
def encode (location : Location) : Json :=
  .obj [("file", location.file.encode), ("line", encodeWord location.line),
    ("column", encodeWord location.column), ("offset", encodeWord location.offset),
    ("length", encodeWord location.length)]

/-- Reads a location; the byte range may be missing. -/
def decode? (value : Json) : Option Location := do
  let record ← value.record? ["file", "line", "column", "offset", "length"]
  return {
    file := ← record.required? "file" SourcePath.decode?
    line := ← record.required? "line" Json.word64?
    column := ← record.required? "column" Json.word64?
    offset := ← record.orElse? "offset" 0 Json.word64?
    length := ← record.orElse? "length" 0 Json.word64? }

end Location

end StructureLint
