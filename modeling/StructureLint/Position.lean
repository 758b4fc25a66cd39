import StructureLint.SourcePath

/-!
Contract: places in source text.

Owns:
- spans inside one file and locations that name their file.

Does not own: the source text itself.
-/

namespace StructureLint

/-- A range of source text: where it starts, counted in lines and columns from
one, and its bytes.  An all-zero span stands for a missing one. -/
structure Span where
  line : UInt64 := 0
  column : UInt64 := 0
  offset : UInt64 := 0
  length : UInt64 := 0
  deriving DecidableEq, Repr, Inhabited

/-- The empty range at a line and a column. -/
def Span.at (line column : UInt64) : Span :=
  { line, column }

/-- A range of source text together with its file. -/
structure Location where
  file : SourcePath
  line : UInt64
  column : UInt64
  offset : UInt64 := 0
  length : UInt64 := 0
  deriving DecidableEq, Repr, Inhabited

/-- The location of a span in a file. -/
def Location.ofSpan (file : SourcePath) (span : Span) : Location :=
  { file, line := span.line, column := span.column, offset := span.offset, length := span.length }

end StructureLint
