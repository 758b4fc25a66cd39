import StructureLint.Syntax.Codec
import StructureLint.Syntax.Visit

/-!
Contract: the written form of visits.

A visit is written as a list of its kind and of what identifies its node.
-/

namespace StructureLint

/-- The form of a body in one word. -/
def Body.form : Body → String
  | .block _ => "block"
  | .expression _ => "expression"

/-- Writes a visit. -/
def Visit.encode : Visit → Json
  | .body whole => .arr [.str "body", .str whole.form]
  | .block inner => .arr [.str "block", inner.id.encode]
  | .stmt inner => .arr [.str "stmt", .str inner.kind.tag, inner.id.encode]
  | .expr inner => .arr [.str "expr", .str inner.kind.tag, inner.id.encode]
  | .localFunction id => .arr [.str "local_function", id.encode]

end StructureLint
