import StructureLint.Program.Basic

/-!
Contract: the syntax that belongs to a declaration through its local functions.

A body mentions local functions by their declarations, and those may mention
further ones, each other, or the owner.  Every body is entered at its first
mention and at no later one.

Owns:
- the visits of a body with the bodies of its local functions in place.

Does not own: what is done at a visit.
-/

namespace StructureLint.Program

/-- The numbers of all declarations. -/
def declarationIds (program : Program) : List DeclarationId :=
  program.numberedDeclarations.map Prod.fst

/-- How many declarations have not been entered yet. -/
def unenteredCount (program : Program) (entered : List DeclarationId) : Nat :=
  (program.declarationIds.filter fun id => id ∉ entered).length

/-- A declaration with a body is among the numbered ones. -/
theorem mem_declarationIds_of_body? {program : Program} {id : DeclarationId} {body : Body}
    (found : program.body? id = some body) : id ∈ program.declarationIds := by
  obtain ⟨declaration, located, _⟩ := Option.bind_eq_some_iff.mp found
  have bound : id.index.toNat < program.declarations.length :=
    (List.getElem?_eq_some_iff.mp located).1
  simp only [declarationIds, numberedDeclarations, List.map_map, List.mem_map]
  refine ⟨(program.declarations[id.index.toNat], id.index.toNat), ?_, ?_⟩
  · exact List.mem_zipIdx_iff_getElem?.mpr (List.getElem?_eq_getElem bound)
  · simp

/-- Entering a further declaration leaves fewer of them. -/
theorem unenteredCount_cons_lt {program : Program} {entered : List DeclarationId}
    {id : DeclarationId} (known : id ∈ program.declarationIds) (fresh : id ∉ entered) :
    program.unenteredCount (id :: entered) < program.unenteredCount entered := by
  have split : (program.declarationIds.filter fun other => other ∉ id :: entered) =
      (program.declarationIds.filter fun other => other ∉ entered).filter
        fun other => other ≠ id := by
    rw [List.filter_filter]
    congr 1
    funext other
    simp [not_or]
  unfold unenteredCount
  rw [split]
  refine List.length_filter_lt_length_iff_exists.mpr ⟨id, ?_, by simp⟩
  simp [known, fresh]

/-- The pending visits, with the body of each local function that has not been
entered in place behind its mention. -/
def unfoldLocals (program : Program) (entered : List DeclarationId) :
    (pending : List Visit) → List Visit
  | [] => []
  | .localFunction id :: rest =>
    if fresh : id ∉ entered then
      match found : program.body? id with
      | none => .localFunction id :: program.unfoldLocals entered rest
      | some body =>
        have := unenteredCount_cons_lt (mem_declarationIds_of_body? found) fresh
        .localFunction id :: program.unfoldLocals (id :: entered) (body.visits ++ rest)
    else
      .localFunction id :: program.unfoldLocals entered rest
  | visit :: rest => visit :: program.unfoldLocals entered rest
termination_by pending => (program.unenteredCount entered, pending.length)
decreasing_by
  · exact Prod.Lex.right _ (Nat.lt_succ_self _)
  · exact Prod.Lex.left _ _ (by assumption)
  · exact Prod.Lex.right _ (Nat.lt_succ_self _)
  · exact Prod.Lex.right _ (Nat.lt_succ_self _)

end StructureLint.Program
