/-!
Contract: following a link until it ends or repeats.

Owns:
- the orbit of an element under a partial successor function.

Does not own: which links a program has.
-/

namespace StructureLint

/-- The elements met by following `next` from `current`, each once: the walk
ends at an element without successor, before an element of `visited`, and after
`bound` elements. -/
def orbit {α : Type} [DecidableEq α] (next : α → Option α) :
    (bound : Nat) → (visited : List α) → (current : α) → List α
  | 0, _, _ => []
  | bound + 1, visited, current =>
    if current ∈ visited then
      []
    else
      current ::
        match next current with
        | none => []
        | some following => orbit next bound (current :: visited) following

end StructureLint
