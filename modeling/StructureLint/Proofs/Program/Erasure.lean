import StructureLint.Program.Basic
import StructureLint.Proofs.Syntax.Erasure

/-!
Contract: normalization and what a host says of node numbers.

The bare program is what is left of a program without its node numbers and
without what an earlier normalization has entered.  Normalization looks at
nothing else, and leaves the bare program as it was.  So it has the same outcome
for programs with one bare program, and a second time it finds nothing to do.

Owns:
- bare programs;
- normalization of a bare program, and the bare program of a normalized one.

Does not own: which numbers a normalized program has.
-/

namespace StructureLint

open StructureLint.Numbering

/-- The declaration without node numbers in its body. -/
def Declaration.eraseNumbers (declaration : Declaration) : Declaration :=
  { declaration with body := declaration.body.map Body.eraseNumbers }

theorem Declaration.references_eraseNumbers (declaration : Declaration) :
    declaration.eraseNumbers.references = declaration.references := by
  unfold Declaration.references Declaration.eraseNumbers
  cases declaration.body with
  | none => rfl
  | some body => simp [Body.localFunctions_eraseNumbers]

namespace Program

/-- The program without node numbers, index and mark of an earlier normalization. -/
def bare (program : Program) : Program :=
  { types := program.types
    members := program.members
    declarations := program.declarations.map Declaration.eraseNumbers }

/-! ## References -/

theorem references_bare (program : Program) : program.bare.references = program.references := by
  simp only [references, bare, List.flatMap_map, Declaration.references_eraseNumbers]

theorem resolves_bare (program : Program) (reference : Reference) :
    program.bare.Resolves reference ↔ program.Resolves reference := by
  cases reference <;> simp [Resolves, bare]

theorem dangling?_bare (program : Program) : program.bare.dangling? = program.dangling? := by
  simp only [dangling?, references_bare, resolves_bare]

/-! ## Numbering -/

theorem forgets_numberDeclaration (declaration : Declaration) :
    Forgets (numberDeclaration declaration) (numberDeclaration declaration.eraseNumbers)
      Declaration.eraseNumbers declaration.eraseNumbers := by
  unfold numberDeclaration Declaration.eraseNumbers
  cases found : declaration.body with
  | none =>
      have bodiless : { declaration with body := none } = declaration := by rw [← found]
      simp only [Option.map_none, bodiless]
      exact forgets_pure (by rw [found, Option.map_none, bodiless])
  | some body => exact body.forgets_number.build fun _ => rfl

theorem forgets_numberDeclarations (declarations : List Declaration) :
    Forgets (numberDeclarations declarations)
      (numberDeclarations (declarations.map Declaration.eraseNumbers))
      (List.map Declaration.eraseNumbers) (declarations.map Declaration.eraseNumbers) := by
  induction declarations with
  | nil => exact forgets_pure rfl
  | cons declaration rest inductionHypothesis =>
      exact (forgets_numberDeclaration declaration).build₂ inductionHypothesis fun _ _ => rfl

/-! ## Normalization -/

/-- Normalization sees no node number, and nothing that was entered before. -/
theorem normalize_bare (program : Program) : program.bare.normalize = program.normalize := by
  have numbered := (forgets_numberDeclarations program.declarations).same
  unfold normalize
  rw [dangling?_bare]
  simp only [bare, numbered]
  rfl

/-- Normalization changes nothing else. -/
theorem bare_of_normalize {program normalized : Program}
    (accepted : program.normalize = .ok normalized) : normalized.bare = program.bare := by
  unfold normalize at accepted
  split at accepted
  · cases accepted
  · cases accepted
    simp only [bare, (forgets_numberDeclarations program.declarations).erased]

theorem normalize_eq_of_bare_eq {first second : Program} (alike : first.bare = second.bare) :
    first.normalize = second.normalize := by
  rw [← normalize_bare, alike, normalize_bare]

/-- A normalized program is normalized already. -/
theorem normalize_normalized {program normalized : Program}
    (accepted : program.normalize = .ok normalized) : normalized.normalize = .ok normalized :=
  (normalize_eq_of_bare_eq (bare_of_normalize accepted)).trans accepted

end Program

end StructureLint
