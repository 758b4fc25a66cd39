import StructureLint.Proofs.Rule.Nesting

/-!
Contract: what the rule about nesting sees of a body.

The walk goes from place to place, and at a place it looks at the kind of the
construct, at its number and at its span.  A change of statements that leaves
these and the places below as they are is not seen.

Owns:
- changes of statements that keep the skeleton of a body;
- the walk of a changed body, and the rule on it.

Does not own: which changes these are.
-/

namespace StructureLint.Nesting

def Site.map (change : Stmt → Stmt) (site : Site) : Site :=
  { site with stmt := change site.stmt }

def Placed.map (change : Stmt → Stmt) (placed : Placed) : Placed :=
  { placed with stmt := change placed.stmt }

/-- The change leaves every statement its number, its span, its construct and the
places below it, at which it changes what stands there. -/
structure KeepsSkeleton (change : Stmt → Stmt) : Prop where
  id : ∀ stmt, (change stmt).id = stmt.id
  span : ∀ stmt, (change stmt).span = stmt.span
  construct : ∀ stmt, constructName? (change stmt).kind = constructName? stmt.kind
  parts : ∀ stmt, parts (change stmt).kind = (parts stmt.kind).map (Site.map change)

/-- Behind an `else`, exactly an `if` continues the chain. -/
theorem Site.continuesIf_eq (site : Site) :
    site.continuesIf = (site.isElse && constructName? site.stmt.kind == some "if") := by
  unfold Site.continuesIf
  congr 1
  cases site.stmt.kind <;> rfl

section Changed

variable {change : Stmt → Stmt} (keeps : KeepsSkeleton change)

include keeps

theorem continuesIf_map (site : Site) : (site.map change).continuesIf = site.continuesIf := by
  rw [Site.continuesIf_eq, Site.continuesIf_eq]
  show (site.isElse && constructName? (change site.stmt).kind == some "if") = _
  rw [keeps.construct]

theorem opens_map (site : Site) : (site.map change).opens = site.opens := by
  unfold Site.opens Site.construct?
  rw [continuesIf_map keeps]
  show (if site.continuesIf then none else constructName? (change site.stmt).kind).isSome = _
  rw [keeps.construct]

/-- The walk meets the changed statements, in the same order and at the same levels. -/
theorem placedSite_map (depth : Nat) (site : Site) :
    placedSite depth (site.map change) = (placedSite depth site).map (Placed.map change) := by
  induction site using Site.induction generalizing depth with
  | step site inductionHypothesis =>
      have below : ∀ level, (parts (site.map change).stmt.kind).flatMap (placedSite level) =
          ((parts site.stmt.kind).flatMap (placedSite level)).map (Placed.map change) := by
        intro level
        rw [show (site.map change).stmt = change site.stmt from rfl, keeps.parts,
          List.flatMap_map, List.map_flatMap]
        exact List.flatMap_congr fun part member => inductionHypothesis part member level
      have still := continuesIf_map keeps site
      cases continues : site.continuesIf with
      | true =>
          rw [continues] at still
          rw [placedSite_of_continuesIf depth still, placedSite_of_continuesIf depth continues,
            below]
      | false =>
          rw [continues] at still
          rw [placedSite_of_not_continuesIf depth still,
            placedSite_of_not_continuesIf depth continues, opens_map keeps, below, List.map_cons]
          rfl

theorem placedBlock_map {block changed : Block} (stmts : changed.stmts = block.stmts.map change)
    (depth : Nat) :
    placedBlock depth changed = (placedBlock depth block).map (Placed.map change) := by
  rw [placedBlock_eq_flatMap, placedBlock_eq_flatMap, stmts, List.flatMap_map, List.map_flatMap]
  exact List.flatMap_congr fun stmt _ => placedSite_map keeps depth (.plain stmt)

theorem logPlaced_map (declaration : Declaration) (severity : Severity) (limit : Nat)
    (log : FindingLog) (placed : Placed) :
    logPlaced declaration severity limit log (placed.map change) =
      logPlaced declaration severity limit log placed := by
  unfold logPlaced finding reportLocation Placed.map
  simp only [keeps.id, keeps.span, keeps.construct]

end Changed

/-- The rule goes through the same pass if the skeleton of the body is kept. -/
theorem check_of_keepsSkeleton {change : Stmt → Stmt} (keeps : KeepsSkeleton change)
    {scope other : DeclarationScope} {block changed : Block}
    (bodied : scope.declaration.body = some (.block block))
    (stmts : changed.stmts = block.stmts.map change) (file : other.file = scope.file)
    (declared : other.declaration = { scope.declaration with body := some (.block changed) })
    (builtin : Nat) (severity : Severity) :
    check builtin severity other = check builtin severity scope := by
  have logged : ∀ limit, (placedBlock 0 changed).foldl
      (logPlaced other.declaration severity limit) {} =
      (placedBlock 0 block).foldl (logPlaced scope.declaration severity limit) {} := by
    intro limit
    rw [placedBlock_map keeps stmts, List.foldl_map, declared]
    congr 1
    funext log placed
    exact logPlaced_map keeps scope.declaration severity limit log placed
  have walked : Pass.checkEach (placedBlock 0 changed) = Pass.checkEach (placedBlock 0 block) := by
    rw [placedBlock_map keeps stmts, Pass.checkEach_map]
  unfold check
  rw [bodied, declared]
  dsimp only
  rw [declared] at logged
  rw [file, walked]
  simp only [logged]

end StructureLint.Nesting
