import StructureLint.Proofs.Pass
import StructureLint.Proofs.Program.Reach
import StructureLint.Rule.Length

/-!
Contract: the length of a body in closed form.

The count walks the body and steps into every local function at its first
mention.  What it returns does not depend on the walk: it is the number of
significant statements of the measured part and, for every local function that
this part leads to, that of its whole body, each added once.

Owns:
- significant statements as a weight on the nodes of a body;
- the count as a sum over reachable local functions.

Does not own: when a length is reported.
-/

namespace StructureLint.Length

open Program

/-- What a node adds to the length: one for a significant statement. -/
def significance (options : Options) : Visit → Nat
  | .stmt stmt => if isSignificant options stmt then 1 else 0
  | _ => 0

/-- The measured part of a body: the top-level statements behind the longest
leading run of guards, if guards are left out, and else all of them; or the
expression that is the body. -/
def measuredRoots (options : Options) : Body → List Visit
  | .block block =>
    (if options.excludeGuards then block.stmts.dropWhile isGuard else block.stmts).map .stmt
  | .expression expr => [.expr expr]

/-- The number of significant statements in the whole body of a declaration. -/
def bodyLength (program : Program) (options : Options) (id : DeclarationId) : Nat :=
  (program.body? id).elim 0 fun body => (Visit.body body).total (significance options)

theorem measuredVisits_eq_flatMap (options : Options) (body : Body) :
    measuredVisits options body = (measuredRoots options body).flatMap Visit.visits := by
  cases body with
  | block block =>
      simp only [measuredVisits, measuredRoots, behindGuards, Stmt.visitsAll_eq_flatMap,
        List.flatMap_map, Visit.visits]
  | expression expr => simp [measuredVisits, measuredRoots, Visit.visits]

theorem countSignificant_eq_sum (options : Options) (visits : List Visit) :
    countSignificant options visits = (visits.map (significance options)).sum := by
  induction visits with
  | nil => rfl
  | cons visit rest inductionHypothesis =>
      rw [countSignificant] at inductionHypothesis ⊢
      rw [List.countP_cons, inductionHypothesis, List.map_cons, List.sum_cons, Nat.add_comm]
      congr 1
      cases visit with
      | stmt stmt => cases significant : isSignificant options stmt <;>
          simp [significance, Visit.stmt?, significant]
      | _ => rfl

/-! ## The closed form -/

instance : Finite DeclarationId :=
  Finite.of_injective DeclarationId.index fun first second same => by
    cases first
    cases second
    exact congrArg DeclarationId.mk same

/-- Unfolding a body counts the measured part and each body that it opens once. -/
theorem countSignificant_unfoldLocals {program : Program} {entered opened : List DeclarationId}
    {roots : List Visit} (options : Options)
    (opens : Opens program entered (roots.flatMap Visit.visits) opened) :
    countSignificant options (program.unfoldLocals entered (roots.flatMap Visit.visits)) =
      (roots.map (Visit.total (significance options))).sum +
        (opened.map (bodyLength program options)).sum := by
  rw [countSignificant_eq_sum, opens.sum_eq]
  rfl

/-- The length of a body, whatever local functions it declares and however they
mention each other: the significant statements of the measured part and, for
each local function other than the owner that this part leads to, those of its
whole body. -/
theorem count_eq_sum_reached (program : Program) (owner : DeclarationId) (body : Body)
    (options : Options) (answer : SettingRequest → Option String) :
    ∃ reached : Finset DeclarationId,
      (∀ id, id ∈ reached ↔ Reached program owner (measuredRoots options body) id) ∧
      (count program owner body options).run answer =
        .ok (((measuredRoots options body).map (Visit.total (significance options))).sum +
          ∑ id ∈ reached.erase owner, bodyLength program options id) := by
  obtain ⟨opened, opens⟩ :=
    exists_opens program [owner] ((measuredRoots options body).flatMap Visit.visits)
  have finite : {id | Reached program owner (measuredRoots options body) id}.Finite :=
    Set.toFinite _
  refine ⟨finite.toFinset, fun id => finite.mem_toFinset, ?_⟩
  have openedSum : (opened.map (bodyLength program options)).sum =
      ∑ id ∈ finite.toFinset.erase owner, bodyLength program options id := by
    rw [← List.sum_toFinset _ opens.nodup]
    apply Finset.sum_subset
    · intro id member
      obtain ⟨reached, foreign, _⟩ := (opens.mem_iff id).mp (List.mem_toFinset.mp member)
      have different : id ≠ owner := by simpa using foreign
      exact Finset.mem_erase.mpr
        ⟨different, finite.mem_toFinset.mpr (reaches_iff_reached.mp reached)⟩
    · -- What is reached but not opened has no body.
      intro id member unopened
      obtain ⟨different, reached⟩ := Finset.mem_erase.mp member
      have bodiless : program.body? id = none := by
        by_contra bodied
        refine unopened (List.mem_toFinset.mpr ((opens.mem_iff id).mpr ⟨?_, ?_, ?_⟩))
        · exact reaches_iff_reached.mpr (finite.mem_toFinset.mp reached)
        · simpa using different
        · exact Option.isSome_iff_ne_none.mpr bodied
      simp [bodyLength, bodiless]
  rw [count, Pass.run_bind, Pass.run_checkEach, measuredVisits_eq_flatMap]
  simp only [Except.bind, Pass.run_pure]
  rw [countSignificant_unfoldLocals options opens, openedSum]

end StructureLint.Length
