import StructureLint.Analysis.Unit
import StructureLint.Eligibility
import StructureLint.Proofs.Program.Erasure
import StructureLint.Proofs.Program.Orbit
import StructureLint.Proofs.Program.Reach
import StructureLint.Proofs.Program.References
import StructureLint.Proofs.Syntax.CallTarget

/-!
Contract: a program in which calls are bound to known members only.

The target of a call is no reference that a program is checked for, so that it may
lie outside of the members.  Every reference that is checked lies inside, and
following overridden members from one of them never leaves them.

Owns:
- programs without the targets that are not known, and what is asked of them;
- normalization of such a program;
- where chains of overridden members lead in a closed program.

Does not own: what a rule makes of a call.
-/

namespace StructureLint

/-- The declaration without call targets that are not known. -/
def Declaration.keepTargets (known : MemberId → Bool) (declaration : Declaration) : Declaration :=
  { declaration with body := declaration.body.map (Body.keepTargets known) }

theorem Declaration.references_keepTargets (known : MemberId → Bool) (declaration : Declaration) :
    (declaration.keepTargets known).references = declaration.references := by
  unfold Declaration.references Declaration.keepTargets
  cases declaration.body with
  | none => rfl
  | some body => simp [Body.localFunctions_keepTargets]

namespace Program

/-- The program without call targets that are not known. -/
def keepTargets (known : MemberId → Bool) (program : Program) : Program :=
  { program with declarations := program.declarations.map (Declaration.keepTargets known) }

section Lookups

variable (known : MemberId → Bool) (program : Program)

/-! ## Look-ups -/

theorem declaration?_keepTargets (id : DeclarationId) :
    (program.keepTargets known).declaration? id =
      (program.declaration? id).map (Declaration.keepTargets known) := by
  simp [declaration?, keepTargets]

theorem body?_keepTargets (id : DeclarationId) :
    (program.keepTargets known).body? id = (program.body? id).map (Body.keepTargets known) := by
  unfold body?
  rw [declaration?_keepTargets]
  cases program.declaration? id <;> rfl

theorem declarationOf?_keepTargets (member : MemberSymbol) :
    (program.keepTargets known).declarationOf? member =
      (program.declarationOf? member).map (Declaration.keepTargets known) := by
  unfold declarationOf?
  cases member.declaration with
  | none => rfl
  | some id => exact program.declaration?_keepTargets known id

theorem numberedDeclarations_keepTargets :
    (program.keepTargets known).numberedDeclarations =
      program.numberedDeclarations.map fun entry => (entry.1, entry.2.keepTargets known) := by
  apply List.ext_getElem?
  intro index
  simp [numberedDeclarations, keepTargets, Option.map_map, Function.comp_def]

/-! ## Bodies of local functions -/

/-- The bodies of local functions are put in place as before. -/
theorem unfoldLocals_keepTargets (entered : List DeclarationId) (pending : List Visit) :
    (program.keepTargets known).unfoldLocals entered (pending.map (Visit.keepTargets known)) =
      (program.unfoldLocals entered pending).map (Visit.keepTargets known) := by
  induction entered, pending using unfoldLocals.induct program with
  | case1 entered => simp only [unfoldLocals, List.map_nil]
  | case2 entered id rest fresh bodiless inductionHypothesis =>
      have still : (program.keepTargets known).body? id = none := by
        rw [body?_keepTargets, bodiless, Option.map_none]
      rw [unfoldLocals_cons_of_shut (.inr bodiless), List.map_cons, List.map_cons,
        ← inductionHypothesis]
      exact unfoldLocals_cons_of_shut (.inr still)
  | case3 entered id rest fresh body found smaller inductionHypothesis =>
      have still : (program.keepTargets known).body? id = some (body.keepTargets known) := by
        rw [body?_keepTargets, found, Option.map_some]
      rw [unfoldLocals_cons_of_open fresh found, List.map_cons, List.map_cons,
        ← inductionHypothesis, List.map_append, ← Body.visits_keepTargets]
      exact unfoldLocals_cons_of_open fresh still
  | case4 entered id rest closed inductionHypothesis =>
      have inside := Decidable.not_not.mp closed
      rw [unfoldLocals_cons_of_shut (.inl inside), List.map_cons, List.map_cons,
        ← inductionHypothesis]
      exact unfoldLocals_cons_of_shut (.inl inside)
  | case5 entered visit rest different inductionHypothesis =>
      have still : ∀ id, visit.keepTargets known ≠ .localFunction id := by
        intro id same
        cases visit with
        | localFunction declaration => exact different declaration rfl
        | _ => cases same
      rw [unfoldLocals_cons_of_ne different, List.map_cons, List.map_cons,
        unfoldLocals_cons_of_ne still, inductionHypothesis]

/-! ## Files -/

theorem typeFile?_keepTargets (id : TypeId) (symbol : TypeSymbol) :
    (program.keepTargets known).typeFile? id symbol = program.typeFile? id symbol := by
  have files : ∀ member, ((program.keepTargets known).declarationOf? member).map
      Declaration.file = (program.declarationOf? member).map Declaration.file := by
    intro member
    rw [declarationOf?_keepTargets, Option.map_map]
    rfl
  unfold typeFile?
  cases symbol.location with
  | some location => rfl
  | none =>
      simp only [files]
      rfl

theorem placedTypes_keepTargets :
    (program.keepTargets known).placedTypes = program.placedTypes := by
  unfold placedTypes
  simp only [typeFile?_keepTargets]
  rfl

end Lookups

end Program

/-- A file of a program without call targets that are not known. -/
def FileUnit.keepTargets (known : MemberId → Bool) (unit : FileUnit) : FileUnit :=
  { unit with
    declarations := unit.declarations.map fun entry => (entry.1, entry.2.keepTargets known) }

namespace Program

section Normalization

variable (known : MemberId → Bool) (program : Program)

theorem fileUnits_keepTargets (withTypes : Bool) :
    (program.keepTargets known).fileUnits withTypes =
      (program.fileUnits withTypes).map (FileUnit.keepTargets known) := by
  simp only [fileUnits, numberedDeclarations_keepTargets, placedTypes_keepTargets, List.map_map,
    List.filter_map]
  rfl

/-! ## Normalization -/

theorem dangling?_keepTargets :
    (program.keepTargets known).dangling? = program.dangling? := by
  have references : (program.keepTargets known).references = program.references := by
    simp only [Program.references, keepTargets, List.flatMap_map,
      Declaration.references_keepTargets]
  have resolves : ∀ reference, (program.keepTargets known).Resolves reference ↔
      program.Resolves reference := by
    intro reference
    cases reference <;> simp [Resolves, keepTargets]
  simp only [dangling?, references, resolves]

theorem numberDeclaration_keepTargets (declaration : Declaration) :
    numberDeclaration (declaration.keepTargets known) =
      Declaration.keepTargets known <$> numberDeclaration declaration := by
  obtain ⟨name, kind, symbol, file, span, modifiers, attributes, body⟩ := declaration
  cases body with
  | none => rfl
  | some body =>
      simp only [numberDeclaration, Declaration.keepTargets, Option.map_some,
        Body.number_keepTargets, map_bind, map_pure, bind_map_left]

theorem numberDeclarations_keepTargets (declarations : List Declaration) :
    numberDeclarations (declarations.map (Declaration.keepTargets known)) =
      List.map (Declaration.keepTargets known) <$> numberDeclarations declarations := by
  induction declarations with
  | nil => rfl
  | cons declaration rest inductionHypothesis =>
      simp only [List.map_cons, numberDeclarations, numberDeclaration_keepTargets,
        inductionHypothesis, map_bind, map_pure, bind_map_left]

/-- Targets play no part in normalization. -/
theorem normalize_keepTargets :
    (program.keepTargets known).normalize = program.normalize.map (keepTargets known) := by
  have numbered : ((numberDeclarations (program.keepTargets known).declarations).run 1).1 =
      ((numberDeclarations program.declarations).run 1).1.map (Declaration.keepTargets known) := by
    unfold keepTargets
    rw [numberDeclarations_keepTargets]
    rfl
  unfold normalize
  rw [dangling?_keepTargets]
  cases program.dangling? with
  | some dangling => rfl
  | none =>
      dsimp only
      rw [numbered]
      rfl

end Normalization

/-! ## Known members -/

/-- The member lies inside the arena. -/
def knows (program : Program) (id : MemberId) : Bool :=
  decide (program.Resolves (.member id))

/-- The program without call targets that lie outside of its members. -/
def withoutDanglingTargets (program : Program) : Program :=
  program.keepTargets program.knows

theorem normalize_withoutDanglingTargets {program normalized : Program}
    (accepted : program.normalize = .ok normalized) :
    program.withoutDanglingTargets.normalize = .ok normalized.withoutDanglingTargets := by
  have members : normalized.members = program.members := by
    have kept : normalized.bare.members = program.bare.members := by
      rw [bare_of_normalize accepted]
    exact kept
  have knows : normalized.knows = program.knows := by
    funext id
    simp only [Program.knows, Resolves, members]
  unfold withoutDanglingTargets
  rw [normalize_keepTargets, accepted, knows]
  rfl

theorem dangling?_of_accepted {program normalized : Program}
    (accepted : program.normalize = .ok normalized) : program.dangling? = none := by
  unfold normalize at accepted
  split at accepted
  next => cases accepted
  next closed => exact closed

section Closed

variable {program : Program} {id other : MemberId}

theorem knows_iff_isSome : program.knows id = true ↔ (program.member? id).isSome = true := by
  rw [knows, decide_eq_true_iff]
  simp [Resolves, member?]

theorem mem_members_of_member? {symbol : MemberSymbol} (found : program.member? id = some symbol) :
    symbol ∈ program.members :=
  List.mem_of_getElem? found

/-- From a known member on, chains of overridden members hold known members only. -/
theorem Overrides.knows (closed : program.dangling? = none) (overrides : program.Overrides id other)
    (start : program.knows id = true) : program.knows other = true := by
  induction overrides with
  | refl => exact start
  | tail _ linked _ =>
      obtain ⟨symbol, found, overridden⟩ := Option.bind_eq_some_iff.mp linked
      have resolves := dangling?_eq_none_iff.mp closed _ _
        (.overriddenMember (mem_members_of_member? found) overridden)
      exact decide_eq_true resolves

/-- What is not known overrides nothing. -/
theorem Overrides.eq_of_unknown (overrides : program.Overrides id other)
    (unknown : program.knows id = false) : other = id := by
  rcases Relation.ReflTransGen.cases_head overrides with same | ⟨next, linked, _⟩
  · exact same.symm
  · obtain ⟨symbol, found, _⟩ := Option.bind_eq_some_iff.mp linked
    have known : program.knows id = true := knows_iff_isSome.mpr (by rw [found]; rfl)
    exact absurd known (by simp [unknown])

end Closed

end Program

end StructureLint
