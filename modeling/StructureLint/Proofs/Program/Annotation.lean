import StructureLint.Analysis.Unit
import StructureLint.Eligibility
import StructureLint.Proofs.Program.Reach

/-!
Contract: a program in which one declaration carries a further attribute.

Attributes refer to nothing and nothing refers to them.  So every look-up, every
reference, the numbering of nodes, the bodies of local functions, the reasons to
leave a declaration alone and the files of a program are what they were.

Owns:
- annotated programs, and what is asked of them;
- normalization of an annotated program.

Does not own: what an attribute means to a rule.
-/

namespace StructureLint

/-- The declaration with other attributes. -/
def Declaration.withAttributes (declaration : Declaration) (marks : List Attribute) :
    Declaration :=
  { declaration with attributes := marks }

/-- The attributes of the declaration numbered `id`, with `mark` behind them if that
is the annotated one. -/
def annotatedMarks (annotated : DeclarationId) (mark : Attribute) (id : DeclarationId)
    (marks : List Attribute) : List Attribute :=
  if id = annotated then marks ++ [mark] else marks

/-- The declaration numbered `id` in a program in which one is annotated. -/
def Declaration.annotate (annotated : DeclarationId) (mark : Attribute) (id : DeclarationId)
    (declaration : Declaration) : Declaration :=
  declaration.withAttributes (annotatedMarks annotated mark id declaration.attributes)

namespace Program

/-- The program with a further attribute on the declaration of that number. -/
def annotate (program : Program) (annotated : DeclarationId) (mark : Attribute) : Program :=
  { program with
    declarations := program.declarations.mapIdx fun index =>
      Declaration.annotate annotated mark ⟨UInt32.ofNat index⟩ }

variable (program : Program) (annotated : DeclarationId) (mark : Attribute)

/-! ## Look-ups -/

theorem declaration?_annotate (id : DeclarationId) :
    (program.annotate annotated mark).declaration? id =
      (program.declaration? id).map (Declaration.annotate annotated mark id) := by
  simp [declaration?, annotate, List.getElem?_mapIdx]

theorem mem_numberedDeclarations_of_declaration? {id : DeclarationId} {declaration : Declaration}
    (found : program.declaration? id = some declaration) :
    (id, declaration) ∈ program.numberedDeclarations := by
  refine List.mem_map.mpr ⟨(declaration, id.index.toNat), ?_, ?_⟩
  · exact List.mem_zipIdx_iff_getElem?.mpr found
  · rw [UInt32.ofNat_toNat]

theorem body?_annotate (id : DeclarationId) :
    (program.annotate annotated mark).body? id = program.body? id := by
  rw [body?, declaration?_annotate, Option.bind_map]
  rfl

/-- A member has no declaration in either program, or one that differs in attributes. -/
theorem declarationOf?_annotate_cases (member : MemberSymbol) :
    ((program.annotate annotated mark).declarationOf? member = none ∧
      program.declarationOf? member = none) ∨
    ∃ id declaration, member.declaration = some id ∧
      program.declarationOf? member = some declaration ∧
      (program.annotate annotated mark).declarationOf? member =
        some (declaration.annotate annotated mark id) := by
  unfold declarationOf?
  cases member.declaration with
  | none => exact .inl ⟨rfl, rfl⟩
  | some id =>
      simp only [Option.bind_some, declaration?_annotate]
      cases program.declaration? id with
      | none => exact .inl ⟨rfl, rfl⟩
      | some declaration => exact .inr ⟨id, declaration, rfl, rfl, rfl⟩

/-- What does not change with the attributes is the same about the declaration of a member. -/
theorem map_declarationOf?_annotate {α : Type} (view : Declaration → α)
    (blind : ∀ id declaration, view (Declaration.annotate annotated mark id declaration) =
      view declaration) (member : MemberSymbol) :
    ((program.annotate annotated mark).declarationOf? member).map view =
      (program.declarationOf? member).map view := by
  rcases program.declarationOf?_annotate_cases annotated mark member with
    ⟨after, before⟩ | ⟨id, declaration, _, before, after⟩
  · rw [after, before]
  · rw [after, before, Option.map_some, Option.map_some, blind]

theorem numberedDeclarations_annotate :
    (program.annotate annotated mark).numberedDeclarations =
      program.numberedDeclarations.map fun entry =>
        (entry.1, entry.2.annotate annotated mark entry.1) := by
  apply List.ext_getElem?
  intro index
  simp [numberedDeclarations, annotate, Option.map_map, Function.comp_def]

/-! ## Bodies and eligibility -/

theorem unfoldLocals_annotate (entered : List DeclarationId) (pending : List Visit) :
    (program.annotate annotated mark).unfoldLocals entered pending =
      program.unfoldLocals entered pending :=
  unfoldLocals_congr (program.body?_annotate annotated mark) entered pending

theorem isEligible_annotate (id : DeclarationId) (declaration : Declaration) :
    (program.annotate annotated mark).isEligible (declaration.annotate annotated mark id) =
      program.isEligible declaration :=
  rfl

/-! ## Files -/

theorem typeFile?_annotate (id : TypeId) (symbol : TypeSymbol) :
    (program.annotate annotated mark).typeFile? id symbol = program.typeFile? id symbol := by
  unfold typeFile?
  cases symbol.location with
  | some location => rfl
  | none =>
      have files := program.map_declarationOf?_annotate annotated mark Declaration.file
        fun _ _ => rfl
      simp only [files]
      rfl

theorem placedTypes_annotate :
    (program.annotate annotated mark).placedTypes = program.placedTypes := by
  unfold placedTypes
  simp only [typeFile?_annotate]
  rfl

end Program

/-- A file of an annotated program. -/
def FileUnit.annotate (annotated : DeclarationId) (mark : Attribute) (unit : FileUnit) :
    FileUnit :=
  { unit with
    declarations := unit.declarations.map fun entry =>
      (entry.1, entry.2.annotate annotated mark entry.1) }

namespace Program

variable (program : Program) (annotated : DeclarationId) (mark : Attribute)

theorem fileUnits_annotate (withTypes : Bool) :
    (program.annotate annotated mark).fileUnits withTypes =
      (program.fileUnits withTypes).map (FileUnit.annotate annotated mark) := by
  simp only [fileUnits, numberedDeclarations_annotate, placedTypes_annotate, List.map_map,
    List.filter_map]
  rfl

/-! ## Normalization -/

theorem map_declarations_annotate {α : Type} (view : Declaration → α)
    (blind : ∀ declaration marks, view (declaration.withAttributes marks) = view declaration) :
    (program.annotate annotated mark).declarations.map view = program.declarations.map view := by
  apply List.ext_getElem?
  intro index
  simp only [annotate, List.getElem?_map, List.getElem?_mapIdx, Option.map_map]
  congr 1
  funext declaration
  exact blind declaration _

theorem dangling?_annotate :
    (program.annotate annotated mark).dangling? = program.dangling? := by
  have references : (program.annotate annotated mark).references = program.references := by
    have held := program.map_declarations_annotate annotated mark Declaration.references
      fun _ _ => rfl
    simp only [Program.references, List.flatMap_def, held]
    rfl
  have resolves : ∀ reference, (program.annotate annotated mark).Resolves reference ↔
      program.Resolves reference := by
    intro reference
    cases reference with
    | type id => exact Iff.rfl
    | member id => exact Iff.rfl
    | declaration id =>
        show _ < (program.declarations.mapIdx _).length ↔ _
        rw [List.length_mapIdx]
        exact Iff.rfl
  simp only [dangling?, references, resolves]

theorem attributes_numberDeclaration (declaration : Declaration) (next : Nat) :
    ((numberDeclaration declaration).run next).1.attributes = declaration.attributes := by
  unfold numberDeclaration
  cases declaration.body <;> rfl

theorem run_numberDeclaration_withAttributes (declaration : Declaration)
    (marks : List Attribute) (next : Nat) :
    (numberDeclaration (declaration.withAttributes marks)).run next =
      (((numberDeclaration declaration).run next).1.withAttributes marks,
        ((numberDeclaration declaration).run next).2) := by
  obtain ⟨name, kind, symbol, file, span, modifiers, attributes, body⟩ := declaration
  cases body <;> rfl

theorem run_numberDeclarations_cons (declaration : Declaration) (rest : List Declaration)
    (next : Nat) :
    (numberDeclarations (declaration :: rest)).run next =
      (((numberDeclaration declaration).run next).1 ::
          ((numberDeclarations rest).run ((numberDeclaration declaration).run next).2).1,
        ((numberDeclarations rest).run ((numberDeclaration declaration).run next).2).2) :=
  rfl

/-- Nodes are numbered in bodies, whatever the attributes around them. -/
theorem run_numberDeclarations_mapIdx (change : Nat → List Attribute → List Attribute)
    (declarations : List Declaration) (next : Nat) :
    (numberDeclarations (declarations.mapIdx fun index declaration =>
        declaration.withAttributes (change index declaration.attributes))).run next =
      (((numberDeclarations declarations).run next).1.mapIdx fun index declaration =>
          declaration.withAttributes (change index declaration.attributes),
        ((numberDeclarations declarations).run next).2) := by
  induction declarations generalizing change next with
  | nil => rfl
  | cons declaration rest inductionHypothesis =>
      have first := run_numberDeclaration_withAttributes declaration
        (change 0 declaration.attributes) next
      have others := inductionHypothesis (fun index => change (index + 1))
        ((numberDeclaration declaration).run next).2
      have kept := attributes_numberDeclaration declaration next
      rw [List.mapIdx_cons, run_numberDeclarations_cons, run_numberDeclarations_cons, first,
        List.mapIdx_cons, kept, others]

theorem normalize_annotate :
    (program.annotate annotated mark).normalize =
      program.normalize.map fun normalized => normalized.annotate annotated mark := by
  have numbered : ((numberDeclarations (program.annotate annotated mark).declarations).run 1).1 =
      ((numberDeclarations program.declarations).run 1).1.mapIdx fun index =>
        Declaration.annotate annotated mark ⟨UInt32.ofNat index⟩ :=
    congrArg Prod.fst (run_numberDeclarations_mapIdx
      (fun index => annotatedMarks annotated mark ⟨UInt32.ofNat index⟩) program.declarations 1)
  unfold normalize
  rw [dangling?_annotate]
  cases program.dangling? with
  | some dangling => rfl
  | none =>
      dsimp only
      rw [numbered]
      rfl

theorem map_attributes_numberDeclarations (declarations : List Declaration) (next : Nat) :
    ((numberDeclarations declarations).run next).1.map Declaration.attributes =
      declarations.map Declaration.attributes := by
  induction declarations generalizing next with
  | nil => rfl
  | cons declaration rest inductionHypothesis =>
      rw [run_numberDeclarations_cons, List.map_cons, attributes_numberDeclaration,
        inductionHypothesis, List.map_cons]

/-- Every declaration of a normalized program has the attributes that it had before. -/
theorem exists_attributes_of_normalize {normalized : Program}
    (accepted : program.normalize = .ok normalized) {entry : DeclarationId × Declaration}
    (listed : entry ∈ normalized.numberedDeclarations) :
    ∃ before ∈ program.numberedDeclarations,
      before.1 = entry.1 ∧ before.2.attributes = entry.2.attributes := by
  have same : normalized.declarations.map Declaration.attributes =
      program.declarations.map Declaration.attributes := by
    unfold normalize at accepted
    split at accepted
    · cases accepted
    · cases accepted
      exact map_attributes_numberDeclarations program.declarations 1
  obtain ⟨⟨declaration, index⟩, placed, rfl⟩ := List.mem_map.mp listed
  have found := congrArg (fun marks => marks[index]?) same
  simp only [List.getElem?_map, List.mem_zipIdx_iff_getElem?.mp placed, Option.map_some] at found
  obtain ⟨before, located, attributes⟩ := Option.map_eq_some_iff.mp found.symm
  refine ⟨(⟨UInt32.ofNat index⟩, before), ?_, rfl, attributes⟩
  exact List.mem_map.mpr ⟨(before, index), List.mem_zipIdx_iff_getElem?.mpr located, rfl⟩

end Program

end StructureLint
