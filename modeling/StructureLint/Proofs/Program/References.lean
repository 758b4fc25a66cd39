import StructureLint.Program.Basic
import StructureLint.Proofs.Syntax.Nodes

/-!
Contract: the references of a program.

A program is refused because of its list of references.  Here the references
are a relation instead: it says of each kind of entry what it may refer to, and
looks for local functions anywhere inside a body.  Both are the same.

Owns:
- which entries refer to which;
- agreement of the list of references with the relation;
- the reference that a program is refused for.

Does not own: what normalization does to a program.
-/

namespace StructureLint

/-! ## Local functions of a body -/

namespace Visit

/-- Only the statement of a local function has the local function right below it. -/
theorem exists_stmt_of_mem_children {node : Visit} {id : DeclarationId}
    (member : .localFunction id ∈ node.children) :
    ∃ stmt, node = .stmt stmt ∧ stmt.kind = .localFunction id := by
  cases node with
  | body body => cases body <;> simp [children] at member
  | block block => simp [children] at member
  | stmt stmt =>
      refine ⟨stmt, rfl, ?_⟩
      cases kind : stmt.kind with
      | localFunction declaration =>
          simp only [children, kind, StmtKind.children, List.mem_singleton,
            localFunction.injEq] at member
          rw [member]
      | _ => simp [children, kind, StmtKind.children, SwitchSection.children] at member
  | expr expr =>
      cases kind : expr.kind <;> simp [children, kind, ExprKind.children] at member
  | localFunction declaration => simp [children] at member

theorem Contains.trans {node middle other : Visit} (first : node.Contains middle)
    (second : middle.Contains other) : node.Contains other := by
  induction first with
  | self => exact second
  | inside member _ inductionHypothesis => exact .inside member (inductionHypothesis second)

/-- What contains a local function is that local function or contains its statement. -/
theorem contains_localFunction_iff {node : Visit} {id : DeclarationId} :
    node.Contains (.localFunction id) ↔
      node = .localFunction id ∨
        ∃ stmt, node.Contains (.stmt stmt) ∧ stmt.kind = .localFunction id := by
  constructor
  · induction node using Visit.induction with
    | step node inductionHypothesis =>
        intro contained
        cases contained with
        | self => exact .inl rfl
        | inside member contained =>
            rcases inductionHypothesis _ member contained with rfl | ⟨stmt, inside, kind⟩
            · obtain ⟨stmt, rfl, kind⟩ := exists_stmt_of_mem_children member
              exact .inr ⟨stmt, .self _, kind⟩
            · exact .inr ⟨stmt, .inside member inside, kind⟩
  · rintro (rfl | ⟨stmt, inside, kind⟩)
    · exact .self _
    · refine inside.trans (.inside ?_ (.self _))
      simp [children, kind, StmtKind.children]

end Visit

theorem Body.mem_localFunctions_iff {body : Body} {id : DeclarationId} :
    id ∈ body.localFunctions ↔
      ∃ stmt, (Visit.body body).Contains (.stmt stmt) ∧ stmt.kind = .localFunction id := by
  have visited : id ∈ body.localFunctions ↔ .localFunction id ∈ (Visit.body body).visits := by
    simp only [Body.localFunctions, List.mem_filterMap]
    constructor
    · rintro ⟨visit, member, found⟩
      cases visit with
      | localFunction declaration =>
          cases found
          exact member
      | _ => cases found
    · intro member
      exact ⟨_, member, rfl⟩
  rw [visited, Visit.mem_visits_iff_contains, Visit.contains_localFunction_iff]
  simp

/-! ## References of a program -/

/-- An entry of the program refers to another one.  The entry is known by its name. -/
inductive Program.Refers (program : Program) : ReferenceHolder → Reference → Prop where
  | baseType {symbol : TypeSymbol} {id : TypeId} (listed : symbol ∈ program.types)
      (refers : symbol.baseType = some id) : Refers program (.type symbol.name) (.type id)
  | interface {symbol : TypeSymbol} {id : TypeId} (listed : symbol ∈ program.types)
      (refers : id ∈ symbol.interfaces) : Refers program (.type symbol.name) (.type id)
  | containingType {member : MemberSymbol} {id : TypeId} (listed : member ∈ program.members)
      (refers : member.containingType = some id) : Refers program (.member member.name) (.type id)
  | overriddenMember {member : MemberSymbol} {id : MemberId} (listed : member ∈ program.members)
      (refers : member.overriddenMember = some id) :
      Refers program (.member member.name) (.member id)
  | explicitImplementation {member : MemberSymbol} {id : MemberId}
      (listed : member ∈ program.members) (refers : id ∈ member.explicitInterfaceImpls) :
      Refers program (.member member.name) (.member id)
  | implementedMember {member : MemberSymbol} {id : MemberId} (listed : member ∈ program.members)
      (refers : id ∈ member.implementedInterfaceMembers) :
      Refers program (.member member.name) (.member id)
  | memberDeclaration {member : MemberSymbol} {id : DeclarationId}
      (listed : member ∈ program.members) (refers : member.declaration = some id) :
      Refers program (.member member.name) (.declaration id)
  | declaredSymbol {declaration : Declaration} {id : MemberId}
      (listed : declaration ∈ program.declarations) (refers : declaration.symbol = some id) :
      Refers program (.declaration declaration.name) (.member id)
  | localFunction {declaration : Declaration} {body : Body} {stmt : Stmt} {id : DeclarationId}
      (listed : declaration ∈ program.declarations) (bodied : declaration.body = some body)
      (inside : (Visit.body body).Contains (.stmt stmt)) (refers : stmt.kind = .localFunction id) :
      Refers program (.body declaration.name) (.declaration id)

namespace Program

variable {program : Program} {entry : DanglingReference}

theorem refers_of_mem_references (member : entry ∈ program.references) :
    program.Refers entry.holder entry.reference := by
  simp only [references, List.mem_append, List.mem_flatMap] at member
  rcases member with (⟨symbol, listed, held⟩ | ⟨owner, listed, held⟩) | ⟨declaration, listed, held⟩
  · simp only [TypeSymbol.references, List.mem_map, List.mem_append,
      Option.mem_toList] at held
    obtain ⟨id, refers | refers, rfl⟩ := held
    · exact .baseType listed refers
    · exact .interface listed refers
  · simp only [MemberSymbol.references, List.mem_map, List.mem_append,
      Option.mem_toList] at held
    obtain ⟨reference, (⟨id, refers, rfl⟩ | ⟨id, (refers | refers) | refers, rfl⟩) |
      ⟨id, refers, rfl⟩, rfl⟩ := held
    · exact .containingType listed refers
    · exact .overriddenMember listed refers
    · exact .explicitImplementation listed refers
    · exact .implementedMember listed refers
    · exact .memberDeclaration listed refers
  · simp only [Declaration.references, List.mem_map, List.mem_append, List.mem_flatMap,
      Option.mem_toList, Body.mem_localFunctions_iff] at held
    rcases held with ⟨id, refers, rfl⟩ | ⟨id, ⟨body, bodied, stmt, inside, refers⟩, rfl⟩
    · exact .declaredSymbol listed refers
    · exact .localFunction listed bodied inside refers

theorem mem_references_of_refers {holder : ReferenceHolder} {reference : Reference}
    (refers : program.Refers holder reference) :
    { reference, holder : DanglingReference } ∈ program.references := by
  simp only [references, List.mem_append, List.mem_flatMap]
  cases refers with
  | baseType listed refers =>
      exact .inl (.inl ⟨_, listed, by simp [TypeSymbol.references, refers]⟩)
  | interface listed refers =>
      exact .inl (.inl ⟨_, listed, by simp [TypeSymbol.references, refers]⟩)
  | containingType listed refers =>
      exact .inl (.inr ⟨_, listed, by simp [MemberSymbol.references, refers]⟩)
  | overriddenMember listed refers =>
      exact .inl (.inr ⟨_, listed, by simp [MemberSymbol.references, refers]⟩)
  | explicitImplementation listed refers =>
      exact .inl (.inr ⟨_, listed, by simp [MemberSymbol.references, refers]⟩)
  | implementedMember listed refers =>
      exact .inl (.inr ⟨_, listed, by simp [MemberSymbol.references, refers]⟩)
  | memberDeclaration listed refers =>
      exact .inl (.inr ⟨_, listed, by simp [MemberSymbol.references, refers]⟩)
  | declaredSymbol listed refers =>
      exact .inr ⟨_, listed, by simp [Declaration.references, refers]⟩
  | localFunction listed bodied inside refers =>
      have mentioned := Body.mem_localFunctions_iff.mpr ⟨_, inside, refers⟩
      exact .inr ⟨_, listed, by simp [Declaration.references, bodied, mentioned]⟩

/-- Some reference leads nowhere, or all of them resolve. -/
theorem dangling?_eq_none_iff :
    program.dangling? = none ↔
      ∀ holder reference, program.Refers holder reference → program.Resolves reference := by
  simp only [dangling?, List.find?_eq_none, decide_eq_true_eq, Decidable.not_not]
  constructor
  · intro resolved holder reference refers
    exact resolved _ (mem_references_of_refers refers)
  · intro resolved entry member
    exact resolved _ _ (refers_of_mem_references member)

/-- The program is refused for a reference that it really has and that leads nowhere. -/
theorem refers_of_dangling? (found : program.dangling? = some entry) :
    program.Refers entry.holder entry.reference ∧ ¬ program.Resolves entry.reference := by
  unfold dangling? at found
  have unresolved := List.find?_some found
  exact ⟨refers_of_mem_references (List.mem_of_find?_eq_some found), by simpa using unresolved⟩

end Program

end StructureLint
