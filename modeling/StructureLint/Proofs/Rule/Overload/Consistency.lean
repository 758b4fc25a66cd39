import StructureLint.Proofs.Rule.Overload.Reports

/-!
Contract: which findings about overloads are due.

A finding is due for a member and a kind by the groups of the type that declares
the member.  Inherited members are in the groups of derived types as well, but
each finding is due in one type only, and there it is reported once.

Owns:
- the members and kinds that are due;
- agreement of the reports with what is due.

Does not own: the text of findings, and suppression.
-/

namespace StructureLint.Overload

/-- A shared parameter stands elsewhere in the canonical overload, counted among
the parameters that have a default or among those that have none. -/
def OutOfOrder (parameters canonicalParameters : List Parameter) : Prop :=
  ∃ defaulted position name place,
    (category defaulted parameters)[position]? = some name ∧
      (category defaulted canonicalParameters).idxOf? name = some place ∧ place ≠ position

theorem misplaced?_isSome_iff {names canonicalNames : List String} :
    (misplaced? names canonicalNames).isSome ↔
      ∃ position name place, names[position]? = some name ∧
        canonicalNames.idxOf? name = some place ∧ place ≠ position := by
  unfold misplaced?
  rw [Option.isSome_map, List.find?_isSome]
  constructor
  · rintro ⟨⟨name, position⟩, listed, misplaced⟩
    obtain ⟨place, found, different⟩ := Option.any_eq_true _ _ |>.mp misplaced
    exact ⟨position, name, place, List.mem_zipIdx_iff_getElem?.mp listed, found,
      by simpa using different⟩
  · rintro ⟨position, name, place, listed, found, different⟩
    refine ⟨(name, position), List.mem_zipIdx_iff_getElem?.mpr listed, ?_⟩
    exact (Option.any_eq_true _ _).mpr ⟨place, found, by simpa using different⟩

theorem orderMismatch?_isSome_iff {parameters canonicalParameters : List Parameter} :
    (orderMismatch? parameters canonicalParameters).isSome ↔
      OutOfOrder parameters canonicalParameters := by
  unfold orderMismatch? OutOfOrder
  rw [List.findSome?_isSome_iff]
  constructor
  · rintro ⟨defaulted, _, mismatch⟩
    exact ⟨defaulted, misplaced?_isSome_iff.mp mismatch⟩
  · rintro ⟨defaulted, mismatch⟩
    refine ⟨defaulted, ?_, misplaced?_isSome_iff.mpr mismatch⟩
    cases defaulted <;> simp

/-! ## What is due -/

/-- The member belongs to a group of the type that declares it; the type is asked
about its overloads, and the group has an only longest member. -/
structure Placement (program : Program) (owner : TypeId) (symbol : TypeSymbol) (group : Group)
    (canonical id : MemberId) (member : MemberSymbol) : Prop where
  typed : program.type? owner = some symbol
  asked : isExempt symbol = false
  listed : group ∈ groups program owner
  longest : Longest program group.members canonical
  contained : id ∈ group.members
  found : program.member? id = some member
  declaredHere : member.containingType = some owner

/-- The member is not virtual although its type would allow it. -/
structure LacksVirtual (symbol : TypeSymbol) (member : MemberSymbol) : Prop where
  isInstance : member.isStatic = false
  isVisible : member.accessibility ≠ .privateAccess
  isOpen : symbol.isSealed = false
  isShared : symbol.kind.isValueType = false
  notVirtual : member.isVirtual = false
  notAbstract : member.isAbstract = false
  notOverride : member.isOverride = false
  overridesNone : member.overriddenMember = none
  implementsNone : member.explicitInterfaceImpls = []

/-- Nothing outside its type dictates the shape of the member. -/
structure ShapedFreely (member : MemberSymbol) : Prop where
  notOverride : member.isOverride = false
  overridesNone : member.overriddenMember = none
  hidesNone : member.hidesBaseMember = false
  explicitNone : member.explicitInterfaceImpls = []
  implicitNone : member.implementedInterfaceMembers = []

/-- The member and the kind of a finding that is due. -/
inductive Due (program : Program) : MemberId → String → Prop where
  | virtual {owner : TypeId} {symbol : TypeSymbol} {group : Group} {id : MemberId}
      {member : MemberSymbol} (placement : Placement program owner symbol group id id member)
      (lacks : LacksVirtual symbol member) : Due program id "virtual"
  | delegation {owner : TypeId} {symbol : TypeSymbol} {group : Group} {canonical id : MemberId}
      {member : MemberSymbol} {declaration : DeclarationId}
      (placement : Placement program owner symbol group canonical id member)
      (other : id ≠ canonical) (free : ShapedFreely member)
      (declared : member.declaration = some declaration)
      (alone : ¬ Delegates program id declaration group.members) : Due program id "delegation"
  | order {owner : TypeId} {symbol : TypeSymbol} {group : Group} {canonical id : MemberId}
      {member canonicalMember : MemberSymbol}
      (placement : Placement program owner symbol group canonical id member)
      (other : id ≠ canonical) (free : ShapedFreely member)
      (canonicalFound : program.member? canonical = some canonicalMember)
      (outOfOrder : OutOfOrder member.parameters canonicalMember.parameters) :
      Due program id "order"

/-! ## Agreement -/

variable {program : Program} {owner : TypeId} {symbol : TypeSymbol} {id : MemberId}
  {member canonical : MemberSymbol}

theorem canBeVirtual_iff (typed : program.type? owner = some symbol)
    (declaredHere : member.containingType = some owner) :
    canBeVirtual program member = true ↔ LacksVirtual symbol member := by
  have located : member.containingType.bind program.type? = some symbol := by
    rw [declaredHere]
    exact typed
  unfold canBeVirtual
  rw [located]
  simp only [Option.any_some, Bool.and_eq_true, Bool.not_eq_true', bne_iff_ne, ne_eq,
    Option.isNone_iff_eq_none, List.isEmpty_iff]
  constructor
  · rintro ⟨⟨⟨⟨⟨⟨⟨⟨isInstance, isVisible⟩, isOpen⟩, isShared⟩, notVirtual⟩, notAbstract⟩,
      notOverride⟩, overridesNone⟩, implementsNone⟩
    exact { isInstance, isVisible, isOpen, isShared, notVirtual, notAbstract, notOverride,
            overridesNone, implementsNone }
  · intro lacks
    exact ⟨⟨⟨⟨⟨⟨⟨⟨lacks.isInstance, lacks.isVisible⟩, lacks.isOpen⟩, lacks.isShared⟩,
      lacks.notVirtual⟩, lacks.notAbstract⟩, lacks.notOverride⟩, lacks.overridesNone⟩,
      lacks.implementsNone⟩

theorem isAsked_iff :
    isAsked owner member = true ↔ member.containingType = some owner ∧ ShapedFreely member := by
  simp only [isAsked, MemberSymbol.overrides, MemberSymbol.implementsInterface,
    Bool.and_eq_true, beq_iff_eq, Bool.not_eq_true', Bool.or_eq_false_iff, Bool.not_eq_false',
    List.isEmpty_iff, Option.isSome_eq_false_iff, Option.isNone_iff_eq_none]
  constructor
  · rintro ⟨⟨⟨own, notOverride, overridesNone⟩, hidesNone⟩, explicitNone, implicitNone⟩
    exact ⟨own, notOverride, overridesNone, hidesNone, explicitNone, implicitNone⟩
  · rintro ⟨own, notOverride, overridesNone, hidesNone, explicitNone, implicitNone⟩
    exact ⟨⟨⟨own, notOverride, overridesNone⟩, hidesNone⟩, explicitNone, implicitNone⟩

theorem mem_memberKinds_iff {group : List MemberId} {declaration : DeclarationId}
    (declared : member.declaration = some declaration) {kind : String} :
    kind ∈ memberKinds program owner group canonical id member ↔
      member.containingType = some owner ∧ ShapedFreely member ∧
        (kind = "delegation" ∧ ¬ Delegates program id declaration group ∨
          kind = "order" ∧ OutOfOrder member.parameters canonical.parameters) := by
  unfold memberKinds
  rw [← delegatesWithin_iff declared, ← orderMismatch?_isSome_iff, ← and_assoc, ← isAsked_iff]
  by_cases asked : isAsked owner member
  · simp only [asked, if_true, List.mem_append, true_and]
    apply or_congr
    · split <;> simp_all
    · split <;> simp_all
  · simp [asked]

/-- A member of a group has a declaration. -/
theorem exists_declaration_of_mem_members {group : Group} (listed : group ∈ groups program owner)
    (contained : id ∈ group.members) (found : program.member? id = some member) :
    ∃ declaration, member.declaration = some declaration := by
  obtain ⟨declaration, declared⟩ :=
    Option.isSome_iff_exists.mp (isSome_declarationOf?_of_mem_members listed contained found)
  obtain ⟨id, named, _⟩ := Option.bind_eq_some_iff.mp declared
  exact ⟨id, named⟩

theorem due_of_mem_typeReports {severity : Severity} {kind : String}
    (mem : (id, kind) ∈ (typeReports program severity owner).map Proposal.key) :
    Due program id kind := by
  obtain ⟨⟨symbol, typed, asked⟩, group, listed, canonicalId, canonical, longest, found, keyMem⟩ :=
    mem_map_key_typeReports_iff.mp mem
  rcases mem_groupKeys_iff.mp keyMem with
    ⟨rfl, rfl, declaredHere, overridable⟩ | ⟨contained, other, member, located, kindMem⟩
  · have placement : Placement program owner symbol group id id canonical :=
      { typed, asked, listed, longest, contained := longest.mem, found, declaredHere }
    exact .virtual placement ((canBeVirtual_iff typed declaredHere).mp overridable)
  · obtain ⟨declaration, declared⟩ := exists_declaration_of_mem_members listed contained located
    obtain ⟨declaredHere, free, due⟩ := (mem_memberKinds_iff declared).mp kindMem
    have placement : Placement program owner symbol group canonicalId id member :=
      { typed, asked, listed, longest, contained, found := located, declaredHere }
    rcases due with ⟨rfl, alone⟩ | ⟨rfl, outOfOrder⟩
    · exact .delegation placement other free declared alone
    · exact .order placement other free found outOfOrder

theorem Placement.mem_typeReports {group : Group} {canonicalId : MemberId}
    {canonical : MemberSymbol} {kind : String} (severity : Severity)
    (placement : Placement program owner symbol group canonicalId id member)
    (found : program.member? canonicalId = some canonical)
    (mem : (id, kind) ∈ groupKeys program owner group.members canonicalId canonical) :
    (id, kind) ∈ (typeReports program severity owner).map Proposal.key :=
  mem_map_key_typeReports_iff.mpr ⟨⟨symbol, placement.typed, placement.asked⟩, group,
    placement.listed, canonicalId, canonical, placement.longest, found, mem⟩

theorem exists_mem_typeReports_of_due (severity : Severity) {kind : String}
    (due : Due program id kind) :
    ∃ owner, (id, kind) ∈ (typeReports program severity owner).map Proposal.key := by
  cases due with
  | virtual placement lacks =>
      refine ⟨_, placement.mem_typeReports severity placement.found ?_⟩
      exact mem_groupKeys_iff.mpr (.inl ⟨rfl, rfl, placement.declaredHere,
        (canBeVirtual_iff placement.typed placement.declaredHere).mpr lacks⟩)
  | delegation placement other free declared alone =>
      obtain ⟨canonicalMember, canonicalFound, _, _⟩ :=
        exists_symbol_of_mem_members placement.listed placement.longest.mem
      refine ⟨_, placement.mem_typeReports severity canonicalFound ?_⟩
      exact mem_groupKeys_iff.mpr (.inr ⟨placement.contained, other, _, placement.found,
        (mem_memberKinds_iff declared).mpr
          ⟨placement.declaredHere, free, .inl ⟨rfl, alone⟩⟩⟩)
  | order placement other free canonicalFound outOfOrder =>
      obtain ⟨declaration, declared⟩ := exists_declaration_of_mem_members placement.listed
        placement.contained placement.found
      refine ⟨_, placement.mem_typeReports severity canonicalFound ?_⟩
      exact mem_groupKeys_iff.mpr (.inr ⟨placement.contained, other, _, placement.found,
        (mem_memberKinds_iff declared).mpr
          ⟨placement.declaredHere, free, .inr ⟨rfl, outOfOrder⟩⟩⟩)

/-- Asked of every type, the rule reports exactly the members and kinds that are
due, as far as they are not suppressed, and each of them once in the program. -/
theorem check_reports_due (program : Program) (severity : Severity)
    (answer : SettingRequest → Option String) :
    (∀ scope : TypeScope, scope.program = program →
      program.type? scope.id = some scope.symbol →
      (check severity scope).run answer =
        .ok ((typeReports program severity scope.id).filterMap
          (Proposal.finding? program severity))) ∧
    (∀ id kind, Due program id kind ↔
      ∃ owner, (id, kind) ∈ (typeReports program severity owner).map Proposal.key) ∧
    ∀ owners : List TypeId, owners.Nodup →
      ((owners.flatMap (typeReports program severity)).map Proposal.key).Nodup := by
  refine ⟨?_, ?_, ?_⟩
  · rintro scope rfl typed
    exact run_check answer typed
  · intro id kind
    constructor
    · exact exists_mem_typeReports_of_due severity
    · rintro ⟨owner, mem⟩
      exact due_of_mem_typeReports mem
  · intro owners distinct
    exact nodup_flatMap_typeReports program severity distinct

/-- A type with two overloads, of which the short one calls nothing. -/
def silentOverload : Program :=
  let text : Parameter := { name := "text", typeName := "string" }
  let size : Parameter := { name := "size", typeName := "int" }
  let body : Body := .block (.ofStmts [.ofKind .empty])
  { types := [{ name := "Reader", kind := .classType }]
    members := [
      { name := "Read", containingType := some ⟨0⟩, parameters := [text]
        declaration := some ⟨0⟩ },
      { name := "Read", containingType := some ⟨0⟩, accessibility := .publicAccess
        parameters := [text, size], declaration := some ⟨1⟩ }]
    declarations := [
      { name := "Read", kind := .method, file := ⟨"Reader.cs"⟩, body := some body },
      { name := "Read", kind := .method, file := ⟨"Reader.cs"⟩, body := some body }]
    memberIndex := [(⟨0⟩, ⟨0⟩), (⟨0⟩, ⟨1⟩)] }

theorem check_reports_silentOverload :
    (∃ findings, (check .warning
        { program := silentOverload, id := ⟨0⟩, file := ⟨"Reader.cs"⟩
          symbol := { name := "Reader", kind := .classType } }).run (fun _ => none) =
        .ok findings ∧
      findings.map Finding.message =
        ["Canonical overload `Read(string, int)` should be virtual",
          "Overload `Read(string)` should call another overload of `Read`"]) ∧
      Due silentOverload ⟨1⟩ "virtual" ∧ Due silentOverload ⟨0⟩ "delegation" := by
  have keys : (typeReports silentOverload .warning ⟨0⟩).map Proposal.key =
      [(⟨1⟩, "virtual"), (⟨0⟩, "delegation")] := by cbv
  obtain ⟨reported, due, _⟩ := check_reports_due silentOverload .warning fun _ => none
  refine ⟨⟨_, reported _ rfl rfl, by cbv⟩, (due _ _).mpr ⟨⟨0⟩, ?_⟩, (due _ _).mpr ⟨⟨0⟩, ?_⟩⟩
  · rw [keys]
    exact List.mem_cons_self
  · rw [keys]
    exact List.mem_cons_of_mem _ List.mem_cons_self

end StructureLint.Overload
