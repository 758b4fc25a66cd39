import StructureLint.Proofs.Program.References

/-!
Contract: what normalization leaves behind.

Normalization in place checks every reference before it touches the program.
It therefore ends in one of two ways: a program with a reference that leads
nowhere is left as it was, and a closed program is left normalized, with an
index that owes nothing to the one it had before.

Owns:
- the run of normalization in place, as one equation;
- the members of a type after normalization.

Does not own: node numbers of a normalized program.
-/

namespace StructureLint.Program

/-! ## Running in place -/

section Rework

variable {α β : Type} {work : Rework α} {next : α → Rework β} {program left : Program}

theorem run_bind_of_ok {value : α} (ran : work.run.run program = (.ok value, left)) :
    (work >>= next).run.run program = (next value).run.run left := by
  rw [ExceptT.run_bind, StateT.run_bind, ran]
  rfl

theorem run_bind_of_error {dangling : DanglingReference}
    (ran : work.run.run program = (.error dangling, left)) :
    (work >>= next).run.run program = (.error dangling, left) := by
  rw [ExceptT.run_bind, StateT.run_bind, ran]
  rfl

theorem run_get (program : Program) :
    (get : Rework Program).run.run program = (.ok program, program) :=
  rfl

theorem run_modify (change : Program → Program) (program : Program) :
    (modify change : Rework PUnit).run.run program = (.ok (), change program) :=
  rfl

end Rework

theorem run_checkReferences (program : Program) :
    checkReferences.run.run program =
      (match program.dangling? with
        | some dangling => .error dangling
        | none => .ok (), program) := by
  unfold checkReferences
  rw [run_bind_of_ok (run_get program)]
  cases program.dangling? <;> rfl

/-- The entry of the index that a member gives rise to. -/
def indexPair? (entry : MemberId × MemberSymbol) : Option (TypeId × MemberId) :=
  entry.2.containingType.map fun owner => (owner, entry.1)

/-- Entering a member appends its entry, if it has one, to the index. -/
theorem run_indexMember (entry : MemberId × MemberSymbol) (program : Program) :
    (indexMember entry).run.run program =
      (.ok (), { program with
        memberIndex := program.memberIndex ++ (indexPair? entry).toList }) := by
  unfold indexMember indexPair?
  cases entry.2.containingType with
  | none => rw [Option.map_none, Option.toList_none, List.append_nil]; rfl
  | some owner => rfl

/-- Entering members one by one appends their entries to whatever index there was. -/
theorem run_indexMembers (entries : List (MemberId × MemberSymbol)) (program : Program) :
    (entries.forM indexMember).run.run program =
      (.ok (), { program with
        memberIndex := program.memberIndex ++ entries.filterMap indexPair? }) := by
  induction entries generalizing program with
  | nil =>
      rw [List.filterMap_nil, List.append_nil]
      rfl
  | cons entry rest inductionHypothesis =>
      show (indexMember entry >>= fun _ => rest.forM indexMember).run.run program = _
      rw [run_bind_of_ok (run_indexMember entry program), inductionHypothesis,
        List.append_assoc]
      cases found : indexPair? entry with
      | none => rw [List.filterMap_cons_none found]; rfl
      | some indexed => rw [List.filterMap_cons_some found]; rfl

/-- The index is built anew, whatever it was. -/
theorem run_reindex (program : Program) :
    reindex.run.run program = (.ok (), { program with memberIndex := program.buildIndex }) := by
  unfold reindex
  rw [run_bind_of_ok (run_modify _ program), run_bind_of_ok (run_get _), run_indexMembers]
  rfl

/-- Normalization in place ends as normalization does, and keeps the program when it stops. -/
theorem run_normalizeInPlace (program : Program) :
    normalizeInPlace.run.run program =
      match program.normalize with
      | .error dangling => (.error dangling, program)
      | .ok normalized => (.ok (), normalized) := by
  have checked := run_checkReferences program
  unfold normalizeInPlace normalize renumber
  cases found : program.dangling? with
  | some dangling =>
      rw [found] at checked
      exact run_bind_of_error checked
  | none =>
      rw [found] at checked
      rw [run_bind_of_ok checked, run_bind_of_ok (run_modify _ program),
        run_bind_of_ok (run_reindex _)]
      rfl

/-! ## Members of a type -/

/-- The places of the members of a type among all members, in ascending order. -/
def memberPositions (program : Program) (owner : TypeId) : List Nat :=
  (List.range program.members.length).filter fun position =>
    program.members[position]?.bind MemberSymbol.containingType = some owner

theorem mem_memberPositions_iff {program : Program} {owner : TypeId} {position : Nat} :
    position ∈ program.memberPositions owner ↔
      ∃ member, program.members[position]? = some member ∧
        member.containingType = some owner := by
  simp only [memberPositions, List.mem_filter, List.mem_range, decide_eq_true_eq,
    Option.bind_eq_some_iff, and_iff_right_iff_imp]
  rintro ⟨member, found, _⟩
  exact (List.getElem?_eq_some_iff.mp found).1

theorem pairwise_memberPositions (program : Program) (owner : TypeId) :
    (program.memberPositions owner).Pairwise (· < ·) :=
  List.pairwise_lt_range.filter _

/-- The places of the members of a type, found by going through the members once. -/
theorem memberPositions_eq (program : Program) (owner : TypeId) :
    program.memberPositions owner =
      (program.members.zipIdx.filter fun entry =>
        entry.1.containingType = some owner).map Prod.snd := by
  unfold memberPositions
  induction program.members using List.reverseRecOn with
  | nil => rfl
  | append_singleton members member inductionHypothesis =>
      -- A new last member leaves the places before it as they are.
      have earlier : ∀ position ∈ List.range members.length,
          (members ++ [member])[position]? = members[position]? := by
        intro position inRange
        exact List.getElem?_append_left (List.mem_range.mp inRange)
      have unchanged : ((List.range members.length).filter fun position =>
            (members ++ [member])[position]?.bind MemberSymbol.containingType = some owner) =
          (List.range members.length).filter fun position =>
            members[position]?.bind MemberSymbol.containingType = some owner := by
        refine List.filter_congr fun position inRange => ?_
        rw [earlier position inRange]
      rw [List.length_append, List.length_singleton, List.range_succ, List.filter_append,
        unchanged, inductionHypothesis, List.zipIdx_append, List.filter_append, List.map_append]
      by_cases owned : member.containingType = some owner <;> simp [owned]

/-- The member at that place. -/
def memberAt (position : Nat) : MemberId :=
  ⟨UInt32.ofNat position⟩

/-- A rebuilt index knows the members of a type by their places. -/
theorem membersOf_eq_of_memberIndex_eq {program normalized : Program} (owner : TypeId)
    (rebuilt : normalized.memberIndex = program.buildIndex) :
    normalized.membersOf owner = (program.memberPositions owner).map memberAt := by
  unfold membersOf
  rw [rebuilt, memberPositions_eq, buildIndex, numberedMembers]
  induction program.members.zipIdx with
  | nil => rfl
  | cons entry rest inductionHypothesis =>
      cases owned : entry.1.containingType with
      | none => simpa [owned] using inductionHypothesis
      | some other =>
          by_cases same : other = owner
          · simpa [owned, same, memberAt] using inductionHypothesis
          · simpa [owned, same] using inductionHypothesis

section Arena

variable {program : Program} (fits : program.members.length ≤ UInt32.size)

include fits

theorem toNat_memberAt {position : Nat} {owner : TypeId}
    (member : position ∈ program.memberPositions owner) :
    (memberAt position).index.toNat = position := by
  obtain ⟨_, found, _⟩ := mem_memberPositions_iff.mp member
  have inRange : position < program.members.length := (List.getElem?_eq_some_iff.mp found).1
  exact UInt32.toNat_ofNat_of_lt' (by omega)

theorem pairwise_map_memberAt (owner : TypeId) :
    ((program.memberPositions owner).map memberAt).Pairwise fun first second =>
      first.index < second.index := by
  rw [List.pairwise_map]
  refine (pairwise_memberPositions program owner).imp_of_mem ?_
  intro first second firstMember secondMember ascending
  rw [UInt32.lt_iff_toNat_lt, toNat_memberAt fits firstMember, toNat_memberAt fits secondMember]
  exact ascending

theorem mem_map_memberAt_iff {owner : TypeId} {id : MemberId} :
    id ∈ (program.memberPositions owner).map memberAt ↔
      ∃ member, program.member? id = some member ∧ member.containingType = some owner := by
  rw [List.mem_map]
  constructor
  · rintro ⟨position, member, rfl⟩
    rw [member?, toNat_memberAt fits member]
    exact mem_memberPositions_iff.mp member
  · intro owned
    refine ⟨id.index.toNat, mem_memberPositions_iff.mpr owned, ?_⟩
    simp [memberAt]

end Arena

/-! ## Acceptance -/

/-- What normalization leaves of a program that it accepts: the arenas, and for
each type its members in ascending order, by their places and by their numbers. -/
structure Indexed (program normalized : Program) : Prop where
  types : normalized.types = program.types
  members : normalized.members = program.members
  isNormalized : normalized.isNormalized = true
  membersOf_eq (owner : TypeId) :
    normalized.membersOf owner = (program.memberPositions owner).map memberAt
  ascending (owner : TypeId) (fits : program.members.length ≤ UInt32.size) :
    (normalized.membersOf owner).Pairwise fun first second => first.index < second.index
  mem_membersOf_iff (owner : TypeId) (fits : program.members.length ≤ UInt32.size)
    (id : MemberId) :
    id ∈ normalized.membersOf owner ↔
      ∃ member, program.member? id = some member ∧ member.containingType = some owner

theorem indexed_of_normalize {program normalized : Program}
    (accepted : program.normalize = .ok normalized) : Indexed program normalized := by
  unfold normalize at accepted
  split at accepted
  · cases accepted
  · have normalized_eq := (Except.ok.inj accepted).symm
    have rebuilt : normalized.memberIndex = program.buildIndex := by rw [normalized_eq]
    have listed := fun owner => membersOf_eq_of_memberIndex_eq owner rebuilt
    exact {
      types := by rw [normalized_eq]
      members := by rw [normalized_eq]
      isNormalized := by rw [normalized_eq]
      membersOf_eq := listed
      ascending := fun owner fits => by
        rw [listed]
        exact pairwise_map_memberAt fits owner
      mem_membersOf_iff := fun owner fits id => by
        rw [listed]
        exact mem_map_memberAt_iff fits }

theorem normalize_isOk_iff (program : Program) :
    (∃ normalized, program.normalize = .ok normalized) ↔
      ∀ holder reference, program.Refers holder reference → program.Resolves reference := by
  rw [← dangling?_eq_none_iff, normalize]
  cases program.dangling? <;> simp

theorem dangling?_of_normalize {program : Program} {dangling : DanglingReference}
    (refused : program.normalize = .error dangling) : program.dangling? = some dangling := by
  unfold normalize at refused
  split at refused
  next found => rwa [Except.error.inj refused] at found
  next => cases refused

/-- Normalization in place accepts exactly the programs whose references all
resolve.  A refused program is left as it was, and refused for a reference that
it has and that leads nowhere; an accepted one is indexed anew. -/
theorem normalizeInPlace_accepts_closed (program : Program) :
    ((∃ normalized, normalizeInPlace.run.run program = (.ok (), normalized)) ↔
      ∀ holder reference, program.Refers holder reference → program.Resolves reference) ∧
    (∀ dangling remaining,
      normalizeInPlace.run.run program = (.error dangling, remaining) →
        program.Refers dangling.holder dangling.reference ∧
          ¬ program.Resolves dangling.reference ∧ remaining = program) ∧
    (∀ normalized, normalizeInPlace.run.run program = (.ok (), normalized) →
      Indexed program normalized) := by
  rw [run_normalizeInPlace, ← normalize_isOk_iff]
  cases ended : program.normalize with
  | error refusal =>
      refine ⟨⟨?_, ?_⟩, ?_, ?_⟩
      · rintro ⟨_, finished⟩
        cases finished
      · rintro ⟨_, accepted⟩
        cases accepted
      · intro dangling remaining stopped
        cases stopped
        obtain ⟨refers, unresolved⟩ := refers_of_dangling? (dangling?_of_normalize ended)
        exact ⟨refers, unresolved, rfl⟩
      · intro normalized finished
        cases finished
  | ok result =>
      refine ⟨⟨fun _ => ⟨result, rfl⟩, fun _ => ⟨result, rfl⟩⟩, ?_, ?_⟩
      · intro dangling remaining stopped
        cases stopped
      · intro normalized finished
        cases finished
        exact indexed_of_normalize ended

/-- A type with two members around a free one, and an index from another time. -/
def staleIndex : Program :=
  { types := [{ name := "Shop", kind := .classType }]
    members := [MemberSymbol.method "Open" ⟨0⟩, { name := "Helper" },
      MemberSymbol.method "Close" ⟨0⟩]
    memberIndex := [(⟨0⟩, ⟨1⟩), (⟨5⟩, ⟨2⟩)]
    isNormalized := true }

/-- The same program with a lambda whose local function is not declared. -/
def undeclaredLocal : Program :=
  let inner : Stmt := .mk ⟨9⟩ {} (.localFunction ⟨4⟩)
  let lambda : Expr := .mk ⟨9⟩ {} none (.lambda (.block (.mk ⟨9⟩ {} [inner])))
  { staleIndex with
    declarations := [{ name := "Open", kind := .method, file := ⟨"Shop.cs"⟩
                       body := some (.expression lambda) }] }

theorem normalizeInPlace_accepts_closed_staleIndex :
    (∃ normalized, normalizeInPlace.run.run staleIndex = (.ok (), normalized) ∧
      normalized.membersOf ⟨0⟩ = [⟨0⟩, ⟨2⟩] ∧ normalized.membersOf ⟨5⟩ = [] ∧
      (normalized.membersOf ⟨0⟩).Pairwise fun first second => first.index < second.index) ∧
    (normalizeInPlace.run.run undeclaredLocal).2 = undeclaredLocal ∧
      undeclaredLocal.Refers (.body "Open") (.declaration ⟨4⟩) ∧
      ¬ undeclaredLocal.Resolves (.declaration ⟨4⟩) := by
  have accepted : normalizeInPlace.run.run staleIndex = (.ok (), _) := rfl
  have refused : normalizeInPlace.run.run undeclaredLocal =
    (.error { reference := .declaration ⟨4⟩, holder := .body "Open" }, _) := rfl
  have indexed := (normalizeInPlace_accepts_closed staleIndex).2.2 _ accepted
  have unchanged := (normalizeInPlace_accepts_closed undeclaredLocal).2.1 _ _ refused
  refine ⟨⟨_, accepted, rfl, rfl, indexed.ascending ⟨0⟩ (by decide)⟩, ?_, unchanged.1,
    unchanged.2.1⟩
  rw [refused]
  exact unchanged.2.2

end StructureLint.Program
