import StructureLint.Analysis.Unit
import StructureLint.Eligibility
import StructureLint.Proofs.Program.Reach

/-!
Contract: a program in which one member is declared `virtual`.

That a member is virtual refers to nothing, and nothing refers to it.  So the
references and the index of a program, its chains of overridden members, the
reasons to leave a declaration alone and the files are what they were.

Owns:
- programs with one more virtual member, and what is asked of them;
- normalization of such a program.

Does not own: which members should be virtual.
-/

namespace StructureLint

namespace MemberSymbol

def withVirtual (member : MemberSymbol) (flag : Bool) : MemberSymbol :=
  { member with isVirtual := flag }

/-- The member numbered `id` in a program in which one is declared `virtual`. -/
def declareVirtual (fixed id : MemberId) (member : MemberSymbol) : MemberSymbol :=
  member.withVirtual (id == fixed || member.isVirtual)

end MemberSymbol

namespace Program

/-- The program with the member of that number declared `virtual`. -/
def declareVirtual (program : Program) (fixed : MemberId) : Program :=
  { program with
    members := program.members.modify fixed.index.toNat fun member => member.withVirtual true }

variable (program : Program) (fixed : MemberId)

/-! ## Look-ups -/

theorem member?_declareVirtual (id : MemberId) :
    (program.declareVirtual fixed).member? id =
      (program.member? id).map (MemberSymbol.declareVirtual fixed id) := by
  show (program.members.modify _ _)[id.index.toNat]? = _
  rw [List.getElem?_modify]
  show Option.map _ (program.member? id) = _
  congr 1
  funext member
  by_cases here : id = fixed
  · subst here
    rw [if_pos rfl, MemberSymbol.declareVirtual, beq_self_eq_true, Bool.true_or]
  · have elsewhere : fixed.index.toNat ≠ id.index.toNat := by
      intro same
      exact here (congrArg MemberId.mk (UInt32.toNat_inj.mp same)).symm
    rw [if_neg elsewhere, MemberSymbol.declareVirtual, beq_eq_false_iff_ne.mpr here,
      Bool.false_or]
    rfl

/-- What does not depend on which members are virtual is the same about all of them. -/
theorem map_members_declareVirtual {α : Type} (view : MemberSymbol → α)
    (blind : ∀ member flag, view (MemberSymbol.withVirtual member flag) = view member) :
    (program.declareVirtual fixed).members.map view = program.members.map view := by
  apply List.ext_getElem?
  intro index
  rw [List.getElem?_map, List.getElem?_map, declareVirtual, List.getElem?_modify,
    Option.map_eq_map, Option.map_map]
  congr 1
  funext member
  dsimp only [Function.comp_apply]
  split
  · exact blind member true
  · rfl

/-- A declaration has the symbol that it had, virtual or not. -/
theorem exists_symbolOf?_declareVirtual (declaration : Declaration) :
    ∃ flag : MemberSymbol → Bool, (program.declareVirtual fixed).symbolOf? declaration =
      (program.symbolOf? declaration).map fun symbol => symbol.withVirtual (flag symbol) := by
  unfold symbolOf?
  cases declaration.symbol with
  | none => exact ⟨fun _ => true, rfl⟩
  | some id => exact ⟨_, program.member?_declareVirtual fixed id⟩

theorem overrideChain_declareVirtual (id : MemberId) :
    (program.declareVirtual fixed).overrideChain id = program.overrideChain id := by
  have next : (fun current => ((program.declareVirtual fixed).member? current).bind
      MemberSymbol.overriddenMember) =
      fun current => (program.member? current).bind MemberSymbol.overriddenMember := by
    funext current
    rw [member?_declareVirtual, Option.bind_map]
    rfl
  have size : (program.declareVirtual fixed).members.length = program.members.length :=
    List.length_modify ..
  unfold overrideChain
  rw [next, size]

theorem isEligible_declareVirtual (declaration : Declaration) :
    (program.declareVirtual fixed).isEligible declaration = program.isEligible declaration := by
  obtain ⟨flag, symbols⟩ := program.exists_symbolOf?_declareVirtual fixed declaration
  unfold isEligible exclusion?
  rw [symbols]
  cases program.symbolOf? declaration <;> rfl

theorem unfoldLocals_declareVirtual (entered : List DeclarationId) (pending : List Visit) :
    (program.declareVirtual fixed).unfoldLocals entered pending =
      program.unfoldLocals entered pending := by
  have bodies : ∀ id, (program.declareVirtual fixed).body? id = program.body? id := fun _ => rfl
  exact unfoldLocals_congr bodies entered pending

/-! ## Files -/

theorem typeFile?_declareVirtual (id : TypeId) (symbol : TypeSymbol) :
    (program.declareVirtual fixed).typeFile? id symbol = program.typeFile? id symbol := by
  unfold typeFile?
  cases symbol.location with
  | some location => rfl
  | none =>
      dsimp only
      rw [← List.head?_filterMap, ← List.head?_filterMap, List.filterMap_filterMap,
        List.filterMap_filterMap]
      simp only [member?_declareVirtual, Option.bind_map]
      rfl

theorem placedTypes_declareVirtual :
    (program.declareVirtual fixed).placedTypes = program.placedTypes := by
  unfold placedTypes
  simp only [typeFile?_declareVirtual]
  rfl

theorem fileUnits_declareVirtual (withTypes : Bool) :
    (program.declareVirtual fixed).fileUnits withTypes = program.fileUnits withTypes := by
  simp only [fileUnits, placedTypes_declareVirtual]
  rfl

/-! ## Normalization -/

theorem dangling?_declareVirtual :
    (program.declareVirtual fixed).dangling? = program.dangling? := by
  have references : (program.declareVirtual fixed).references = program.references := by
    have held := program.map_members_declareVirtual fixed MemberSymbol.references fun _ _ => rfl
    simp only [Program.references, List.flatMap_def, held]
    rfl
  have resolves : ∀ reference, (program.declareVirtual fixed).Resolves reference ↔
      program.Resolves reference := by
    intro reference
    cases reference with
    | type id => exact Iff.rfl
    | member id =>
        show _ < (program.members.modify _ _).length ↔ _
        rw [List.length_modify]
        exact Iff.rfl
    | declaration id => exact Iff.rfl
  simp only [dangling?, references, resolves]

theorem buildIndex_eq_filterMap_zipIdx :
    program.buildIndex =
      (program.members.map MemberSymbol.containingType).zipIdx.filterMap fun entry =>
        entry.1.map fun owner => (owner, ⟨UInt32.ofNat entry.2⟩) := by
  rw [buildIndex, numberedMembers, List.filterMap_map, List.zipIdx_map, List.filterMap_map]
  rfl

theorem buildIndex_declareVirtual :
    (program.declareVirtual fixed).buildIndex = program.buildIndex := by
  rw [buildIndex_eq_filterMap_zipIdx, buildIndex_eq_filterMap_zipIdx,
    program.map_members_declareVirtual fixed MemberSymbol.containingType fun _ _ => rfl]

theorem normalize_declareVirtual :
    (program.declareVirtual fixed).normalize =
      program.normalize.map fun normalized => normalized.declareVirtual fixed := by
  unfold normalize
  rw [dangling?_declareVirtual, buildIndex_declareVirtual]
  cases program.dangling? <;> rfl

end Program

end StructureLint
