import Mathlib.Data.List.Forall2
import Mathlib.Data.List.Nodup
import StructureLint.Proofs.Program.Draft
import StructureLint.Proofs.Program.Erasure
import StructureLint.Proofs.Program.Normalization

/-!
Contract: numbers that a draft hands out.

A call refers to entries by numbers, and hands out the number of what it adds.  As
long as calls use only numbers that earlier calls have handed out, nothing in the
program leads nowhere: a member and its declaration refer to each other by the
numbers that the two of them get, and everything else refers to what is there.

Owns:
- programs that retain the entries of another one;
- references of what a call adds, and calls that use numbers handed out before;
- what every call has added to the finished program.

Does not own: where items are placed.
-/

namespace StructureLint

namespace Program

/-! ## Retained entries -/

/-- There are numbers for all entries of the program. -/
structure Fits (program : Program) : Prop where
  types : program.types.length ≤ UInt32.size
  members : program.members.length ≤ UInt32.size
  declarations : program.declarations.length ≤ UInt32.size

theorem Fits.of_extends {before after : Program} (fits : after.Fits)
    (extended : before.Extends after) : before.Fits where
  types := extended.types.length_le.trans fits.types
  members := extended.members.length_le.trans fits.members
  declarations := extended.declarations.length_le.trans fits.declarations

/-- Every entry of the first program is found under its number in the second one, up to
the numbers of syntax nodes. -/
structure Retains (before after : Program) : Prop where
  type? : ∀ {id symbol}, before.type? id = some symbol → after.type? id = some symbol
  member? : ∀ {id member}, before.member? id = some member → after.member? id = some member
  declaration? : ∀ {id declaration}, before.declaration? id = some declaration →
    ∃ other, after.declaration? id = some other ∧ other.eraseNumbers = declaration.eraseNumbers

theorem getElem?_of_isPrefix {α : Type} {entries more : List α} (inside : entries <+: more)
    {index : Nat} {entry : α} (found : entries[index]? = some entry) :
    more[index]? = some entry := by
  obtain ⟨bound, rfl⟩ := List.getElem?_eq_some_iff.mp found
  exact List.prefix_iff_getElem?.mp inside index bound

theorem Extends.retains {before after : Program} (extended : before.Extends after) :
    before.Retains after where
  type? found := getElem?_of_isPrefix extended.types found
  member? found := getElem?_of_isPrefix extended.members found
  declaration? found := ⟨_, getElem?_of_isPrefix extended.declarations found, rfl⟩

/-- Normalization renumbers nodes and changes no entry otherwise. -/
theorem retains_of_normalize {program normalized : Program}
    (accepted : program.normalize = .ok normalized) : program.Retains normalized where
  type? {id symbol} found := by
    rw [Program.type?, (indexed_of_normalize accepted).types]
    exact found
  member? {id member} found := by
    rw [Program.member?, (indexed_of_normalize accepted).members]
    exact found
  declaration? {id declaration} found := by
    have bare := congrArg Program.declarations (bare_of_normalize accepted)
    have same : (normalized.declaration? id).map Declaration.eraseNumbers =
        (program.declaration? id).map Declaration.eraseNumbers := by
      simp only [Program.declaration?, ← List.getElem?_map]
      exact congrArg (fun declarations => declarations[id.index.toNat]?) bare
    rw [found] at same
    exact Option.map_eq_some_iff.mp same

theorem Retains.resolves {before after : Program} (retained : before.Retains after)
    {reference : Reference} (resolved : before.Resolves reference) : after.Resolves reference := by
  cases reference with
  | type id =>
      have found : before.type? id = some _ := List.getElem?_eq_getElem resolved
      exact (List.getElem?_eq_some_iff.mp (retained.type? found)).1
  | member id =>
      have found : before.member? id = some _ := List.getElem?_eq_getElem resolved
      exact (List.getElem?_eq_some_iff.mp (retained.member? found)).1
  | declaration id =>
      have found : before.declaration? id = some _ := List.getElem?_eq_getElem resolved
      obtain ⟨_, kept, _⟩ := retained.declaration? found
      exact (List.getElem?_eq_some_iff.mp kept).1

end Program

namespace Draft

/-! ## References of an addition -/

/-- The numbers that an addition refers to.  Call targets are left out: nothing checks
them, and nothing is asked of them here. -/
def Addition.references : Addition → List Reference
  | file _ => []
  | type added => added.references.map DanglingReference.reference
  | symbol member => member.references.map DanglingReference.reference
  | declared member _ body =>
    member.references.map DanglingReference.reference ++
      (body.toList.flatMap Body.localFunctions).map Reference.declaration
  | declaration added => added.references.map DanglingReference.reference

/-- The numbers that are passed in with a call, whatever types are called. -/
def Call.references (call : Call) : List Reference :=
  (call.addition fun _ => "").references

theorem references_addition (call : Call) (typeName : TypeId → String) :
    (call.addition typeName).references = call.references := by
  cases call <;> rfl

/-- All numbers that are passed in with a call were handed out by earlier ones, or are
among those given. -/
inductive UsesOwnNumbers : (given : List Reference) → List (Call × Option Reference) → Prop where
  | nil {given : List Reference} : UsesOwnNumbers given []
  | cons {given : List Reference} {call : Call} {answer : Option Reference}
      {rest : List (Call × Option Reference)}
      (known : ∀ reference ∈ call.references, reference ∈ given)
      (later : UsesOwnNumbers (answer.toList ++ given) rest) :
      UsesOwnNumbers given ((call, answer) :: rest)

theorem usesOwnNumbers_cons_iff {given : List Reference} {call : Call}
    {answer : Option Reference} {rest : List (Call × Option Reference)} :
    UsesOwnNumbers given ((call, answer) :: rest) ↔
      (∀ reference ∈ call.references, reference ∈ given) ∧
        UsesOwnNumbers (answer.toList ++ given) rest := by
  constructor
  · intro own
    cases own with
    | cons known later => exact ⟨known, later⟩
  · rintro ⟨known, later⟩
    exact .cons known later

instance decidableUsesOwnNumbers : ∀ (given : List Reference)
    (entries : List (Call × Option Reference)), Decidable (UsesOwnNumbers given entries)
  | _, [] => isTrue .nil
  | given, (_, answer) :: rest =>
    have := decidableUsesOwnNumbers (answer.toList ++ given) rest
    decidable_of_iff _ usesOwnNumbers_cons_iff.symm

/-! ## One call -/

section Step

variable {draft : Draft} {addition : Addition} {call : Call}

/-- The references of what is added, as it is added. -/
def newReferences (draft : Draft) : Addition → List DanglingReference
  | .file _ => []
  | .type added => (draft.placedType added).references
  | .symbol member => member.references
  | .declared member kind body =>
    (draft.placedMember member).references ++ (draft.placedDeclaration member kind body).references
  | .declaration added => added.references

theorem mem_references_programWith {entry : DanglingReference}
    (listed : entry ∈ (draft.programWith addition).references) :
    entry ∈ draft.program.references ∨ entry ∈ draft.newReferences addition := by
  cases addition <;>
    simp only [Program.references, programWith, newReferences, List.flatMap_append,
      List.flatMap_cons, List.flatMap_nil, List.append_nil, List.mem_append] at listed ⊢ <;>
    tauto

/-- A member as it is added refers to what it was passed in with, and to its declaration. -/
theorem reference_of_mem_placedMember {member : MemberSymbol} {entry : DanglingReference}
    (listed : entry ∈ (draft.placedMember member).references) :
    entry.reference ∈ member.references.map DanglingReference.reference ∨
      entry.reference = .declaration draft.nextDeclaration := by
  have listed := List.mem_map_of_mem (f := DanglingReference.reference) listed
  simp only [MemberSymbol.references, placedMember, List.map_map, Function.comp_def, List.map_id',
    Option.toList_some, List.map_cons, List.map_nil, List.mem_append, List.mem_singleton]
    at listed ⊢
  tauto

/-- The declaration of a member refers to the member, and to the local functions passed in. -/
theorem reference_of_mem_placedDeclaration {member : MemberSymbol} {kind : DeclarationKind}
    {body : Option Body} {entry : DanglingReference}
    (listed : entry ∈ (draft.placedDeclaration member kind body).references) :
    entry.reference ∈ (body.toList.flatMap Body.localFunctions).map Reference.declaration ∨
      entry.reference = .member draft.nextMember := by
  have listed := List.mem_map_of_mem (f := DanglingReference.reference) listed
  simp only [Declaration.references, placedDeclaration, List.map_append, List.map_map,
    Function.comp_def, Option.toList_some, List.map_cons, List.map_nil, List.mem_append,
    List.mem_singleton] at listed
  tauto

/-- The numbers of the entries that are added. -/
def newNumbers (draft : Draft) : Addition → List Reference
  | .file _ => []
  | .type _ => [.type draft.nextType]
  | .symbol _ => [.member draft.nextMember]
  | .declared .. => [.member draft.nextMember, .declaration draft.nextDeclaration]
  | .declaration _ => [.declaration draft.nextDeclaration]

theorem nodup_newNumbers (draft : Draft) (addition : Addition) :
    (draft.newNumbers addition).Nodup := by
  cases addition <;> simp [newNumbers]

/-- A new entry stands at the end of its arena. -/
theorem getElem?_append_next {α : Type} (entries : List α) (entry : α)
    (fits : (entries ++ [entry]).length ≤ UInt32.size) :
    (entries ++ [entry])[(UInt32.ofNat entries.length).toNat]? = some entry := by
  rw [List.length_append, List.length_singleton] at fits
  rw [UInt32.toNat_ofNat_of_lt' fits, List.getElem?_concat_length]

/-- The number of a new entry is in range behind the addition, and not in front of it. -/
theorem isNext_bounds {α : Type} (entries : List α) (entry : α)
    (fits : (entries ++ [entry]).length ≤ UInt32.size) :
    (UInt32.ofNat entries.length).toNat < (entries ++ [entry]).length ∧
      ¬ (UInt32.ofNat entries.length).toNat < entries.length := by
  rw [List.length_append, List.length_singleton] at fits ⊢
  rw [UInt32.toNat_ofNat_of_lt' fits]
  omega

/-- What is handed out is one of the new numbers. -/
theorem mem_newNumbers_of_answer {reference : Reference}
    (handedOut : reference ∈ draft.answer call addition) :
    reference ∈ draft.newNumbers addition := by
  cases addition with
  | file _ => cases handedOut
  | declared member kind body =>
      cases handedOut
      cases call.isLocalFunction <;> simp [newNumbers]
  | _ =>
      cases handedOut
      exact List.mem_cons_self

theorem resolves_of_mem_newNumbers (fits : (draft.programWith addition).Fits)
    {reference : Reference} (listed : reference ∈ draft.newNumbers addition) :
    (draft.programWith addition).Resolves reference ∧ ¬ draft.program.Resolves reference := by
  cases addition with
  | file _ => exact absurd listed List.not_mem_nil
  | type added =>
      rw [List.mem_singleton.mp listed]
      exact isNext_bounds _ _ fits.types
  | symbol member =>
      rw [List.mem_singleton.mp listed]
      exact isNext_bounds _ _ fits.members
  | declared member kind body =>
      rcases List.mem_pair.mp listed with rfl | rfl
      · exact isNext_bounds _ _ fits.members
      · exact isNext_bounds _ _ fits.declarations
  | declaration added =>
      rw [List.mem_singleton.mp listed]
      exact isNext_bounds _ _ fits.declarations

/-- A closed program stays closed if what is added refers to entries that are there. -/
theorem closed_programWith (closed : draft.program.Closed)
    (known : ∀ reference ∈ addition.references, draft.program.Resolves reference)
    (fits : (draft.programWith addition).Fits) : (draft.programWith addition).Closed := by
  have retained := (draft.extends_programWith addition).retains
  intro entry listed
  rcases mem_references_programWith listed with old | new
  · exact retained.resolves (closed entry old)
  have passedIn (inside : entry.reference ∈ addition.references) :
      (draft.programWith addition).Resolves entry.reference :=
    retained.resolves (known _ inside)
  cases addition with
  | file _ => exact absurd new List.not_mem_nil
  | type added => exact passedIn (List.mem_map_of_mem new)
  | symbol member => exact passedIn (List.mem_map_of_mem new)
  | declared member kind body =>
      have own (reference : Reference)
          (inside : reference ∈ draft.newNumbers (.declared member kind body)) :
          (draft.programWith (.declared member kind body)).Resolves reference :=
        (resolves_of_mem_newNumbers fits inside).1
      rcases List.mem_append.mp new with ofMember | ofDeclaration
      · rcases reference_of_mem_placedMember ofMember with inside | same
        · exact passedIn (List.mem_append_left _ inside)
        · rw [same]
          exact own _ (by simp [newNumbers])
      · rcases reference_of_mem_placedDeclaration ofDeclaration with inside | same
        · exact passedIn (List.mem_append_right _ inside)
        · rw [same]
          exact own _ (by simp [newNumbers])
  | declaration added => exact passedIn (List.mem_map_of_mem new)

/-- Behind the addition, what was handed out resolves with what was given before. -/
theorem resolves_answer_or_given (fits : (draft.programWith addition).Fits)
    {given : List Reference} (known : ∀ reference ∈ given, draft.program.Resolves reference) :
    ∀ reference ∈ (draft.answer call addition).toList ++ given,
      (draft.programWith addition).Resolves reference := by
  intro reference listed
  rcases List.mem_append.mp listed with handedOut | wasGiven
  · have isNew := mem_newNumbers_of_answer (Option.mem_toList.mp handedOut)
    exact (resolves_of_mem_newNumbers fits isNew).1
  · exact (draft.extends_programWith addition).retains.resolves (known reference wasGiven)

end Step

/-! ## What calls add -/

/-- A member and its declaration as they were passed in, and referring to each other. -/
structure Declares (program : Program) (id : MemberId) (declarationId : DeclarationId)
    (member : MemberSymbol) (kind : DeclarationKind) (body : Option Body) : Prop where
  ofMember : ∃ location, program.member? id = some
    { member with
      location := member.location.or location
      declaration := some declarationId }
  ofDeclaration : ∃ declaration, program.declaration? declarationId = some declaration ∧
    declaration.symbol = some id ∧ declaration.name = member.name ∧ declaration.kind = kind ∧
      declaration.body.map Body.eraseNumbers = body.map Body.eraseNumbers

/-- The call, having handed out `answer`, has added the entries with the numbers `added`
to the program, and nothing else.  They are what was passed in, but for what a draft
enters: places, and the numbers of syntax nodes. -/
inductive Adds (program : Program) (call : Call) :
    (answer : Option Reference) → (added : List Reference) → Prop where
  | file {file : SourcePath} (asked : call.addition program.typeName = .file file) :
      Adds program call none []
  | type {id : TypeId} {symbol : TypeSymbol} {location : Location}
      (asked : call.addition program.typeName = .type symbol)
      (found : program.type? id = some
        { symbol with location := some (symbol.location.getD location) }) :
      Adds program call (some (.type id)) [.type id]
  | symbol {id : MemberId} {member : MemberSymbol}
      (asked : call.addition program.typeName = .symbol member)
      (found : program.member? id = some member) :
      Adds program call (some (.member id)) [.member id]
  | declared {id : MemberId} {declarationId : DeclarationId} {member : MemberSymbol}
      {kind : DeclarationKind} {body : Option Body}
      (asked : call.addition program.typeName = .declared member kind body)
      (declares : Declares program id declarationId member kind body) :
      Adds program call
        (some (if call.isLocalFunction then .declaration declarationId else .member id))
        [.member id, .declaration declarationId]
  | declaration {id : DeclarationId} {passed stored : Declaration}
      (asked : call.addition program.typeName = .declaration passed)
      (found : program.declaration? id = some stored)
      (alike : stored.eraseNumbers = passed.eraseNumbers) :
      Adds program call (some (.declaration id)) [.declaration id]

/-- Where the owner of a constructor is there, it keeps its name. -/
theorem addition_eq_of_retains {before after : Program} (retained : before.Retains after)
    {call : Call} (known : ∀ reference ∈ call.references, before.Resolves reference) :
    call.addition after.typeName = call.addition before.typeName := by
  cases call with
  | addConstructor owner parameters stmts =>
      have resolved : before.Resolves (.type owner) := known _ List.mem_cons_self
      have found : before.type? owner = some _ := List.getElem?_eq_getElem resolved
      have kept : after.type? owner = before.type? owner := by rw [found, retained.type? found]
      simp only [Call.addition, Program.typeName, kept]
  | _ => rfl

theorem Declares.of_retains {before after : Program} (retained : before.Retains after)
    {id : MemberId} {declarationId : DeclarationId} {member : MemberSymbol}
    {kind : DeclarationKind} {body : Option Body}
    (declares : Declares before id declarationId member kind body) :
    Declares after id declarationId member kind body := by
  obtain ⟨⟨location, memberFound⟩, declaration, found, symbol, name, kindOf, bodyOf⟩ := declares
  obtain ⟨other, kept, alike⟩ := retained.declaration? found
  refine ⟨⟨location, retained.member? memberFound⟩, other, kept, ?_, ?_, ?_, ?_⟩
  · exact (congrArg Declaration.symbol alike).trans symbol
  · exact (congrArg Declaration.name alike).trans name
  · exact (congrArg Declaration.kind alike).trans kindOf
  · exact (congrArg Declaration.body alike).trans bodyOf

/-- What a call has added stays added. -/
theorem Adds.of_retains {before after : Program} (retained : before.Retains after) {call : Call}
    (sameAddition : call.addition after.typeName = call.addition before.typeName)
    {answer : Option Reference} {added : List Reference} (adds : Adds before call answer added) :
    Adds after call answer added := by
  cases adds with
  | file asked => exact .file (sameAddition.trans asked)
  | type asked found => exact .type (sameAddition.trans asked) (retained.type? found)
  | symbol asked found => exact .symbol (sameAddition.trans asked) (retained.member? found)
  | declared asked declares =>
      exact .declared (sameAddition.trans asked) (declares.of_retains retained)
  | declaration asked found alike =>
      obtain ⟨other, kept, alikeToo⟩ := retained.declaration? found
      exact .declaration (sameAddition.trans asked) kept (alikeToo.trans alike)

theorem placedMember_eq (draft : Draft) (member : MemberSymbol) :
    draft.placedMember member =
      { member with
        location := member.location.or
          (if member.isImplicitlyDeclared then none else some draft.here)
        declaration := some draft.nextDeclaration } := by
  unfold placedMember
  cases member.location <;> rfl

/-- A call adds the entries with the next numbers. -/
theorem adds_programWith {draft : Draft} {call : Call}
    (known : ∀ reference ∈ call.references, draft.program.Resolves reference)
    (fits : (draft.programWith (draft.additionOf call)).Fits) :
    Adds (draft.programWith (draft.additionOf call)) call
      (draft.answer call (draft.additionOf call)) (draft.newNumbers (draft.additionOf call)) := by
  have retained := (draft.extends_programWith (draft.additionOf call)).retains
  have asked : call.addition (draft.programWith (draft.additionOf call)).typeName =
    draft.additionOf call := addition_eq_of_retains retained known
  cases found : draft.additionOf call with
  | file file =>
      rw [found] at asked
      exact .file asked
  | type symbol =>
      rw [found] at asked fits
      exact .type asked (getElem?_append_next _ _ fits.types)
  | symbol member =>
      rw [found] at asked fits
      exact .symbol asked (getElem?_append_next _ _ fits.members)
  | declared member kind body =>
      rw [found] at asked fits
      have stored := getElem?_append_next _ (draft.placedMember member) fits.members
      refine .declared asked ⟨⟨_, stored.trans (congrArg some (draft.placedMember_eq member))⟩, ?_⟩
      exact ⟨_, getElem?_append_next _ _ fits.declarations, rfl, rfl, rfl, rfl⟩
  | declaration declaration =>
      rw [found] at asked fits
      exact .declaration asked (getElem?_append_next _ _ fits.declarations) rfl

/-! ## Runs of calls -/

/-- A run of calls that use numbers handed out before, or given ones that resolve, leaves
a closed program closed.  Every call adds entries of its own, which were not there
before. -/
theorem adds_performAll {calls : List Call} {answers : List (Option Reference)}
    {draft final : Draft} {given : List Reference}
    (ran : (performAll calls).run draft = (answers, final)) (fits : final.program.Fits)
    (closed : draft.program.Closed) (known : ∀ reference ∈ given, draft.program.Resolves reference)
    (own : UsesOwnNumbers given (calls.zip answers)) :
    final.program.Closed ∧ ∃ added : List (List Reference),
      List.Forall₂ (fun entry numbers => Adds final.program entry.1 entry.2 numbers)
        (calls.zip answers) added ∧
      added.flatten.Nodup ∧
      ∀ reference ∈ added.flatten, ¬ draft.program.Resolves reference := by
  induction calls generalizing answers draft given with
  | nil =>
      cases ran
      exact ⟨closed, [], .nil, List.nodup_nil, by simp⟩
  | cons call rest inductionHypothesis =>
      rw [run_performAll_cons] at ran
      obtain ⟨rfl, rfl⟩ := Prod.mk.inj ran
      obtain ⟨usesGiven, restOwn⟩ := usesOwnNumbers_cons_iff.mp own
      let middle := draft.adding (draft.additionOf call)
      have extended := extends_performAll rest middle
      have stepFits : middle.program.Fits := fits.of_extends extended
      have retained := (draft.extends_programWith (draft.additionOf call)).retains
      have callKnown (reference : Reference) (listed : reference ∈ call.references) :
          draft.program.Resolves reference := known reference (usesGiven reference listed)
      have additionKnown (reference : Reference)
          (listed : reference ∈ (draft.additionOf call).references) :
          draft.program.Resolves reference := by
        rw [additionOf, references_addition] at listed
        exact callKnown reference listed
      obtain ⟨finalClosed, added, laterAdds, distinct, fresh⟩ := inductionHypothesis rfl
        (closed_programWith closed additionKnown stepFits) (resolves_answer_or_given stepFits known)
        restOwn
      have sameAddition := addition_eq_of_retains extended.retains
        fun reference listed => retained.resolves (callKnown reference listed)
      have adds := (adds_programWith callKnown stepFits).of_retains extended.retains sameAddition
      refine ⟨finalClosed, _, .cons adds laterAdds, ?_, ?_⟩
      · refine List.nodup_append.mpr ⟨nodup_newNumbers _ _, distinct, ?_⟩
        rintro reference isNew _ isLater rfl
        exact fresh reference isLater (resolves_of_mem_newNumbers stepFits isNew).1
      · intro reference listed before
        rcases List.mem_append.mp listed with isNew | isLater
        · exact (resolves_of_mem_newNumbers stepFits isNew).2 before
        · exact fresh reference isLater (retained.resolves before)

/-- A program built by calls that use only numbers handed out by earlier calls is
accepted.  Every call has added entries of its own to it, with what was passed in: the
number that was handed out leads to one of them, and a member that was added with its
declaration and that declaration refer to each other. -/
theorem finish_of_own_numbers {calls : List Call} (fits : (drafted calls).program.Fits)
    (own : UsesOwnNumbers [] (transcript calls)) :
    ∃ program, (drafted calls).finish = .ok program ∧
      ∃ added : List (List Reference),
        List.Forall₂ (fun entry numbers => Adds program entry.1 entry.2 numbers)
          (transcript calls) added ∧
        added.flatten.Nodup := by
  have emptyClosed : ({} : Draft).program.Closed := by
    intro entry listed
    cases listed
  obtain ⟨closed, added, adds, distinct, _⟩ :=
    adds_performAll (Prod.eta ((performAll calls).run {})).symm fits emptyClosed (by simp) own
  have refersInside (holder : ReferenceHolder) (reference : Reference)
      (refers : (drafted calls).program.Refers holder reference) :
      (drafted calls).program.Resolves reference :=
    closed _ (Program.mem_references_of_refers refers)
  obtain ⟨program, accepted⟩ :=
    (Program.normalize_isOk_iff (drafted calls).program).mpr refersInside
  refine ⟨program, accepted, added, ?_, distinct⟩
  have sameNames : program.typeName = (drafted calls).program.typeName := by
    funext id
    rw [Program.typeName, Program.type?, (Program.indexed_of_normalize accepted).types]
    rfl
  refine adds.imp fun entry numbers entryAdds => ?_
  refine entryAdds.of_retains (Program.retains_of_normalize accepted) ?_
  rw [sameNames]

/-- A method that overrides one without a declaration, and contains a local function. -/
def bakeryCalls : List Call :=
  [.addClass "Shop" none, .inFile ⟨"src/Bakery.cs"⟩, .addClass "Bakery" (some ⟨0⟩),
    .addSymbol (.method "Open" ⟨0⟩), .addLocalFunction ⟨1⟩ "Knead" [] [],
    .declare
      { MemberSymbol.method "Open" ⟨1⟩ with isOverride := true, overriddenMember := some ⟨0⟩ }
      .method (blockBody [.ofKind (.localFunction ⟨0⟩)]),
    .addConstructor ⟨1⟩ [("loaves", "int")] [],
    .addDeclaration
      { name := "Bakery", kind := .constructor, symbol := some ⟨3⟩, file := ⟨"src/Bakery.cs"⟩ }]

theorem finish_of_own_numbers_bakery :
    (drafted bakeryCalls).program.Fits ∧ UsesOwnNumbers [] (transcript bakeryCalls) ∧
      ∃ program, (drafted bakeryCalls).finish = .ok program ∧
        ∃ added : List (List Reference),
          List.Forall₂ (fun entry numbers => Adds program entry.1 entry.2 numbers)
            (transcript bakeryCalls) added ∧
          added.flatten.Nodup := by
  have fits : (drafted bakeryCalls).program.Fits :=
    ⟨by decide +kernel, by decide +kernel, by decide +kernel⟩
  have own : UsesOwnNumbers [] (transcript bakeryCalls) := by decide +kernel
  exact ⟨fits, own, finish_of_own_numbers fits own⟩

end Draft

end StructureLint
