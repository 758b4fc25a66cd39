import Mathlib.Data.List.Nodup
import StructureLint.Rule.Overload.Group

/-!
Contract: agreement of two parameter lists on the places of shared parameters.

A parameter has its place among those of its category: the ones without a default, or
the ones with a default; spreads have none.  Two lists agree if the names that they
share have the same places in both, which does not depend on the list that is held
against the other.

Owns:
- places of parameters, counted in the list itself;
- the search for a parameter out of place, as a decision of agreement.

Does not own: the overloads whose parameters are compared.
-/

namespace StructureLint.Overload

/-! ## Places -/

/-- The parameter is no spread, and it has a default or not. -/
def isOf (defaulted : Bool) (parameter : Parameter) : Bool :=
  !parameter.isSpread && parameter.hasDefault == defaulted

/-- A parameter of the category has the name, and so many of its category stand in
front of it. -/
def StandsAt (defaulted : Bool) (parameters : List Parameter) (place : Nat) (name : String) :
    Prop :=
  ∃ before parameter after, parameters = before ++ parameter :: after ∧
    isOf defaulted parameter = true ∧ parameter.name = name ∧
    before.countP (isOf defaulted) = place

/-- Names that the lists share have the same places. -/
def Agree (defaulted : Bool) (parameters others : List Parameter) : Prop :=
  ∀ name place elsewhere, StandsAt defaulted parameters place name →
    StandsAt defaulted others elsewhere name → place = elsewhere

/-- The first shared name of the first list that has another place in the second. -/
def FirstApart (defaulted : Bool) (parameters others : List Parameter) (name : String) : Prop :=
  ∃ place elsewhere, StandsAt defaulted parameters place name ∧
    StandsAt defaulted others elsewhere name ∧ place ≠ elsewhere ∧
    ∀ earlier < place, ∀ other otherPlace, StandsAt defaulted parameters earlier other →
      StandsAt defaulted others otherPlace other → earlier = otherPlace

/-- No name occurs twice in a category. -/
def Distinct (parameters : List Parameter) : Prop :=
  ∀ defaulted, (category defaulted parameters).Nodup

theorem Agree.symm {defaulted : Bool} {parameters others : List Parameter}
    (agree : Agree defaulted parameters others) : Agree defaulted others parameters := by
  intro name place elsewhere here there
  exact (agree name elsewhere place there here).symm

theorem getElem?_filter_iff {α : Type} {keep : α → Bool} {elements : List α} {place : Nat}
    {element : α} :
    (elements.filter keep)[place]? = some element ↔
      ∃ before after, elements = before ++ element :: after ∧ keep element = true ∧
        before.countP keep = place := by
  constructor
  · intro found
    obtain ⟨bounded, same⟩ := List.getElem?_eq_some_iff.mp found
    have parted : elements.filter keep = (elements.filter keep).take place ++
        element :: (elements.filter keep).drop (place + 1) := by
      rw [← same, ← List.drop_eq_getElem_cons, List.take_append_drop]
    -- What was kept in front of the element parts the list; behind the last of it, the
    -- list goes on with elements that are not kept.
    obtain ⟨front, back, rfl, frontKept, backKept⟩ := List.filter_eq_append_iff.mp parted
    obtain ⟨skipped, after, rfl, refused, kept, _⟩ := List.filter_eq_cons_iff.mp backKept
    refine ⟨front ++ skipped, after, (List.append_assoc ..).symm, kept, ?_⟩
    have none : skipped.countP keep = 0 := List.countP_eq_zero.mpr refused
    rw [List.countP_append, none, List.countP_eq_length_filter, frontKept, List.length_take]
    omega
  · rintro ⟨before, after, rfl, kept, rfl⟩
    rw [List.filter_append, List.filter_cons_of_pos kept, List.countP_eq_length_filter,
      List.getElem?_append_right (Nat.le_refl _), Nat.sub_self]
    rfl

theorem getElem?_category_iff {defaulted : Bool} {parameters : List Parameter} {place : Nat}
    {name : String} :
    (category defaulted parameters)[place]? = some name ↔
      StandsAt defaulted parameters place name := by
  unfold category
  rw [List.getElem?_map, Option.map_eq_some_iff]
  constructor
  · rintro ⟨parameter, found, named⟩
    obtain ⟨before, after, whole, kept, counted⟩ := getElem?_filter_iff.mp found
    exact ⟨before, parameter, after, whole, kept, named, counted⟩
  · rintro ⟨before, parameter, after, whole, kept, named, counted⟩
    exact ⟨parameter, getElem?_filter_iff.mpr ⟨before, after, whole, kept, counted⟩, named⟩

/-! ## The search -/

theorem find?_zipIdx_eq_some_iff {names : List String} {sought : String × Nat → Bool}
    {name : String} {place : Nat} :
    names.zipIdx.find? sought = some (name, place) ↔
      names[place]? = some name ∧ sought (name, place) = true ∧
        ∀ earlier < place, ∀ other : String, names[earlier]? = some other →
          sought (other, earlier) = false := by
  rw [List.find?_eq_some_iff_getElem]
  simp only [List.getElem_zipIdx, Nat.zero_add, Bool.not_eq_true', Prod.mk.injEq,
    List.length_zipIdx]
  constructor
  · rintro ⟨hit, index, bounded, ⟨rfl, rfl⟩, missed⟩
    refine ⟨List.getElem?_eq_getElem bounded, hit, ?_⟩
    intro earlier before other there
    obtain ⟨_, rfl⟩ := List.getElem?_eq_some_iff.mp there
    exact missed earlier before
  · rintro ⟨here, hit, missed⟩
    obtain ⟨bounded, same⟩ := List.getElem?_eq_some_iff.mp here
    refine ⟨hit, place, bounded, ⟨same, rfl⟩, ?_⟩
    intro earlier before
    exact missed earlier before _ (List.getElem?_eq_getElem _)

section Search

variable {names canonicalNames : List String} (distinct : canonicalNames.Nodup)

include distinct

/-- In a list without repetitions, the first place of a name is its only one. -/
theorem findIdx?_eq_some_iff_getElem? {name : String} {place : Nat} :
    canonicalNames.findIdx? (· == name) = some place ↔ canonicalNames[place]? = some name := by
  rw [List.findIdx?_eq_some_iff_getElem, List.getElem?_eq_some_iff]
  constructor
  · rintro ⟨bounded, found, _⟩
    exact ⟨bounded, beq_iff_eq.mp found⟩
  · rintro ⟨bounded, rfl⟩
    refine ⟨bounded, beq_self_eq_true _, ?_⟩
    intro earlier before same
    have repeated := distinct.getElem_inj_iff.mp (beq_iff_eq.mp same)
    omega

theorem any_findIdx?_iff {name : String} {place : Nat} :
    ((canonicalNames.findIdx? (· == name)).any fun elsewhere => elsewhere != place) = true ↔
      ∃ elsewhere : Nat, canonicalNames[elsewhere]? = some name ∧ place ≠ elsewhere := by
  rw [Option.any_eq_true]
  simp only [findIdx?_eq_some_iff_getElem? distinct, bne_iff_ne, ne_comm]

theorem misplaced?_eq_none_iff :
    misplaced? names canonicalNames = none ↔
      ∀ (name : String) (place elsewhere : Nat), names[place]? = some name →
        canonicalNames[elsewhere]? = some name → place = elsewhere := by
  unfold misplaced?
  rw [Option.map_eq_none_iff, List.find?_eq_none]
  simp only [any_findIdx?_iff distinct, Prod.forall, List.mem_zipIdx_iff_getElem?, not_exists,
    not_and, not_ne_iff]
  constructor
  · intro agree name place elsewhere here there
    exact agree name place here elsewhere there
  · intro agree name place here elsewhere there
    exact agree name place elsewhere here there

theorem misplaced?_eq_some_iff {name : String} :
    misplaced? names canonicalNames = some name ↔
      ∃ place elsewhere : Nat, names[place]? = some name ∧
        canonicalNames[elsewhere]? = some name ∧ place ≠ elsewhere ∧
        ∀ earlier < place, ∀ (other : String) (otherPlace : Nat), names[earlier]? = some other →
          canonicalNames[otherPlace]? = some other → earlier = otherPlace := by
  unfold misplaced?
  rw [Option.map_eq_some_iff]
  constructor
  · rintro ⟨⟨_, place⟩, found, rfl⟩
    obtain ⟨here, hit, missed⟩ := find?_zipIdx_eq_some_iff.mp found
    obtain ⟨elsewhere, there, apart⟩ := (any_findIdx?_iff distinct).mp hit
    refine ⟨place, elsewhere, here, there, apart, ?_⟩
    intro earlier before other otherPlace otherHere otherThere
    by_contra otherApart
    have otherHit := (any_findIdx?_iff distinct).mpr ⟨otherPlace, otherThere, otherApart⟩
    rw [missed earlier before other otherHere] at otherHit
    cases otherHit
  · rintro ⟨place, elsewhere, here, there, apart, agree⟩
    refine ⟨(name, place), find?_zipIdx_eq_some_iff.mpr ⟨here, ?_, ?_⟩, rfl⟩
    · exact (any_findIdx?_iff distinct).mpr ⟨elsewhere, there, apart⟩
    · intro earlier before other otherHere
      rw [← Bool.not_eq_true, any_findIdx?_iff distinct]
      rintro ⟨otherPlace, otherThere, otherApart⟩
      exact otherApart (agree earlier before other otherPlace otherHere otherThere)

end Search

/-! ## Agreement -/

section Agreement

variable {parameters others : List Parameter}

theorem orderMismatch?_eq_or :
    orderMismatch? parameters others =
      (misplaced? (category false parameters) (category false others)).or
        (misplaced? (category true parameters) (category true others)) := by
  unfold orderMismatch?
  rw [List.findSome?_cons, List.findSome?_singleton]
  cases misplaced? (category false parameters) (category false others) <;> rfl

variable (distinct : Distinct others)

include distinct

theorem misplaced?_category_eq_none_iff (defaulted : Bool) :
    misplaced? (category defaulted parameters) (category defaulted others) = none ↔
      Agree defaulted parameters others := by
  rw [misplaced?_eq_none_iff (distinct defaulted)]
  simp only [getElem?_category_iff, Agree]

theorem misplaced?_category_eq_some_iff (defaulted : Bool) {name : String} :
    misplaced? (category defaulted parameters) (category defaulted others) = some name ↔
      FirstApart defaulted parameters others name := by
  rw [misplaced?_eq_some_iff (distinct defaulted)]
  simp only [getElem?_category_iff, FirstApart]

theorem orderMismatch?_eq_none_iff :
    orderMismatch? parameters others = none ↔ ∀ defaulted, Agree defaulted parameters others := by
  rw [orderMismatch?_eq_or, Option.or_eq_none_iff, misplaced?_category_eq_none_iff distinct,
    misplaced?_category_eq_none_iff distinct, Bool.forall_bool]

theorem orderMismatch?_eq_some_iff {name : String} :
    orderMismatch? parameters others = some name ↔
      FirstApart false parameters others name ∨
        Agree false parameters others ∧ FirstApart true parameters others name := by
  rw [orderMismatch?_eq_or, Option.or_eq_some_iff, misplaced?_category_eq_some_iff distinct,
    misplaced?_category_eq_none_iff distinct, misplaced?_category_eq_some_iff distinct]

/-- A list that another one continues has its parameters where the other has them. -/
theorem agree_of_isPrefix {defaulted : Bool}
    (shorter : category defaulted parameters <+: category defaulted others) :
    Agree defaulted parameters others := by
  intro name place elsewhere here there
  rw [← getElem?_category_iff] at here there
  obtain ⟨bounded, named⟩ := List.getElem?_eq_some_iff.mp here
  have continued : (category defaulted others)[place]? = some name := by
    rw [List.prefix_iff_getElem?.mp shorter place bounded, named]
  have within : place < (category defaulted others).length :=
    Nat.lt_of_lt_of_le bounded shorter.length_le
  exact (List.getElem?_inj within (distinct defaulted)).mp (continued.trans there.symm)

end Agreement

/-- Of two lists whose categories hold no name twice, no parameter is out of place
exactly if the lists agree in both categories, whichever is held against the other;
that is so if in each category one list continues the other.  Otherwise the first name
out of place is reported, among the parameters without a default before those with one. -/
theorem orderMismatch?_decides_agreement {parameters others : List Parameter}
    (distinct : Distinct parameters) (othersDistinct : Distinct others) :
    (orderMismatch? parameters others = none ↔ ∀ defaulted, Agree defaulted parameters others) ∧
    (orderMismatch? parameters others = none ↔ orderMismatch? others parameters = none) ∧
    ((∀ defaulted, category defaulted parameters <+: category defaulted others ∨
        category defaulted others <+: category defaulted parameters) →
      orderMismatch? parameters others = none) ∧
    ∀ name, orderMismatch? parameters others = some name ↔
      FirstApart false parameters others name ∨
        Agree false parameters others ∧ FirstApart true parameters others name := by
  have decided : orderMismatch? parameters others = none ↔
      ∀ defaulted, Agree defaulted parameters others :=
    orderMismatch?_eq_none_iff othersDistinct
  refine ⟨decided, ?symmetric, ?continued, fun _ => orderMismatch?_eq_some_iff othersDistinct⟩
  case symmetric =>
    rw [decided, orderMismatch?_eq_none_iff distinct]
    exact ⟨fun agree defaulted => (agree defaulted).symm,
      fun agree defaulted => (agree defaulted).symm⟩
  case continued =>
    intro comparable
    rw [decided]
    intro defaulted
    rcases comparable defaulted with shorter | longer
    · exact agree_of_isPrefix othersDistinct shorter
    · exact (agree_of_isPrefix distinct longer).symm

/-- Two streams, with a mode that has a default between them and a spread in front. -/
def copyParameters : List Parameter :=
  [{ name := "rest", typeName := "object", isSpread := true },
    { name := "source", typeName := "Stream" },
    { name := "mode", typeName := "Mode", hasDefault := true },
    { name := "target", typeName := "Stream" }]

/-- One stream, with a limit in front of the mode. -/
def cappedParameters : List Parameter :=
  [{ name := "limit", typeName := "long", hasDefault := true },
    { name := "source", typeName := "Stream" },
    { name := "mode", typeName := "Mode", hasDefault := true }]

/-- The limit takes the place of the mode; without it, the lists agree. -/
theorem orderMismatch?_decides_agreement_capped :
    (Agree false cappedParameters copyParameters ∧
      FirstApart true cappedParameters copyParameters "mode") ∧
    orderMismatch? copyParameters cappedParameters ≠ none ∧
    orderMismatch? (cappedParameters.drop 1) copyParameters = none := by
  have copyDistinct : Distinct copyParameters := by
    intro defaulted
    cases defaulted <;> decide
  have cappedDistinct : Distinct cappedParameters := by
    intro defaulted
    cases defaulted <;> decide
  have shortDistinct : Distinct (cappedParameters.drop 1) := by
    intro defaulted
    cases defaulted <;> decide
  have reported : orderMismatch? cappedParameters copyParameters = some "mode" := by decide
  obtain ⟨_, symmetric, _, first⟩ := orderMismatch?_decides_agreement cappedDistinct copyDistinct
  obtain ⟨_, _, continued, _⟩ := orderMismatch?_decides_agreement shortDistinct copyDistinct
  refine ⟨?apart, ?reversed, ?short⟩
  case apart =>
    rcases (first "mode").mp reported with ⟨place, _, standing, _⟩ | apart
    · have listed := List.mem_of_getElem? (getElem?_category_iff.mpr standing)
      exact absurd listed (by decide)
    · exact apart
  case reversed =>
    rw [ne_eq, ← symmetric, reported]
    exact Option.some_ne_none _
  case short =>
    apply continued
    intro defaulted
    cases defaulted <;> exact .inl (by decide)

end StructureLint.Overload
