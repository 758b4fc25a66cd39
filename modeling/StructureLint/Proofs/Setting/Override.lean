import Mathlib.Data.Option.Basic
import StructureLint.Proofs.Pass
import StructureLint.Setting.Resolve

/-!
Contract: which attribute overrides a limit.

A limit may be overridden by an attribute of one of several names whose first
positional argument is a count.  The first attribute of such a name decides alone:
if its argument is no count, attributes behind it are not looked at, and the value
set for the file is taken.  That is not what leaving out all attributes without a
count comes to, which is to take the first one that has a count.

Owns:
- the count of an attribute, and the first count among attributes;
- limits of declarations with and without attributes that have no count.

Does not own: the names of the attributes.
-/

namespace StructureLint

/-- The first positional argument, if it is an integer that is not negative. -/
def Attribute.count? (mark : Attribute) : Option Nat :=
  mark.int?.bind fun value => if 0 ≤ value.toInt then some value.toInt.toNat else none

namespace Setting

/-- The attributes that have a count. -/
def counted (marks : List Attribute) : List Attribute :=
  marks.filter fun mark => mark.count?.isSome

/-- The count of the first overriding attribute that has one. -/
def firstCount? (overrides : List String) (marks : List Attribute) : Option Nat :=
  marks.findSome? fun mark => if mark.isNamed overrides then mark.count? else none

/-- The limit that an attribute sets to a count, or else the file. -/
def limitOf (file : SourcePath) (rule : String) (limit : Limit) : Option Nat → Pass (Resolved Nat)
  | some value => return { key := limit.key, value, origin := .attribute }
  | none => fileCount file rule limit.key limit.builtin

section Counts

variable (overrides : List String) (marks : List Attribute)

theorem overrideCount?_eq_bind :
    overrideCount? overrides marks = (Attribute.find? overrides marks).bind Attribute.count? := by
  unfold overrideCount?
  rw [Option.bind_assoc]
  rfl

theorem firstCount?_cons (mark : Attribute) :
    firstCount? overrides (mark :: marks) =
      if mark.isNamed overrides then mark.count?.or (firstCount? overrides marks)
      else firstCount? overrides marks := by
  unfold firstCount?
  rw [List.findSome?_cons]
  cases mark.isNamed overrides with
  | false => rfl
  | true => cases mark.count? <;> rfl

theorem overrideCount?_counted :
    overrideCount? overrides (counted marks) = firstCount? overrides marks := by
  rw [overrideCount?_eq_bind]
  induction marks with
  | nil => rfl
  | cons mark rest inductionHypothesis =>
      rw [firstCount?_cons, ← inductionHypothesis]
      unfold counted Attribute.find?
      cases value : mark.count? with
      | none => rw [List.filter_cons_of_neg (by simp [value]), Option.none_or, ite_self]
      | some count =>
          rw [List.filter_cons_of_pos (by simp [value]), List.find?_cons]
          cases mark.isNamed overrides with
          | false => rfl
          | true => exact value

theorem firstCount?_eq_none_iff :
    firstCount? overrides marks = none ↔
      ∀ mark ∈ marks, mark.isNamed overrides = true → mark.count? = none := by
  unfold firstCount?
  rw [List.findSome?_eq_none_iff]
  simp only [ite_eq_right_iff]

variable {overrides marks}

theorem firstCount?_of_find? {first : Attribute} {count : Nat}
    (found : Attribute.find? overrides marks = some first) (value : first.count? = some count) :
    firstCount? overrides marks = some count := by
  obtain ⟨named, before, after, place, passed⟩ := List.find?_eq_some_iff_append.mp found
  refine List.findSome?_eq_some_iff.mpr ⟨before, first, after, place, ?_, ?_⟩
  · rw [if_pos named, value]
  · intro mark listed
    exact if_neg (by simpa using passed mark listed)

/-- The first overriding attribute has the first count unless it has none itself and
an overriding attribute behind it has one. -/
theorem overrideCount?_eq_firstCount?_iff :
    overrideCount? overrides marks = firstCount? overrides marks ↔
      ∀ first, Attribute.find? overrides marks = some first → first.count? = none →
        ∀ mark ∈ marks, mark.isNamed overrides = true → mark.count? = none := by
  rw [← firstCount?_eq_none_iff, overrideCount?_eq_bind]
  cases found : Attribute.find? overrides marks with
  | none =>
      have unnamed := List.find?_eq_none.mp found
      have none : firstCount? overrides marks = none :=
        (firstCount?_eq_none_iff overrides marks).mpr fun mark listed named =>
          absurd named (unnamed mark listed)
      simp [none]
  | some first =>
      cases value : first.count? with
      | none => simp [value, eq_comm]
      | some count => simp [value, firstCount?_of_find? found value]

end Counts

/-! ## Limits -/

section Limits

variable (file : SourcePath) (rule : String) (limit : Limit)

theorem limit_eq_limitOf (marks : List Attribute) :
    Setting.limit file rule limit marks =
      limitOf file rule limit (overrideCount? limit.overrides marks) := by
  unfold Setting.limit limitOf
  cases overrideCount? limit.overrides marks <;> rfl

theorem origin_of_run_fileCount {file : SourcePath} {rule key : String} {builtin : Nat}
    {answer : SettingRequest → Option String} {resolved : Resolved Nat}
    (ran : (fileCount file rule key builtin).run answer = .ok resolved) :
    resolved.origin ≠ .attribute := by
  simp only [fileCount, Pass.run_bind, Pass.run_ask, Except.bind] at ran
  intro overridden
  cases answered : answer { file, rule, key } with
  | none =>
      rw [answered] at ran
      cases ran
      cases overridden
  | some raw =>
      simp only [answered] at ran
      cases parsed : count? raw with
      | none =>
          rw [parsed] at ran
          cases ran
      | some value =>
          rw [parsed] at ran
          cases ran
          cases overridden

/-- Where a limit comes from shows in it, so that different counts make a difference. -/
theorem run_limitOf_inj (answer : SettingRequest → Option String) {first second : Option Nat} :
    (limitOf file rule limit first).run answer = (limitOf file rule limit second).run answer ↔
      first = second := by
  constructor
  · intro same
    cases first with
    | none =>
        cases second with
        | none => rfl
        | some value => exact absurd rfl (origin_of_run_fileCount same)
    | some count =>
        cases second with
        | none => exact absurd rfl (origin_of_run_fileCount same.symm)
        | some value =>
            have resolved := Except.ok.inj same
            exact congrArg some (congrArg Resolved.value resolved)
  · intro same
    rw [same]

/-- The first overriding attribute decides alone.  To leave out the attributes without
a count is to let the first count decide; for a list of attributes, the two have one
outcome exactly if no overriding attribute has a count or the first one has. -/
theorem first_override_decides (marks : List Attribute)
    (answer : SettingRequest → Option String) :
    Setting.limit file rule limit marks = limitOf file rule limit
      ((Attribute.find? limit.overrides marks).bind Attribute.count?) ∧
    Setting.limit file rule limit (counted marks) = limitOf file rule limit
      (firstCount? limit.overrides marks) ∧
    ((Setting.limit file rule limit marks).run answer =
        (Setting.limit file rule limit (counted marks)).run answer ↔
      ∀ first, Attribute.find? limit.overrides marks = some first → first.count? = none →
        ∀ mark ∈ marks, mark.isNamed limit.overrides = true → mark.count? = none) := by
  have asWritten := limit_eq_limitOf file rule limit marks
  have filtered : Setting.limit file rule limit (counted marks) = limitOf file rule limit
      (firstCount? limit.overrides marks) := by
    rw [limit_eq_limitOf, overrideCount?_counted]
  refine ⟨?_, filtered, ?_⟩
  · rw [asWritten, overrideCount?_eq_bind]
  · rw [asWritten, filtered, run_limitOf_inj, overrideCount?_eq_firstCount?_iff]

end Limits

/-- A limit that is first set to a text and then to a count. -/
def setTwice : List Attribute :=
  [Attribute.withArgument { name := "MaxLength" } (.str "x"),
    Attribute.withArgument { name := "MaxLength" } (.int 5)]

def lengthLimit : Limit :=
  { key := "max_statement_count", builtin := 10, overrides := ["MaxLength"] }

/-- The text keeps the count behind it from being taken. -/
theorem text_hides_count :
    (Setting.limit ⟨"a.cs"⟩ "statement-count" lengthLimit setTwice).run (fun _ => none) =
      .ok { key := "max_statement_count", value := 10, origin := .builtin } ∧
    (Setting.limit ⟨"a.cs"⟩ "statement-count" lengthLimit (counted setTwice)).run (fun _ => none) =
      .ok { key := "max_statement_count", value := 5, origin := .attribute } := by
  have hidden : overrideCount? lengthLimit.overrides setTwice = none := by decide +kernel
  have shown : overrideCount? lengthLimit.overrides (counted setTwice) = some 5 := by
    decide +kernel
  rw [limit_eq_limitOf, limit_eq_limitOf, hidden, shown]
  exact ⟨rfl, rfl⟩

/-- In front of the text, the count is taken. -/
theorem first_override_decides_reversed :
    (Setting.limit ⟨"a.cs"⟩ "statement-count" lengthLimit setTwice.reverse).run (fun _ => none) =
      (Setting.limit ⟨"a.cs"⟩ "statement-count" lengthLimit (counted setTwice.reverse)).run
        (fun _ => none) := by
  refine (first_override_decides ⟨"a.cs"⟩ "statement-count" lengthLimit setTwice.reverse
    fun _ => none).2.2.mpr ?_
  intro first found uncounted
  have decisive : (Attribute.find? lengthLimit.overrides setTwice.reverse).bind Attribute.count? =
      some 5 := by decide +kernel
  rw [found, Option.bind_some, uncounted] at decisive
  cases decisive

end Setting

end StructureLint
