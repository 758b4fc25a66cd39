import Mathlib
import StructureLint.Json.Record

/-!
Contract: reading back what was written.

Owns:
- plain values, lists and optional values, each read back from its written form;
- the fields of a record written as an object without repeated names;
- tagged records, written with the tag first and no field named like the tag;
- the height and the readability of objects, by their fields.

Does not own: the records of any particular format.
-/

namespace StructureLint.Json

/-! ## Plain values -/

@[simp] theorem bool?_bool (value : Bool) : bool? (.bool value) = some value :=
  rfl

@[simp] theorem str?_str (value : String) : str? (.str value) = some value :=
  rfl

@[simp] theorem word32?_nat (value : UInt32) : word32? (.nat value.toNat) = some value := by
  simp [word32?, nat, value.toNat_lt_size]

@[simp] theorem word64?_nat (value : UInt64) : word64? (.nat value.toNat) = some value := by
  simp [word64?, nat, value.toNat_lt_size]

@[simp] theorem int64?_int (value : Int64) : int64? (.int value.toInt) = some value := by
  have above : -9223372036854775808 ≤ value.toInt := value.le_toInt
  have below : value.toInt ≤ 9223372036854775807 := by
    have := value.toInt_lt
    omega
  simp [int64?, above, below]

section Containers

variable {α : Type} {decode : Json → Option α} {encode : α → Json}

theorem list?_list {values : List α}
    (inverse : ∀ value ∈ values, decode (encode value) = some value) :
    list? decode (list encode values) = some values := by
  show (values.map encode).mapM decode = some values
  induction values with
  | nil => rfl
  | cons value rest inductionHypothesis =>
      have head := inverse value (by simp)
      have tail := inductionHypothesis fun other member => inverse other (by simp [member])
      simp [List.mapM_cons, head, tail]

theorem option?_of_ne_null {value : Json} (written : value ≠ .null) :
    option? decode value = (decode value).map some := by
  cases value with
  | null => exact absurd rfl written
  | _ => rfl

/-- An optional value is read back if its written form is never that of a missing one. -/
theorem option?_option (value : Option α)
    (inverse : ∀ present, decode (encode present) = some present)
    (written : ∀ present, encode present ≠ .null) :
    option? decode (option encode value) = some value := by
  cases value with
  | none => rfl
  | some present => rw [option, option?_of_ne_null (written present), inverse, Option.map_some]

end Containers

/-! ## Readability and height -/

@[simp] theorem isReadable_str (value : String) : isReadable (.str value) = true :=
  rfl

@[simp] theorem isReadable_obj (fields : List (String × Json)) :
    isReadable (.obj fields) = haveReadable fields := by
  rw [isReadable]

theorem isReadable_option {α : Type} {encode : α → Json} (value : Option α)
    (readable : ∀ present, (encode present).isReadable = true) :
    (option encode value).isReadable = true := by
  cases value with
  | none => rfl
  | some present => exact readable present

@[simp] theorem haveReadable_nil : haveReadable [] = true :=
  rfl

@[simp] theorem haveReadable_cons (name : String) (value : Json) (rest : List (String × Json)) :
    haveReadable ((name, value) :: rest) = (value.isReadable && haveReadable rest) := by
  rw [haveReadable]

section Height

variable {depth : Nat}

@[simp] theorem heightFields_cons_lt {name : String} {value : Json}
    {rest : List (String × Json)} :
    heightFields ((name, value) :: rest) < depth ↔
      value.height < depth ∧ heightFields rest < depth := by
  rw [heightFields, Nat.max_lt]

@[simp] theorem height_obj_lt_succ {fields : List (String × Json)} :
    (obj fields).height < depth + 1 ↔ heightFields fields < depth := by
  rw [height, Nat.add_lt_add_iff_right]

end Height

/-! ## Records -/

/-- An object that repeats no name is a record. -/
theorem record?_obj {fields : List (String × Json)} (names : List String)
    (distinct : (fields.map Prod.fst).Nodup) :
    record? names (.obj fields) = some { positional := false, fields } := by
  have once : knownOnce names fields = true := by
    simp only [knownOnce, List.all_eq_true, decide_eq_true_eq]
    intro name _
    calc (fields.filter fun entry => entry.1 == name).length
      _ = (fields.map Prod.fst).count name := by
          rw [← List.countP_eq_length_filter, List.count, List.countP_map]
          rfl
      _ ≤ 1 := List.nodup_iff_count_le_one.mp distinct name
  rw [record?, if_pos once]

namespace Record

variable {α : Type} {name other : String} {value : Json} {rest : List (String × Json)}
  {positional : Bool} {fallback : α} {decode : Json → Option α}

@[simp] theorem required?_cons_self :
    (Record.mk positional ((name, value) :: rest)).required? name decode = decode value := by
  simp [required?]

@[simp] theorem required?_cons_of_ne (differs : name ≠ other) :
    (Record.mk positional ((other, value) :: rest)).required? name decode =
      (Record.mk positional rest).required? name decode := by
  simp [required?, List.lookup, beq_false_of_ne differs]

@[simp] theorem orElse?_cons_self :
    (Record.mk positional ((name, value) :: rest)).orElse? name fallback decode =
      decode value := by
  simp [orElse?]

@[simp] theorem orElse?_cons_of_ne (differs : name ≠ other) :
    (Record.mk positional ((other, value) :: rest)).orElse? name fallback decode =
      (Record.mk positional rest).orElse? name fallback decode := by
  simp [orElse?, List.lookup, beq_false_of_ne differs]

@[simp] theorem orElse?_nil :
    (Record.mk positional []).orElse? name fallback decode = some fallback :=
  rfl

end Record

/-! ## Tagged records -/

/-- A record with its tag in front, read back as the alternative and the record without it. -/
theorem tagged?_obj {tag : String} {fields : List (String × Json)} (name : String)
    (names : List String) (place : Place) (readable : haveReadable fields = true)
    (fresh : tag ∉ fields.map Prod.fst) :
    tagged? tag names place (.obj ((tag, .str name) :: fields)) = some (name, .obj fields) := by
  have other : ∀ entry ∈ fields, entry.1 ≠ tag := by
    intro entry member same
    exact fresh (same ▸ List.mem_map_of_mem member)
  have absent : (fields.filter fun entry => entry.1 == tag) = [] := by
    simpa [List.filter_eq_nil_iff] using other
  have kept : (fields.filter fun entry => entry.1 != tag) = fields := by
    simpa [List.filter_eq_self] using other
  simp [tagged?, splitTag?, readable, absent, kept, alternative?]

end StructureLint.Json
