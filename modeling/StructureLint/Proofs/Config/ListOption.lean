import StructureLint.Config
import StructureLint.Name
import StructureLint.Proofs.Text.Blank

/-!
Contract: list options as arrays and as texts with commas.

A list option may be set to an array of texts or to one text with commas.  An array is
read as the text of its elements with commas between them, and nothing in an element is
escaped.  Blank entries are dropped wherever they come from, so that an element with
commas is as good as the elements that it names.

Owns:
- entries, and the entries of texts put together with commas;
- the entries of a list option in either form.

Does not own: which options are lists.
-/

namespace StructureLint.Name

/-- A text that names one element of a list: not empty, without blanks around it and
without a comma. -/
structure IsEntry (text : String) : Prop where
  nonempty : text ≠ ""
  bare : Text.Bare text.toList
  undivided : ',' ∉ text.toList

/-! ## Entries -/

theorem not_mem_of_mem_splitOn {separator : Char} {text piece : List Char}
    (listed : piece ∈ text.splitOn separator) : separator ∉ piece := by
  induction text generalizing piece with
  | nil =>
      rw [List.splitOn_nil, List.mem_singleton] at listed
      rw [listed]
      exact List.not_mem_nil
  | cons character rest inductionHypothesis =>
      rw [List.splitOn_cons_eq_if_modifyHead] at listed
      split at listed
      · rcases List.mem_cons.mp listed with rfl | later
        · exact List.not_mem_nil
        · exact inductionHypothesis later
      · next different =>
        obtain ⟨first, others, parted⟩ :=
          List.exists_cons_of_ne_nil (List.splitOn_ne_nil separator rest)
        rw [parted, List.modifyHead_cons] at listed
        rw [parted] at inductionHypothesis
        rcases List.mem_cons.mp listed with rfl | later
        · rw [List.mem_cons, not_or]
          exact ⟨fun same => different (beq_iff_eq.mpr same.symm),
            inductionHypothesis List.mem_cons_self⟩
        · exact inductionHypothesis (List.mem_cons_of_mem first later)

section Entries

variable {value : String}

theorem isEntry_of_mem_entries {entry : String} (listed : entry ∈ entries value) :
    IsEntry entry := by
  obtain ⟨characters, kept, rfl⟩ := List.mem_map.mp listed
  obtain ⟨trimmed, nonempty⟩ := List.mem_filter.mp kept
  obtain ⟨piece, parted, rfl⟩ := List.mem_map.mp trimmed
  refine { nonempty := ?_, bare := ?_, undivided := ?_ }
  · intro empty
    rw [String.ofList_eq_empty_iff.mp empty] at nonempty
    cases nonempty
  · rw [String.toList_ofList]
    exact Text.bare_trimChars piece
  · rw [String.toList_ofList]
    intro inside
    exact not_mem_of_mem_splitOn parted (Text.trimChars_subset piece inside)

/-- A comma divides the entries in front of it from those behind it. -/
theorem entries_comma (value other : String) :
    entries (value ++ "," ++ other) = entries value ++ entries other := by
  have characters : (value ++ "," ++ other).toList = value.toList ++ ',' :: other.toList := by
    rw [String.toList_append, String.toList_append, List.append_assoc]
    rfl
  unfold entries
  rw [characters, List.splitOn_append_cons_self, List.map_append, List.filter_append,
    List.map_append]

theorem entries_intercalate (texts : List String) :
    entries (String.intercalate "," texts) = texts.flatMap entries := by
  induction texts with
  | nil => rfl
  | cons text rest inductionHypothesis =>
      cases rest with
      | nil => rw [String.intercalate_singleton, List.flatMap_singleton]
      | cons next others =>
          rw [String.intercalate_cons_cons, entries_comma, inductionHypothesis]
          rfl

/-- Without a comma there is one entry, what stands between the blanks, or none. -/
theorem entries_of_undivided {text : String} (undivided : ',' ∉ text.toList) :
    entries text = if Text.trim text = "" then [] else [Text.trim text] := by
  unfold entries Text.trim
  rw [List.splitOn_eq_singleton undivided, List.map_singleton]
  simp only [String.ofList_eq_empty_iff]
  cases Text.trimChars text.toList with
  | nil => rfl
  | cons character rest =>
      rw [if_neg (List.cons_ne_nil character rest)]
      rfl

theorem entries_of_isEntry {text : String} (entry : IsEntry text) : entries text = [text] := by
  have trimmed : Text.trim text = text := by
    unfold Text.trim
    rw [Text.trimChars_eq_self entry.bare, String.ofList_toList]
  rw [entries_of_undivided entry.undivided, trimmed, if_neg entry.nonempty]

theorem entries_intercalate_of_isEntry {listed : List String}
    (areEntries : ∀ entry ∈ listed, IsEntry entry) :
    entries (String.intercalate "," listed) = listed := by
  rw [entries_intercalate]
  induction listed with
  | nil => rfl
  | cons entry rest inductionHypothesis =>
      rw [List.flatMap_cons, entries_of_isEntry (areEntries entry List.mem_cons_self),
        inductionHypothesis fun later behind => areEntries later (List.mem_cons_of_mem _ behind)]
      rfl

end Entries

end StructureLint.Name

namespace StructureLint.RuleSection

/-! ## List options -/

theorem renderOption_texts (texts : List String) :
    renderOption (.array (texts.map .string)) = String.intercalate "," texts := by
  have elements : (texts.map Toml.Value.string).map renderElement = texts := by
    rw [List.map_map]
    exact List.map_id texts
  rw [renderOption, elements]

/-- A list option has the entries of its elements, whether it is an array of them or one
text with commas between them; an element without a comma names what stands between its
blanks, if anything does.  Entries are not empty, have no blanks around them and hold no
comma; and put together with commas, entries are read back as they are. -/
theorem list_forms_agree :
    (∀ (entry : RuleSection) key texts value, entry.options.lookup key = some value →
      value = .array (texts.map .string) ∨ value = .string (String.intercalate "," texts) →
      ∃ raw, entry.option? key = some raw ∧ Name.entries raw = texts.flatMap Name.entries) ∧
    (∀ text : String, ',' ∉ text.toList →
      Name.entries text = if Text.trim text = "" then [] else [Text.trim text]) ∧
    (∀ value, (∀ entry ∈ Name.entries value, Name.IsEntry entry) ∧
      Name.entries (String.intercalate "," (Name.entries value)) = Name.entries value) ∧
    ∀ listed, (∀ entry ∈ listed, Name.IsEntry entry) →
      Name.entries (String.intercalate "," listed) = listed := by
  refine ⟨?forms, fun _ => Name.entries_of_undivided, ?again,
    fun _ => Name.entries_intercalate_of_isEntry⟩
  case forms =>
    intro entry key texts value found form
    refine ⟨String.intercalate "," texts, ?_, Name.entries_intercalate texts⟩
    unfold option?
    rw [found, Option.map_some]
    rcases form with rfl | rfl
    · rw [renderOption_texts]
    · rfl
  case again =>
    intro value
    have areEntries : ∀ entry ∈ Name.entries value, Name.IsEntry entry :=
      fun _ listed => Name.isEntry_of_mem_entries listed
    exact ⟨areEntries, Name.entries_intercalate_of_isEntry areEntries⟩

/-- An array with an empty element, and one that holds a blank entry and two others. -/
def loggerSection : RuleSection :=
  { options := [("logger_types", .array ([" ILogger, ,Audit", "", "Logger "].map .string))] }

theorem list_forms_agree_loggers :
    ∃ raw, loggerSection.option? "logger_types" = some raw ∧
      Name.entries raw = ["ILogger", "Audit", "Logger"] := by
  obtain ⟨raw, found, read⟩ := list_forms_agree.1 loggerSection "logger_types"
    [" ILogger, ,Audit", "", "Logger "] _ rfl (.inl rfl)
  have listed : [" ILogger, ,Audit", "", "Logger "].flatMap Name.entries =
      ["ILogger", "Audit", "Logger"] := by decide +kernel
  exact ⟨raw, found, read.trans listed⟩

end StructureLint.RuleSection
