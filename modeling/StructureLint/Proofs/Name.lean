import Mathlib.Data.List.Forall2
import Mathlib.Data.List.Infix
import StructureLint.Attribute
import StructureLint.Proofs.Text.Blank

/-!
Contract: the spellings of a name.

A name may be written behind a qualifier, with generic arguments and with marks of
nullability, and between blanks.  Qualifiers and arguments are texts of their own and
may hold the marks that set them off, so that the cuts that lead to the simple name
have to come in the right order.  However it is spelled, the simple name is the name.

Owns:
- the grammar of spellings;
- the simple name of a spelling, and what it matches;
- attributes under the spellings of their names.

Does not own: the names that a rule looks for.
-/

namespace StructureLint.Name

/-! ## Spellings -/

/-- What sets a name off from the text around it. -/
def delimiters : List Char := ['.', ':', '<', '>', '?']

/-- A name that holds nothing which could set it off, and no blanks. -/
structure Plain (name : List Char) : Prop where
  nonempty : name ≠ []
  unmarked : ∀ character ∈ name, character ∉ delimiters
  visible : ∀ character ∈ name, Text.isBlank character = false

theorem plain_iff {name : List Char} :
    Plain name ↔ name ≠ [] ∧
      name.all (fun character => !delimiters.contains character) = true ∧
      name.all (fun character => !Text.isBlank character) = true := by
  simp only [List.all_eq_true, Bool.not_eq_true', List.contains_eq_mem, decide_eq_false_iff_not]
  constructor
  · rintro ⟨nonempty, unmarked, visible⟩
    exact ⟨nonempty, unmarked, visible⟩
  · rintro ⟨nonempty, unmarked, visible⟩
    exact ⟨nonempty, unmarked, visible⟩

instance (name : List Char) : Decidable (Plain name) :=
  decidable_of_iff _ plain_iff.symm

/-- Nothing, or any text without an opening bracket, and a dot or two colons behind it. -/
inductive Qualifier : List Char → Prop where
  | absent : Qualifier []
  | given {scope separator : List Char} (unapplied : '<' ∉ scope)
    (separating : separator = ['.'] ∨ separator = [':', ':']) : Qualifier (scope ++ separator)

/-- Nothing, or any text between angle brackets. -/
inductive Arguments : List Char → Prop where
  | absent : Arguments []
  | given (listed : List Char) : Arguments ('<' :: listed ++ ['>'])

/-- The text is the name with a qualifier, arguments and marks of nullability, between
blanks. -/
inductive Spelling (name : List Char) : List Char → Prop where
  | between {before qualifier arguments after : List Char} (blankBefore : Text.Blank before)
    (qualified : Qualifier qualifier) (applied : Arguments arguments) (marks : Nat)
    (blankAfter : Text.Blank after) :
    Spelling name
      (before ++ (qualifier ++ name ++ arguments ++ List.replicate marks '?') ++ after)

theorem Qualifier.unapplied {qualifier : List Char} (qualified : Qualifier qualifier) :
    '<' ∉ qualifier := by
  cases qualified with
  | absent => exact List.not_mem_nil
  | given unapplied separating =>
      rw [List.mem_append, not_or]
      refine ⟨unapplied, ?_⟩
      rcases separating with rfl | rfl <;> decide

/-- Blanks at the start of a qualifier may be left out. -/
theorem Qualifier.exists_trimmed {qualifier : List Char} (qualified : Qualifier qualifier) :
    ∃ blanks rest, Text.Blank blanks ∧ qualifier = blanks ++ rest ∧ Qualifier rest ∧
      ∀ character ∈ rest.head?, Text.isBlank character = false := by
  cases qualified with
  | absent => exact ⟨[], [], List.forall_mem_nil _, rfl, .absent, by simp⟩
  | @given scope separator unapplied separating =>
      have separatorVisible : ∀ character ∈ separator.head?, Text.isBlank character = false := by
        intro character first
        rcases separating with rfl | rfl <;> cases first <;> rfl
      obtain ⟨blanks, rest, blank, rfl, visible⟩ :=
        Text.exists_eq_blank_append scope separator separatorVisible
      have restUnapplied : '<' ∉ rest := fun listed =>
        unapplied (List.mem_append_right blanks listed)
      exact ⟨blanks, rest ++ separator, blank, List.append_assoc ..,
        .given restUnapplied separating, visible⟩

/-! ## The text behind the last mark -/

section Marks

variable {mark : List Char}

theorem behindLast?_eq_none_iff (nonempty : mark ≠ []) {text : List Char} :
    behindLast? mark text = none ↔ ¬ mark <:+: text := by
  induction text with
  | nil => simp [behindLast?, nonempty]
  | cons character rest inductionHypothesis =>
      rw [List.infix_cons_iff, not_or, ← inductionHypothesis, behindLast?]
      cases behindLast? mark rest with
      | some tail => simp
      | none => simp [List.isPrefixOf_iff_prefix]

theorem isPrefixOf_append_of_apart {tail : List Char} (apart : ∀ character ∈ mark, character ∉ tail)
    (text : List Char) : mark.isPrefixOf (text ++ tail) = mark.isPrefixOf text := by
  rw [Bool.eq_iff_iff, List.isPrefixOf_iff_prefix, List.isPrefixOf_iff_prefix]
  constructor
  · intro whole
    rcases List.prefix_or_prefix_of_prefix whole (List.prefix_append text tail) with
      inside | ⟨more, rfl⟩
    · exact inside
    · have reached : more <+: tail := (List.prefix_append_right_inj text).mp whole
      cases more with
      | nil => rw [List.append_nil]
      | cons character rest =>
          have shared : character ∈ tail := reached.subset List.mem_cons_self
          exact absurd shared (apart character (by simp))
  · intro inside
    exact inside.trans (List.prefix_append text tail)

/-- What holds nothing of the mark stays behind the last mark. -/
theorem behindLast?_append (nonempty : mark ≠ []) {tail : List Char}
    (apart : ∀ character ∈ mark, character ∉ tail) (front : List Char) :
    behindLast? mark (front ++ tail) = (behindLast? mark front).map (· ++ tail) := by
  induction front with
  | nil =>
      obtain ⟨character, listed⟩ := List.exists_mem_of_ne_nil mark nonempty
      have unmarked : behindLast? mark tail = none := by
        rw [behindLast?_eq_none_iff nonempty]
        intro inside
        exact apart character listed (inside.subset listed)
      rw [List.nil_append, unmarked]
      rfl
  | cons character rest inductionHypothesis =>
      rw [List.cons_append, behindLast?, behindLast?, inductionHypothesis]
      cases behindLast? mark rest with
      | some later => rfl
      | none =>
          dsimp only [Option.map_none]
          rw [← List.cons_append, isPrefixOf_append_of_apart apart]
          split
          · next here =>
            have fits := (List.isPrefixOf_iff_prefix.mp here).length_le
            rw [List.drop_append_of_le_length fits]
            rfl
          · rfl

theorem behindLast?_append_self (nonempty : mark ≠ []) (front : List Char) :
    behindLast? mark (front ++ mark) = some [] := by
  induction front with
  | nil =>
      obtain ⟨first, rest, rfl⟩ := List.exists_cons_of_ne_nil nonempty
      have short : behindLast? (first :: rest) rest = none := by
        rw [behindLast?_eq_none_iff nonempty]
        intro inside
        exact absurd inside.length_le (by simp)
      rw [List.nil_append, behindLast?, short]
      simp
  | cons character rest inductionHypothesis =>
      rw [List.cons_append, behindLast?, inductionHypothesis]

theorem behindLast_append (nonempty : mark ≠ []) {tail : List Char}
    (apart : ∀ character ∈ mark, character ∉ tail) (front : List Char) :
    behindLast mark (front ++ tail) = behindLast mark front ++ tail := by
  unfold behindLast
  rw [behindLast?_append nonempty apart]
  cases behindLast? mark front <;> rfl

theorem behindLast_append_self_append (nonempty : mark ≠ []) {tail : List Char}
    (apart : ∀ character ∈ mark, character ∉ tail) (front : List Char) :
    behindLast mark (front ++ mark ++ tail) = tail := by
  rw [behindLast_append nonempty apart, behindLast, behindLast?_append_self nonempty]
  rfl

end Marks

/-! ## Simple names -/

section Simple

variable {name text : List Char}

theorem Plain.not_mem (plain : Plain name) {character : Char}
    (marking : character ∈ delimiters) : character ∉ name :=
  fun listed => plain.unmarked character listed marking

theorem Arguments.getLast?_append_plain {arguments front : List Char}
    (applied : Arguments arguments) (plain : Plain name) {character : Char}
    (last : character ∈ (front ++ name ++ arguments).getLast?) :
    character = '>' ∨ character ∈ name := by
  cases applied with
  | absent =>
      rw [List.append_nil, List.getLast?_append_of_ne_nil _ plain.nonempty] at last
      exact .inr (List.mem_of_mem_getLast? last)
  | given listed =>
      rw [List.getLast?_append_of_ne_nil _ (by simp), List.getLast?_concat] at last
      exact .inl (Option.mem_some.mp last).symm

theorem takeWhile_before_arguments {arguments front : List Char} (applied : Arguments arguments)
    (unapplied : '<' ∉ front) : (front ++ arguments).takeWhile (· != '<') = front := by
  have kept : ∀ character ∈ front, (character != '<') = true := by
    intro character listed
    exact bne_iff_ne.mpr fun same => unapplied (same ▸ listed)
  rw [List.takeWhile_append_of_pos kept]
  cases applied <;> simp

/-- Behind its qualifier, a plain name is all that is left. -/
theorem behindLast_qualifier {qualifier : List Char} (qualified : Qualifier qualifier)
    (plain : Plain name) :
    behindLast ['.'] (behindLast [':', ':'] (qualifier ++ name)) = name := by
  have dotless : '.' ∉ name := plain.not_mem (by decide)
  have colonless : ':' ∉ name := plain.not_mem (by decide)
  have unqualified : behindLast ['.'] name = name :=
    behindLast_append (by simp) (by simpa using dotless) []
  cases qualified with
  | absent =>
      rw [behindLast_append (by simp) (by simpa using colonless)]
      exact unqualified
  | @given scope separator unapplied separating =>
      rcases separating with rfl | rfl
      · -- The cut at the last two colons stays within the scope, and the dot is behind it.
        rw [List.append_assoc, behindLast_append (by simp) (by simpa using colonless),
          ← List.append_assoc,
          behindLast_append_self_append (by simp) (by simpa using dotless)]
      · rw [behindLast_append_self_append (by simp) (by simpa using colonless)]
        exact unqualified

theorem bare_spelled {qualifier arguments : List Char}
    (visible : ∀ character ∈ qualifier.head?, Text.isBlank character = false)
    (applied : Arguments arguments) (plain : Plain name) (marks : Nat) :
    Text.Bare (qualifier ++ name ++ arguments ++ List.replicate marks '?') where
  start := by
    intro character first
    rw [List.append_assoc, List.append_assoc, List.head?_append] at first
    rcases Option.or_eq_some_iff.mp first with inQualifier | ⟨_, behind⟩
    · exact visible character inQualifier
    · rw [List.head?_append_of_ne_nil _ plain.nonempty] at behind
      exact plain.visible character (List.mem_of_mem_head? behind)
  ending := by
    intro character last
    rw [List.getLast?_append] at last
    rcases Option.or_eq_some_iff.mp last with marking | ⟨_, unmarked⟩
    · rw [List.eq_of_mem_replicate (List.mem_of_mem_getLast? marking)]
      decide
    · rcases applied.getLast?_append_plain plain unmarked with rfl | inName
      · decide
      · exact plain.visible character inName

/-- The simple name of every spelling of a plain name is the name. -/
theorem simpleChars_of_spelling (plain : Plain name) (spelled : Spelling name text) :
    simpleChars text = name := by
  cases spelled with
  | @between before qualifier arguments after blankBefore qualified applied marks blankAfter =>
      obtain ⟨blanks, rest, blank, rfl, restQualified, visible⟩ := qualified.exists_trimmed
      have trimmed : Text.trimChars
          (before ++ (blanks ++ rest ++ name ++ arguments ++ List.replicate marks '?') ++ after) =
            rest ++ name ++ arguments ++ List.replicate marks '?' := by
        refine Text.trimChars_eq_iff.mpr ⟨bare_spelled visible applied plain marks,
          before ++ blanks, after, blankBefore.append blank, blankAfter, ?_⟩
        simp only [List.append_assoc]
      have unmarked : Text.trimEndWhere (· == '?')
          (rest ++ name ++ arguments ++ List.replicate marks '?') = rest ++ name ++ arguments := by
        apply Text.trimEndWhere_append
        · intro character last
          apply beq_eq_false_iff_ne.mpr
          rintro rfl
          rcases applied.getLast?_append_plain plain last with same | inName
          · cases same
          · exact plain.not_mem (by decide) inName
        · intro character listed
          exact beq_iff_eq.mpr (List.eq_of_mem_replicate listed)
      have unapplied : '<' ∉ rest ++ name := by
        rw [List.mem_append, not_or]
        exact ⟨restQualified.unapplied, plain.not_mem (by decide)⟩
      unfold simpleChars
      rw [trimmed]
      dsimp only
      rw [unmarked, takeWhile_before_arguments applied unapplied,
        behindLast_qualifier restQualified plain,
        Text.trimChars_eq_self (Text.bare_of_forall plain.visible)]

end Simple

/-! ## Attributes -/

section Attributes

variable {name : List Char}

theorem plain_attributeSuffix : Plain attributeSuffix := by decide

theorem Plain.append {other : List Char} (plain : Plain name) (otherPlain : Plain other) :
    Plain (name ++ other) where
  nonempty := List.append_ne_nil_of_left_ne_nil plain.nonempty other
  unmarked := List.forall_mem_append.mpr ⟨plain.unmarked, otherPlain.unmarked⟩
  visible := List.forall_mem_append.mpr ⟨plain.visible, otherPlain.visible⟩

theorem dropAttributeSuffix_append (nonempty : name ≠ []) :
    dropAttributeSuffix (name ++ attributeSuffix) = name := by
  unfold dropAttributeSuffix
  rw [if_pos]
  · simp
  · simp [List.isSuffixOf_iff_suffix, List.length_pos_iff, nonempty]

theorem dropAttributeSuffix_eq_self (bare : ¬ attributeSuffix <:+ name) :
    dropAttributeSuffix name = name := by
  unfold dropAttributeSuffix
  rw [if_neg]
  simp [List.isSuffixOf_iff_suffix, bare]

end Attributes

/-- The text spells the name, or the name with the suffix that attributes may have. -/
def SpellsAttribute (name text : String) : Prop :=
  Spelling name.toList text.toList ∨ Spelling (name.toList ++ attributeSuffix) text.toList

/-- The same text, or two spellings of an attribute's name. -/
def Respelled (name text other : String) : Prop :=
  text = other ∨ SpellsAttribute name text ∧ SpellsAttribute name other

/-- One attribute, under the same name or under two spellings of it. -/
structure RespelledMark (name : String) (mark other : Attribute) : Prop where
  name : Respelled name mark.name other.name
  rest : other = { mark with name := other.name }

section Strings

variable {name : String} (plain : Plain name.toList)

include plain

theorem simple_of_spelling {text : String} (spelled : Spelling name.toList text.toList) :
    simple text = name := by
  unfold simple
  rw [simpleChars_of_spelling plain spelled, String.ofList_toList]

theorem matchesAny_iff_of_spelling {text : String} (spelled : Spelling name.toList text.toList)
    {candidates : List String} :
    matchesAny text candidates = true ↔ ∃ candidate ∈ candidates, simple candidate = name := by
  unfold matchesAny
  rw [simple_of_spelling plain spelled]
  simp only [List.any_eq_true, beq_iff_eq]

variable (unsuffixed : ¬ attributeSuffix <:+ name.toList)

include unsuffixed

theorem ofAttribute_of_spelling {text : String} (spelled : SpellsAttribute name text) :
    ofAttribute text = name := by
  unfold ofAttribute
  rcases spelled with bare | suffixed
  · rw [simpleChars_of_spelling plain bare, dropAttributeSuffix_eq_self unsuffixed,
      String.ofList_toList]
  · rw [simpleChars_of_spelling (plain.append plain_attributeSuffix) suffixed,
      dropAttributeSuffix_append plain.nonempty, String.ofList_toList]

theorem isNamed_iff_of_spelling {mark : Attribute} (spelled : SpellsAttribute name mark.name)
    {names : List String} :
    mark.isNamed names = true ↔ ∃ candidate ∈ names, ofAttribute candidate = name := by
  unfold Attribute.isNamed
  rw [ofAttribute_of_spelling plain unsuffixed spelled]
  simp only [List.any_eq_true, beq_iff_eq]

theorem Respelled.ofAttribute_eq {text other : String} (respelled : Respelled name text other) :
    ofAttribute text = ofAttribute other := by
  rcases respelled with rfl | ⟨spelled, otherSpelled⟩
  · rfl
  · rw [ofAttribute_of_spelling plain unsuffixed spelled,
      ofAttribute_of_spelling plain unsuffixed otherSpelled]

theorem isNamed_respelled {names otherNames : List String}
    (namesRespelled : List.Forall₂ (Respelled name) names otherNames) {mark other : Attribute}
    (respelled : RespelledMark name mark other) :
    mark.isNamed names = other.isNamed otherNames := by
  unfold Attribute.isNamed
  rw [respelled.name.ofAttribute_eq plain unsuffixed]
  induction namesRespelled with
  | nil => rfl
  | cons first _ inductionHypothesis =>
      rw [List.any_cons, List.any_cons, inductionHypothesis,
        first.ofAttribute_eq plain unsuffixed]

theorem find?_respelled {names otherNames : List String} {marks otherMarks : List Attribute}
    (namesRespelled : List.Forall₂ (Respelled name) names otherNames)
    (marksRespelled : List.Forall₂ (RespelledMark name) marks otherMarks) :
    Option.Rel (RespelledMark name) (Attribute.find? names marks)
      (Attribute.find? otherNames otherMarks) := by
  unfold Attribute.find?
  induction marksRespelled with
  | nil => exact .none
  | @cons mark other rest otherRest respelled _ inductionHypothesis =>
      rw [List.find?_cons, List.find?_cons,
        isNamed_respelled plain unsuffixed namesRespelled respelled]
      cases other.isNamed otherNames with
      | true => exact .some respelled
      | false => exact inductionHypothesis

end Strings

/-- However a plain name is spelled, it is what the spelling means.  A type matches the
candidates of which the name is the simple name.  Of an attribute whose name does not
end in the suffix, all spellings are the same, with and without the suffix: it goes by
the candidates of which the name is the simple name, and neither among the attributes
nor among the names that are looked for does it matter which spelling is used. -/
theorem spellings_mean_name {name : String} (plain : Plain name.toList) :
    (∀ text : String, Spelling name.toList text.toList →
      simple text = name ∧
      ∀ candidates, matchesAny text candidates = true ↔
        ∃ candidate ∈ candidates, simple candidate = name) ∧
    (¬ attributeSuffix <:+ name.toList →
      (∀ text, SpellsAttribute name text → ofAttribute text = name) ∧
      (∀ names (mark : Attribute), SpellsAttribute name mark.name →
        (mark.isNamed names = true ↔ ∃ candidate ∈ names, ofAttribute candidate = name)) ∧
      ∀ names otherNames marks otherMarks, List.Forall₂ (Respelled name) names otherNames →
        List.Forall₂ (RespelledMark name) marks otherMarks →
        Option.Rel (RespelledMark name) (Attribute.find? names marks)
          (Attribute.find? otherNames otherMarks)) := by
  refine ⟨?types, ?attributes⟩
  case types =>
    intro text spelled
    exact ⟨simple_of_spelling plain spelled, fun _ => matchesAny_iff_of_spelling plain spelled⟩
  case attributes =>
    intro unsuffixed
    refine ⟨fun _ => ofAttribute_of_spelling plain unsuffixed, ?_, ?_⟩
    · intro names mark spelled
      exact isNamed_iff_of_spelling plain unsuffixed spelled
    · intro names otherNames marks otherMarks namesRespelled marksRespelled
      exact find?_respelled plain unsuffixed namesRespelled marksRespelled

/-- A name with all that may stand around it. -/
def adornedName : String := "\tglobal::Acme .Lint.MaxLength<Foo::Bar<Baz.Qux>>?? "

theorem spelling_adornedName : Spelling "MaxLength".toList adornedName.toList := by
  have whole : adornedName.toList =
      ['\t'] ++ ("global::Acme .Lint".toList ++ ['.'] ++ "MaxLength".toList ++
        ('<' :: "Foo::Bar<Baz.Qux>".toList ++ ['>']) ++ List.replicate 2 '?') ++ [' '] := by
    decide +kernel
  rw [whole]
  exact .between (by decide +kernel) (.given (by decide +kernel) (.inl rfl)) (.given _) 2
    (by decide +kernel)

theorem spellings_mean_name_adorned :
    simple adornedName = "MaxLength" ∧
    matchesAny adornedName ["Obsolete", " MaxLength? "] = true ∧
    ofAttribute adornedName = "MaxLength" ∧
    (Attribute.find? ["MaxLengthAttribute"] [{ name := "Obsolete" }, { name := adornedName }]).map
      Attribute.name = some adornedName := by
  have plain : Plain "MaxLength".toList := by decide +kernel
  obtain ⟨types, attributes⟩ := spellings_mean_name plain
  obtain ⟨means, found⟩ := types adornedName spelling_adornedName
  obtain ⟨stripped, named, _⟩ := attributes (by decide +kernel)
  refine ⟨means, (found _).mpr ⟨" MaxLength? ", by simp, by decide +kernel⟩,
    stripped adornedName (.inl spelling_adornedName), ?_⟩
  have other : Attribute.isNamed ["MaxLengthAttribute"] { name := "Obsolete" } = false := by
    decide +kernel
  have sought : Attribute.isNamed ["MaxLengthAttribute"] { name := adornedName } = true :=
    (named _ _ (.inl spelling_adornedName)).mpr ⟨_, List.mem_singleton_self _, by decide +kernel⟩
  unfold Attribute.find?
  rw [List.find?_cons_of_neg (by simp [other]), List.find?_cons_of_pos sought]
  rfl

end StructureLint.Name
