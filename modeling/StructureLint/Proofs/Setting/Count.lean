import Mathlib.Data.Nat.Digits.Defs
import StructureLint.Proofs.Pass
import StructureLint.Proofs.Text.Blank
import StructureLint.Setting.Resolve

/-!
Contract: which texts are counts, and what an option comes to that is set to one.

A numeral is written between blanks: decimal digits, as many as its author likes,
with or without a plus sign in front.  An option for a count takes the numerals of
one machine word and no other text; what it does not take it hands back as it was.

Owns:
- counts as they are spelled, and numerals between blanks;
- the outcome of an option for a count, for any host.

Does not own: attributes that override the option.
-/

namespace StructureLint.Setting

/-- Blanks aside, the text is a count in decimal digits, with or without a plus sign. -/
def Spells (raw : String) (value : Nat) : Prop :=
  ∃ sign digits, (sign = [] ∨ sign = ['+']) ∧ Text.trimChars raw.toList = sign ++ digits ∧
    digits ≠ [] ∧ (∀ digit ∈ digits, digit.isDigit = true) ∧
    Text.decimalValue digits = value ∧ value < countBound

theorem exists_eq_append_unsignedDigits (characters : List Char) :
    ∃ sign, (sign = [] ∨ sign = ['+']) ∧ characters = sign ++ unsignedDigits characters := by
  unfold unsignedDigits
  split
  · exact ⟨['+'], .inr rfl, rfl⟩
  · exact ⟨[], .inl rfl, rfl⟩

theorem unsignedDigits_append {sign digits : List Char} (signed : sign = [] ∨ sign = ['+'])
    (decimal : ∀ digit ∈ digits, digit.isDigit = true) :
    unsignedDigits (sign ++ digits) = digits := by
  rcases signed with rfl | rfl
  · rw [List.nil_append]
    unfold unsignedDigits
    split
    · exact absurd (decimal '+' List.mem_cons_self) (by decide)
    · rfl
  · rfl

/-- Counts are read as they are spelled, and nothing else is read as one. -/
theorem count?_eq_some_iff {raw : String} {value : Nat} :
    count? raw = some value ↔ Spells raw value := by
  have unfolded : count? raw = some value ↔
      (unsignedDigits (Text.trimChars raw.toList) ≠ [] ∧
        ∀ digit ∈ unsignedDigits (Text.trimChars raw.toList), digit.isDigit = true) ∧
      Text.decimalValue (unsignedDigits (Text.trimChars raw.toList)) = value ∧
      value < countBound := by
    unfold count?
    simp only [Option.ite_none_right_eq_some, Bool.and_eq_true, bne_iff_ne, List.all_eq_true,
      decide_eq_true_eq, Option.some.injEq]
    constructor
    · rintro ⟨⟨shape, bounded⟩, rfl⟩
      exact ⟨shape, rfl, bounded⟩
    · rintro ⟨shape, rfl, bounded⟩
      exact ⟨⟨shape, bounded⟩, rfl⟩
  rw [unfolded]
  constructor
  · rintro ⟨⟨nonempty, decimal⟩, read, bounded⟩
    obtain ⟨sign, signed, whole⟩ := exists_eq_append_unsignedDigits (Text.trimChars raw.toList)
    exact ⟨sign, _, signed, whole, nonempty, decimal, read, bounded⟩
  · rintro ⟨sign, digits, signed, whole, nonempty, decimal, read, bounded⟩
    rw [whole, unsignedDigits_append signed decimal]
    exact ⟨⟨nonempty, decimal⟩, read, bounded⟩

theorem count?_eq_none_iff {raw : String} : count? raw = none ↔ ¬ ∃ value, Spells raw value := by
  simp only [← count?_eq_some_iff, Option.eq_none_iff_forall_ne_some, not_exists, ne_eq]

/-! ## Numerals between blanks -/

/-- The number that decimal digits stand for, the most significant digit first. -/
def digitsValue (digits : List Char) : Nat :=
  Nat.ofDigits 10 (digits.reverse.map fun digit => digit.toNat - '0'.toNat)

/-- Blanks, at most one plus sign, decimal digits for a number below `2 ^ 64`, and
blanks again. -/
structure Numeral (before sign digits after : List Char) (value : Nat) : Prop where
  blankBefore : Text.Blank before
  signed : sign = [] ∨ sign = ['+']
  nonempty : digits ≠ []
  decimal : ∀ digit ∈ digits, digit.isDigit = true
  denotes : digitsValue digits = value
  bounded : value < 2 ^ 64
  blankAfter : Text.Blank after

/-- The text is a numeral for the number. -/
def IsNumeral (raw : String) (value : Nat) : Prop :=
  ∃ before sign digits after,
    raw.toList = before ++ (sign ++ digits) ++ after ∧ Numeral before sign digits after value

theorem decimalValue_eq_digitsValue (digits : List Char) :
    Text.decimalValue digits = digitsValue digits := by
  unfold Text.decimalValue digitsValue
  rw [Nat.ofDigits_eq_foldr, List.foldr_map, List.foldr_reverse]
  simp only [Nat.cast_id, Nat.add_comm]

theorem isBlank_of_isDigit {digit : Char} (decimal : digit.isDigit = true) :
    Text.isBlank digit = false := by
  have bounds : 48 ≤ digit.toNat ∧ digit.toNat ≤ 57 := Char.isDigit_iff_toNat.mp decimal
  simp only [Text.isBlank, Bool.or_eq_false_iff, Bool.and_eq_false_iff, decide_eq_false_iff_not,
    beq_eq_false_iff_ne]
  omega

theorem Numeral.bare {before sign digits after : List Char} {value : Nat}
    (numeral : Numeral before sign digits after value) : Text.Bare (sign ++ digits) := by
  apply Text.bare_of_forall
  intro character listed
  rcases List.mem_append.mp listed with inSign | inDigits
  · rcases numeral.signed with rfl | rfl
    · cases inSign
    · rw [List.mem_singleton.mp inSign]
      decide
  · exact isBlank_of_isDigit (numeral.decimal character inDigits)

theorem spells_iff_isNumeral {raw : String} {value : Nat} :
    Spells raw value ↔ IsNumeral raw value := by
  constructor
  · rintro ⟨sign, digits, signed, trimmed, nonempty, decimal, denotes, bounded⟩
    obtain ⟨_, before, after, blankBefore, blankAfter, whole⟩ := Text.trimChars_eq_iff.mp trimmed
    rw [decimalValue_eq_digitsValue] at denotes
    exact ⟨before, sign, digits, after, whole,
      { blankBefore, signed, nonempty, decimal, denotes, bounded, blankAfter }⟩
  · rintro ⟨before, sign, digits, after, whole, numeral⟩
    refine ⟨sign, digits, numeral.signed, ?_, numeral.nonempty, numeral.decimal, ?_,
      numeral.bounded⟩
    · rw [whole, Text.trimChars_of_bare numeral.bare numeral.blankBefore numeral.blankAfter]
    · rw [decimalValue_eq_digitsValue, numeral.denotes]

theorem count?_eq_some_iff_isNumeral {raw : String} {value : Nat} :
    count? raw = some value ↔ IsNumeral raw value :=
  count?_eq_some_iff.trans spells_iff_isNumeral

theorem isNumeral_toString {value : Nat} (bounded : value < 2 ^ 64) {before after : String}
    (blankBefore : Text.Blank before.toList) (blankAfter : Text.Blank after.toList) :
    IsNumeral (before ++ toString value ++ after) value := by
  refine ⟨before.toList, [], Nat.toDigits 10 value, after.toList, ?_, ?_⟩
  · rw [String.toList_append, String.toList_append, Nat.toString_eq_repr, Nat.toList_repr,
      List.nil_append]
  · have denotes : digitsValue (Nat.toDigits 10 value) = value := by
      rw [← decimalValue_eq_digitsValue]
      exact Nat.ofDigitChars_toDigits (by decide) (by decide)
    have decimal : ∀ digit ∈ Nat.toDigits 10 value, digit.isDigit = true := by
      intro digit listed
      exact Nat.isDigit_of_mem_toDigits (by decide) (by decide) listed
    exact { blankBefore, signed := .inl rfl, nonempty := Nat.toDigits_ne_nil, decimal, denotes,
            bounded, blankAfter }

/-! ## Options for counts -/

/-- The limit that the text of an option sets, or else the built-in one. -/
def limitFrom (file : SourcePath) (rule key : String) (builtin : Nat) :
    Option String → Pass (Resolved Nat)
  | none => return { key, value := builtin, origin := .builtin }
  | some raw =>
    match count? raw with
    | some value => return { key, value, origin := .file }
    | none => .fail { request := { file, rule, key }, shape := .count, value := raw }

section Options

variable {file : SourcePath} {rule key : String} {builtin : Nat}

theorem fileCount_eq_bind :
    fileCount file rule key builtin =
      Pass.ask { file, rule, key } >>= limitFrom file rule key builtin := rfl

variable {answer : SettingRequest → Option String}

theorem run_fileCount_of_unset (unset : answer { file, rule, key } = none) :
    (fileCount file rule key builtin).run answer =
      .ok { key, value := builtin, origin := .builtin } := by
  show (limitFrom file rule key builtin (answer { file, rule, key })).run answer = _
  rw [unset]
  rfl

theorem run_fileCount_of_set {raw : String} (given : answer { file, rule, key } = some raw) :
    (fileCount file rule key builtin).run answer =
      match count? raw with
      | some value => .ok { key, value, origin := .file }
      | none => .error { request := { file, rule, key }, shape := .count, value := raw } := by
  show (limitFrom file rule key builtin (answer { file, rule, key })).run answer = _
  rw [given]
  unfold limitFrom
  dsimp only
  cases count? raw <;> rfl

theorem run_fileCount_eq_file_iff {raw : String} (given : answer { file, rule, key } = some raw)
    {value : Nat} :
    (fileCount file rule key builtin).run answer = .ok { key, value, origin := .file } ↔
      IsNumeral raw value := by
  rw [← count?_eq_some_iff_isNumeral, run_fileCount_of_set given]
  cases count? raw <;> simp

theorem run_fileCount_eq_error_iff {raw : String} (given : answer { file, rule, key } = some raw) :
    (fileCount file rule key builtin).run answer =
        .error { request := { file, rule, key }, shape := .count, value := raw } ↔
      ¬ ∃ value, IsNumeral raw value := by
  simp only [← count?_eq_some_iff_isNumeral]
  rw [run_fileCount_of_set given]
  cases count? raw <;> simp

theorem run_fileCount_eq_builtin_iff :
    (fileCount file rule key builtin).run answer =
        .ok { key, value := builtin, origin := .builtin } ↔
      answer { file, rule, key } = none := by
  constructor
  · intro untouched
    cases given : answer { file, rule, key } with
    | none => rfl
    | some raw =>
        rw [run_fileCount_of_set given] at untouched
        cases parsed : count? raw with
        | none =>
            rw [parsed] at untouched
            cases untouched
        | some value =>
            rw [parsed] at untouched
            cases untouched
  · exact run_fileCount_of_unset

/-- One question is asked, and whoever answers it, the answer decides alone. -/
theorem interpret_fileCount {m : Type → Type} [Monad m] (stop : m Bool)
    (ask : SettingRequest → m (Option String)) :
    (fileCount file rule key builtin).interpret stop ask = (do
      let given ← ask { file, rule, key }
      return .ofExcept ((fileCount file rule key builtin).run fun _ => given)) := by
  rw [fileCount_eq_bind]
  show (ask { file, rule, key } >>= fun given =>
    (limitFrom file rule key builtin given).interpret stop ask) = _
  congr 1
  funext given
  show _ = pure (PassOutcome.ofExcept ((limitFrom file rule key builtin given).run fun _ => given))
  cases given with
  | none => rfl
  | some raw =>
      unfold limitFrom
      dsimp only
      cases count? raw <;> rfl

end Options

/-- An option for a count takes numerals and nothing else.  A text is taken for the
number that it is a numeral for; any other text is an error that holds the text as it
was set; and the built-in count is for options that are not set.  In particular a
number of one machine word is taken as it is printed, between any blanks.  All this is
the same whether the host answers from a cache or not. -/
theorem fileCount_takes_numerals (file : SourcePath) (rule key : String) (builtin : Nat)
    (answer : SettingRequest → Option String) :
    (∀ raw, answer { file, rule, key } = some raw →
      (∀ value, (fileCount file rule key builtin).run answer =
          .ok { key, value, origin := .file } ↔ IsNumeral raw value) ∧
      ((fileCount file rule key builtin).run answer =
          .error { request := { file, rule, key }, shape := .count, value := raw } ↔
        ¬ ∃ value, IsNumeral raw value)) ∧
    ((fileCount file rule key builtin).run answer =
        .ok { key, value := builtin, origin := .builtin } ↔
      answer { file, rule, key } = none) ∧
    (∀ value before after, value < 2 ^ 64 → Text.Blank before.toList → Text.Blank after.toList →
      answer { file, rule, key } = some (before ++ toString value ++ after) →
      (fileCount file rule key builtin).run answer = .ok { key, value, origin := .file }) ∧
    ∀ {m : Type → Type} [Monad m] (stop : m Bool) (ask : SettingRequest → m (Option String)),
      (fileCount file rule key builtin).interpret stop ask = (do
        let given ← ask { file, rule, key }
        return .ofExcept ((fileCount file rule key builtin).run fun _ => given)) := by
  refine ⟨?set, run_fileCount_eq_builtin_iff, ?printed, interpret_fileCount⟩
  case set =>
    intro raw given
    exact ⟨fun _ => run_fileCount_eq_file_iff given, run_fileCount_eq_error_iff given⟩
  case printed =>
    intro value before after bounded blankBefore blankAfter given
    exact (run_fileCount_eq_file_iff given).mpr
      (isNumeral_toString bounded blankBefore blankAfter)

/-- The limit of a length that is set to the text. -/
def lengthSetTo (raw : String) : Except SettingError (Resolved Nat) :=
  (fileCount ⟨"a.cs"⟩ "statement-count" "max_statement_count" 10).run fun _ => some raw

/-- The greatest count with zeros in front, its successor, and a count as it is printed. -/
theorem fileCount_takes_numerals_greatest :
    lengthSetTo " +0018446744073709551615\n" =
      .ok { key := "max_statement_count", value := 2 ^ 64 - 1, origin := .file } ∧
    lengthSetTo "18446744073709551616" =
      .error { request := ⟨⟨"a.cs"⟩, "statement-count", "max_statement_count"⟩
               shape := .count, value := "18446744073709551616" } ∧
    lengthSetTo ("\t" ++ toString 7 ++ "\u2003") =
      .ok { key := "max_statement_count", value := 7, origin := .file } := by
  have takes := fileCount_takes_numerals ⟨"a.cs"⟩ "statement-count" "max_statement_count" 10
  refine ⟨?greatest, ?beyond, ?printed⟩
  case greatest =>
    refine (((takes fun _ => some " +0018446744073709551615\n").1 _ rfl).1 _).mpr ?_
    exact ⟨[' '], ['+'], "0018446744073709551615".toList, ['\n'], by decide +kernel,
      { blankBefore := by decide +kernel
        signed := .inr rfl
        nonempty := by decide +kernel
        decimal := List.all_eq_true.mp (by decide +kernel)
        denotes := by decide +kernel
        bounded := by decide
        blankAfter := by decide +kernel }⟩
  case beyond =>
    refine ((takes fun _ => some "18446744073709551616").1 _ rfl).2.mpr ?_
    rintro ⟨value, numeral⟩
    have refused : count? "18446744073709551616" = none := by decide +kernel
    rw [count?_eq_some_iff_isNumeral.mpr numeral] at refused
    cases refused
  case printed =>
    exact (takes fun _ => some ("\t" ++ toString 7 ++ "\u2003")).2.2.1 7 "\t" "\u2003" (by decide)
      (by decide +kernel) (by decide +kernel) rfl

end StructureLint.Setting
