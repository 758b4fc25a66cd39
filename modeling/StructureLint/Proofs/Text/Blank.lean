import Mathlib.Data.List.TakeWhile
import StructureLint.Text.Blank

/-!
Contract: a text and the blanks around it.

A text is bare if no blank stands at either of its ends.  Between blanks there is
one bare text in every text, and trimming is what finds it.

Owns:
- blank texts and bare texts;
- trimming, said without a scan from either end.
-/

namespace StructureLint.Text

/-- Nothing but blanks. -/
def Blank (text : List Char) : Prop :=
  ∀ character ∈ text, isBlank character = true

instance (text : List Char) : Decidable (Blank text) :=
  decidable_of_iff (text.all isBlank = true) List.all_eq_true

/-- No blank at the start and none at the end. -/
structure Bare (text : List Char) : Prop where
  start : ∀ character ∈ text.head?, isBlank character = false
  ending : ∀ character ∈ text.getLast?, isBlank character = false

theorem Blank.append {before after : List Char} (first : Blank before) (second : Blank after) :
    Blank (before ++ after) :=
  List.forall_mem_append.mpr ⟨first, second⟩

theorem bare_of_forall {text : List Char}
    (visible : ∀ character ∈ text, isBlank character = false) : Bare text where
  start character first := visible character (List.mem_of_mem_head? first)
  ending character last := visible character (List.mem_of_mem_getLast? last)

/-! ## Removal at one end -/

section Ends

variable (dropped : Char → Bool) (text : List Char)

theorem head?_dropWhile_kept :
    ∀ character ∈ (text.dropWhile dropped).head?, dropped character = false := by
  intro character first
  have kept := List.head?_dropWhile_not dropped text
  rw [Option.mem_def.mp first] at kept
  exact kept

theorem getLast?_trimEndWhere :
    ∀ character ∈ (trimEndWhere dropped text).getLast?, dropped character = false := by
  unfold trimEndWhere
  rw [List.getLast?_reverse]
  exact head?_dropWhile_kept dropped text.reverse

theorem exists_eq_trimEndWhere_append :
    ∃ after, (∀ character ∈ after, dropped character = true) ∧
      text = trimEndWhere dropped text ++ after := by
  refine ⟨(text.reverse.takeWhile dropped).reverse, ?_, ?_⟩
  · intro character listed
    exact List.mem_takeWhile_imp (List.mem_reverse.mp listed)
  · unfold trimEndWhere
    rw [← List.reverse_append, List.takeWhile_append_dropWhile, List.reverse_reverse]

variable {dropped text}

theorem dropWhile_eq_self (kept : ∀ character ∈ text.head?, dropped character = false) :
    text.dropWhile dropped = text := by
  cases text with
  | nil => rfl
  | cons character rest => exact List.dropWhile_cons_of_neg (by simp [kept character rfl])

theorem trimEndWhere_append {after : List Char}
    (kept : ∀ character ∈ text.getLast?, dropped character = false)
    (removed : ∀ character ∈ after, dropped character = true) :
    trimEndWhere dropped (text ++ after) = text := by
  unfold trimEndWhere
  rw [List.reverse_append, List.dropWhile_append_of_pos, dropWhile_eq_self, List.reverse_reverse]
  · rwa [List.head?_reverse]
  · intro character listed
    exact removed character (List.mem_reverse.mp listed)

end Ends

/-- Blanks at the start of a text may be set apart, also if all of it is blank and
something visible stands behind it. -/
theorem exists_eq_blank_append (text tail : List Char)
    (visible : ∀ character ∈ tail.head?, isBlank character = false) :
    ∃ blanks rest, Blank blanks ∧ text = blanks ++ rest ∧
      ∀ character ∈ (rest ++ tail).head?, isBlank character = false := by
  refine ⟨text.takeWhile isBlank, text.dropWhile isBlank,
    fun _ listed => List.mem_takeWhile_imp listed, List.takeWhile_append_dropWhile.symm, ?_⟩
  intro character first
  rw [List.head?_append] at first
  rcases Option.or_eq_some_iff.mp first with inside | ⟨_, behind⟩
  · exact head?_dropWhile_kept isBlank text character inside
  · exact visible character behind

/-! ## Trimming -/

variable {text core : List Char}

theorem bare_trimChars (text : List Char) : Bare (trimChars text) where
  start := by
    intro character first
    -- What is left behind the first removal starts as it did, unless nothing is left.
    obtain ⟨after, _, whole⟩ := exists_eq_trimEndWhere_append isBlank (text.dropWhile isBlank)
    apply head?_dropWhile_kept isBlank text
    rw [whole]
    show (trimChars text ++ after).head? = some character
    rw [List.head?_append, Option.mem_def.mp first, Option.some_or]
  ending := getLast?_trimEndWhere isBlank _

theorem exists_eq_append_trimChars (text : List Char) :
    ∃ before after, Blank before ∧ Blank after ∧ text = before ++ trimChars text ++ after := by
  obtain ⟨after, blank, whole⟩ := exists_eq_trimEndWhere_append isBlank (text.dropWhile isBlank)
  refine ⟨text.takeWhile isBlank, after, fun _ listed => List.mem_takeWhile_imp listed, blank, ?_⟩
  unfold trimChars
  rw [List.append_assoc, ← whole, List.takeWhile_append_dropWhile]

theorem trimChars_subset (text : List Char) : trimChars text ⊆ text := by
  obtain ⟨before, after, _, _, whole⟩ := exists_eq_append_trimChars text
  intro character listed
  rw [whole]
  exact List.mem_append_left after (List.mem_append_right before listed)

theorem trimChars_of_bare (bare : Bare core) {before after : List Char} (blankBefore : Blank before)
    (blankAfter : Blank after) : trimChars (before ++ core ++ after) = core := by
  unfold trimChars
  rw [List.append_assoc, List.dropWhile_append_of_pos blankBefore]
  cases core with
  | nil =>
      have nothing : after.dropWhile isBlank = [] := List.dropWhile_eq_nil_iff.mpr blankAfter
      rw [List.nil_append, nothing]
      rfl
  | cons first rest =>
      have visible : isBlank first = false := bare.start first rfl
      rw [List.cons_append, List.dropWhile_cons_of_neg (by simp [visible]), ← List.cons_append]
      exact trimEndWhere_append bare.ending blankAfter

/-- Trimming finds the bare text between blanks. -/
theorem trimChars_eq_iff :
    trimChars text = core ↔
      Bare core ∧ ∃ before after, Blank before ∧ Blank after ∧ text = before ++ core ++ after := by
  constructor
  · rintro rfl
    exact ⟨bare_trimChars text, exists_eq_append_trimChars text⟩
  · rintro ⟨bare, before, after, blankBefore, blankAfter, rfl⟩
    exact trimChars_of_bare bare blankBefore blankAfter

theorem trimChars_eq_self (bare : Bare text) : trimChars text = text :=
  trimChars_eq_iff.mpr ⟨bare, [], [], List.forall_mem_nil _, List.forall_mem_nil _, by simp⟩

end StructureLint.Text
