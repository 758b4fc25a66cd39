import Mathlib.Tactic.ByContra
import StructureLint.Suppression

/-!
Contract: which one of several suppressions decides.

The first suppression that names a rule decides alone.  Whether a finding is
suppressed does not depend on the order of the attributes, but what becomes of it
does where the rule asks for a justification: a suppression that has none hides a
justified one behind it.

Owns:
- the fate of a finding under the suppression that decides;
- lists of attributes whose order makes a difference.

Does not own: what counts as a justification.
-/

namespace StructureLint.Suppression

variable {name code : String} {asks : Bool} {finding : Finding} {marks other : List Attribute}

/-! ## The suppression that decides -/

theorem ofAttributes_eq_absent_iff :
    ofAttributes marks name code = .absent ↔ ∀ mark ∈ marks, ¬ targets name code mark = true := by
  rw [← List.find?_eq_none, ofAttributes]
  cases marks.find? (targets name code) <;> simp

/-- Unless no attribute suppresses the rule, one that does decides. -/
theorem exists_decisive (suppressed : ofAttributes marks name code ≠ .absent) :
    ∃ mark ∈ marks, targets name code mark = true ∧
      ofAttributes marks name code = .present (reasonOf mark) := by
  unfold ofAttributes at suppressed ⊢
  cases found : marks.find? (targets name code) with
  | none =>
      rw [found] at suppressed
      exact absurd rfl suppressed
  | some mark => exact ⟨mark, List.mem_of_find?_eq_some found, List.find?_some found, rfl⟩

theorem ofAttributes_cons (mark : Attribute) (named : targets name code mark = true) :
    ofAttributes (mark :: marks) name code = .present (reasonOf mark) := by
  rw [ofAttributes, List.find?_cons_of_pos named]

/-! ## Fates -/

/-- What becomes of a finding whose rule is suppressed in that way. -/
def fate (name : String) (asks : Bool) (finding : Finding) : Suppression → Option Finding
  | .absent => some finding
  | .present none => if asks then some (missingReason name finding) else none
  | .present (some _) => none

theorem apply_eq_fate :
    apply marks name asks finding = fate name asks finding (ofAttributes marks name finding.code) :=
  rfl

theorem fate_eq_none_iff {reason : Option String} :
    fate name asks finding (.present reason) = none ↔ (asks = true → reason.isSome = true) := by
  cases reason <;> simp [fate]

/-- Of a justification, it matters whether it is there and asked for. -/
theorem fate_present_congr {first second : Option String}
    (alike : asks = true → first.isSome = second.isSome) :
    fate name asks finding (.present first) = fate name asks finding (.present second) := by
  by_cases asked : asks = true
  · have both := alike asked
    cases first <;> cases second <;> simp_all [fate]
  · rw [fate_eq_none_iff.mpr (absurd · asked), fate_eq_none_iff.mpr (absurd · asked)]

/-! ## Order -/

/-- Of the suppressions that name the rule, one is justified and one is not. -/
structure PartlyJustified (marks : List Attribute) (name code : String) : Prop where
  given : ∃ mark ∈ marks, targets name code mark = true ∧ (reasonOf mark).isSome = true
  missing : ∃ mark ∈ marks, targets name code mark = true ∧ (reasonOf mark).isSome = false

theorem partlyJustified_of_ne {first second : Attribute} (firstListed : first ∈ marks)
    (firstNamed : targets name code first = true) (secondListed : second ∈ marks)
    (secondNamed : targets name code second = true)
    (differ : (reasonOf first).isSome ≠ (reasonOf second).isSome) :
    PartlyJustified marks name code := by
  cases own : (reasonOf first).isSome with
  | true =>
      have others : (reasonOf second).isSome = false :=
        eq_false_of_ne_true fun given => differ (own.trans given.symm)
      exact ⟨⟨first, firstListed, firstNamed, own⟩, ⟨second, secondListed, secondNamed, others⟩⟩
  | false =>
      have others : (reasonOf second).isSome = true :=
        eq_true_of_ne_false fun missing => differ (own.trans missing.symm)
      exact ⟨⟨second, secondListed, secondNamed, others⟩, ⟨first, firstListed, firstNamed, own⟩⟩

theorem ofAttributes_eq_absent_of_perm (reordered : other.Perm marks) :
    ofAttributes other name code = .absent ↔ ofAttributes marks name code = .absent := by
  rw [ofAttributes_eq_absent_iff, ofAttributes_eq_absent_iff]
  simp only [reordered.mem_iff]

/-- Where the suppressions that name the rule agree, it does not matter which decides. -/
theorem apply_eq_of_perm (reordered : other.Perm marks)
    (agree : ¬ (asks = true ∧ PartlyJustified marks name finding.code)) :
    apply other name asks finding = apply marks name asks finding := by
  have absent : ofAttributes other name finding.code = .absent ↔
      ofAttributes marks name finding.code = .absent := ofAttributes_eq_absent_of_perm reordered
  rw [apply_eq_fate, apply_eq_fate]
  by_cases suppressed : ofAttributes marks name finding.code = .absent
  · rw [suppressed, absent.mpr suppressed]
  · obtain ⟨first, firstListed, firstNamed, firstDecides⟩ := exists_decisive suppressed
    obtain ⟨second, secondListed, secondNamed, secondDecides⟩ :=
      exists_decisive (mt absent.mp suppressed)
    rw [firstDecides, secondDecides]
    apply fate_present_congr
    intro asked
    by_contra differ
    exact agree ⟨asked, partlyJustified_of_ne (reordered.mem_iff.mp secondListed) secondNamed
      firstListed firstNamed differ⟩

/-- Whatever suppression names the rule, it decides in some order of the attributes. -/
theorem exists_perm_apply (asks : Bool) {mark : Attribute} (listed : mark ∈ marks)
    (named : targets name finding.code mark = true) :
    ∃ other, other.Perm marks ∧
      apply other name asks finding = fate name asks finding (.present (reasonOf mark)) := by
  refine ⟨mark :: marks.erase mark, (List.perm_cons_erase listed).symm, ?_⟩
  rw [apply_eq_fate, ofAttributes_cons mark named]

/-- Whether a rule is suppressed does not depend on the order of the attributes.  The
first suppression that names it decides alone, and drops a finding if no justification
is asked for or it has one.  So the order makes a difference for a finding exactly if
a justification is asked for, and one suppression has it and another one has not. -/
theorem order_decides_iff_partlyJustified (marks : List Attribute) (name : String) (asks : Bool)
    (finding : Finding) :
    (∀ other, other.Perm marks → (ofAttributes other name finding.code = .absent ↔
      ofAttributes marks name finding.code = .absent)) ∧
    (∀ first, marks.find? (targets name finding.code) = some first →
      (apply marks name asks finding = none ↔ (asks = true → (reasonOf first).isSome = true))) ∧
    ((∃ other, other.Perm marks ∧ apply other name asks finding ≠ apply marks name asks finding) ↔
      asks = true ∧ PartlyJustified marks name finding.code) := by
  refine ⟨fun _ => ofAttributes_eq_absent_of_perm, ?dropped, ?decides⟩
  case dropped =>
    intro first found
    rw [apply_eq_fate, ofAttributes, found]
    exact fate_eq_none_iff
  case decides =>
    constructor
    · intro ⟨other, reordered, differs⟩
      by_contra agree
      exact differs (apply_eq_of_perm reordered agree)
    · intro ⟨asked, ⟨justified, justifiedListed, justifiedNamed, given⟩,
        ⟨bare, bareListed, bareNamed, missing⟩⟩
      obtain ⟨dropping, dropReordered, dropped⟩ :=
        exists_perm_apply asks justifiedListed justifiedNamed
      obtain ⟨reminding, remindReordered, reminded⟩ := exists_perm_apply asks bareListed bareNamed
      rw [fate_eq_none_iff.mpr fun _ => given] at dropped
      have kept : apply reminding name asks finding ≠ none := by
        rw [reminded, ne_eq, fate_eq_none_iff, missing]
        simp [asked]
      -- The two orders differ from each other, so one of them differs from the given one.
      by_cases same : apply marks name asks finding = none
      · exact ⟨reminding, remindReordered, same ▸ kept⟩
      · exact ⟨dropping, dropReordered, fun alike => same (alike.symm.trans dropped)⟩

/-- A suppression of the rule about statements that gives no justification, and one
that gives it. -/
def bareAndJustified : List Attribute :=
  [Attribute.withArgument { name := "Allow" } (.str "statement-count"),
    (Attribute.withArgument { name := "Allow" } (.str "statement-count")).withNamed "Reason"
      (.str "dispatch table")]

def tooLong : Finding :=
  { code := "SL001"
    rule := "statement-count"
    severity := .error
    location := { file := ⟨"Service.cs"⟩, line := 3, column := 5 }
    message := "`Run` has 12 statements (max: 10)" }

/-- The suppression without a justification, in front, keeps the one behind it from
dropping the finding. -/
theorem bare_suppression_hides_justified :
    bareAndJustified.reverse.Perm bareAndJustified ∧
    apply bareAndJustified "statement-count" true tooLong =
      some (missingReason "statement-count" tooLong) ∧
    apply bareAndJustified.reverse "statement-count" true tooLong = none :=
  ⟨List.reverse_perm bareAndJustified, rfl, rfl⟩

/-- Both orders drop the finding where no justification is asked for. -/
theorem order_decides_iff_partlyJustified_unasked :
    apply bareAndJustified "statement-count" false tooLong = none ∧
    ∀ other, other.Perm bareAndJustified →
      apply other "statement-count" false tooLong = none := by
  have dropped : apply bareAndJustified "statement-count" false tooLong = none := rfl
  have decides := (order_decides_iff_partlyJustified bareAndJustified "statement-count" false
    tooLong).2.2
  refine ⟨dropped, ?_⟩
  intro other reordered
  by_contra kept
  obtain ⟨asked, _⟩ := decides.mp ⟨other, reordered, fun same => kept (same.trans dropped)⟩
  cases asked

end StructureLint.Suppression
