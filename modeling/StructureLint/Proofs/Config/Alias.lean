import StructureLint.Config

/-!
Contract: what sections say once codes are read as names.

Where codes and names are told apart, reading the codes as names comes to this:
nothing is left under a code, the section under a name is what stood there with
its gaps filled from the section under the code, and every other section is as
it was.  The order in which the codes are taken up does not enter into that.

Owns:
- lists of aliases that are told apart;
- the sections after one code, and after all codes, have been read as names;
- what a configuration says when the aliases are listed in another order.

Does not own: which rules have which codes and names.
-/

namespace StructureLint

/-- Codes and names of rules, of which no two are the same. -/
structure AliasesApart (aliases : List (String × String)) : Prop where
  codes : (aliases.map Prod.fst).Nodup
  names : (aliases.map Prod.snd).Nodup
  apart : ∀ entry ∈ aliases, ∀ other ∈ aliases, entry.1 ≠ other.2

/-- A first alias differs from all others in its code and in its name. -/
theorem AliasesApart.of_cons {first : String × String} {codes : List (String × String)}
    (aliases : AliasesApart (first :: codes)) :
    AliasesApart codes ∧ ∀ entry ∈ codes, entry.1 ≠ first.1 ∧ entry.2 ≠ first.2 := by
  obtain ⟨freshCode, restCodes⟩ := List.nodup_cons.mp aliases.codes
  obtain ⟨freshName, restNames⟩ := List.nodup_cons.mp aliases.names
  constructor
  · refine ⟨restCodes, restNames, ?_⟩
    intro entry listed other otherListed
    exact aliases.apart entry (List.mem_cons_of_mem _ listed) other
      (List.mem_cons_of_mem _ otherListed)
  · intro entry listed
    constructor
    · intro same
      exact freshCode (List.mem_map.mpr ⟨entry, listed, same⟩)
    · intro same
      exact freshName (List.mem_map.mpr ⟨entry, listed, same⟩)

theorem lookup_filter_key {β : Type} (entries : List (String × β)) (accept : String → Bool)
    (key : String) :
    (entries.filter fun entry => accept entry.1).lookup key =
      if accept key then entries.lookup key else none := by
  induction entries with
  | nil => simp
  | cons entry rest inductionHypothesis =>
      obtain ⟨label, content⟩ := entry
      by_cases here : key = label
      · subst here
        cases kept : accept key with
        | true => simp [kept]
        | false => simpa [kept] using inductionHypothesis
      · have other : (key == label) = false := by simp [here]
        cases kept : accept label with
        | true => simpa [kept, List.lookup_cons, other] using inductionHypothesis
        | false => simpa [kept, List.lookup_cons, other] using inductionHypothesis

/-- A section that may be absent, with its gaps filled from another that may be. -/
def RuleSection.fill? : Option RuleSection → Option RuleSection → Option RuleSection
  | none, other => other
  | some entry, none => some entry
  | some entry, some other => some (entry.fillFrom other)

namespace RuleSections

open RuleSection (fill?)

/-! ## One code -/

theorem lookup_filter_ne (sections : RuleSections) (code key : String) :
    (sections.filter fun entry => entry.1 != code).lookup key =
      if key = code then none else sections.lookup key := by
  rw [lookup_filter_key sections (fun label => label != code) key]
  by_cases removed : key = code
  · simp [removed]
  · simp [removed]

theorem lookup_map_replace (sections : RuleSections) (name : String) (filled : RuleSection)
    (key : String) :
    (sections.map fun entry => if entry.1 == name then (name, filled) else entry).lookup key =
      if key = name then (sections.lookup name).map fun _ => filled else sections.lookup key := by
  induction sections with
  | nil => simp
  | cons entry rest inductionHypothesis =>
      obtain ⟨label, settings⟩ := entry
      by_cases replaced : label = name
      · by_cases asked : key = name
        · simp [replaced, asked]
        · have other : (key == name) = false := by simp [asked]
          simpa [replaced, asked, List.lookup_cons, other] using inductionHypothesis
      · have kept : (name == label) = false := by simp [Ne.symm replaced]
        by_cases here : key = label
        · simp [replaced, here]
        · have other : (key == label) = false := by simp [here]
          simpa [replaced, List.lookup_cons, other, kept] using inductionHypothesis

theorem lookup_rekey (sections : RuleSections) {code name : String} (apart : code ≠ name)
    (key : String) :
    (sections.rekey code name).lookup key =
      if key = code then none
      else if key = name then fill? (sections.lookup name) (sections.lookup code)
      else sections.lookup key := by
  have byName : ((sections.filter fun entry => entry.1 != code).lookup name) =
      sections.lookup name := by
    rw [lookup_filter_ne, if_neg (Ne.symm apart)]
  have different : (code == name) = false := by simp [apart]
  unfold rekey
  rw [different]
  simp only [Bool.false_eq_true, if_false]
  cases coded : sections.lookup code with
  | none =>
      by_cases asked : key = code
      · rw [if_pos asked, asked]
        exact coded
      · by_cases named : key = name
        · rw [if_neg asked, if_pos named, named]
          cases sections.lookup name <;> rfl
        · rw [if_neg asked, if_neg named]
  | some moved =>
      dsimp only
      rw [byName]
      cases own : sections.lookup name with
      | none =>
          dsimp only
          rw [List.lookup_append, lookup_filter_ne]
          by_cases asked : key = code
          · simp [asked, List.lookup_cons, different]
          · by_cases named : key = name
            · simp [named, Ne.symm apart, own, fill?]
            · have elsewhere : (key == name) = false := by simp [named]
              simp [asked, named, List.lookup_cons, elsewhere]
      | some kept =>
          dsimp only
          rw [lookup_map_replace, byName, own, lookup_filter_ne]
          by_cases asked : key = code
          · simp [asked, apart]
          · simp [asked, fill?]

/-! ## All codes -/

/-- The second sections are the first with the codes read as names. -/
structure Realiased (codes : List (String × String)) (before after : RuleSections) : Prop where
  code : ∀ entry ∈ codes, after.lookup entry.1 = none
  name : ∀ entry ∈ codes,
    after.lookup entry.2 = fill? (before.lookup entry.2) (before.lookup entry.1)
  other : ∀ key, (∀ entry ∈ codes, key ≠ entry.1 ∧ key ≠ entry.2) →
    after.lookup key = before.lookup key

theorem realiased_rekeyAll {codes : List (String × String)} (aliases : AliasesApart codes)
    (sections : RuleSections) : Realiased codes sections (sections.rekeyAll codes) := by
  -- What the first alias does to the sections is out of reach for the others.
  induction codes generalizing sections with
  | nil =>
      exact { code := by simp, name := by simp, other := fun _ _ => rfl }
  | cons first rest inductionHypothesis =>
      obtain ⟨restApart, fresh⟩ := aliases.of_cons
      have apart := aliases.apart first List.mem_cons_self
      have fromRest : ∀ entry ∈ rest, entry.1 ≠ first.2 := by
        intro entry listed
        exact aliases.apart entry (List.mem_cons_of_mem _ listed) first List.mem_cons_self
      have toRest : ∀ entry ∈ rest, first.1 ≠ entry.2 := by
        intro entry listed
        exact apart entry (List.mem_cons_of_mem _ listed)
      have changed := lookup_rekey sections (apart first List.mem_cons_self)
      have later := inductionHypothesis restApart (sections.rekey first.1 first.2)
      refine { code := ?code, name := ?name, other := ?other }
      case code =>
        intro entry listed
        rcases List.mem_cons.mp listed with rfl | listed
        · have untouched := later.other entry.1 fun other otherListed =>
            ⟨Ne.symm (fresh other otherListed).1, toRest other otherListed⟩
          exact untouched.trans (by rw [changed, if_pos rfl])
        · exact later.code entry listed
      case name =>
        intro entry listed
        rcases List.mem_cons.mp listed with rfl | listed
        · have untouched := later.other entry.2 fun other otherListed =>
            ⟨Ne.symm (fromRest other otherListed), Ne.symm (fresh other otherListed).2⟩
          exact untouched.trans (by
            rw [changed, if_neg (Ne.symm (apart entry List.mem_cons_self)), if_pos rfl])
        · have named := later.name entry listed
          rw [changed, changed, if_neg (Ne.symm (toRest entry listed)),
            if_neg (fresh entry listed).2, if_neg (fresh entry listed).1,
            if_neg (fromRest entry listed)] at named
          exact named
      case other =>
        intro key free
        have untouched := later.other key fun entry listed =>
          free entry (List.mem_cons_of_mem _ listed)
        obtain ⟨notCode, notName⟩ := free first List.mem_cons_self
        exact untouched.trans (by rw [changed, if_neg notCode, if_neg notName])

/-- Nothing but the aliases decides what stands under a key. -/
theorem Realiased.lookup_eq {codes listedOtherwise : List (String × String)}
    {before after other : RuleSections} (first : Realiased codes before after)
    (second : Realiased listedOtherwise before other)
    (same : ∀ entry, entry ∈ codes ↔ entry ∈ listedOtherwise) (key : String) :
    after.lookup key = other.lookup key := by
  by_cases coded : ∃ entry ∈ codes, key = entry.1
  · obtain ⟨entry, listed, rfl⟩ := coded
    rw [first.code entry listed, second.code entry ((same entry).mp listed)]
  · by_cases named : ∃ entry ∈ codes, key = entry.2
    · obtain ⟨entry, listed, rfl⟩ := named
      rw [first.name entry listed, second.name entry ((same entry).mp listed)]
    · have free : ∀ entry ∈ codes, key ≠ entry.1 ∧ key ≠ entry.2 := by
        intro entry listed
        exact ⟨fun asked => coded ⟨entry, listed, asked⟩, fun asked => named ⟨entry, listed, asked⟩⟩
      rw [first.other key free, second.other key fun entry listed =>
        free entry ((same entry).mpr listed)]

end RuleSections

/-! ## Configurations -/

theorem AliasesApart.perm {codes other : List (String × String)} (aliases : AliasesApart codes)
    (reordered : codes.Perm other) : AliasesApart other where
  codes := (reordered.map Prod.fst).nodup_iff.mp aliases.codes
  names := (reordered.map Prod.snd).nodup_iff.mp aliases.names
  apart entry listed second secondListed :=
    aliases.apart entry (reordered.mem_iff.mpr listed) second (reordered.mem_iff.mpr secondListed)

theorem RuleSections.lookup_rekeyAll_perm {codes other : List (String × String)}
    (aliases : AliasesApart codes) (reordered : codes.Perm other) (sections : RuleSections)
    (key : String) :
    (sections.rekeyAll other).lookup key = (sections.rekeyAll codes).lookup key := by
  have first := realiased_rekeyAll aliases sections
  have second := realiased_rekeyAll (aliases.perm reordered) sections
  exact (first.lookup_eq second (fun _ => reordered.mem_iff) key).symm

namespace Config

/-- Both configurations say the same about every rule in every file. -/
structure Agrees (config other : Config) : Prop where
  isEnabled : other.isEnabled = config.isEnabled
  severity? : other.severity? = config.severity?
  answer : other.answer = config.answer

/-- Aliases may be listed in any order. -/
theorem agrees_aliasCodes {codes other : List (String × String)} (aliases : AliasesApart codes)
    (reordered : codes.Perm other) (config : Config) :
    (config.aliasCodes codes).Agrees (config.aliasCodes other) := by
  have alike := RuleSections.lookup_rekeyAll_perm aliases reordered
  refine { isEnabled := ?enabled, severity? := ?severity, answer := ?answer }
  case enabled =>
    funext rule
    simp only [isEnabled, aliasCodes, alike]
  case severity =>
    funext rule
    simp only [severity?, aliasCodes, alike]
  case answer =>
    funext request
    simp only [answer, aliasCodes, ← List.map_reverse, List.filter_map, List.findSome?_map,
      Function.comp_def, RuleSections.option?, alike]
    rfl

end Config

end StructureLint
