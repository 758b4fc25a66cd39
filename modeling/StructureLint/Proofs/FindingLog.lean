import StructureLint.Finding

/-!
Contract: when a log loses nothing.

A log drops a finding whose anchor and kind it has seen.  Findings with
pairwise different anchors and kinds are therefore all kept, in order.

Owns:
- logging of a list of entries;
- the findings kept when no key repeats.
-/

namespace StructureLint.FindingLog

/-- A finding together with the key under which it is logged. -/
structure Entry where
  anchor : Anchor
  kind : String
  finding : Finding

def Entry.key (entry : Entry) : Anchor × String :=
  (entry.anchor, entry.kind)

def addEntry (log : FindingLog) (entry : Entry) : FindingLog :=
  log.add entry.anchor entry.kind entry.finding

theorem addEntry_of_fresh {log : FindingLog} {entry : Entry} (fresh : entry.key ∉ log.seen) :
    log.addEntry entry =
      { seen := entry.key :: log.seen, findings := log.findings ++ [entry.finding] } := by
  have unseen : ¬ log.contains entry.anchor entry.kind = true := by
    simpa [contains, Entry.key] using fresh
  rw [addEntry, add, if_neg unseen]
  rfl

/-- Entries with pairwise different new keys are all logged, in order. -/
theorem findings_foldl_addEntry {entries : List Entry} {log : FindingLog}
    (distinct : (entries.map Entry.key).Nodup)
    (fresh : ∀ entry ∈ entries, entry.key ∉ log.seen) :
    (entries.foldl addEntry log).findings = log.findings ++ entries.map Entry.finding := by
  induction entries generalizing log with
  | nil => simp
  | cons entry rest inductionHypothesis =>
      obtain ⟨different, restDistinct⟩ := List.nodup_cons.mp distinct
      rw [List.foldl_cons, addEntry_of_fresh (fresh entry List.mem_cons_self),
        inductionHypothesis restDistinct]
      · simp
      · intro other member
        have unequal : other.key ≠ entry.key := by
          intro same
          exact different (same ▸ List.mem_map_of_mem member)
        have unseen := fresh other (List.mem_cons_of_mem _ member)
        simp [unequal, unseen]

/-- Work that logs at most one entry for each element: if no key repeats, every
entry is kept. -/
theorem findings_foldl {α : Type} {work : FindingLog → α → FindingLog} {elements : List α}
    (logged? : α → Option Entry)
    (step : ∀ log element, work log element = (logged? element).elim log log.addEntry)
    (distinct : ((elements.filterMap logged?).map Entry.key).Nodup) :
    (elements.foldl work {}).findings = (elements.filterMap logged?).map Entry.finding := by
  have steps : ∀ log, elements.foldl work log =
      (elements.filterMap logged?).foldl addEntry log := by
    intro log
    rw [List.foldl_filterMap]
    congr 1
    funext current element
    rw [step]
    cases logged? element <;> rfl
  rw [steps, findings_foldl_addEntry distinct (by simp)]
  rfl

end StructureLint.FindingLog
