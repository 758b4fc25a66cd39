import StructureLint.Proofs.Pass
import StructureLint.Proofs.Program.Reach
import StructureLint.Rule.Length
import StructureLint.Syntax.Snippet

/-!
Contract: the length of a body grows with what is counted.

A statement that is put into a body may carry the leading run of guards on, end
it early, or mention local functions that the body led to anyway.  Whichever it
does, what was measured before is measured still.  Leaving out more, on the other
hand, measures less of the same syntax.

Owns:
- the order of counts, and of what options leave out;
- counts of longer bodies and under stricter options.

Does not own: the length of a body in closed form.
-/

namespace StructureLint.Length

open Program

/-- Both counts end, the first with no more statements than the second. -/
def CountsAtMost (answer : SettingRequest → Option String) (first second : Pass Nat) : Prop :=
  ∃ fewer more, first.run answer = .ok fewer ∧ second.run answer = .ok more ∧ fewer ≤ more

/-- The stricter options leave out whatever the others leave out. -/
structure Options.Tightens (stricter options : Options) : Prop where
  guards : options.excludeGuards = true → stricter.excludeGuards = true
  logging : options.excludeLogging = true → stricter.excludeLogging = true
  loggers : options.loggerTypes ⊆ stricter.loggerTypes

theorem Options.Tightens.refl (options : Options) : options.Tightens options :=
  ⟨id, id, List.Subset.refl _⟩

/-! ## The measured part -/

/-- A statement more leaves no statement behind the guards out. -/
theorem behindGuards_sublist_insert (options : Options) (before after : List Stmt)
    (inserted : Stmt) :
    (behindGuards options (before ++ after)).Sublist
      (behindGuards options (before ++ inserted :: after)) := by
  unfold behindGuards
  split
  · rw [List.dropWhile_append, List.dropWhile_append]
    split
    · -- All in front are guards, and so the new statement may be the one that ends the run.
      rw [List.dropWhile_cons]
      split
      · exact List.Sublist.refl _
      · exact (List.dropWhile_sublist _).trans (List.sublist_cons_self _ _)
    · exact (List.sublist_cons_self _ _).append_left _
  · exact (List.sublist_cons_self _ _).append_left _

/-- Stricter options leave a part of the statements behind the guards. -/
theorem Options.Tightens.behindGuards_sublist {stricter options : Options}
    (tightens : stricter.Tightens options) (stmts : List Stmt) :
    (behindGuards stricter stmts).Sublist (behindGuards options stmts) := by
  unfold behindGuards
  by_cases guards : options.excludeGuards = true
  · rw [if_pos guards, if_pos (tightens.guards guards)]
  · rw [if_neg guards]
    split
    · exact List.dropWhile_sublist _
    · exact List.Sublist.refl _

theorem visitsAll_sublist {stmts others : List Stmt} (part : stmts.Sublist others) :
    (Stmt.visitsAll stmts).Sublist (Stmt.visitsAll others) := by
  rw [Stmt.visitsAll_eq_flatMap, Stmt.visitsAll_eq_flatMap]
  exact part.flatMap _

theorem Options.Tightens.measuredVisits_sublist {stricter options : Options}
    (tightens : stricter.Tightens options) (body : Body) :
    (measuredVisits stricter body).Sublist (measuredVisits options body) := by
  cases body with
  | block block => exact visitsAll_sublist (tightens.behindGuards_sublist block.stmts)
  | expression expr => exact List.Sublist.refl _

/-! ## Significant statements -/

theorem isLoggingCall_of_subset {loggers more : List String} (subset : loggers ⊆ more)
    {stmt : Stmt} (logs : isLoggingCall loggers stmt = true) : isLoggingCall more stmt = true := by
  unfold isLoggingCall at logs ⊢
  cases called : memberCall? stmt with
  | none => rw [called] at logs; cases logs
  | some call =>
      simp only [called, Bool.and_eq_true, Option.any_eq_true, Name.matchesAny,
        List.any_eq_true] at logs ⊢
      obtain ⟨⟨typeName, typed, candidate, listed, matching⟩, method⟩ := logs
      exact ⟨⟨typeName, typed, candidate, subset listed, matching⟩, method⟩

/-- What is significant under stricter options is significant. -/
theorem Options.Tightens.isSignificant {stricter options : Options}
    (tightens : stricter.Tightens options) {stmt : Stmt}
    (significant : isSignificant stricter stmt = true) : isSignificant options stmt = true := by
  have spared (counts : (!(stricter.excludeLogging &&
      isLoggingCall stricter.loggerTypes stmt)) = true) :
      (!(options.excludeLogging && isLoggingCall options.loggerTypes stmt)) = true := by
    simp only [Bool.not_eq_true', Bool.and_eq_false_imp] at counts ⊢
    intro excluded
    have silent := counts (tightens.logging excluded)
    by_contra logs
    have louder := isLoggingCall_of_subset tightens.loggers (Bool.eq_true_of_not_eq_false logs)
    rw [silent] at louder
    cases louder
  unfold Length.isSignificant at significant ⊢
  split at significant
  · cases significant
  · cases significant
  · cases significant
  · exact spared significant

theorem Options.Tightens.countSignificant_le {stricter options : Options}
    (tightens : stricter.Tightens options) (visits : List Visit) :
    countSignificant stricter visits ≤ countSignificant options visits := by
  refine List.countP_mono_left ?_
  intro visit _ counted
  obtain ⟨stmt, visited, significant⟩ := (Option.any_eq_true _ _).mp counted
  exact (Option.any_eq_true _ _).mpr ⟨stmt, visited, tightens.isSignificant significant⟩

/-! ## Counts -/

theorem run_count (program : Program) (owner : DeclarationId) (body : Body) (options : Options)
    (answer : SettingRequest → Option String) :
    (count program owner body options).run answer =
      .ok (countSignificant options
        (program.unfoldLocals [owner] (measuredVisits options body))) := by
  rw [count, Pass.run_bind, Pass.run_checkEach]
  rfl

/-- Counting less of the syntax under stricter options yields no more. -/
theorem Options.Tightens.countsAtMost {stricter options : Options}
    (tightens : stricter.Tightens options) {body longer : Body}
    (part : (measuredVisits stricter body).Sublist (measuredVisits options longer))
    (program : Program) (owner : DeclarationId) (answer : SettingRequest → Option String) :
    CountsAtMost answer (count program owner body stricter)
      (count program owner longer options) := by
  refine ⟨_, _, run_count .., run_count .., ?_⟩
  calc countSignificant stricter (program.unfoldLocals [owner] (measuredVisits stricter body))
      ≤ countSignificant options (program.unfoldLocals [owner] (measuredVisits stricter body)) :=
        tightens.countSignificant_le _
    _ ≤ countSignificant options (program.unfoldLocals [owner] (measuredVisits options longer)) :=
        (unfoldLocals_subperm program [owner] part.subperm).countP_le _

/-- A statement that is put anywhere among the statements of a body does not make
it shorter, and options that leave out more do not make it longer: not if guards
or logging calls are left out that were counted, nor if more types are loggers. -/
theorem count_grows_with_code (program : Program) (owner : DeclarationId)
    (answer : SettingRequest → Option String) :
    (∀ (id : NodeId) (span : Span) (before after : List Stmt) (inserted : Stmt)
        (options : Options),
      CountsAtMost answer
        (count program owner (.block (.mk id span (before ++ after))) options)
        (count program owner (.block (.mk id span (before ++ inserted :: after))) options)) ∧
    ∀ (body : Body) (stricter options : Options), stricter.Tightens options →
      CountsAtMost answer (count program owner body stricter)
        (count program owner body options) := by
  constructor
  · intro id span before after inserted options
    refine (Options.Tightens.refl options).countsAtMost ?_ program owner answer
    exact visitsAll_sublist (behindGuards_sublist_insert options before after inserted)
  · intro body stricter options tightens
    exact tightens.countsAtMost (tightens.measuredVisits_sublist body) program owner answer

open Snippet in
/-- Two local functions that mention each other, and one of them its owner. -/
def retryingSave : Program :=
  let localFunctionIn (name : String) (stmts : List Stmt) : Declaration :=
    { name, kind := .localFunction, file := ⟨"Store.cs"⟩, body := some (.block (.ofStmts stmts)) }
  { declarations := [
      { name := "Save", kind := .method, file := ⟨"Store.cs"⟩ },
      localFunctionIn "Write" [run (call "Flush"), localFunction ⟨2⟩],
      localFunctionIn "Retry" [localFunction ⟨1⟩, localFunction ⟨0⟩, run (call "Wait")]] }

open Snippet in
def saveStart : List Stmt := [nullGuard "ArgumentNullException"]

open Snippet in
def saveRest : List Stmt := [nullGuard "ArgumentException", localFunction ⟨1⟩]

def saveLength (stmts : List Stmt) (options : Options) : Pass Nat :=
  count retryingSave ⟨0⟩ (.block (.mk {} {} stmts)) options

def nothingLeftOut : Options :=
  { excludeGuards := false, excludeLogging := false, loggerTypes := [] }

open Snippet in
/-- A statement between two guards makes the second one count. -/
theorem count_grows_with_code_parted :
    (saveLength (saveStart ++ saveRest) {}).run (fun _ => none) = .ok 2 ∧
    (saveLength (saveStart ++ run (call "Lock") :: saveRest) {}).run (fun _ => none) = .ok 5 ∧
    CountsAtMost (fun _ => none) (saveLength (saveStart ++ saveRest) {})
      (saveLength (saveStart ++ run (call "Lock") :: saveRest) {}) ∧
    ({} : Options).Tightens nothingLeftOut ∧
    CountsAtMost (fun _ => none) (saveLength (saveStart ++ saveRest) {})
      (saveLength (saveStart ++ saveRest) nothingLeftOut) := by
  obtain ⟨grows, shrinks⟩ := count_grows_with_code retryingSave ⟨0⟩ fun _ => none
  have tightens : ({} : Options).Tightens nothingLeftOut :=
    ⟨fun _ => rfl, fun _ => rfl, List.nil_subset _⟩
  exact ⟨by cbv, by cbv, grows _ _ _ _ _ _, tightens, shrinks _ _ _ tightens⟩

end StructureLint.Length
