import StructureLint.Disk.Memory
import StructureLint.Proofs.Command.Models
import StructureLint.Proofs.Program.Erasure
import StructureLint.Proofs.Program.Normalization

/-!
Contract: node numbers of a host, and normalizing what is normalized.

A host may number the nodes of a program as it likes.  Normalization gives them
numbers of its own and looks at none of those it finds, so that programs that
differ in nothing else have one outcome, and a normalized program is left alone
by a second normalization.  An analysis may therefore take a normalized program
as it is, and a check could.

Owns:
- normalization of programs that differ in their node numbers;
- preparation with and without a second normalization;
- a check that normalizes every model once.

Does not own: which numbers the nodes are given.
-/

namespace StructureLint

open Program

/-- In place, too, programs with one bare program are normalized to one program,
or refused for one reference. -/
theorem Program.normalizeInPlace_of_bare_eq {first second : Program}
    (alike : first.bare = second.bare) :
    (∃ normalized, normalizeInPlace.run.run first = (.ok (), normalized) ∧
      normalizeInPlace.run.run second = (.ok (), normalized)) ∨
    ∃ dangling, normalizeInPlace.run.run first = (.error dangling, first) ∧
      normalizeInPlace.run.run second = (.error dangling, second) := by
  rw [run_normalizeInPlace, run_normalizeInPlace, normalize_eq_of_bare_eq alike]
  cases second.normalize with
  | error dangling => exact .inr ⟨dangling, rfl, rfl⟩
  | ok normalized => exact .inl ⟨normalized, rfl, rfl⟩

/-- Normalization before an analysis may be left out where it changes nothing. -/
theorem Analysis.prepare_shared {program : Program}
    (settled : program.isNormalized = true → program.normalize = .ok program)
    (config : Config) (rules : RuleSet) :
    prepare program true config rules = prepare program false config rules := by
  unfold prepare
  cases marked : program.isNormalized with
  | false => rfl
  | true =>
      rw [settled marked]
      rfl

/-- A check of models that are taken as they were loaded. -/
theorem Command.analyzeModelsWith_shared {m : Type → Type} [Monad m] [LawfulMonad m]
    (disk : Disk m) (config : Config) (rules : RuleSet)
    (analyze : CompilationId → Analysis → StateM SettingsCache (PassOutcome Report))
    (index : Nat) (cache : SettingsCache) (paths : List SourcePath) :
    analyzeModelsWith disk config rules true analyze index cache paths =
      analyzeModelsWith disk config rules false analyze index cache paths := by
  induction paths generalizing index cache with
  | nil => rfl
  | cons path rest inductionHypothesis =>
      unfold analyzeModelsWith
      refine loadModel_bind_congr disk path ?_
      intro program normalized accepted
      have settled := Analysis.prepare_shared (fun _ => normalize_normalized accepted) config rules
      simp only [settled, inductionHypothesis]

/-- Programs that differ in their node numbers only are normalized to one program,
or refused for one reference.  A normalized program is normalized to itself.
Hence an analysis is prepared alike, whether or not it may take a program as it
is, if the program was never normalized or is as normalization left it; and a
check that normalizes its models as they are loaded and once more before their
analysis is one that normalizes them once. -/
theorem normalization_ignores_node_numbers :
    (∀ first second : Program, first.bare = second.bare →
      first.normalize = second.normalize ∧
        ((∃ normalized, normalizeInPlace.run.run first = (.ok (), normalized) ∧
            normalizeInPlace.run.run second = (.ok (), normalized)) ∨
          ∃ dangling, normalizeInPlace.run.run first = (.error dangling, first) ∧
            normalizeInPlace.run.run second = (.error dangling, second))) ∧
    (∀ program normalized : Program, program.normalize = .ok normalized →
      normalized.normalize = .ok normalized) ∧
    (∀ (program : Program) (config : Config) (rules : RuleSet),
      (program.isNormalized = false ∨ ∃ original : Program, original.normalize = .ok program) →
        Analysis.prepare program true config rules =
          Analysis.prepare program false config rules) ∧
    ∀ {m : Type → Type} [Monad m] [LawfulMonad m] (disk : Disk m) (config : Config)
      (rules : RuleSet) (index : Nat) (cache : SettingsCache) (paths : List SourcePath),
      Command.analyzeModels disk config rules index cache paths =
        Command.analyzeModelsWith disk config rules true
          (fun id analysis => Command.analyzeWithCache analysis id) index cache paths := by
  refine ⟨?alike, fun _ _ => normalize_normalized, ?shared, ?check⟩
  case alike =>
    intro first second alike
    exact ⟨normalize_eq_of_bare_eq alike, normalizeInPlace_of_bare_eq alike⟩
  case shared =>
    intro program config rules origin
    refine Analysis.prepare_shared ?_ config rules
    intro marked
    rcases origin with never | ⟨original, accepted⟩
    · exact absurd (marked.symm.trans never) Bool.noConfusion
    · exact normalize_normalized accepted
  case check =>
    intro m _ _ disk config rules index cache paths
    rw [Command.analyzeModels_eq_with, Command.analyzeModelsWith_shared]

/-- A lambda around a loop, all of whose nodes the host has given one number. -/
def uniformlyNumbered (number : UInt32) : Program :=
  let id : NodeId := ⟨number⟩
  let loop : Stmt := .mk id {} (.doWhile (.mk id {} .empty) (.mk id {} none (.identifier "busy")))
  { types := [{ name := "Poller", kind := .classType }]
    members := [MemberSymbol.method "Poll" ⟨0⟩]
    declarations := [
      { name := "Poll", kind := .method, symbol := some ⟨0⟩, file := ⟨"Poller.cs"⟩
        body := some (.expression (.mk id {} none (.lambda (.block (.mk id {} [loop]))))) }] }

theorem normalization_ignores_node_numbers_uniform :
    ∃ normalized, (uniformlyNumbered 7).normalize = .ok normalized ∧
      (uniformlyNumbered 4).normalize = .ok normalized ∧
      normalized.normalize = .ok normalized ∧ normalized.membersOf ⟨0⟩ = [⟨0⟩] ∧
      (∀ program ∈ [uniformlyNumbered 7, normalized],
        Analysis.prepare program true {} Preset.strict.rules =
          Analysis.prepare program false {} Preset.strict.rules) ∧
      Command.analyzeModels DiskNode.disk {} Preset.strict.rules 0 {} [⟨"poller.shapelint.json"⟩] =
        Command.analyzeModelsWith DiskNode.disk {} Preset.strict.rules true
          (fun id analysis => Command.analyzeWithCache analysis id) 0 {}
          [⟨"poller.shapelint.json"⟩] := by
  have accepted : (uniformlyNumbered 7).normalize = .ok _ := rfl
  obtain ⟨alike, idempotent, shared, check⟩ := normalization_ignores_node_numbers
  have same := (alike (uniformlyNumbered 7) (uniformlyNumbered 4) rfl).1
  refine ⟨_, accepted, same.symm.trans accepted, idempotent _ _ accepted, rfl, ?_,
    check DiskNode.disk {} Preset.strict.rules 0 {} _⟩
  intro program listed
  rcases List.mem_cons.mp listed with rfl | others
  · exact shared _ {} Preset.strict.rules (.inl rfl)
  · rw [List.mem_singleton.mp others]
    exact shared _ {} Preset.strict.rules (.inr ⟨_, accepted⟩)

end StructureLint
