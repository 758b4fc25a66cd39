import StructureLint.Proofs.Pass.Token
import StructureLint.Setting.Resolve

/-!
Contract: which settings a pass may ask for.

The questions of a pass depend on the answers it got, so that a bound on them is
a bound on the whole tree.  Hosts that agree within the bound are hosts between
which the pass cannot tell.

Owns:
- bounds on the questions of a pass, and their laws for composed passes;
- bounds on the questions behind an option;
- runs against hosts that agree within a bound, called off or not;
- the questions that a run asks.

Does not own: what the rules ask for.
-/

namespace StructureLint

namespace Pass

/-- Whatever it is answered, the pass asks no question that is not allowed. -/
inductive AsksOnly (Allowed : SettingRequest → Prop) {α : Type} : Pass α → Prop where
  | done (value : α) : AsksOnly Allowed (.done value)
  | fail (error : SettingError) : AsksOnly Allowed (.fail error)
  | checkpoint {rest : Pass α} (later : AsksOnly Allowed rest) :
    AsksOnly Allowed (.checkpoint rest)
  | lookup {request : SettingRequest} {rest : Option String → Pass α} (allowed : Allowed request)
    (later : ∀ value, AsksOnly Allowed (rest value)) : AsksOnly Allowed (.lookup request rest)

variable {α β : Type} {Allowed : SettingRequest → Prop}

theorem AsksOnly.mono {Wider : SettingRequest → Prop} {pass : Pass α}
    (asks : pass.AsksOnly Allowed) (wider : ∀ request, Allowed request → Wider request) :
    pass.AsksOnly Wider := by
  induction asks with
  | done value => exact .done value
  | fail error => exact .fail error
  | checkpoint _ inductionHypothesis => exact .checkpoint inductionHypothesis
  | lookup allowed _ inductionHypothesis => exact .lookup (wider _ allowed) inductionHypothesis

theorem asksOnly_pure (value : α) : (pure value : Pass α).AsksOnly Allowed :=
  .done value

theorem asksOnly_check : Pass.check.AsksOnly Allowed :=
  .checkpoint (.done ())

theorem asksOnly_ask {request : SettingRequest} (allowed : Allowed request) :
    (Pass.ask request).AsksOnly Allowed :=
  .lookup allowed .done

theorem asksOnly_checkEach (elements : List α) : (Pass.checkEach elements).AsksOnly Allowed := by
  induction elements with
  | nil => exact .done ()
  | cons element rest inductionHypothesis => exact .checkpoint inductionHypothesis

theorem AsksOnly.bind {pass : Pass α} {next : α → Pass β} (asks : pass.AsksOnly Allowed)
    (later : ∀ value, (next value).AsksOnly Allowed) : (pass >>= next).AsksOnly Allowed := by
  show (pass.bind next).AsksOnly Allowed
  induction asks with
  | done value => exact later value
  | fail error => exact .fail error
  | checkpoint _ inductionHypothesis => exact .checkpoint inductionHypothesis
  | lookup allowed _ inductionHypothesis => exact .lookup allowed inductionHypothesis

theorem AsksOnly.attempt {pass : Pass α} (asks : pass.AsksOnly Allowed) :
    pass.attempt.AsksOnly Allowed := by
  induction asks with
  | done value => exact .done _
  | fail error => exact .done _
  | checkpoint _ inductionHypothesis => exact .checkpoint inductionHypothesis
  | lookup allowed _ inductionHypothesis => exact .lookup allowed inductionHypothesis

theorem asksOnly_each {work : α → Pass β} {elements : List α}
    (asks : ∀ element ∈ elements, (work element).AsksOnly Allowed) :
    (Pass.each work elements).AsksOnly Allowed := by
  induction elements with
  | nil => exact .done []
  | cons element rest inductionHypothesis =>
      have first := asks element List.mem_cons_self
      have others := inductionHypothesis fun other listed =>
        asks other (List.mem_cons_of_mem _ listed)
      exact first.bind fun result => others.bind fun results => asksOnly_pure (result :: results)

/-- A pass cannot tell hosts apart that agree on all it may ask. -/
theorem AsksOnly.run_congr {pass : Pass α} (asks : pass.AsksOnly Allowed)
    {first second : SettingRequest → Option String}
    (agree : ∀ request, Allowed request → first request = second request) :
    pass.run first = pass.run second := by
  induction asks with
  | done value => rfl
  | fail error => rfl
  | checkpoint _ inductionHypothesis => exact inductionHypothesis
  | @lookup request rest allowed _ inductionHypothesis =>
      show (rest (first request)).run first = (rest (second request)).run second
      rw [inductionHypothesis (first request), agree request allowed]

theorem AsksOnly.polls_congr {pass : Pass α} (asks : pass.AsksOnly Allowed)
    {first second : SettingRequest → Option String}
    (agree : ∀ request, Allowed request → first request = second request) :
    pass.polls first = pass.polls second := by
  induction asks with
  | done value => rfl
  | fail error => rfl
  | checkpoint _ inductionHypothesis => exact congrArg (· + 1) inductionHypothesis
  | @lookup request rest allowed _ inductionHypothesis =>
      show (rest (first request)).polls first = (rest (second request)).polls second
      rw [inductionHypothesis (first request), agree request allowed]

/-- Nor can it tell them apart when it may be called off. -/
theorem AsksOnly.under_congr {pass : Pass α} (asks : pass.AsksOnly Allowed)
    {first second : SettingRequest → Option String}
    (agree : ∀ request, Allowed request → first request = second request) (token : Token) :
    pass.under first token = pass.under second token := by
  rw [under_eq, under_eq, asks.run_congr agree, asks.polls_congr agree]

/-! ### Questions of a run -/

section Asked

variable (answer : SettingRequest → Option String)

/-- The questions that the uninterrupted run asks, in order. -/
def asked : Pass α → List SettingRequest
  | .done _ => []
  | .fail _ => []
  | .checkpoint rest => rest.asked
  | .lookup request rest => request :: (rest (answer request)).asked

variable {answer}

theorem AsksOnly.of_mem_asked {pass : Pass α} (asks : pass.AsksOnly Allowed)
    {request : SettingRequest} (listed : request ∈ pass.asked answer) : Allowed request := by
  induction asks with
  | done value => cases listed
  | fail error => cases listed
  | checkpoint _ inductionHypothesis => exact inductionHypothesis listed
  | lookup allowed _ inductionHypothesis =>
      rcases List.mem_cons.mp listed with rfl | later
      · exact allowed
      · exact inductionHypothesis _ later

/-- A question is asked by the first part, or behind the value that it ends with. -/
theorem mem_asked_bind {pass : Pass α} {next : α → Pass β} {request : SettingRequest} :
    request ∈ (pass >>= next).asked answer ↔
      request ∈ pass.asked answer ∨
        ∃ value, pass.run answer = .ok value ∧ request ∈ (next value).asked answer := by
  show request ∈ (pass.bind next).asked answer ↔ _
  induction pass with
  | done value => simp [Pass.bind, asked, run]
  | fail error => simp [Pass.bind, asked, run]
  | checkpoint rest inductionHypothesis => exact inductionHypothesis
  | lookup first rest inductionHypothesis =>
      show request ∈ first :: ((rest (answer first)).bind next).asked answer ↔
        request ∈ first :: (rest (answer first)).asked answer ∨
          ∃ value, (rest (answer first)).run answer = .ok value ∧
            request ∈ (next value).asked answer
      rw [List.mem_cons, List.mem_cons, inductionHypothesis, or_assoc]

end Asked

end Pass

/-! ## Options -/

namespace Setting

variable (file : SourcePath) (rule : String)

/-- The question is about an option of the rule in the file. -/
def IsAbout (request : SettingRequest) : Prop :=
  request.file = file ∧ request.rule = rule

theorem asksOnly_fileCount (key : String) (builtin : Nat) :
    (fileCount file rule key builtin).AsksOnly (IsAbout file rule) := by
  refine (Pass.asksOnly_ask ⟨rfl, rfl⟩).bind ?_
  intro answer
  cases answer with
  | none => exact Pass.asksOnly_pure _
  | some raw =>
      dsimp only
      cases count? raw with
      | none => exact .fail _
      | some value => exact Pass.asksOnly_pure _

theorem asksOnly_limit (limit : Limit) (marks : List Attribute) :
    (Setting.limit file rule limit marks).AsksOnly (IsAbout file rule) := by
  unfold Setting.limit
  cases overrideCount? limit.overrides marks with
  | none => exact asksOnly_fileCount file rule limit.key limit.builtin
  | some value => exact Pass.asksOnly_pure _

variable {file rule}

theorem asksOnly_flag_of_allowed {Allowed : SettingRequest → Prop} {key : String}
    (allowed : Allowed { file, rule, key }) (builtin : Bool) :
    (flag file rule key builtin).AsksOnly Allowed := by
  refine (Pass.asksOnly_ask allowed).bind ?_
  intro answer
  cases answer with
  | none => exact Pass.asksOnly_pure _
  | some raw =>
      dsimp only
      cases flag? raw with
      | none => exact .fail _
      | some value => exact Pass.asksOnly_pure _

theorem asksOnly_text_of_allowed {Allowed : SettingRequest → Prop} {key : String}
    (allowed : Allowed { file, rule, key }) (builtin : String) :
    (text file rule key builtin).AsksOnly Allowed := by
  refine (Pass.asksOnly_ask allowed).bind ?_
  intro answer
  cases answer with
  | none => exact Pass.asksOnly_pure _
  | some raw => exact Pass.asksOnly_pure _

variable (file rule)

theorem asksOnly_flag (key : String) (builtin : Bool) :
    (flag file rule key builtin).AsksOnly (IsAbout file rule) :=
  asksOnly_flag_of_allowed ⟨rfl, rfl⟩ builtin

theorem asksOnly_text (key builtin : String) :
    (text file rule key builtin).AsksOnly (IsAbout file rule) :=
  asksOnly_text_of_allowed ⟨rfl, rfl⟩ builtin

end Setting

end StructureLint
