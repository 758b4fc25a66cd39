import StructureLint.Proofs.Rule.Confinement
import StructureLint.Proofs.Setting.Count
import StructureLint.Proofs.Setting.Override

/-!
Contract: declarations that bring their own limit.

Three rules hold a declaration against a limit.  Each of them first finds the limit
and then measures, and what it asks for on the way to a measure is never a limit.
So a declaration with a valid override is out of reach of the limits that are set
for its file, malformed ones included; and without one, a malformed limit that is
asked for is the end of the check.

Owns:
- the rules with limits, their keys and their overrides;
- checks as the search for a limit and a verdict on it;
- checks with an override, and checks that meet a malformed limit.

Does not own: how a declaration is measured.
-/

namespace StructureLint

/-! ## Limits from the file -/

namespace Setting

section Limits

variable {file : SourcePath} {rule key raw : String} {builtin : Nat}
  {answer : SettingRequest → Option String}

theorem asked_limitFrom (given : Option String) :
    (limitFrom file rule key builtin given).asked answer = [] := by
  cases given with
  | none => rfl
  | some raw =>
      unfold limitFrom
      dsimp only
      cases count? raw <;> rfl

theorem mem_asked_fileCount {request : SettingRequest} :
    request ∈ (fileCount file rule key builtin).asked answer ↔ request = { file, rule, key } := by
  rw [fileCount_eq_bind, Pass.mem_asked_bind]
  constructor
  · intro listed
    rcases listed with own | ⟨given, _, later⟩
    · exact List.mem_singleton.mp own
    · rw [asked_limitFrom] at later
      cases later
  · intro same
    exact .inl (List.mem_singleton.mpr same)

theorem limitFrom_of_malformed (malformed : count? raw = none) :
    limitFrom file rule key builtin (some raw) =
      .fail { request := { file, rule, key }, shape := .count, value := raw } := by
  unfold limitFrom
  dsimp only
  rw [malformed]

/-- A malformed count is the end of a pass that goes by it, before any checkpoint. -/
theorem under_fileCount_bind {α : Type} {next : Resolved Nat → Pass α}
    (given : answer { file, rule, key } = some raw) (malformed : count? raw = none)
    (token : Token) :
    (fileCount file rule key builtin >>= next).under answer token =
      .failed { request := { file, rule, key }, shape := .count, value := raw } := by
  have opened : (fileCount file rule key builtin >>= next).under answer token =
      (limitFrom file rule key builtin (answer { file, rule, key }) >>= next).under answer
        token := by
    rw [fileCount_eq_bind]
    rfl
  rw [opened, given, limitFrom_of_malformed malformed]
  rfl

end Limits

end Setting

/-! ## Rules with limits -/

/-- A rule that holds a declaration against a limit, with the limits built into it. -/
inductive Gauge where
  | length (builtin : Nat)
  | nesting (builtin : Nat)
  | arity (methods constructors : Nat)

/-- The finding about a body that is too long. -/
def Length.excess (severity : Severity) (scope : DeclarationScope) (total limit : Nat) :
    Finding where
  code := Length.code
  rule := Length.ruleName
  severity := severity
  location := Length.reportLocation scope
  message := "`" ++ scope.declaration.name ++ "` has " ++ toString total ++
    " statements (max: " ++ toString limit ++ ")"
  suggestion := some { message := "Extract part of the body into well-named helper members" }

/-- The finding about a member with too many parameters. -/
def Arity.excess (severity : Severity) (declaration : Declaration) (symbol : MemberSymbol)
    (limit : Nat) : Finding where
  code := Arity.code
  rule := Arity.ruleName
  severity := severity
  location := declaration.location
  message := Arity.message
    (if Arity.isConstructor declaration symbol then "Constructor" else "Method") declaration.name
    (Arity.effectiveCount symbol.parameters)
    (symbol.parameters.length - Arity.effectiveCount symbol.parameters) limit
  suggestion := some { message := "Group related parameters into a type of their own" }

namespace Gauge

def rule (severity : Severity) : Gauge → DeclarationRule
  | .length builtin => Length.rule builtin severity
  | .nesting builtin => Nesting.rule builtin severity
  | .arity methods constructors => Arity.rule methods constructors severity

def ruleName : Gauge → String
  | .length _ => Length.ruleName
  | .nesting _ => Nesting.ruleName
  | .arity _ _ => Arity.ruleName

/-- The attributes that override the limit. -/
def overrides : Gauge → List String
  | .length _ => Length.maximum.overrides
  | .nesting _ => Nesting.maximum.overrides
  | .arity _ _ => Arity.overrides

/-- The option keys of the limits. -/
def keys : Gauge → List String
  | .length _ => [Length.maximum.key]
  | .nesting _ => [Nesting.maximum.key]
  | .arity _ _ => [Arity.methodMaximum.key, Arity.constructorMaximum.key]

/-- The limit that a declaration is held against; `none` if it is not measured. -/
def limit? (scope : DeclarationScope) : Gauge → Option Limit
  | .length builtin => scope.declaration.body.map fun _ => { Length.maximum with builtin }
  | .nesting builtin =>
    match scope.declaration.body with
    | some (.block _) => some { Nesting.maximum with builtin }
    | _ => none
  | .arity methods constructors =>
    if scope.declaration.name == "" then none
    else (scope.program.symbolOf? scope.declaration).map fun symbol =>
      if Arity.isConstructor scope.declaration symbol then
        { Arity.constructorMaximum with builtin := constructors }
      else
        { Arity.methodMaximum with builtin := methods }

/-- What is reported about a declaration whose limit is known. -/
def verdict (severity : Severity) (scope : DeclarationScope) (limit : Nat) :
    Gauge → Pass (List Finding)
  | .length _ => do
    match scope.declaration.body with
    | none => return []
    | some body =>
      let options ← Length.resolveOptions scope.file
      let total ← Length.count scope.program scope.id body options
      return if total ≤ limit then [] else [Length.excess severity scope total limit]
  | .nesting _ => do
    match scope.declaration.body with
    | some (.block block) =>
      let walked := Nesting.placedBlock 0 block
      Pass.checkEach walked
      return (walked.foldl (Nesting.logPlaced scope.declaration severity limit) {}).findings
    | _ => return []
  | .arity _ _ =>
    if scope.declaration.name == "" then return []
    else match scope.program.symbolOf? scope.declaration with
    | none => return []
    | some symbol =>
      return if Arity.effectiveCount symbol.parameters ≤ limit then []
        else [Arity.excess severity scope.declaration symbol limit]

variable (gauge : Gauge) (severity : Severity) (scope : DeclarationScope)

/-- A check finds the limit, if the declaration is measured at all, and goes by it. -/
theorem check_eq :
    (gauge.rule severity).check scope =
      match gauge.limit? scope with
      | none => pure []
      | some limit =>
        Setting.limit scope.file gauge.ruleName limit scope.declaration.attributes >>=
          fun resolved => gauge.verdict severity scope resolved.value := by
  cases gauge with
  | length builtin =>
      show Length.check builtin severity scope = _
      unfold Length.check limit? verdict
      cases scope.declaration.body with
      | none => rfl
      | some body =>
          dsimp only [Option.map_some]
          congr 1
          funext resolved
          congr 1
          funext options
          congr 1
          funext total
          split <;> rfl
  | nesting builtin =>
      show Nesting.check builtin severity scope = _
      unfold Nesting.check limit? verdict
      cases scope.declaration.body with
      | none => rfl
      | some body => cases body <;> rfl
  | arity methods constructors =>
      show Arity.check methods constructors severity scope = _
      unfold Arity.check limit? verdict
      dsimp only
      split
      · rfl
      · cases scope.program.symbolOf? scope.declaration with
        | none => rfl
        | some symbol =>
            dsimp only [Option.map_some]
            congr 1
            funext resolved
            split <;> rfl

variable {gauge scope}

theorem overrides_and_key_of_limit? {limit : Limit} (measured : gauge.limit? scope = some limit) :
    limit.overrides = gauge.overrides ∧ limit.key ∈ gauge.keys := by
  cases gauge with
  | length builtin =>
      obtain ⟨_, _, rfl⟩ := Option.map_eq_some_iff.mp measured
      exact ⟨rfl, List.mem_singleton_self _⟩
  | nesting builtin =>
      simp only [limit?] at measured
      split at measured
      · cases measured
        exact ⟨rfl, List.mem_singleton_self _⟩
      · cases measured
  | arity methods constructors =>
      simp only [limit?] at measured
      split at measured
      · cases measured
      · obtain ⟨symbol, _, rfl⟩ := Option.map_eq_some_iff.mp measured
        split
        · exact ⟨rfl, List.mem_cons_of_mem _ (List.mem_singleton_self _)⟩
        · exact ⟨rfl, List.mem_cons_self⟩

theorem verdict_of_unmeasured (unmeasured : gauge.limit? scope = none) (limit : Nat) :
    gauge.verdict severity scope limit = pure [] := by
  cases gauge with
  | length builtin =>
      unfold verdict
      rw [Option.map_eq_none_iff.mp unmeasured]
  | nesting builtin =>
      simp only [limit?] at unmeasured
      simp only [verdict]
      split at unmeasured
      · cases unmeasured
      · rfl
  | arity methods constructors =>
      simp only [limit?] at unmeasured
      simp only [verdict]
      split at unmeasured
      · next unnamed => rw [if_pos unnamed]
      · next named => rw [if_neg named, Option.map_eq_none_iff.mp unmeasured]

/-- The measures of a rule are taken without a look at its limits. -/
theorem asksOnly_verdict (limit : Nat) :
    (gauge.verdict severity scope limit).AsksOnly fun request => request.key ∉ gauge.keys := by
  cases gauge with
  | length builtin =>
      unfold verdict
      cases scope.declaration.body with
      | none => exact Pass.asksOnly_pure _
      | some body =>
          have options : (Length.resolveOptions scope.file).AsksOnly
              fun request => request.key ∉ [Length.maximum.key] := by
            apply (Setting.asksOnly_flag_of_allowed (by simp [Length.maximum]) true).bind
            intro guards
            apply (Setting.asksOnly_flag_of_allowed (by simp [Length.maximum]) true).bind
            intro logging
            apply (Setting.asksOnly_text_of_allowed (by simp [Length.maximum])
              Length.defaultLoggerTypes).bind
            intro loggers
            exact Pass.asksOnly_pure _
          apply options.bind
          intro options
          apply ((Pass.asksOnly_checkEach _).bind fun _ => Pass.asksOnly_pure _).bind
          intro total
          exact Pass.asksOnly_pure _
  | nesting builtin =>
      simp only [verdict]
      split
      · exact (Pass.asksOnly_checkEach _).bind fun _ => Pass.asksOnly_pure _
      · exact Pass.asksOnly_pure _
  | arity methods constructors =>
      simp only [verdict]
      split
      · exact Pass.asksOnly_pure _
      · split <;> exact Pass.asksOnly_pure _

section Override

variable {first : Attribute} {count : Nat}

/-- With a valid override, a check is the verdict on its count. -/
theorem check_of_override
    (found : Attribute.find? gauge.overrides scope.declaration.attributes = some first)
    (value : first.count? = some count) :
    (gauge.rule severity).check scope = gauge.verdict severity scope count := by
  rw [check_eq]
  cases measured : gauge.limit? scope with
  | none => exact (verdict_of_unmeasured severity measured count).symm
  | some limit =>
      have overridden : Setting.overrideCount? limit.overrides scope.declaration.attributes =
          some count := by
        rw [(overrides_and_key_of_limit? measured).1, Setting.overrideCount?_eq_bind, found]
        exact value
      dsimp only
      rw [Setting.limit_eq_limitOf, overridden]
      rfl

end Override

section Consulted

variable {answer : SettingRequest → Option String}

/-- A check that asks for a limit has found no valid override, and asks for the limit
of the declaration. -/
theorem exists_limit_of_mem_asked {request : SettingRequest}
    (consulted : request ∈ ((gauge.rule severity).check scope).asked answer)
    (threshold : request.key ∈ gauge.keys) :
    ∃ limit, gauge.limit? scope = some limit ∧
      Setting.overrideCount? limit.overrides scope.declaration.attributes = none ∧
      request = { file := scope.file, rule := gauge.ruleName, key := limit.key } := by
  rw [check_eq] at consulted
  cases measured : gauge.limit? scope with
  | none =>
      rw [measured] at consulted
      cases consulted
  | some limit =>
      rw [measured] at consulted
      dsimp only at consulted
      refine ⟨limit, rfl, ?_⟩
      rw [Setting.limit_eq_limitOf] at consulted
      rcases Pass.mem_asked_bind.mp consulted with sought | ⟨resolved, _, judged⟩
      · cases overridden : Setting.overrideCount? limit.overrides
          scope.declaration.attributes with
        | none =>
            rw [overridden] at sought
            exact ⟨rfl, Setting.mem_asked_fileCount.mp sought⟩
        | some count =>
            rw [overridden] at sought
            cases sought
      · exact absurd threshold ((asksOnly_verdict severity resolved.value).of_mem_asked judged)

theorem mem_asked_of_unoverridden {limit : Limit} (measured : gauge.limit? scope = some limit)
    (unoverridden : Attribute.find? gauge.overrides scope.declaration.attributes = none) :
    { file := scope.file, rule := gauge.ruleName, key := limit.key } ∈
      ((gauge.rule severity).check scope).asked answer := by
  have none : Setting.overrideCount? limit.overrides scope.declaration.attributes = none := by
    rw [(overrides_and_key_of_limit? measured).1, Setting.overrideCount?_eq_bind, unoverridden]
    rfl
  rw [check_eq, measured]
  dsimp only
  rw [Pass.mem_asked_bind, Setting.limit_eq_limitOf, none]
  exact .inl (Setting.mem_asked_fileCount.mpr rfl)

end Consulted

variable (gauge scope)

/-- A valid override shields a declaration from the limits that are set for its file:
the check is the verdict on the count of the override, and it ends alike for any two
hosts that differ in the limits of the rule only, malformed ones included.  Without
an override, a declaration that is measured makes the check ask for its limit, and a
limit that is asked for and that is no count makes the check fail. -/
theorem override_shields_from_file :
    (∀ first count, Attribute.find? gauge.overrides scope.declaration.attributes = some first →
      first.count? = some count →
      (gauge.rule severity).check scope = gauge.verdict severity scope count ∧
      ∀ answer other token,
        (∀ request : SettingRequest, request.key ∉ gauge.keys → answer request = other request) →
        ((gauge.rule severity).check scope).under answer token =
          ((gauge.rule severity).check scope).under other token) ∧
    (∀ limit answer, gauge.limit? scope = some limit →
      Attribute.find? gauge.overrides scope.declaration.attributes = none →
      { file := scope.file, rule := gauge.ruleName, key := limit.key } ∈
        ((gauge.rule severity).check scope).asked answer) ∧
    ∀ answer request raw token, request ∈ ((gauge.rule severity).check scope).asked answer →
      request.key ∈ gauge.keys → answer request = some raw →
      (¬ ∃ value, Setting.Spells raw value) →
      ((gauge.rule severity).check scope).under answer token =
        .failed { request, shape := .count, value := raw } := by
  refine ⟨?shielded, ?consulted, ?malformed⟩
  case shielded =>
    intro first count found value
    have judged := check_of_override severity found value
    refine ⟨judged, ?_⟩
    intro answer other token agree
    rw [judged]
    exact (asksOnly_verdict severity count).under_congr agree token
  case consulted =>
    intro limit answer measured unoverridden
    exact mem_asked_of_unoverridden severity measured unoverridden
  case malformed =>
    intro answer request raw token consulted threshold given malformed
    obtain ⟨limit, measured, unoverridden, rfl⟩ :=
      exists_limit_of_mem_asked severity consulted threshold
    rw [check_eq, measured]
    dsimp only
    rw [Setting.limit_eq_limitOf, unoverridden]
    exact Setting.under_fileCount_bind given (Setting.count?_eq_none_iff.mpr malformed) token

/-! ### A method with too many parameters -/

def copySymbol : MemberSymbol :=
  { name := "Copy"
    parameters := ["source", "target", "size"].map fun name => { name, typeName := "long" } }

/-- A method with three parameters and such attributes. -/
def copyScope (marks : List Attribute) : DeclarationScope :=
  let declaration : Declaration :=
    { name := "Copy", kind := .method, symbol := some ⟨0⟩, file := ⟨"Files.cs"⟩
      attributes := marks }
  { program := { members := [copySymbol], declarations := [declaration] }
    id := ⟨0⟩, declaration, file := ⟨"Files.cs"⟩ }

def copyCheck (marks : List Attribute) : Pass (List Finding) :=
  ((arity 4 4).rule .warning).check (copyScope marks)

def roomForTwo : Attribute := Attribute.withArgument { name := "MaxParameters" } (.int 2)

/-- A host for which the limit of methods is no count. -/
def withoutCount (request : SettingRequest) : Option String :=
  if request.key = Arity.methodMaximum.key then some "many" else none

theorem override_shields_from_file_malformed :
    (∃ findings, (copyCheck [roomForTwo]).under withoutCount .never = .done findings ∧
      findings.map Finding.message = ["Method `Copy` has 3 parameters (max: 2)"]) ∧
    (copyCheck [roomForTwo]).under withoutCount .never =
      (copyCheck [roomForTwo]).under (fun _ => none) .never ∧
    (copyCheck []).under withoutCount .never =
      .failed { request := ⟨⟨"Files.cs"⟩, "parameter-count", "max_method_parameter_count"⟩
                shape := .count, value := "many" } := by
  obtain ⟨shielded, _, _⟩ :=
    override_shields_from_file (arity 4 4) .warning (copyScope [roomForTwo])
  obtain ⟨judged, alike⟩ := shielded roomForTwo 2 rfl rfl
  obtain ⟨_, consulted, malformed⟩ :=
    override_shields_from_file (arity 4 4) .warning (copyScope [])
  refine ⟨?found, ?same, ?failed⟩
  case found =>
    refine ⟨[Arity.excess .warning (copyScope [roomForTwo]).declaration copySymbol 2], ?_, rfl⟩
    show Pass.under _ _ (((arity 4 4).rule .warning).check (copyScope [roomForTwo])) = _
    rw [judged]
    rfl
  case same =>
    apply alike
    intro request untouched
    apply if_neg
    intro same
    exact untouched (same ▸ List.mem_cons_self)
  case failed =>
    apply malformed _ _ _ _ (consulted _ _ rfl rfl) List.mem_cons_self rfl
    exact Setting.count?_eq_none_iff.mp rfl

end Gauge

end StructureLint
