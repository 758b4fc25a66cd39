import StructureLint.Proofs.FindingLog
import StructureLint.Proofs.Pass
import StructureLint.Proofs.Program.Numbering
import StructureLint.Proofs.Syntax.Nodes
import StructureLint.Rule.Nesting

/-!
Contract: the depth of a construct in terms of what encloses it.

The walk carries a level down the syntax.  Here the level is read off the place
of a statement instead: its depth is one more than the number of enclosing
constructs, an `if` that continues another one not counted.

Owns:
- the places of statements below a block, with the places around each;
- constructs with their depths;
- the findings of the rule as the constructs beyond the limit.

Does not own: how the limit is resolved.
-/

namespace StructureLint

/-- The statements directly at a node: a statement itself, those of a block. -/
def Visit.directStmts : Visit → List Stmt
  | .stmt visited => [visited]
  | .block visited => visited.stmts
  | _ => []

theorem Visit.flatMap_directStmts_sublist (node : Visit) :
    (node.directStmts.flatMap Stmt.visits).Sublist node.visits := by
  cases node with
  | stmt visited => simp [directStmts, visits]
  | block visited =>
      cases visited
      simp [directStmts, visits, Block.visits, Block.stmts, Stmt.visitsAll_eq_flatMap]
  | _ => simp [directStmts]

namespace Nesting

/-- A statement at its place: `isElse` holds directly behind the `else` of an `if`. -/
structure Site where
  stmt : Stmt
  isElse : Bool

def Site.plain (stmt : Stmt) : Site :=
  { stmt, isElse := false }

def Site.alternative (stmt : Stmt) : Site :=
  { stmt, isElse := true }

/-- The places directly below a statement, in source order.  Only statements and
blocks are entered: what stands in an expression has no place. -/
def parts : StmtKind → List Site
  | .branch _ thenBranch elseBranch =>
    .plain thenBranch :: elseBranch.toList.map .alternative
  | kind => (kind.children.flatMap Visit.directStmts).map .plain

theorem map_stmt_parts (kind : StmtKind) :
    (parts kind).map Site.stmt = kind.children.flatMap Visit.directStmts := by
  have plainStmt : Site.stmt ∘ Site.plain = id := rfl
  cases kind with
  | branch condition thenBranch elseBranch =>
      cases elseBranch <;>
        simp [parts, StmtKind.children, Visit.directStmts, Site.plain, Site.alternative]
  | _ => simp [parts, plainStmt]

/-- What stands at the places below a statement is visited below it, in that order. -/
theorem flatMap_parts_sublist (kind : StmtKind) :
    ((parts kind).flatMap fun part => part.stmt.visits).Sublist kind.visits := by
  have forget : ((parts kind).flatMap fun part => part.stmt.visits) =
      kind.children.flatMap fun child => child.directStmts.flatMap Stmt.visits := by
    rw [← List.flatMap_assoc, ← map_stmt_parts, List.flatMap_map]
  rw [forget, kind.visits_eq_flatMap]
  exact List.Sublist.flatMap_right _ fun child _ => child.flatMap_directStmts_sublist

theorem length_visits_lt_of_mem_parts {site part : Site} (member : part ∈ parts site.stmt.kind) :
    part.stmt.visits.length < site.stmt.visits.length := by
  have below : part.stmt.visits.Sublist site.stmt.kind.visits :=
    (List.sublist_flatten_of_mem (List.mem_map_of_mem member)).trans
      (flatMap_parts_sublist site.stmt.kind)
  obtain ⟨⟨id, span, kind⟩, isElse⟩ := site
  exact Nat.lt_succ_of_le below.length_le

@[elab_as_elim]
theorem Site.induction {motive : Site → Prop}
    (step : ∀ site, (∀ part ∈ parts site.stmt.kind, motive part) → motive site) (site : Site) :
    motive site :=
  step site fun part _ => Site.induction step part
termination_by site.stmt.visits.length
decreasing_by exact length_visits_lt_of_mem_parts ‹_›

/-! ## Constructs and their depths -/

/-- The statement is an `if` directly behind the `else` of another one. -/
def Site.continuesIf (site : Site) : Bool :=
  site.isElse && match site.stmt.kind with
    | .branch _ _ _ => true
    | _ => false

/-- The name of the construct at a place; an `if` that continues another one is
part of that one. -/
def Site.construct? (site : Site) : Option String :=
  if site.continuesIf then none else constructName? site.stmt.kind

def Site.opens (site : Site) : Bool :=
  site.construct?.isSome

/-- A place with the places around it, innermost first. -/
structure Occurrence where
  site : Site
  around : List Site

/-- One plus the number of enclosing constructs. -/
def Occurrence.depth (occurrence : Occurrence) : Nat :=
  occurrence.around.countP Site.opens + 1

/-- A place and every place below it, in source order, parents first. -/
def occurrences (around : List Site) (site : Site) : List Occurrence :=
  { site, around } ::
    (parts site.stmt.kind).attach.flatMap fun part => occurrences (site :: around) part.1
termination_by site.stmt.visits.length
decreasing_by exact length_visits_lt_of_mem_parts part.2

theorem occurrences_eq (around : List Site) (site : Site) :
    occurrences around site =
      { site, around } :: (parts site.stmt.kind).flatMap (occurrences (site :: around)) := by
  rw [occurrences, List.flatMap_subtype fun _ _ => rfl, List.unattach_attach]

def blockOccurrences (block : Block) : List Occurrence :=
  block.stmts.flatMap fun stmt => occurrences [] (.plain stmt)

structure Construct where
  stmt : Stmt
  name : String
  depth : Nat

def Occurrence.toConstruct? (occurrence : Occurrence) : Option Construct :=
  occurrence.site.construct?.map fun name =>
    { stmt := occurrence.site.stmt, name, depth := occurrence.depth }

/-- The constructs in a block, in source order. -/
def constructs (block : Block) : List Construct :=
  (blockOccurrences block).filterMap Occurrence.toConstruct?

/-! ## The walk -/

def placedSite (depth : Nat) (site : Site) : List Placed :=
  if site.isElse then placedElse depth (some site.stmt) else placedStmt depth site.stmt

theorem placedStmts_eq_flatMap (depth : Nat) (stmts : List Stmt) :
    placedStmts depth stmts = stmts.flatMap (placedStmt depth) := by
  induction stmts with
  | nil => rfl
  | cons stmt rest inductionHypothesis =>
      rw [placedStmts, inductionHypothesis, List.flatMap_cons]

theorem placedBlock_eq_flatMap (depth : Nat) (block : Block) :
    placedBlock depth block = block.stmts.flatMap (placedStmt depth) := by
  cases block
  rw [placedBlock, placedStmts_eq_flatMap, Block.stmts]

theorem placedBlocks_eq_flatMap (depth : Nat) (blocks : List Block) :
    placedBlocks depth blocks = (blocks.flatMap Block.stmts).flatMap (placedStmt depth) := by
  induction blocks with
  | nil => rfl
  | cons block rest inductionHypothesis =>
      rw [placedBlocks, inductionHypothesis, placedBlock_eq_flatMap, List.flatMap_cons,
        List.flatMap_append]

theorem placedSections_eq_flatMap (depth : Nat) (sections : List SwitchSection) :
    placedSections depth sections =
      (sections.flatMap SwitchSection.stmts).flatMap (placedStmt depth) := by
  induction sections with
  | nil => rfl
  | cons first rest inductionHypothesis =>
      cases first
      rw [placedSections, inductionHypothesis, placedSection, placedStmts_eq_flatMap,
        List.flatMap_cons, List.flatMap_append, SwitchSection.stmts]

@[simp] theorem placedSite_plain (depth : Nat) (stmt : Stmt) :
    placedSite depth (.plain stmt) = placedStmt depth stmt :=
  rfl

@[simp] theorem placedSite_alternative (depth : Nat) (stmt : Stmt) :
    placedSite depth (.alternative stmt) = placedElse depth (some stmt) :=
  rfl

private theorem placedElse_eq_flatMap (depth : Nat) (elseBranch : Option Stmt) :
    placedElse depth elseBranch =
      (elseBranch.toList.map Site.alternative).flatMap (placedSite depth) := by
  cases elseBranch <;> simp [placedElse]

private theorem placedFinalizer_eq_flatMap (depth : Nat) (finalizer : Option Block) :
    placedFinalizer depth finalizer =
      (finalizer.toList.flatMap Block.stmts).flatMap (placedStmt depth) := by
  cases finalizer <;> simp [placedFinalizer, placedBlock_eq_flatMap]

private theorem flatMap_directStmts_children (entry : SwitchSection) :
    entry.children.flatMap Visit.directStmts = entry.stmts := by
  simp [SwitchSection.children, List.flatMap_map, Visit.directStmts]

theorem flatMap_placedSite_branch (depth : Nat) (condition : Expr) (thenBranch : Stmt)
    (elseBranch : Option Stmt) :
    (parts (.branch condition thenBranch elseBranch)).flatMap (placedSite depth) =
      placedStmt depth thenBranch ++ placedElse depth elseBranch := by
  rw [parts, List.flatMap_cons, placedSite_plain, placedElse_eq_flatMap]

/-- Below a statement the walk goes from place to place, one level deeper if the
statement is a construct. -/
theorem placedBelow_eq_flatMap (depth : Nat) (kind : StmtKind) :
    placedBelow depth kind = (parts kind).flatMap
      (placedSite (if (constructName? kind).isSome then depth + 1 else depth)) := by
  cases kind with
  | branch condition thenBranch elseBranch =>
      rw [flatMap_placedSite_branch]
      rfl
  | switch subject sections =>
      simp [placedBelow, parts, constructName?, StmtKind.children, List.flatMap_map,
        Visit.directStmts, placedSections_eq_flatMap, List.flatMap_assoc,
        flatMap_directStmts_children]
  | _ =>
      simp [placedBelow, parts, constructName?, StmtKind.children, List.flatMap_map,
        Visit.directStmts, placedBlock_eq_flatMap, placedBlocks_eq_flatMap,
        placedFinalizer_eq_flatMap]

/-- An `if` that continues another one is passed over: what is below it is walked
at the level of that one. -/
theorem placedSite_of_continuesIf {site : Site} (depth : Nat) (continues : site.continuesIf) :
    placedSite depth site = (parts site.stmt.kind).flatMap (placedSite depth) := by
  obtain ⟨⟨id, span, kind⟩, isElse⟩ := site
  cases isElse with
  | false => cases continues
  | true =>
      cases kind with
      | branch condition thenBranch elseBranch =>
          rw [Stmt.kind, flatMap_placedSite_branch]
          rw [placedSite, if_pos rfl, placedElse]
      | _ => cases continues

theorem placedSite_of_not_continuesIf {site : Site} (depth : Nat)
    (leads : site.continuesIf = false) :
    placedSite depth site = { stmt := site.stmt, depth } ::
      (parts site.stmt.kind).flatMap
        (placedSite (if site.opens then depth + 1 else depth)) := by
  have opened : site.opens = (constructName? site.stmt.kind).isSome := by
    simp [Site.opens, Site.construct?, leads]
  have walked : placedSite depth site = placedStmt depth site.stmt := by
    obtain ⟨⟨id, span, kind⟩, isElse⟩ := site
    cases isElse with
    | false => rfl
    | true =>
        cases kind with
        | branch condition thenBranch elseBranch => cases leads
        | _ => rfl
  rw [walked, opened, ← placedBelow_eq_flatMap]
  obtain ⟨⟨id, span, kind⟩, isElse⟩ := site
  rfl

/-- The walked statement at a place; one that continues an `if` is not walked. -/
def Occurrence.placed? (occurrence : Occurrence) : Option Placed :=
  if occurrence.site.continuesIf then none
  else some { stmt := occurrence.site.stmt, depth := occurrence.around.countP Site.opens }

/-- The walk meets the places in order, each at the number of constructs around it. -/
theorem placedSite_eq_filterMap (around : List Site) (site : Site) :
    placedSite (around.countP Site.opens) site =
      (occurrences around site).filterMap Occurrence.placed? := by
  induction site using Site.induction generalizing around with
  | step site inductionHypothesis =>
      have below (level : Nat) (enclosed : (site :: around).countP Site.opens = level) :
          (parts site.stmt.kind).flatMap (placedSite level) =
            ((parts site.stmt.kind).flatMap (occurrences (site :: around))).filterMap
              Occurrence.placed? := by
        rw [← enclosed, List.filterMap_flatMap]
        apply List.flatMap_congr
        intro part member
        exact inductionHypothesis part member (site :: around)
      rw [occurrences_eq]
      by_cases continues : site.continuesIf
      · have closed : ¬ site.opens := by simp [Site.opens, Site.construct?, continues]
        rw [placedSite_of_continuesIf _ continues,
          List.filterMap_cons_none (by simp [Occurrence.placed?, continues])]
        exact below _ (List.countP_cons_of_neg closed)
      · have leads : site.continuesIf = false := by simpa using continues
        rw [placedSite_of_not_continuesIf _ leads,
          List.filterMap_cons_some (by rw [Occurrence.placed?, if_neg continues])]
        congr 1
        apply below
        rw [List.countP_cons]
        split <;> rfl

theorem placedBlock_eq_filterMap (block : Block) :
    placedBlock 0 block = (blockOccurrences block).filterMap Occurrence.placed? := by
  rw [placedBlock_eq_flatMap, blockOccurrences, List.filterMap_flatMap]
  apply List.flatMap_congr
  intro stmt _
  exact placedSite_eq_filterMap [] (.plain stmt)

/-! ## Order and identity -/

theorem map_occurrences_sublist (around : List Site) (site : Site) :
    ((occurrences around site).map fun occurrence => Visit.stmt occurrence.site.stmt).Sublist
      site.stmt.visits := by
  induction site using Site.induction generalizing around with
  | step site inductionHypothesis =>
      have entered : site.stmt.visits = .stmt site.stmt :: site.stmt.kind.visits := by
        obtain ⟨⟨id, span, kind⟩, isElse⟩ := site
        rfl
      rw [occurrences_eq, List.map_cons, List.map_flatMap, entered]
      refine List.Sublist.cons_cons _ (List.Sublist.trans ?_ (flatMap_parts_sublist _))
      apply List.Sublist.flatMap_right
      intro part member
      exact inductionHypothesis part member (site :: around)

theorem map_constructs_sublist (block : Block) :
    ((constructs block).map fun construct => Visit.stmt construct.stmt).Sublist block.visits := by
  have placed : ((constructs block).map fun construct => Visit.stmt construct.stmt).Sublist
      ((blockOccurrences block).map fun occurrence => Visit.stmt occurrence.site.stmt) := by
    rw [constructs]
    induction blockOccurrences block with
    | nil => exact .slnil
    | cons occurrence rest inductionHypothesis =>
        cases found : occurrence.site.construct? with
        | none =>
            rw [List.filterMap_cons_none (by rw [Occurrence.toConstruct?, found]; rfl)]
            exact inductionHypothesis.cons _
        | some name =>
            rw [List.filterMap_cons_some (by rw [Occurrence.toConstruct?, found]; rfl)]
            exact inductionHypothesis.cons_cons _
  have inside : ((blockOccurrences block).map fun occurrence =>
      Visit.stmt occurrence.site.stmt).Sublist (Stmt.visitsAll block.stmts) := by
    rw [blockOccurrences, List.map_flatMap, Stmt.visitsAll_eq_flatMap]
    apply List.Sublist.flatMap_right
    intro stmt _
    exact map_occurrences_sublist [] (.plain stmt)
  obtain ⟨id, span, stmts⟩ := block
  exact (placed.trans inside).cons _

/-- A construct has a node number of its own if every node of its body has one. -/
theorem nodup_constructs_of_nodup_nodes {block : Block}
    (distinct : (Visit.nodes block.visits).Nodup) :
    ((constructs block).map fun construct => construct.stmt.id).Nodup := by
  have sublist := (map_constructs_sublist block).filterMap Visit.node?
  have ids : ((constructs block).map fun construct => Visit.stmt construct.stmt).filterMap
      Visit.node? = (constructs block).map fun construct => construct.stmt.id := by
    rw [List.filterMap_map]
    exact congrFun List.filterMap_eq_map (constructs block)
  rw [ids] at sublist
  exact distinct.sublist sublist

/-! ## The rule -/

def Construct.entry (declaration : Declaration) (severity : Severity) (limit : Nat)
    (construct : Construct) : FindingLog.Entry :=
  { anchor := .node construct.stmt.id
    kind := "depth"
    finding := finding declaration severity limit construct.stmt construct.name construct.depth }

def Placed.logged? (declaration : Declaration) (severity : Severity) (limit : Nat)
    (placed : Placed) : Option FindingLog.Entry :=
  (constructName? placed.stmt.kind).bind fun name =>
    if placed.depth + 1 ≤ limit then none
    else some (Construct.entry declaration severity limit
      { stmt := placed.stmt, name, depth := placed.depth + 1 })

theorem filterMap_logged?_placedBlock (declaration : Declaration) (severity : Severity)
    (limit : Nat) (block : Block) :
    (placedBlock 0 block).filterMap (Placed.logged? declaration severity limit) =
      ((constructs block).filter fun construct => limit < construct.depth).map
        (Construct.entry declaration severity limit) := by
  rw [placedBlock_eq_filterMap, constructs, List.filterMap_filterMap, List.filter_filterMap,
    List.map_filterMap]
  congr 1
  funext occurrence
  unfold Occurrence.placed? Occurrence.toConstruct? Site.construct?
  by_cases continues : occurrence.site.continuesIf
  · rw [if_pos continues, if_pos continues]
    rfl
  · rw [if_neg continues, if_neg continues]
    cases named : constructName? occurrence.site.stmt.kind with
    | none => simp [Placed.logged?, named]
    | some name =>
        unfold Occurrence.depth
        by_cases shallow : occurrence.around.countP Site.opens + 1 ≤ limit
        · simp [Placed.logged?, named, shallow, Option.filter, Nat.not_lt.mpr shallow]
        · simp [Placed.logged?, named, shallow, Option.filter, Nat.not_le.mp shallow]

theorem logPlaced_eq_elim (declaration : Declaration) (severity : Severity) (limit : Nat)
    (log : FindingLog) (placed : Placed) :
    logPlaced declaration severity limit log placed =
      (placed.logged? declaration severity limit).elim log log.addEntry := by
  unfold logPlaced Placed.logged?
  cases constructName? placed.stmt.kind with
  | none => rfl
  | some name =>
      by_cases shallow : placed.depth + 1 ≤ limit
      · simp [shallow]
      · simp [shallow, Construct.entry, FindingLog.addEntry]

/-- If every node of the block has a number of its own, no finding is dropped. -/
theorem findings_foldl_logPlaced {block : Block} (distinct : (Visit.nodes block.visits).Nodup)
    (declaration : Declaration) (severity : Severity) (limit : Nat) :
    ((placedBlock 0 block).foldl (logPlaced declaration severity limit) {}).findings =
      ((constructs block).filter fun construct => limit < construct.depth).map fun construct =>
        finding declaration severity limit construct.stmt construct.name construct.depth := by
  have keys : ((((constructs block).filter fun construct => limit < construct.depth).map
      (Construct.entry declaration severity limit)).map FindingLog.Entry.key).Nodup := by
    rw [List.map_map]
    have anchors := ((nodup_constructs_of_nodup_nodes distinct).of_map _).filter
      fun construct => decide (limit < construct.depth)
    refine List.Nodup.map_on ?_ anchors
    intro first firstMember second secondMember same
    have sameId : first.stmt.id = second.stmt.id := by
      simpa [FindingLog.Entry.key, Construct.entry] using same
    exact List.inj_on_of_nodup_map (nodup_constructs_of_nodup_nodes distinct)
      (List.mem_of_mem_filter firstMember) (List.mem_of_mem_filter secondMember) sameId
  rw [← filterMap_logged?_placedBlock] at keys
  rw [FindingLog.findings_foldl (Placed.logged? declaration severity limit)
    (logPlaced_eq_elim declaration severity limit) keys, filterMap_logged?_placedBlock,
    List.map_map]
  rfl

/-- In a normalized program, the rule reports every construct of a block body
that is nested deeper than the limit, once, in source order, with its own name
and depth; and nothing else. -/
theorem check_eq_map_constructs {program normalized : Program}
    (accepted : program.normalize = .ok normalized)
    (countable : program.nodes.length < UInt32.size)
    (scope : DeclarationScope) (declared : scope.declaration ∈ normalized.declarations)
    {block : Block} (bodied : scope.declaration.body = some (.block block))
    (builtin : Nat) (severity : Severity) (answer : SettingRequest → Option String) :
    (check builtin severity scope).run answer =
        ((Setting.limit scope.file ruleName { maximum with builtin }
          scope.declaration.attributes).run answer).map (fun limit =>
            ((constructs block).filter fun construct => limit.value < construct.depth).map
              fun construct => finding scope.declaration severity limit.value construct.stmt
                construct.name construct.depth) ∧
      ((constructs block).map fun construct => construct.stmt.id).Nodup ∧
      ((constructs block).map fun construct => Visit.stmt construct.stmt).Sublist
        block.visits := by
  have distinct : (Visit.nodes block.visits).Nodup := by
    have sublist : scope.declaration.nodes.Sublist normalized.nodes :=
      List.sublist_flatten_of_mem (List.mem_map_of_mem declared)
    have shown : scope.declaration.nodes = Visit.nodes block.visits := by
      simp [Declaration.nodes, bodied, Body.visits]
    rw [← shown]
    exact (Program.nodup_nodes_of_normalize accepted countable).sublist sublist
  refine ⟨?_, nodup_constructs_of_nodup_nodes distinct, map_constructs_sublist block⟩
  rw [check, bodied]
  simp only [Pass.run_bind, Pass.run_checkEach, Pass.run_pure,
    findings_foldl_logPlaced distinct]
  rfl

/-- A loop behind an `else if`, and a `try` in the loop. -/
def chainedChoices : Program :=
  let handled : Stmt := .ofKind (.tryCatch (.ofStmts []) [] none)
  let loop : Stmt := .ofKind (.whileLoop (.ofKind (.identifier "more")) handled)
  let second : Stmt := .ofKind (.branch (.ofKind (.identifier "second")) loop none)
  let first : Stmt :=
    .ofKind (.branch (.ofKind (.identifier "first")) (.ofKind .empty) (some second))
  { declarations := [
      { name := "Run", kind := .method, file := ⟨"Run.cs"⟩
        body := some (.block (.ofStmts [first])) }] }

theorem check_chainedChoices :
    ∃ normalized, chainedChoices.normalize = .ok normalized ∧
      chainedChoices.nodes.length < UInt32.size ∧
      ∃ declaration ∈ normalized.declarations, ∃ block, declaration.body = some (.block block) ∧
        ∃ findings, (check 2 .warning
          { program := normalized, id := ⟨0⟩, declaration, file := declaration.file }).run
            (fun _ => none) = .ok findings ∧
          findings.map Finding.message =
            ["`try` statement is nested 3 levels deep (max: 2)"] := by
  have accepted : chainedChoices.normalize = .ok _ := rfl
  have countable : chainedChoices.nodes.length < UInt32.size := by decide
  refine ⟨_, accepted, countable, _, List.mem_cons_self, _, rfl, _,
    (check_eq_map_constructs accepted countable _ List.mem_cons_self rfl 2 .warning
      fun _ => none).1, ?_⟩
  simp [constructs, blockOccurrences, occurrences_eq, parts, Site.plain, Site.alternative,
    Stmt.kind, Block.stmts, StmtKind.children, Visit.directStmts, Occurrence.toConstruct?,
    Site.construct?, Site.continuesIf, constructName?, Occurrence.depth, Site.opens]
  rfl
end Nesting

end StructureLint
