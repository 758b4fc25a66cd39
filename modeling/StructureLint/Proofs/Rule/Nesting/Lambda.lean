import StructureLint.Proofs.Program.References
import StructureLint.Proofs.Rule.Nesting

/-!
Contract: the rule about nesting and lambdas.

The walk goes through statements and blocks and enters no expression, and a lambda
has no declaration of its own that the rule would be asked about.  In a body whose
nodes are numbered apart, what stands in an expression is therefore never reported,
however deep it is nested there.

Owns:
- statements that are reached without entering an expression;
- numbers of such statements and numbers inside of expressions;
- what the rule leaves out of its findings.

Does not own: how deep a construct is nested.
-/

namespace StructureLint

/-! ## Statements and expressions -/

namespace Visit

/-- The statement is reached from the node without entering an expression. -/
inductive Walks : Visit → Stmt → Prop where
  | here (stmt : Stmt) : Walks (.stmt stmt) stmt
  | through {node child : Visit} {stmt : Stmt} (plain : node.expr? = none)
      (member : child ∈ node.children) (walks : Walks child stmt) : Walks node stmt

theorem Walks.contains {node : Visit} {stmt : Stmt} (walks : node.Walks stmt) :
    node.Contains (.stmt stmt) := by
  induction walks with
  | here stmt => exact .self _
  | through _ member _ inductionHypothesis => exact .inside member inductionHypothesis

theorem mem_nodes_of_contains {node other : Visit} {id : NodeId} (contained : node.Contains other)
    (numbered : other.node? = some id) : id ∈ nodes node.visits :=
  List.mem_filterMap.mpr ⟨other, mem_visits_iff_contains.mpr contained, numbered⟩

theorem nodes_visits (node : Visit) :
    nodes node.visits =
      node.node?.toList ++ node.children.flatMap fun child => nodes child.visits := by
  have below : nodes (node.children.flatMap visits) =
      node.children.flatMap fun child => nodes child.visits := by
    unfold nodes
    rw [List.filterMap_flatMap]
  rw [node.visits_eq_cons, ← below]
  unfold nodes
  cases numbered : node.node? with
  | none => rw [List.filterMap_cons_none numbered]; rfl
  | some id => rw [List.filterMap_cons_some numbered]; rfl

/-- The numbers below a node differ from its own and, child by child, from each other. -/
structure Apart (node : Visit) : Prop where
  own : ∀ id, node.node? = some id → ∀ child ∈ node.children, id ∉ nodes child.visits
  child : ∀ child ∈ node.children, (nodes child.visits).Nodup
  children : ∀ first ∈ node.children, ∀ second ∈ node.children, first ≠ second →
    (nodes first.visits).Disjoint (nodes second.visits)

theorem apart_of_nodup {node : Visit} (distinct : (nodes node.visits).Nodup) : node.Apart := by
  rw [nodes_visits] at distinct
  obtain ⟨_, below, disjoint⟩ := List.nodup_append'.mp distinct
  obtain ⟨each, pairwise⟩ := List.nodup_flatMap.mp below
  refine { own := ?own, child := each, children := ?children }
  case own =>
    intro id numbered child member listed
    refine disjoint (Option.mem_toList.mpr numbered) ?_
    exact List.mem_flatMap.mpr ⟨child, member, listed⟩
  case children =>
    have symmetric : Std.Symm
        (Function.onFun List.Disjoint fun child : Visit => nodes child.visits) :=
      ⟨fun _ _ apart => apart.symm⟩
    intro first firstMember second secondMember different
    exact pairwise.forall firstMember secondMember different

/-- No node inside of an expression has the number of a statement that is reached
without entering one. -/
theorem Walks.id_ne {node other : Visit} {stmt : Stmt} {expr : Expr} (walks : node.Walks stmt)
    (distinct : (nodes node.visits).Nodup) (inside : node.Contains (.expr expr))
    (below : (Visit.expr expr).Contains other) : other.node? ≠ some stmt.id := by
  -- Along the way to the statement: the expression is below the same child up to
  -- the node at which the ways part, and there the numbers of the children differ.
  intro numbered
  induction walks with
  | here stmt =>
      cases inside with
      | inside member contained =>
          have listed := mem_nodes_of_contains (contained.trans below) numbered
          exact (apart_of_nodup distinct).own stmt.id rfl _ member listed
  | @through node child stmt plain member walks inductionHypothesis =>
      cases inside with
      | self => cases plain
      | @inside _ second _ secondMember contained =>
          by_cases same : child = second
          · subst same
            exact inductionHypothesis ((apart_of_nodup distinct).child child member) contained
              numbered
          · have reached := mem_nodes_of_contains walks.contains rfl
            have hidden := mem_nodes_of_contains (contained.trans below) numbered
            exact (apart_of_nodup distinct).children child member second secondMember same
              reached hidden

end Visit

namespace Nesting

/-! ## Constructs -/

theorem walks_of_mem_directStmts {node : Visit} {stmt other : Stmt}
    (direct : stmt ∈ node.directStmts) (walks : (Visit.stmt stmt).Walks other) :
    node.Walks other := by
  cases node with
  | stmt visited =>
      rw [Visit.directStmts, List.mem_singleton] at direct
      rwa [← direct]
  | block visited => exact .through rfl (List.mem_map_of_mem direct) walks
  | body visited => cases direct
  | expr visited => cases direct
  | localFunction declaration => cases direct

theorem walks_of_mem_occurrences {around : List Site} {site : Site} {occurrence : Occurrence}
    (listed : occurrence ∈ occurrences around site) :
    (Visit.stmt site.stmt).Walks occurrence.site.stmt := by
  induction site using Site.induction generalizing around with
  | step site inductionHypothesis =>
      rw [occurrences_eq] at listed
      rcases List.mem_cons.mp listed with rfl | below
      · exact .here _
      · obtain ⟨part, member, found⟩ := List.mem_flatMap.mp below
        have direct : part.stmt ∈ site.stmt.kind.children.flatMap Visit.directStmts := by
          rw [← map_stmt_parts]
          exact List.mem_map_of_mem member
        obtain ⟨child, childMember, direct⟩ := List.mem_flatMap.mp direct
        exact .through rfl childMember
          (walks_of_mem_directStmts direct (inductionHypothesis part member found))

theorem walks_of_mem_constructs {block : Block} {construct : Construct}
    (listed : construct ∈ constructs block) : (Visit.block block).Walks construct.stmt := by
  obtain ⟨occurrence, found, named⟩ := List.mem_filterMap.mp listed
  obtain ⟨stmt, member, reached⟩ := List.mem_flatMap.mp found
  obtain ⟨name, _, rfl⟩ := Option.map_eq_some_iff.mp named
  exact .through rfl (List.mem_map_of_mem member) (walks_of_mem_occurrences reached)

/-- No construct of a lambda has the number of a construct around it. -/
theorem id_ne_of_lambda {block inner : Block} {expr : Expr}
    (distinct : (Visit.nodes block.visits).Nodup) (inside : .expr expr ∈ block.visits)
    (lambda : expr.kind = .lambda (.block inner)) {construct hidden : Construct}
    (listed : construct ∈ constructs block) (hiddenListed : hidden ∈ constructs inner) :
    hidden.stmt.id ≠ construct.stmt.id := by
  have entered : (Visit.expr expr).Contains (.block inner) := by
    have body : .body (.block inner) ∈ (Visit.expr expr).children := by
      simp [Visit.children, lambda, ExprKind.children]
    exact .inside body (.inside List.mem_cons_self (.self _))
  have below := entered.trans (walks_of_mem_constructs hiddenListed).contains
  intro same
  exact (walks_of_mem_constructs listed).id_ne distinct (Visit.mem_visits_iff_contains.mp inside)
    below (congrArg some same)

/-! ## The rule -/

theorem nodup_nodes_of_bodied {program normalized : Program}
    (accepted : program.normalize = .ok normalized)
    (countable : program.nodes.length < UInt32.size) {declaration : Declaration}
    (declared : declaration ∈ normalized.declarations) {block : Block}
    (bodied : declaration.body = some (.block block)) : (Visit.nodes block.visits).Nodup := by
  have inside : declaration.nodes.Sublist normalized.nodes :=
    List.sublist_flatten_of_mem (List.mem_map_of_mem declared)
  have shown : declaration.nodes = Visit.nodes block.visits := by
    simp [Declaration.nodes, bodied, Body.visits]
  rw [← shown]
  exact (Program.nodup_nodes_of_normalize accepted countable).sublist inside

/-- In a normalized program, the rule reports those constructs of a block body beyond
the limit that are reached without entering an expression.  None of them stands in
a lambda: no construct of any lambda in the body is reported, whatever its depth is
there. -/
theorem check_leaves_lambdas_out {program normalized : Program}
    (accepted : program.normalize = .ok normalized)
    (countable : program.nodes.length < UInt32.size)
    (scope : DeclarationScope) (declared : scope.declaration ∈ normalized.declarations)
    {block : Block} (bodied : scope.declaration.body = some (.block block))
    (builtin : Nat) (severity : Severity) (answer : SettingRequest → Option String) :
    (check builtin severity scope).run answer =
      ((Setting.limit scope.file ruleName { maximum with builtin }
        scope.declaration.attributes).run answer).map (fun limit =>
          ((constructs block).filter fun construct => limit.value < construct.depth).map
            fun construct => finding scope.declaration severity limit.value construct.stmt
              construct.name construct.depth) ∧
    (∀ construct ∈ constructs block, (Visit.block block).Walks construct.stmt) ∧
    ∀ (expr : Expr) (inner : Block), .expr expr ∈ block.visits →
      expr.kind = .lambda (.block inner) → ∀ hidden ∈ constructs inner,
        hidden.stmt.id ∉ (constructs block).map fun construct => construct.stmt.id := by
  have distinct := nodup_nodes_of_bodied accepted countable declared bodied
  refine ⟨?findings, fun _ => walks_of_mem_constructs, ?lambdas⟩
  case findings =>
    rw [check, bodied]
    simp only [Pass.run_bind, Pass.run_checkEach, Pass.run_pure,
      findings_foldl_logPlaced distinct]
    rfl
  case lambdas =>
    intro expr inner inside lambda hidden hiddenListed reported
    obtain ⟨construct, listed, same⟩ := List.mem_map.mp reported
    exact id_ne_of_lambda distinct inside lambda listed hiddenListed same.symm

/-- Three loops in each other, all of them in a lambda. -/
def loopsInLambda : Program :=
  let loop (body : Stmt) : Stmt := .ofKind (.whileLoop (.ofKind (.identifier "busy")) body)
  let lambda : Expr :=
    .ofKind (.lambda (.block (.ofStmts [loop (loop (loop (.ofKind .empty)))])))
  { declarations := [
      { name := "Run", kind := .method, file := ⟨"Run.cs"⟩
        body := some (.block (.ofStmts [.ofKind (.expression lambda)])) }] }

/-- The innermost loop is at level three, counted from the body of the lambda, and is
not reported although two levels are allowed. -/
theorem deep_loop_in_lambda_unreported :
    ∃ normalized declaration block expr inner, loopsInLambda.normalize = .ok normalized ∧
      declaration ∈ normalized.declarations ∧ declaration.body = some (.block block) ∧
      .expr expr ∈ block.visits ∧ expr.kind = .lambda (.block inner) ∧
      (∃ construct ∈ constructs inner, 2 < construct.depth) ∧
      ((Setting.limit declaration.file ruleName maximum declaration.attributes).run
        fun _ => none).map (fun limit => limit.value) = .ok 2 ∧
      (check 2 .warning
        { program := normalized, id := ⟨0⟩, declaration, file := declaration.file }).run
          (fun _ => none) = .ok [] := by
  refine ⟨_, _, _, _, _, rfl, List.mem_cons_self, rfl, .tail _ (.tail _ (.head _)), rfl, ?deep,
    rfl, rfl⟩
  case deep =>
    simp [constructs, blockOccurrences, occurrences_eq, parts, Site.plain, Stmt.kind, Block.stmts,
      StmtKind.children, Visit.directStmts, Occurrence.toConstruct?, Site.construct?,
      Site.continuesIf, constructName?, Occurrence.depth, Site.opens]

theorem check_leaves_lambdas_out_loopsInLambda :
    ∃ normalized, loopsInLambda.normalize = .ok normalized ∧
      loopsInLambda.nodes.length < UInt32.size ∧
      ∃ declaration ∈ normalized.declarations, ∃ block, declaration.body = some (.block block) ∧
        ∃ expr inner, .expr expr ∈ block.visits ∧ expr.kind = .lambda (.block inner) ∧
          (constructs inner).map (fun hidden => (hidden.name, hidden.depth)) =
            [("while", 1), ("while", 2), ("while", 3)] ∧
          ∀ hidden ∈ constructs inner,
            hidden.stmt.id ∉ (constructs block).map fun construct => construct.stmt.id := by
  have accepted : loopsInLambda.normalize = .ok _ := rfl
  have countable : loopsInLambda.nodes.length < UInt32.size := by decide
  have leaves := check_leaves_lambdas_out accepted countable
    { program := {}, id := ⟨0⟩, declaration := _, file := ⟨"Run.cs"⟩ } List.mem_cons_self rfl 2
    .warning fun _ => none
  refine ⟨_, accepted, countable, _, List.mem_cons_self, _, rfl, _, _, .tail _ (.tail _ (.head _)),
    rfl, ?_, leaves.2.2 _ _ (.tail _ (.tail _ (.head _))) rfl⟩
  simp [constructs, blockOccurrences, occurrences_eq, parts, Site.plain, Stmt.kind, Block.stmts,
    StmtKind.children, Visit.directStmts, Occurrence.toConstruct?, Site.construct?,
    Site.continuesIf, constructName?, Occurrence.depth, Site.opens]

end Nesting

end StructureLint
