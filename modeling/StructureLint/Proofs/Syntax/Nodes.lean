import Mathlib
import StructureLint.Syntax.Visit

/-!
Contract: syntax as one tree of nodes.

Bodies, blocks, statements and expressions are defined by mutual recursion.
Here they are one tree: `children` names what stands directly below a node, and
the visits of a node are the node followed by the visits of its children.  What
holds of a node because it holds of its children needs one induction.

Owns:
- the children of a node and the nodes it contains;
- the sum of a weight over the nodes that a node contains;
- agreement of both with the visits.

Does not own: the order in which children are visited.
-/

namespace StructureLint

theorem Stmt.visitsAll_eq_flatMap (stmts : List Stmt) :
    Stmt.visitsAll stmts = stmts.flatMap Stmt.visits := by
  induction stmts with
  | nil => rfl
  | cons stmt rest inductionHypothesis =>
      rw [Stmt.visitsAll, inductionHypothesis, List.flatMap_cons]

theorem Expr.visitsAll_eq_flatMap (exprs : List Expr) :
    Expr.visitsAll exprs = exprs.flatMap Expr.visits := by
  induction exprs with
  | nil => rfl
  | cons expr rest inductionHypothesis =>
      rw [Expr.visitsAll, inductionHypothesis, List.flatMap_cons]

theorem Block.visitsAll_eq_flatMap (blocks : List Block) :
    Block.visitsAll blocks = blocks.flatMap Block.visits := by
  induction blocks with
  | nil => rfl
  | cons block rest inductionHypothesis =>
      rw [Block.visitsAll, inductionHypothesis, List.flatMap_cons]

theorem SwitchSection.visitsAll_eq_flatMap (sections : List SwitchSection) :
    SwitchSection.visitsAll sections = sections.flatMap SwitchSection.visits := by
  induction sections with
  | nil => rfl
  | cons first rest inductionHypothesis =>
      rw [SwitchSection.visitsAll, inductionHypothesis, List.flatMap_cons]

theorem Stmt.visitsOption_eq_flatMap (stmt : Option Stmt) :
    Stmt.visitsOption stmt = stmt.toList.flatMap Stmt.visits := by
  cases stmt <;> simp [Stmt.visitsOption]

theorem Expr.visitsOption_eq_flatMap (expr : Option Expr) :
    Expr.visitsOption expr = expr.toList.flatMap Expr.visits := by
  cases expr <;> simp [Expr.visitsOption]

theorem Block.visitsOption_eq_flatMap (block : Option Block) :
    Block.visitsOption block = block.toList.flatMap Block.visits := by
  cases block <;> simp [Block.visitsOption]

/-! ## Children -/

/-- What stands directly below a `switch` section: its labels, then its statements. -/
def SwitchSection.children (entry : SwitchSection) : List Visit :=
  entry.labels.map .expr ++ entry.stmts.map .stmt

/-- What stands directly below a statement. -/
def StmtKind.children : StmtKind → List Visit
  | .block inner => [.block inner]
  | .expression expr => [.expr expr]
  | .declareLocal _ init => init.toList.map .expr
  | .branch condition thenBranch elseBranch =>
    .expr condition :: .stmt thenBranch :: elseBranch.toList.map .stmt
  | .whileLoop condition body => [.expr condition, .stmt body]
  | .doWhile body condition => [.expr condition, .stmt body]
  | .forLoop condition body => condition.toList.map .expr ++ [.stmt body]
  | .forEach collection body => [.expr collection, .stmt body]
  | .switch subject sections => .expr subject :: sections.flatMap SwitchSection.children
  | .tryCatch guarded catches finalizer =>
    .block guarded :: (catches.map .block ++ finalizer.toList.map .block)
  | .scoped _ resource body => resource.toList.map .expr ++ [.stmt body]
  | .labeled _ stmt => [.stmt stmt]
  | .localFunction declaration => [.localFunction declaration]
  | .returns expr => expr.toList.map .expr
  | .throws expr => expr.toList.map .expr
  | .yields expr => expr.toList.map .expr
  | .breaks => []
  | .continues => []
  | .goto _ => []
  | .empty => []

/-- What stands directly below an expression. -/
def ExprKind.children : ExprKind → List Visit
  | .invocation callee arguments _ => .expr callee :: arguments.map .expr
  | .memberAccess receiver _ => [.expr receiver]
  | .identifier _ => []
  | .objectCreation _ arguments => arguments.map .expr
  | .literal _ => []
  | .lambda body => [.body body]
  | .binary _ left right => [.expr left, .expr right]
  | .assignment target value => [.expr target, .expr value]
  | .other children => children.map .expr

namespace Visit

/-- What stands directly below a node.  A local function is only mentioned:
its body is not part of the tree. -/
def children : Visit → List Visit
  | .body (.block inner) => [.block inner]
  | .body (.expression inner) => [.expr inner]
  | .block visited => visited.stmts.map .stmt
  | .stmt visited => visited.kind.children
  | .expr visited => visited.kind.children
  | .localFunction _ => []

/-- The visits that begin at a node. -/
def visits : Visit → List Visit
  | .body visited => visited.visits
  | .block visited => visited.visits
  | .stmt visited => visited.visits
  | .expr visited => visited.visits
  | .localFunction declaration => [.localFunction declaration]

end Visit

private theorem SwitchSection.visits_eq_flatMap (entry : SwitchSection) :
    entry.visits = entry.children.flatMap Visit.visits := by
  cases entry
  simp [SwitchSection.visits, SwitchSection.children, SwitchSection.labels, SwitchSection.stmts,
    List.flatMap_map, Visit.visits, Stmt.visitsAll_eq_flatMap, Expr.visitsAll_eq_flatMap]

theorem StmtKind.visits_eq_flatMap (kind : StmtKind) :
    kind.visits = kind.children.flatMap Visit.visits := by
  have sections : SwitchSection.visits = fun entry => entry.children.flatMap Visit.visits :=
    funext SwitchSection.visits_eq_flatMap
  cases kind <;>
    simp [StmtKind.visits, StmtKind.children, List.flatMap_map, Visit.visits,
      Stmt.visitsOption_eq_flatMap, Expr.visitsOption_eq_flatMap, Block.visitsOption_eq_flatMap,
      Block.visitsAll_eq_flatMap, SwitchSection.visitsAll_eq_flatMap, List.flatMap_assoc,
      sections]

private theorem ExprKind.visits_eq_flatMap (kind : ExprKind) :
    kind.visits = kind.children.flatMap Visit.visits := by
  cases kind <;>
    simp [ExprKind.visits, ExprKind.children, List.flatMap_map, Visit.visits,
      Expr.visitsAll_eq_flatMap]

/-- The visits of a node are the node and then the visits of its children. -/
theorem Visit.visits_eq_cons (node : Visit) :
    node.visits = node :: node.children.flatMap Visit.visits := by
  cases node with
  | body body => cases body <;> simp [visits, children, Body.visits]
  | block block =>
      cases block
      simp [visits, children, Block.visits, Block.stmts, Stmt.visitsAll_eq_flatMap,
        List.flatMap_map]
  | stmt stmt =>
      cases stmt
      simp [visits, children, Stmt.visits, Stmt.kind, StmtKind.visits_eq_flatMap]
  | expr expr =>
      cases expr
      simp [visits, children, Expr.visits, Expr.kind, ExprKind.visits_eq_flatMap]
  | localFunction declaration => rfl

namespace Visit

theorem length_visits_lt_of_mem_children {node child : Visit} (member : child ∈ node.children) :
    child.visits.length < node.visits.length := by
  rw [node.visits_eq_cons]
  have part : child.visits.Sublist (node.children.flatMap Visit.visits) :=
    List.sublist_flatten_of_mem (List.mem_map_of_mem member)
  exact Nat.lt_succ_of_le part.length_le

/-- What holds of a node as soon as it holds of its children holds of every node. -/
@[elab_as_elim]
theorem induction {motive : Visit → Prop}
    (step : ∀ node, (∀ child ∈ node.children, motive child) → motive node) (node : Visit) :
    motive node :=
  step node fun child _ => induction step child
termination_by node.visits.length
decreasing_by exact length_visits_lt_of_mem_children ‹_›

/-! ## What a node contains -/

/-- The other node is the node itself or stands somewhere below it. -/
inductive Contains : Visit → Visit → Prop where
  | self (node : Visit) : Contains node node
  | inside {node child other : Visit} (member : child ∈ node.children)
      (contained : Contains child other) : Contains node other

theorem mem_visits_iff_contains {node other : Visit} :
    other ∈ node.visits ↔ node.Contains other := by
  induction node using Visit.induction with
  | step node inductionHypothesis =>
      rw [node.visits_eq_cons, List.mem_cons, List.mem_flatMap]
      constructor
      · rintro (rfl | ⟨child, member, found⟩)
        · exact .self _
        · exact .inside member ((inductionHypothesis child member).mp found)
      · intro contained
        cases contained with
        | self => exact .inl rfl
        | inside member contained =>
            exact .inr ⟨_, member, (inductionHypothesis _ member).mpr contained⟩

/-- The sum of a weight over the node and everything below it. -/
def total (weight : Visit → Nat) (node : Visit) : Nat :=
  weight node + (node.children.attach.map fun child => total weight child.1).sum
termination_by node.visits.length
decreasing_by exact length_visits_lt_of_mem_children child.2

theorem total_eq (weight : Visit → Nat) (node : Visit) :
    node.total weight = weight node + (node.children.map fun child => child.total weight).sum := by
  rw [total]
  exact congrArg (fun totals => weight node + List.sum totals)
    (@List.attach_map_val _ _ node.children (total weight))

/-- Summing over the visits of a node counts everything it contains once. -/
theorem sum_map_visits (weight : Visit → Nat) (node : Visit) :
    (node.visits.map weight).sum = node.total weight := by
  induction node using Visit.induction with
  | step node inductionHypothesis =>
      rw [node.visits_eq_cons, total_eq, List.map_cons, List.sum_cons, List.map_flatMap,
        List.flatMap_def, List.sum_flatten, List.map_map]
      congr 2
      apply List.map_congr_left
      intro child member
      exact inductionHypothesis child member

end Visit

end StructureLint
