import Mathlib.Data.List.Nodup
import StructureLint.Syntax.Numbering

/-!
Contract: numbers of nodes after numbering.

The nodes of a numbered body, read in visiting order, carry consecutive
numbers, and there are as many of them as there were nodes before.  As long as
the numbers fit their word, no two nodes share one.

Owns:
- the node numbers met by a traversal;
- numbering steps that hand out a run of consecutive numbers;
- numbering of a body as such a step.

Does not own: the first number, and numbering across declarations.
-/

namespace StructureLint

/-- The node with that number; numbers beyond a word wrap around. -/
def NodeId.ofNat (number : Nat) : NodeId :=
  ⟨UInt32.ofNat number⟩

/-- Numbers that fit a word are told apart by their nodes. -/
theorem NodeId.ofNat_inj {first second : Nat} (firstFits : first < UInt32.size)
    (secondFits : second < UInt32.size) (same : NodeId.ofNat first = NodeId.ofNat second) :
    first = second := by
  have words : UInt32.ofNat first = UInt32.ofNat second := congrArg NodeId.index same
  have values := congrArg UInt32.toNat words
  rwa [UInt32.toNat_ofNat_of_lt' firstFits, UInt32.toNat_ofNat_of_lt' secondFits] at values

/-- Consecutive numbers that fit a word belong to different nodes. -/
theorem NodeId.nodup_map_ofNat {first size : Nat} (fits : first + size ≤ UInt32.size) :
    ((List.range' first size).map NodeId.ofNat).Nodup := by
  refine List.Nodup.map_on ?_ List.nodup_range'
  intro left leftMember right rightMember same
  have leftBound := (List.mem_range'_1.mp leftMember).2
  have rightBound := (List.mem_range'_1.mp rightMember).2
  exact NodeId.ofNat_inj (by omega) (by omega) same

namespace Visit

/-- The node numbers met by a traversal, in its order. -/
def nodes (visits : List Visit) : List NodeId :=
  visits.filterMap Visit.node?

@[simp] theorem nodes_nil : nodes [] = [] :=
  rfl

@[simp] theorem nodes_append (first second : List Visit) :
    nodes (first ++ second) = nodes first ++ nodes second :=
  List.filterMap_append

@[simp] theorem nodes_body (visited : Body) (rest : List Visit) :
    nodes (.body visited :: rest) = nodes rest :=
  rfl

@[simp] theorem nodes_block (id : NodeId) (span : Span) (stmts : List Stmt)
    (rest : List Visit) : nodes (.block (.mk id span stmts) :: rest) = id :: nodes rest :=
  rfl

@[simp] theorem nodes_stmt (id : NodeId) (span : Span) (kind : StmtKind) (rest : List Visit) :
    nodes (.stmt (.mk id span kind) :: rest) = id :: nodes rest :=
  rfl

@[simp] theorem nodes_expr (id : NodeId) (span : Span) (typeName : Option String)
    (kind : ExprKind) (rest : List Visit) :
    nodes (.expr (.mk id span typeName kind) :: rest) = id :: nodes rest :=
  rfl

@[simp] theorem nodes_localFunction (declaration : DeclarationId) (rest : List Visit) :
    nodes (.localFunction declaration :: rest) = nodes rest :=
  rfl

end Visit

/-! ## Numbering steps -/

namespace Numbering

variable {α β : Type} {size more : Nat} {before : List NodeId} {view : α → List NodeId}

/-- The step hands out `size` consecutive numbers, and its result shows them
behind those in `before`. -/
def Issues (size : Nat) (before : List NodeId) (step : Numbering α) (view : α → List NodeId) :
    Prop :=
  ∀ first, (step.run first).2 = first + size ∧
    view (step.run first).1 = before ++ (List.range' first size).map NodeId.ofNat

theorem issues_fresh : Issues 1 [] fresh fun id => [id] := by
  intro first
  exact ⟨rfl, rfl⟩

theorem issues_pure {value : α} (shown : view value = before) :
    Issues 0 before (pure value) view := by
  intro first
  refine ⟨rfl, ?_⟩
  show view value = before ++ []
  rw [shown, List.append_nil]

/-- Steps in sequence hand out one run of numbers. -/
theorem Issues.bind {step : Numbering β} {front : β → List NodeId} {next : β → Numbering α}
    (issues : Issues size [] step front)
    (continues : ∀ value, Issues more (before ++ front value) (next value) view) :
    Issues (size + more) before (step >>= next) view := by
  intro first
  obtain ⟨advanced, shown⟩ := issues first
  obtain ⟨finished, total⟩ := continues (step.run first).1 (first + size)
  have unfolded : (step >>= next).run first =
      (next (step.run first).1).run (first + size) := by
    rw [← advanced]
    rfl
  rw [unfolded, finished, total, shown]
  refine ⟨by omega, ?_⟩
  rw [List.nil_append, List.append_assoc, ← List.map_append, List.range'_append_1]

/-- The same step, with its size computed in another way. -/
theorem Issues.of_size_eq {step : Numbering α} (issues : Issues size before step view)
    (same : more = size) : Issues more before step view := by
  rw [same]
  exact issues

end Numbering

/-! ## Numbering of syntax -/

open StructureLint.Numbering Visit

mutual

/-- Numbering a body hands out one number for each of its nodes, in visiting order. -/
theorem Body.issues_number (body : Body) :
    Issues (nodes body.visits).length [] body.number fun numbered => nodes numbered.visits := by
  cases body with
  | block inner =>
      rw [Body.number]
      exact (inner.issues_number.bind fun _ => issues_pure (by simp [Body.visits])).of_size_eq
        (by simp [Body.visits])
  | expression expr =>
      rw [Body.number]
      exact (expr.issues_number.bind fun _ => issues_pure (by simp [Body.visits])).of_size_eq
        (by simp [Body.visits])

theorem Block.issues_number (block : Block) :
    Issues (nodes block.visits).length [] block.number fun numbered => nodes numbered.visits := by
  cases block with
  | mk id span stmts =>
      rw [Block.number]
      exact (issues_fresh.bind fun _ => (Stmt.issues_numberAll stmts).bind fun _ =>
        issues_pure (by simp [Block.visits])).of_size_eq (by simp [Block.visits]; omega)

theorem Stmt.issues_number (stmt : Stmt) :
    Issues (nodes stmt.visits).length [] stmt.number fun numbered => nodes numbered.visits := by
  cases stmt with
  | mk id span kind =>
      rw [Stmt.number]
      exact (issues_fresh.bind fun _ => kind.issues_number.bind fun _ =>
        issues_pure (by simp [Stmt.visits])).of_size_eq (by simp [Stmt.visits]; omega)

theorem StmtKind.issues_number (kind : StmtKind) :
    Issues (nodes kind.visits).length [] kind.number fun numbered => nodes numbered.visits := by
  cases kind with
  | block inner =>
      rw [StmtKind.number]
      exact inner.issues_number.bind fun _ => issues_pure (by simp [StmtKind.visits])
  | expression expr =>
      rw [StmtKind.number]
      exact expr.issues_number.bind fun _ => issues_pure (by simp [StmtKind.visits])
  | declareLocal name init =>
      rw [StmtKind.number]
      exact (Expr.issues_numberOption init).bind fun _ => issues_pure (by simp [StmtKind.visits])
  | branch condition thenBranch elseBranch =>
      rw [StmtKind.number]
      exact (condition.issues_number.bind fun _ => thenBranch.issues_number.bind fun _ =>
        (Stmt.issues_numberOption elseBranch).bind fun _ =>
        issues_pure (by simp [StmtKind.visits])).of_size_eq (by simp [StmtKind.visits])
  | whileLoop condition inner =>
      rw [StmtKind.number]
      exact (condition.issues_number.bind fun _ => inner.issues_number.bind fun _ =>
        issues_pure (by simp [StmtKind.visits])).of_size_eq (by simp [StmtKind.visits])
  | doWhile inner condition =>
      rw [StmtKind.number]
      exact (condition.issues_number.bind fun _ => inner.issues_number.bind fun _ =>
        issues_pure (by simp [StmtKind.visits])).of_size_eq (by simp [StmtKind.visits])
  | forLoop condition inner =>
      rw [StmtKind.number]
      exact ((Expr.issues_numberOption condition).bind fun _ => inner.issues_number.bind fun _ =>
        issues_pure (by simp [StmtKind.visits])).of_size_eq (by simp [StmtKind.visits])
  | forEach collection inner =>
      rw [StmtKind.number]
      exact (collection.issues_number.bind fun _ => inner.issues_number.bind fun _ =>
        issues_pure (by simp [StmtKind.visits])).of_size_eq (by simp [StmtKind.visits])
  | switch subject sections =>
      rw [StmtKind.number]
      exact (subject.issues_number.bind fun _ =>
        (SwitchSection.issues_numberAll sections).bind fun _ =>
        issues_pure (by simp [StmtKind.visits])).of_size_eq (by simp [StmtKind.visits])
  | tryCatch guarded catches finalizer =>
      rw [StmtKind.number]
      exact (guarded.issues_number.bind fun _ => (Block.issues_numberAll catches).bind fun _ =>
        (Block.issues_numberOption finalizer).bind fun _ =>
        issues_pure (by simp [StmtKind.visits])).of_size_eq (by simp [StmtKind.visits])
  | «scoped» construct resource inner =>
      rw [StmtKind.number]
      exact ((Expr.issues_numberOption resource).bind fun _ => inner.issues_number.bind fun _ =>
        issues_pure (by simp [StmtKind.visits])).of_size_eq (by simp [StmtKind.visits])
  | labeled label inner =>
      rw [StmtKind.number]
      exact inner.issues_number.bind fun _ => issues_pure (by simp [StmtKind.visits])
  | returns expr =>
      rw [StmtKind.number]
      exact (Expr.issues_numberOption expr).bind fun _ => issues_pure (by simp [StmtKind.visits])
  | throws expr =>
      rw [StmtKind.number]
      exact (Expr.issues_numberOption expr).bind fun _ => issues_pure (by simp [StmtKind.visits])
  | yields expr =>
      rw [StmtKind.number]
      exact (Expr.issues_numberOption expr).bind fun _ => issues_pure (by simp [StmtKind.visits])
  | localFunction declaration => exact issues_pure rfl
  | breaks => exact issues_pure rfl
  | continues => exact issues_pure rfl
  | goto label => exact issues_pure rfl
  | empty => exact issues_pure rfl

theorem SwitchSection.issues_number (entry : SwitchSection) :
    Issues (nodes entry.visits).length [] entry.number fun numbered => nodes numbered.visits := by
  cases entry with
  | mk labels stmts =>
      rw [SwitchSection.number]
      exact ((Expr.issues_numberAll labels).bind fun _ =>
        (Stmt.issues_numberAll stmts).bind fun _ =>
        issues_pure (by simp [SwitchSection.visits])).of_size_eq (by simp [SwitchSection.visits])

theorem Expr.issues_number (expr : Expr) :
    Issues (nodes expr.visits).length [] expr.number fun numbered => nodes numbered.visits := by
  cases expr with
  | mk id span typeName kind =>
      rw [Expr.number]
      exact (issues_fresh.bind fun _ => kind.issues_number.bind fun _ =>
        issues_pure (by simp [Expr.visits])).of_size_eq (by simp [Expr.visits]; omega)

theorem ExprKind.issues_number (kind : ExprKind) :
    Issues (nodes kind.visits).length [] kind.number fun numbered => nodes numbered.visits := by
  cases kind with
  | invocation callee arguments target =>
      rw [ExprKind.number]
      exact (callee.issues_number.bind fun _ => (Expr.issues_numberAll arguments).bind fun _ =>
        issues_pure (by simp [ExprKind.visits])).of_size_eq (by simp [ExprKind.visits])
  | memberAccess receiver member =>
      rw [ExprKind.number]
      exact receiver.issues_number.bind fun _ => issues_pure (by simp [ExprKind.visits])
  | identifier name => exact issues_pure rfl
  | objectCreation typeName arguments =>
      rw [ExprKind.number]
      exact (Expr.issues_numberAll arguments).bind fun _ => issues_pure (by simp [ExprKind.visits])
  | literal text => exact issues_pure rfl
  | lambda inner =>
      rw [ExprKind.number]
      exact inner.issues_number.bind fun _ => issues_pure (by simp [ExprKind.visits])
  | binary operator left right =>
      rw [ExprKind.number]
      exact (left.issues_number.bind fun _ => right.issues_number.bind fun _ =>
        issues_pure (by simp [ExprKind.visits])).of_size_eq (by simp [ExprKind.visits])
  | assignment target value =>
      rw [ExprKind.number]
      exact (target.issues_number.bind fun _ => value.issues_number.bind fun _ =>
        issues_pure (by simp [ExprKind.visits])).of_size_eq (by simp [ExprKind.visits])
  | other children =>
      rw [ExprKind.number]
      exact (Expr.issues_numberAll children).bind fun _ => issues_pure (by simp [ExprKind.visits])

theorem Stmt.issues_numberAll (stmts : List Stmt) :
    Issues (nodes (Stmt.visitsAll stmts)).length [] (Stmt.numberAll stmts) fun numbered =>
      nodes (Stmt.visitsAll numbered) := by
  cases stmts with
  | nil => exact issues_pure rfl
  | cons stmt rest =>
      rw [Stmt.numberAll]
      exact (stmt.issues_number.bind fun _ => (Stmt.issues_numberAll rest).bind fun _ =>
        issues_pure (by simp [Stmt.visitsAll])).of_size_eq (by simp [Stmt.visitsAll])

theorem Expr.issues_numberAll (exprs : List Expr) :
    Issues (nodes (Expr.visitsAll exprs)).length [] (Expr.numberAll exprs) fun numbered =>
      nodes (Expr.visitsAll numbered) := by
  cases exprs with
  | nil => exact issues_pure rfl
  | cons expr rest =>
      rw [Expr.numberAll]
      exact (expr.issues_number.bind fun _ => (Expr.issues_numberAll rest).bind fun _ =>
        issues_pure (by simp [Expr.visitsAll])).of_size_eq (by simp [Expr.visitsAll])

theorem Block.issues_numberAll (blocks : List Block) :
    Issues (nodes (Block.visitsAll blocks)).length [] (Block.numberAll blocks) fun numbered =>
      nodes (Block.visitsAll numbered) := by
  cases blocks with
  | nil => exact issues_pure rfl
  | cons block rest =>
      rw [Block.numberAll]
      exact (block.issues_number.bind fun _ => (Block.issues_numberAll rest).bind fun _ =>
        issues_pure (by simp [Block.visitsAll])).of_size_eq (by simp [Block.visitsAll])

theorem SwitchSection.issues_numberAll (sections : List SwitchSection) :
    Issues (nodes (SwitchSection.visitsAll sections)).length []
      (SwitchSection.numberAll sections) fun numbered =>
        nodes (SwitchSection.visitsAll numbered) := by
  cases sections with
  | nil => exact issues_pure rfl
  | cons first rest =>
      rw [SwitchSection.numberAll]
      exact (first.issues_number.bind fun _ => (SwitchSection.issues_numberAll rest).bind fun _ =>
        issues_pure (by simp [SwitchSection.visitsAll])).of_size_eq
          (by simp [SwitchSection.visitsAll])

theorem Stmt.issues_numberOption (stmt : Option Stmt) :
    Issues (nodes (Stmt.visitsOption stmt)).length [] (Stmt.numberOption stmt) fun numbered =>
      nodes (Stmt.visitsOption numbered) := by
  cases stmt with
  | none => exact issues_pure rfl
  | some stmt =>
      rw [Stmt.numberOption]
      exact stmt.issues_number.bind fun _ => issues_pure (by simp [Stmt.visitsOption])

theorem Expr.issues_numberOption (expr : Option Expr) :
    Issues (nodes (Expr.visitsOption expr)).length [] (Expr.numberOption expr) fun numbered =>
      nodes (Expr.visitsOption numbered) := by
  cases expr with
  | none => exact issues_pure rfl
  | some expr =>
      rw [Expr.numberOption]
      exact expr.issues_number.bind fun _ => issues_pure (by simp [Expr.visitsOption])

theorem Block.issues_numberOption (block : Option Block) :
    Issues (nodes (Block.visitsOption block)).length [] (Block.numberOption block) fun numbered =>
      nodes (Block.visitsOption numbered) := by
  cases block with
  | none => exact issues_pure rfl
  | some block =>
      rw [Block.numberOption]
      exact block.issues_number.bind fun _ => issues_pure (by simp [Block.visitsOption])

end

end StructureLint
