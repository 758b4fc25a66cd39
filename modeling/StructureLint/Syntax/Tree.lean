import StructureLint.Position

/-!
Contract: bodies of declarations.

A body is a block of statements or a single expression.  Every block,
statement and expression carries a node number and a span; a local function
stands in a body only as the number of its own declaration.

Owns:
- identifiers of nodes and of the entries of a program;
- statements, expressions, blocks and bodies.

Does not own: declarations, symbols, or the numbering of nodes.
-/

namespace StructureLint

/-- The number of a type in its program. -/
structure TypeId where
  index : UInt32
  deriving DecidableEq, Repr, Inhabited

/-- The number of a member in its program. -/
structure MemberId where
  index : UInt32
  deriving DecidableEq, Repr, Inhabited

/-- The number of a declaration in its program. -/
structure DeclarationId where
  index : UInt32
  deriving DecidableEq, Repr, Inhabited

/-- The number of a block, statement or expression. -/
structure NodeId where
  index : UInt32 := 0
  deriving DecidableEq, Repr, Inhabited

/-- Constructs that open a scope without branching. -/
inductive ScopeConstruct where
  | using
  | lock
  | fixed
  | checked
  | rawMemory
  deriving DecidableEq, Repr, Inhabited

mutual

/-- Statements in sequence. -/
inductive Block where
  | mk (id : NodeId) (span : Span) (stmts : List Stmt)

/-- A statement with its node number and span. -/
inductive Stmt where
  | mk (id : NodeId) (span : Span) (kind : StmtKind)

/-- What a statement does. -/
inductive StmtKind where
  | block (block : Block)
  | expression (expr : Expr)
  | declareLocal (name : String) (init : Option Expr)
  | branch (condition : Expr) (thenBranch : Stmt) (elseBranch : Option Stmt)
  | whileLoop (condition : Expr) (body : Stmt)
  | doWhile (body : Stmt) (condition : Expr)
  | forLoop (condition : Option Expr) (body : Stmt)
  | forEach (collection : Expr) (body : Stmt)
  | switch (subject : Expr) (sections : List SwitchSection)
  | tryCatch (block : Block) (catches : List Block) (finalizer : Option Block)
  | scoped (construct : ScopeConstruct) (resource : Option Expr) (body : Stmt)
  | labeled (label : String) (stmt : Stmt)
  | localFunction (declaration : DeclarationId)
  | returns (expr : Option Expr)
  | throws (expr : Option Expr)
  | yields (expr : Option Expr)
  | breaks
  | continues
  | goto (label : String)
  | empty

/-- The labels of a `switch` section and the statements they lead to. -/
inductive SwitchSection where
  | mk (labels : List Expr) (stmts : List Stmt)

/-- An expression with its node number, span and static type, if known. -/
inductive Expr where
  | mk (id : NodeId) (span : Span) (typeName : Option String) (kind : ExprKind)

/-- What an expression computes. -/
inductive ExprKind where
  | invocation (callee : Expr) (arguments : List Expr) (target : Option MemberId)
  | memberAccess (receiver : Expr) (member : String)
  | identifier (name : String)
  | objectCreation (typeName : String) (arguments : List Expr)
  | literal (text : String)
  | lambda (body : Body)
  | binary (operator : String) (left right : Expr)
  | assignment (target value : Expr)
  | other (children : List Expr)

/-- The body of a declaration or of a lambda. -/
inductive Body where
  | block (block : Block)
  | expression (expr : Expr)

end

instance : Inhabited Block := ⟨.mk {} {} []⟩
instance : Inhabited Stmt := ⟨.mk {} {} .empty⟩
instance : Inhabited Expr := ⟨.mk {} {} none (.other [])⟩
instance : Inhabited Body := ⟨.block default⟩

namespace Block

/-- The node number of a block. -/
def id : Block → NodeId
  | .mk id _ _ => id

/-- The span of a block. -/
def span : Block → Span
  | .mk _ span _ => span

/-- The statements of a block. -/
def stmts : Block → List Stmt
  | .mk _ _ stmts => stmts

/-- A block that has no number and no span yet. -/
def ofStmts (stmts : List Stmt) : Block :=
  .mk {} {} stmts

end Block

namespace Stmt

/-- The node number of a statement. -/
def id : Stmt → NodeId
  | .mk id _ _ => id

/-- The span of a statement. -/
def span : Stmt → Span
  | .mk _ span _ => span

/-- What a statement does. -/
def kind : Stmt → StmtKind
  | .mk _ _ kind => kind

/-- A statement that has no number and no span yet. -/
def ofKind (kind : StmtKind) : Stmt :=
  .mk {} {} kind

/-- The statement at another place. -/
def withSpan (stmt : Stmt) (span : Span) : Stmt :=
  .mk stmt.id span stmt.kind

end Stmt

namespace SwitchSection

/-- The labels of a section. -/
def labels : SwitchSection → List Expr
  | .mk labels _ => labels

/-- The statements of a section. -/
def stmts : SwitchSection → List Stmt
  | .mk _ stmts => stmts

end SwitchSection

namespace Expr

/-- The node number of an expression. -/
def id : Expr → NodeId
  | .mk id _ _ _ => id

/-- The span of an expression. -/
def span : Expr → Span
  | .mk _ span _ _ => span

/-- The static type of an expression, if known. -/
def typeName : Expr → Option String
  | .mk _ _ typeName _ => typeName

/-- What an expression computes. -/
def kind : Expr → ExprKind
  | .mk _ _ _ kind => kind

/-- An expression that has no number, span or type yet. -/
def ofKind (kind : ExprKind) : Expr :=
  .mk {} {} none kind

/-- The expression with a static type. -/
def withType (expr : Expr) (typeName : String) : Expr :=
  .mk expr.id expr.span (some typeName) expr.kind

/-- The name of an identifier. -/
def identifier? (expr : Expr) : Option String :=
  match expr.kind with
  | .identifier name => some name
  | _ => none

/-- The member that an invocation was resolved to. -/
def invocationTarget? (expr : Expr) : Option MemberId :=
  match expr.kind with
  | .invocation _ _ target => target
  | _ => none

end Expr

end StructureLint
