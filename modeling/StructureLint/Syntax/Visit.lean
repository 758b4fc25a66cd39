import StructureLint.Syntax.Tree

/-!
Contract: the order in which syntax is visited.

Every traversal of a body that does not depend on nesting is stated over the
list of its visits: parents before children, children in source order, the
condition of a `do` loop before its body.

Owns:
- the visits of a body and the lists read off them.

Does not own: local function bodies, which are visited as declarations of
their own.
-/

namespace StructureLint

/-- One step of a traversal. -/
inductive Visit where
  | body (body : Body)
  | block (block : Block)
  | stmt (stmt : Stmt)
  | expr (expr : Expr)
  | localFunction (declaration : DeclarationId)

mutual

/-- The visits of a body. -/
def Body.visits : Body → List Visit
  | .block block => .body (.block block) :: block.visits
  | .expression expr => .body (.expression expr) :: expr.visits

/-- The visits of a block. -/
def Block.visits : Block → List Visit
  | .mk id span stmts => .block (.mk id span stmts) :: Stmt.visitsAll stmts

/-- The visits of a statement. -/
def Stmt.visits : Stmt → List Visit
  | .mk id span kind => .stmt (.mk id span kind) :: kind.visits

/-- The visits below a statement. -/
def StmtKind.visits : StmtKind → List Visit
  | .block block => block.visits
  | .expression expr => expr.visits
  | .declareLocal _ init => Expr.visitsOption init
  | .branch condition thenBranch elseBranch =>
    condition.visits ++ thenBranch.visits ++ Stmt.visitsOption elseBranch
  | .whileLoop condition body => condition.visits ++ body.visits
  | .doWhile body condition => condition.visits ++ body.visits
  | .forLoop condition body => Expr.visitsOption condition ++ body.visits
  | .forEach collection body => collection.visits ++ body.visits
  | .switch subject sections => subject.visits ++ SwitchSection.visitsAll sections
  | .tryCatch block catches finalizer =>
    block.visits ++ Block.visitsAll catches ++ Block.visitsOption finalizer
  | .scoped _ resource body => Expr.visitsOption resource ++ body.visits
  | .labeled _ stmt => stmt.visits
  | .localFunction declaration => [.localFunction declaration]
  | .returns expr => Expr.visitsOption expr
  | .throws expr => Expr.visitsOption expr
  | .yields expr => Expr.visitsOption expr
  | .breaks => []
  | .continues => []
  | .goto _ => []
  | .empty => []

/-- The visits of a `switch` section. -/
def SwitchSection.visits : SwitchSection → List Visit
  | .mk labels stmts => Expr.visitsAll labels ++ Stmt.visitsAll stmts

/-- The visits of an expression. -/
def Expr.visits : Expr → List Visit
  | .mk id span typeName kind => .expr (.mk id span typeName kind) :: kind.visits

/-- The visits below an expression. -/
def ExprKind.visits : ExprKind → List Visit
  | .invocation callee arguments _ => callee.visits ++ Expr.visitsAll arguments
  | .memberAccess receiver _ => receiver.visits
  | .identifier _ => []
  | .objectCreation _ arguments => Expr.visitsAll arguments
  | .literal _ => []
  | .lambda body => body.visits
  | .binary _ left right => left.visits ++ right.visits
  | .assignment target value => target.visits ++ value.visits
  | .other children => Expr.visitsAll children

/-- The visits of statements in sequence. -/
def Stmt.visitsAll : List Stmt → List Visit
  | [] => []
  | stmt :: rest => stmt.visits ++ Stmt.visitsAll rest

/-- The visits of expressions in sequence. -/
def Expr.visitsAll : List Expr → List Visit
  | [] => []
  | expr :: rest => expr.visits ++ Expr.visitsAll rest

/-- The visits of blocks in sequence. -/
def Block.visitsAll : List Block → List Visit
  | [] => []
  | block :: rest => block.visits ++ Block.visitsAll rest

/-- The visits of `switch` sections in sequence. -/
def SwitchSection.visitsAll : List SwitchSection → List Visit
  | [] => []
  | first :: rest => first.visits ++ SwitchSection.visitsAll rest

/-- The visits of an optional statement. -/
def Stmt.visitsOption : Option Stmt → List Visit
  | none => []
  | some stmt => stmt.visits

/-- The visits of an optional expression. -/
def Expr.visitsOption : Option Expr → List Visit
  | none => []
  | some expr => expr.visits

/-- The visits of an optional block. -/
def Block.visitsOption : Option Block → List Visit
  | none => []
  | some block => block.visits

end

namespace Visit

/-- The node number of a visited block, statement or expression. -/
def node? : Visit → Option NodeId
  | .block visited => some visited.id
  | .stmt visited => some visited.id
  | .expr visited => some visited.id
  | _ => none

/-- The visit is of a statement or of an expression, where a walk may stop. -/
def isStep : Visit → Bool
  | .stmt _ | .expr _ => true
  | _ => false

/-- The visited statement. -/
def stmt? : Visit → Option Stmt
  | .stmt visited => some visited
  | _ => none

/-- The visited expression. -/
def expr? : Visit → Option Expr
  | .expr visited => some visited
  | _ => none

/-- The declaration of a visited local function. -/
def localFunction? : Visit → Option DeclarationId
  | .localFunction declaration => some declaration
  | _ => none

end Visit

namespace Body

/-- The local functions that a body mentions, in visiting order. -/
def localFunctions (body : Body) : List DeclarationId :=
  body.visits.filterMap Visit.localFunction?

/-- The names of the identifiers in a body, in visiting order. -/
def identifiers (body : Body) : List String :=
  body.visits.filterMap fun visit => visit.expr?.bind Expr.identifier?

end Body

end StructureLint
