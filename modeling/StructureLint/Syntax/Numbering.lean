import StructureLint.Syntax.Visit

/-!
Contract: numbering of syntax nodes.

Blocks, statements and expressions are numbered in visiting order; numbers
that a node had before are dropped.

Owns:
- the numbering of a body from the first free number on.

Does not own: the first number, and what happens across declarations.
-/

namespace StructureLint

/-- A computation that hands out node numbers; its state is the next one. -/
abbrev Numbering := StateM Nat

/-- The next free number. -/
def Numbering.fresh : Numbering NodeId := do
  let next ← get
  set (next + 1)
  return ⟨UInt32.ofNat next⟩

mutual

/-- Numbers a body. -/
def Body.number : Body → Numbering Body
  | .block block => return .block (← block.number)
  | .expression expr => return .expression (← expr.number)

/-- Numbers a block. -/
def Block.number : Block → Numbering Block
  | .mk _ span stmts => do
    let id ← Numbering.fresh
    return .mk id span (← Stmt.numberAll stmts)

/-- Numbers a statement. -/
def Stmt.number : Stmt → Numbering Stmt
  | .mk _ span kind => do
    let id ← Numbering.fresh
    return .mk id span (← kind.number)

/-- Numbers what is below a statement. -/
def StmtKind.number : StmtKind → Numbering StmtKind
  | .block block => return .block (← block.number)
  | .expression expr => return .expression (← expr.number)
  | .declareLocal name init => return .declareLocal name (← Expr.numberOption init)
  | .branch condition thenBranch elseBranch => do
    let condition ← condition.number
    let thenBranch ← thenBranch.number
    return .branch condition thenBranch (← Stmt.numberOption elseBranch)
  | .whileLoop condition body => do
    let condition ← condition.number
    return .whileLoop condition (← body.number)
  | .doWhile body condition => do
    let condition ← condition.number
    return .doWhile (← body.number) condition
  | .forLoop condition body => do
    let condition ← Expr.numberOption condition
    return .forLoop condition (← body.number)
  | .forEach collection body => do
    let collection ← collection.number
    return .forEach collection (← body.number)
  | .switch subject sections => do
    let subject ← subject.number
    return .switch subject (← SwitchSection.numberAll sections)
  | .tryCatch block catches finalizer => do
    let block ← block.number
    let catches ← Block.numberAll catches
    return .tryCatch block catches (← Block.numberOption finalizer)
  | .scoped construct resource body => do
    let resource ← Expr.numberOption resource
    return .scoped construct resource (← body.number)
  | .labeled label stmt => return .labeled label (← stmt.number)
  | .localFunction declaration => return .localFunction declaration
  | .returns expr => return .returns (← Expr.numberOption expr)
  | .throws expr => return .throws (← Expr.numberOption expr)
  | .yields expr => return .yields (← Expr.numberOption expr)
  | .breaks => return .breaks
  | .continues => return .continues
  | .goto label => return .goto label
  | .empty => return .empty

/-- Numbers a `switch` section. -/
def SwitchSection.number : SwitchSection → Numbering SwitchSection
  | .mk labels stmts => do
    let labels ← Expr.numberAll labels
    return .mk labels (← Stmt.numberAll stmts)

/-- Numbers an expression. -/
def Expr.number : Expr → Numbering Expr
  | .mk _ span typeName kind => do
    let id ← Numbering.fresh
    return .mk id span typeName (← kind.number)

/-- Numbers what is below an expression. -/
def ExprKind.number : ExprKind → Numbering ExprKind
  | .invocation callee arguments target => do
    let callee ← callee.number
    return .invocation callee (← Expr.numberAll arguments) target
  | .memberAccess receiver member => return .memberAccess (← receiver.number) member
  | .identifier name => return .identifier name
  | .objectCreation typeName arguments =>
    return .objectCreation typeName (← Expr.numberAll arguments)
  | .literal text => return .literal text
  | .lambda body => return .lambda (← body.number)
  | .binary operator left right => do
    let left ← left.number
    return .binary operator left (← right.number)
  | .assignment target value => do
    let target ← target.number
    return .assignment target (← value.number)
  | .other children => return .other (← Expr.numberAll children)

/-- Numbers statements in sequence. -/
def Stmt.numberAll : List Stmt → Numbering (List Stmt)
  | [] => return []
  | stmt :: rest => do
    let stmt ← stmt.number
    return stmt :: (← Stmt.numberAll rest)

/-- Numbers expressions in sequence. -/
def Expr.numberAll : List Expr → Numbering (List Expr)
  | [] => return []
  | expr :: rest => do
    let expr ← expr.number
    return expr :: (← Expr.numberAll rest)

/-- Numbers blocks in sequence. -/
def Block.numberAll : List Block → Numbering (List Block)
  | [] => return []
  | block :: rest => do
    let block ← block.number
    return block :: (← Block.numberAll rest)

/-- Numbers `switch` sections in sequence. -/
def SwitchSection.numberAll : List SwitchSection → Numbering (List SwitchSection)
  | [] => return []
  | first :: rest => do
    let first ← first.number
    return first :: (← SwitchSection.numberAll rest)

/-- Numbers an optional statement. -/
def Stmt.numberOption : Option Stmt → Numbering (Option Stmt)
  | none => return none
  | some stmt => return some (← stmt.number)

/-- Numbers an optional expression. -/
def Expr.numberOption : Option Expr → Numbering (Option Expr)
  | none => return none
  | some expr => return some (← expr.number)

/-- Numbers an optional block. -/
def Block.numberOption : Option Block → Numbering (Option Block)
  | none => return none
  | some block => return some (← block.number)

end

end StructureLint
