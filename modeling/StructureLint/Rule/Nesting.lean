import StructureLint.Rule.Basic
import StructureLint.Setting.Resolve

/-!
Contract: the rule about the nesting of control statements.

`if`, `switch`, `for`, `foreach`, `while`, `do` and `try` each open a level.
An `else if` belongs to the `if` that it continues.  Blocks, labels and scopes
are transparent.  Expressions are not entered.

Owns:
- the constructs that open a level;
- the statements of a block with their levels;
- the rule.
-/

namespace StructureLint.Nesting

/-- The name of a construct that opens a level. -/
def constructName? : StmtKind → Option String
  | .branch _ _ _ => some "if"
  | .switch _ _ => some "switch"
  | .forLoop _ _ => some "for"
  | .forEach _ _ => some "foreach"
  | .whileLoop _ _ => some "while"
  | .doWhile _ _ => some "do"
  | .tryCatch _ _ _ => some "try"
  | _ => none

/-- A statement on the walk, and how many levels enclose it. -/
structure Placed where
  stmt : Stmt
  depth : Nat

mutual

/-- The statements walked from a statement that `depth` levels enclose, itself first. -/
def placedStmt (depth : Nat) : Stmt → List Placed
  | .mk id span kind => { stmt := .mk id span kind, depth } :: placedBelow depth kind

/-- The statements walked below a statement that `depth` levels enclose. -/
def placedBelow (depth : Nat) : StmtKind → List Placed
  | .block block => placedBlock depth block
  | .scoped _ _ body => placedStmt depth body
  | .labeled _ stmt => placedStmt depth stmt
  | .branch _ thenBranch elseBranch =>
    placedStmt (depth + 1) thenBranch ++ placedElse (depth + 1) elseBranch
  | .whileLoop _ body => placedStmt (depth + 1) body
  | .doWhile body _ => placedStmt (depth + 1) body
  | .forLoop _ body => placedStmt (depth + 1) body
  | .forEach _ body => placedStmt (depth + 1) body
  | .switch _ sections => placedSections (depth + 1) sections
  | .tryCatch block catches finalizer =>
    placedBlock (depth + 1) block ++ placedBlocks (depth + 1) catches ++
      placedFinalizer (depth + 1) finalizer
  | _ => []

/-- The statements walked from an `else`; an `if` there continues the chain and
is not walked itself. -/
def placedElse (depth : Nat) : Option Stmt → List Placed
  | none => []
  | some (.mk _ _ (.branch _ thenBranch elseBranch)) =>
    placedStmt depth thenBranch ++ placedElse depth elseBranch
  | some stmt => placedStmt depth stmt

/-- The statements walked from a block. -/
def placedBlock (depth : Nat) : Block → List Placed
  | .mk _ _ stmts => placedStmts depth stmts

/-- The statements walked from statements in sequence. -/
def placedStmts (depth : Nat) : List Stmt → List Placed
  | [] => []
  | stmt :: rest => placedStmt depth stmt ++ placedStmts depth rest

/-- The statements walked from blocks in sequence. -/
def placedBlocks (depth : Nat) : List Block → List Placed
  | [] => []
  | block :: rest => placedBlock depth block ++ placedBlocks depth rest

/-- The statements walked from an optional block. -/
def placedFinalizer (depth : Nat) : Option Block → List Placed
  | none => []
  | some block => placedBlock depth block

/-- The statements walked from `switch` sections in sequence. -/
def placedSections (depth : Nat) : List SwitchSection → List Placed
  | [] => []
  | first :: rest => placedSection depth first ++ placedSections depth rest

/-- The statements walked from a `switch` section. -/
def placedSection (depth : Nat) : SwitchSection → List Placed
  | .mk _ stmts => placedStmts depth stmts

end

/-! ## The rule -/

/-- The code of the rule. -/
def code : String := "SL002"

/-- The name of the rule. -/
def ruleName : String := "control-statement-depth"

/-- The limit and the attributes that override it. -/
def maximum : Limit :=
  { key := "max_control_statement_depth", builtin := 2
    overrides := ["MaxDepth", "MaxControlStatementDepth"] }

/-- Where a construct is reported; without a line of its own, at the declaration. -/
def reportLocation (declaration : Declaration) (stmt : Stmt) : Location :=
  if stmt.span.line == 0 then declaration.location else .ofSpan declaration.file stmt.span

/-- The finding about a construct at a level. -/
def finding (declaration : Declaration) (severity : Severity) (limit : Nat) (stmt : Stmt)
    (construct : String) (level : Nat) : Finding :=
  { code
    rule := ruleName
    severity
    location := reportLocation declaration stmt
    message := "`" ++ construct ++ "` statement is nested " ++ toString level ++
      " levels deep (max: " ++ toString limit ++ ")"
    suggestion := some { message := "Return early or extract the nested logic into a helper" } }

/-- Logs a walked statement if it opens a level beyond the limit. -/
def logPlaced (declaration : Declaration) (severity : Severity) (limit : Nat)
    (log : FindingLog) (placed : Placed) : FindingLog :=
  match constructName? placed.stmt.kind with
  | none => log
  | some construct =>
    if placed.depth + 1 ≤ limit then
      log
    else
      log.add (.node placed.stmt.id) "depth"
        (finding declaration severity limit placed.stmt construct (placed.depth + 1))

/-- Reports every construct of a block body that opens a level beyond the limit. -/
def check (builtin : Nat) (severity : Severity) (scope : DeclarationScope) :
    Pass (List Finding) := do
  match scope.declaration.body with
  | some (.block block) =>
    let limit ← Setting.limit scope.file ruleName { maximum with builtin }
      scope.declaration.attributes
    let walked := placedBlock 0 block
    Pass.checkEach walked
    return (walked.foldl (logPlaced scope.declaration severity limit.value) {}).findings
  | _ => return []

/-- The rule with a built-in limit and a severity. -/
def rule (builtin : Nat := maximum.builtin) (severity : Severity := .warning) :
    DeclarationRule where
  code := code
  name := ruleName
  description := "Limits how deeply control statements nest"
  severity := severity
  check := check builtin severity

end StructureLint.Nesting
