import StructureLint.Program.Reach
import StructureLint.Rule.Basic
import StructureLint.Setting.Resolve

/-!
Contract: the rule about the number of statements in a body.

Every statement counts, wherever it nests, except blocks, labels and local
function statements themselves; lambdas and the bodies of local functions are
part of the count, each local function once.  A leading run of argument guards
and calls on loggers may be left out.

Owns:
- guards and logging calls;
- the count of a body;
- the rule.
-/

namespace StructureLint.Length

/-! ## Guards and logging calls -/

/-- Exceptions that a guard throws. -/
def guardExceptions : List String :=
  ["ArgumentNullException", "ArgumentException", "ArgumentOutOfRangeException"]

/-- Types with static helpers that throw when a check fails. -/
def throwHelperTypes : List String :=
  guardExceptions ++ ["ObjectDisposedException"]

/-- Types all of whose methods are guards. -/
def guardUtilities : List String :=
  ["Guard", "Ensure"]

/-- How the names of logging methods start. -/
def logMethodStarts : List String :=
  ["Log", "Trace", "Debug", "Info", "Warn", "Error", "Fatal", "Critical", "Verbose"]

/-- The text starts with the other one. -/
def startsWith (text start : String) : Bool :=
  start.toList.isPrefixOf text.toList

/-- The only statement of a block statement, and any other statement itself. -/
def soleStatement (stmt : Stmt) : Stmt :=
  match stmt.kind with
  | .block block =>
    match block.stmts with
    | [only] => only
    | _ => stmt
  | _ => stmt

/-- The statement throws a new guard exception. -/
def throwsGuardException (stmt : Stmt) : Bool :=
  match stmt.kind with
  | .throws (some thrown) =>
    match thrown.kind with
    | .objectCreation typeName _ => Name.matchesAny typeName guardExceptions
    | _ => false
  | _ => false

/-- An `if` without `else` that only throws a guard exception. -/
def isThrowingCheck (stmt : Stmt) : Bool :=
  match stmt.kind with
  | .branch _ thenBranch none => throwsGuardException (soleStatement thenBranch)
  | _ => false

/-- The receiver and the method of a statement that calls a member. -/
def memberCall? (stmt : Stmt) : Option (Expr × String) :=
  match stmt.kind with
  | .expression expr =>
    match expr.kind with
    | .invocation callee _ _ =>
      match callee.kind with
      | .memberAccess receiver member => some (receiver, member)
      | _ => none
    | _ => none
  | _ => none

/-- The name that an identifier or a member access refers to. -/
def referenceName? (expr : Expr) : Option String :=
  match expr.kind with
  | .identifier name => some name
  | .memberAccess _ member => some member
  | _ => none

/-- A call of a throw helper or of a guard utility. -/
def isGuardCall (stmt : Stmt) : Bool :=
  match memberCall? stmt with
  | none => false
  | some (receiver, method) =>
    (referenceName? receiver).any fun name =>
      (Name.matchesAny name throwHelperTypes && startsWith method "ThrowIf") ||
        Name.matchesAny name guardUtilities

/-- The statement guards an argument. -/
def isGuard (stmt : Stmt) : Bool :=
  isThrowingCheck stmt || isGuardCall stmt

/-- A call of a logging method on a receiver whose type is a logger. -/
def isLoggingCall (loggers : List String) (stmt : Stmt) : Bool :=
  match memberCall? stmt with
  | none => false
  | some (receiver, method) =>
    (receiver.typeName.any fun typeName => Name.matchesAny typeName loggers) &&
      logMethodStarts.any (startsWith method)

/-! ## Counting -/

/-- The logger type that is known without configuration. -/
def defaultLoggerTypes : String := "ILogger"

/-- What a count leaves out. -/
structure Options where
  excludeGuards : Bool := true
  excludeLogging : Bool := true
  loggerTypes : List String := [defaultLoggerTypes]
  deriving Repr

/-- The statement counts. -/
def isSignificant (options : Options) (stmt : Stmt) : Bool :=
  match stmt.kind with
  | .block _ | .labeled _ _ | .localFunction _ => false
  | _ => !(options.excludeLogging && isLoggingCall options.loggerTypes stmt)

/-- The top-level statements behind the leading guards. -/
def behindGuards (options : Options) (stmts : List Stmt) : List Stmt :=
  if options.excludeGuards then stmts.dropWhile isGuard else stmts

/-- The visits of the part of a body that is measured. -/
def measuredVisits (options : Options) : Body → List Visit
  | .block block => Stmt.visitsAll (behindGuards options block.stmts)
  | .expression expr => expr.visits

/-- The number of significant statements among visits. -/
def countSignificant (options : Options) (visits : List Visit) : Nat :=
  visits.countP fun visit => visit.stmt?.any (isSignificant options)

/-- The number of significant statements of a body that `owner` declares. -/
def count (program : Program) (owner : DeclarationId) (body : Body) (options : Options) :
    Pass Nat := do
  let visits := program.unfoldLocals [owner] (measuredVisits options body)
  Pass.checkEach (visits.filter Visit.isStep)
  return countSignificant options visits

/-! ## The rule -/

/-- The code of the rule. -/
def code : String := "SL001"

/-- The name of the rule. -/
def ruleName : String := "statement-count"

/-- The limit and the attributes that override it. -/
def maximum : Limit :=
  { key := "max_statement_count", builtin := 10, overrides := ["MaxLength", "MaxStatements"] }

/-- The options that apply in a file. -/
def resolveOptions (file : SourcePath) : Pass Options := do
  let guards ← Setting.flag file ruleName "exclude_guard_statements" true
  let logging ← Setting.flag file ruleName "exclude_logging_statements" true
  let loggers ← Setting.text file ruleName "logger_types" defaultLoggerTypes
  return {
    excludeGuards := guards.value
    excludeLogging := logging.value
    loggerTypes := Name.entries loggers.value }

/-- Where a body that is too long is reported: an initializer that is a single
expression at its symbol, everything else at the declaration. -/
def reportLocation (scope : DeclarationScope) : Location :=
  let declaration := scope.declaration
  if declaration.kind == .initializer && declaration.isExpressionBodied then
    ((scope.program.symbolOf? declaration).bind MemberSymbol.location).getD declaration.location
  else
    declaration.location

/-- Reports a body with more statements than its limit. -/
def check (builtin : Nat) (severity : Severity) (scope : DeclarationScope) :
    Pass (List Finding) := do
  match scope.declaration.body with
  | none => return []
  | some body =>
    let limit ← Setting.limit scope.file ruleName { maximum with builtin }
      scope.declaration.attributes
    let options ← resolveOptions scope.file
    let total ← count scope.program scope.id body options
    if total ≤ limit.value then
      return []
    else
      return [{
        code
        rule := ruleName
        severity
        location := reportLocation scope
        message := "`" ++ scope.declaration.name ++ "` has " ++ toString total ++
          " statements (max: " ++ toString limit.value ++ ")"
        suggestion := some
          { message := "Extract part of the body into well-named helper members" } }]

/-- The rule with a built-in limit and a severity. -/
def rule (builtin : Nat := maximum.builtin) (severity : Severity := .warning) :
    DeclarationRule where
  code := code
  name := ruleName
  description := "Limits the number of statements in a member body"
  severity := severity
  check := check builtin severity

end StructureLint.Length
