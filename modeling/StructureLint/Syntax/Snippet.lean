import StructureLint.Syntax.Tree

/-!
Contract: short forms for common statements and expressions.

Nodes built here have no number and no span; normalization numbers them.
Where a construct needs an expression that does not matter, a plain name
stands in for it.

Owns:
- one function for each common construct.
-/

namespace StructureLint.Snippet

/-! ## Expressions -/

/-- A name. -/
def name (text : String) : Expr :=
  .ofKind (.identifier text)

/-- A literal as written. -/
def literal (text : String) : Expr :=
  .ofKind (.literal text)

/-- `receiver.member`. -/
def access (receiver : Expr) (member : String) : Expr :=
  .ofKind (.memberAccess receiver member)

/-- A call of a function by its name, bound to no member. -/
def call (function : String) : Expr :=
  .ofKind (.invocation (name function) [] none)

/-- A call of a function by its name, bound to a member. -/
def callTo (function : String) (target : MemberId) (arguments : List Expr) : Expr :=
  .ofKind (.invocation (name function) arguments (some target))

/-- `receiver.method(arguments)`. -/
def methodCall (receiver : Expr) (method : String) (arguments : List Expr) : Expr :=
  .ofKind (.invocation (access receiver method) arguments none)

/-- The creation of an object of a type. -/
def create (typeName : String) (arguments : List Expr) : Expr :=
  .ofKind (.objectCreation typeName arguments)

/-- A lambda with a block. -/
def lambda (stmts : List Stmt) : Expr :=
  .ofKind (.lambda (.block (.ofStmts stmts)))

/-! ## Statements -/

/-- A block as a statement. -/
def block (stmts : List Stmt) : Stmt :=
  .ofKind (.block (.ofStmts stmts))

/-- An expression as a statement. -/
def run (expr : Expr) : Stmt :=
  .ofKind (.expression expr)

/-- A branch without an alternative. -/
def when (condition : Expr) (thenBranch : Stmt) : Stmt :=
  .ofKind (.branch condition thenBranch none)

/-- A branch with an alternative. -/
def choose (condition : Expr) (thenBranch elseBranch : Stmt) : Stmt :=
  .ofKind (.branch condition thenBranch (some elseBranch))

/-- A loop that tests first. -/
def whileLoop (body : List Stmt) : Stmt :=
  .ofKind (.whileLoop (name "cond") (block body))

/-- A loop that tests last. -/
def doWhile (body : List Stmt) : Stmt :=
  .ofKind (.doWhile (block body) (name "cond"))

/-- A loop without a test. -/
def forLoop (body : List Stmt) : Stmt :=
  .ofKind (.forLoop none (block body))

/-- A loop over a collection. -/
def forEach (body : List Stmt) : Stmt :=
  .ofKind (.forEach (name "items") (block body))

/-- A `switch` with one unlabelled section for each list. -/
def switch (sections : List (List Stmt)) : Stmt :=
  .ofKind (.switch (name "value") (sections.map (.mk [])))

/-- A block with one handler. -/
def tryCatch (body handler : List Stmt) : Stmt :=
  .ofKind (.tryCatch (.ofStmts body) [.ofStmts handler] none)

/-- A block that holds a resource. -/
def withResource (body : List Stmt) : Stmt :=
  .ofKind (.scoped .using (some (name "resource")) (block body))

/-- A statement with a label. -/
def labeled (label : String) (stmt : Stmt) : Stmt :=
  .ofKind (.labeled label stmt)

/-- A local variable with a value. -/
def declareLocal (variableName : String) (value : Expr) : Stmt :=
  .ofKind (.declareLocal variableName (some value))

/-- A local function, by its declaration. -/
def localFunction (declaration : DeclarationId) : Stmt :=
  .ofKind (.localFunction declaration)

/-- A return, perhaps with a value. -/
def returns (value : Option Expr) : Stmt :=
  .ofKind (.returns value)

/-- A throw of a new exception about the parameter `value`. -/
def throwNew (typeName : String) : Stmt :=
  .ofKind (.throws (some (create typeName [literal "nameof(value)"])))

/-- A test of the parameter `value` against null that throws. -/
def nullGuard (typeName : String) : Stmt :=
  when (.ofKind (.binary "==" (name "value") (literal "null"))) (throwNew typeName)

end StructureLint.Snippet
