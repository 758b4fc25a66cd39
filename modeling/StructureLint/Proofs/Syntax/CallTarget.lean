import StructureLint.Proofs.Syntax.Nodes
import StructureLint.Syntax.Numbering

/-!
Contract: syntax in which some calls are not bound to a member.

A call names the member that it was resolved to, or none.  Here every target that
is not known is taken out, and all else stays as it is: the nodes, their order and
their numbers, and the local functions.  Nothing but the targets of calls tells
the two bodies apart.

Owns:
- bodies without the targets that are not known;
- what a traversal meets in such a body, and what is called in it;
- numbering of such a body.

Does not own: which members are known.
-/

namespace StructureLint

mutual

/-- The body without call targets that are not known. -/
def Body.keepTargets (known : MemberId → Bool) : Body → Body
  | .block block => .block (block.keepTargets known)
  | .expression expr => .expression (expr.keepTargets known)

/-- The block without call targets that are not known. -/
def Block.keepTargets (known : MemberId → Bool) : Block → Block
  | .mk id span stmts => .mk id span (Stmt.keepTargetsAll known stmts)

/-- The statement without call targets that are not known. -/
def Stmt.keepTargets (known : MemberId → Bool) : Stmt → Stmt
  | .mk id span kind => .mk id span (kind.keepTargets known)

def StmtKind.keepTargets (known : MemberId → Bool) : StmtKind → StmtKind
  | .block block => .block (block.keepTargets known)
  | .expression expr => .expression (expr.keepTargets known)
  | .declareLocal name init => .declareLocal name (Expr.keepTargetsOption known init)
  | .branch condition thenBranch elseBranch =>
    .branch (condition.keepTargets known) (thenBranch.keepTargets known)
      (Stmt.keepTargetsOption known elseBranch)
  | .whileLoop condition body => .whileLoop (condition.keepTargets known) (body.keepTargets known)
  | .doWhile body condition => .doWhile (body.keepTargets known) (condition.keepTargets known)
  | .forLoop condition body =>
    .forLoop (Expr.keepTargetsOption known condition) (body.keepTargets known)
  | .forEach collection body => .forEach (collection.keepTargets known) (body.keepTargets known)
  | .switch subject sections =>
    .switch (subject.keepTargets known) (SwitchSection.keepTargetsAll known sections)
  | .tryCatch block catches finalizer =>
    .tryCatch (block.keepTargets known) (Block.keepTargetsAll known catches)
      (Block.keepTargetsOption known finalizer)
  | .scoped construct resource body =>
    .scoped construct (Expr.keepTargetsOption known resource) (body.keepTargets known)
  | .labeled label stmt => .labeled label (stmt.keepTargets known)
  | .localFunction declaration => .localFunction declaration
  | .returns expr => .returns (Expr.keepTargetsOption known expr)
  | .throws expr => .throws (Expr.keepTargetsOption known expr)
  | .yields expr => .yields (Expr.keepTargetsOption known expr)
  | .breaks => .breaks
  | .continues => .continues
  | .goto label => .goto label
  | .empty => .empty

def SwitchSection.keepTargets (known : MemberId → Bool) : SwitchSection → SwitchSection
  | .mk labels stmts => .mk (Expr.keepTargetsAll known labels) (Stmt.keepTargetsAll known stmts)

/-- The expression without call targets that are not known. -/
def Expr.keepTargets (known : MemberId → Bool) : Expr → Expr
  | .mk id span typeName kind => .mk id span typeName (kind.keepTargets known)

def ExprKind.keepTargets (known : MemberId → Bool) : ExprKind → ExprKind
  | .invocation callee arguments target =>
    .invocation (callee.keepTargets known) (Expr.keepTargetsAll known arguments)
      (target.filter known)
  | .memberAccess receiver member => .memberAccess (receiver.keepTargets known) member
  | .identifier name => .identifier name
  | .objectCreation typeName arguments =>
    .objectCreation typeName (Expr.keepTargetsAll known arguments)
  | .literal text => .literal text
  | .lambda body => .lambda (body.keepTargets known)
  | .binary operator left right =>
    .binary operator (left.keepTargets known) (right.keepTargets known)
  | .assignment target value => .assignment (target.keepTargets known) (value.keepTargets known)
  | .other children => .other (Expr.keepTargetsAll known children)

def Stmt.keepTargetsAll (known : MemberId → Bool) : List Stmt → List Stmt
  | [] => []
  | stmt :: rest => stmt.keepTargets known :: Stmt.keepTargetsAll known rest

def Expr.keepTargetsAll (known : MemberId → Bool) : List Expr → List Expr
  | [] => []
  | expr :: rest => expr.keepTargets known :: Expr.keepTargetsAll known rest

def Block.keepTargetsAll (known : MemberId → Bool) : List Block → List Block
  | [] => []
  | block :: rest => block.keepTargets known :: Block.keepTargetsAll known rest

def SwitchSection.keepTargetsAll (known : MemberId → Bool) :
    List SwitchSection → List SwitchSection
  | [] => []
  | first :: rest => first.keepTargets known :: SwitchSection.keepTargetsAll known rest

def Stmt.keepTargetsOption (known : MemberId → Bool) : Option Stmt → Option Stmt
  | none => none
  | some stmt => some (stmt.keepTargets known)

def Expr.keepTargetsOption (known : MemberId → Bool) : Option Expr → Option Expr
  | none => none
  | some expr => some (expr.keepTargets known)

def Block.keepTargetsOption (known : MemberId → Bool) : Option Block → Option Block
  | none => none
  | some block => some (block.keepTargets known)

end

/-! ## Sequences and options -/

section

variable (known : MemberId → Bool)

theorem Stmt.keepTargetsAll_eq_map (stmts : List Stmt) :
    Stmt.keepTargetsAll known stmts = stmts.map (Stmt.keepTargets known) := by
  induction stmts with
  | nil => rfl
  | cons stmt rest inductionHypothesis => rw [Stmt.keepTargetsAll, inductionHypothesis, List.map]

theorem Expr.keepTargetsAll_eq_map (exprs : List Expr) :
    Expr.keepTargetsAll known exprs = exprs.map (Expr.keepTargets known) := by
  induction exprs with
  | nil => rfl
  | cons expr rest inductionHypothesis => rw [Expr.keepTargetsAll, inductionHypothesis, List.map]

theorem Block.keepTargetsAll_eq_map (blocks : List Block) :
    Block.keepTargetsAll known blocks = blocks.map (Block.keepTargets known) := by
  induction blocks with
  | nil => rfl
  | cons block rest inductionHypothesis =>
      rw [Block.keepTargetsAll, inductionHypothesis, List.map]

theorem SwitchSection.keepTargetsAll_eq_map (sections : List SwitchSection) :
    SwitchSection.keepTargetsAll known sections =
      sections.map (SwitchSection.keepTargets known) := by
  induction sections with
  | nil => rfl
  | cons first rest inductionHypothesis =>
      rw [SwitchSection.keepTargetsAll, inductionHypothesis, List.map]

theorem Stmt.keepTargetsOption_eq_map (stmt : Option Stmt) :
    Stmt.keepTargetsOption known stmt = stmt.map (Stmt.keepTargets known) := by
  cases stmt <;> rfl

theorem Expr.keepTargetsOption_eq_map (expr : Option Expr) :
    Expr.keepTargetsOption known expr = expr.map (Expr.keepTargets known) := by
  cases expr <;> rfl

theorem Block.keepTargetsOption_eq_map (block : Option Block) :
    Block.keepTargetsOption known block = block.map (Block.keepTargets known) := by
  cases block <;> rfl

/-! ## Parts of a node -/

@[simp] theorem Stmt.id_keepTargets (stmt : Stmt) : (stmt.keepTargets known).id = stmt.id := by
  cases stmt
  rfl

@[simp] theorem Stmt.span_keepTargets (stmt : Stmt) :
    (stmt.keepTargets known).span = stmt.span := by
  cases stmt
  rfl

@[simp] theorem Stmt.kind_keepTargets (stmt : Stmt) :
    (stmt.keepTargets known).kind = stmt.kind.keepTargets known := by
  cases stmt
  rfl

@[simp] theorem Block.stmts_keepTargets (block : Block) :
    (block.keepTargets known).stmts = block.stmts.map (Stmt.keepTargets known) := by
  cases block
  exact Stmt.keepTargetsAll_eq_map known _

@[simp] theorem Expr.typeName_keepTargets (expr : Expr) :
    (expr.keepTargets known).typeName = expr.typeName := by
  cases expr
  rfl

@[simp] theorem Expr.kind_keepTargets (expr : Expr) :
    (expr.keepTargets known).kind = expr.kind.keepTargets known := by
  cases expr
  rfl

/-- A call is bound as before if its target is known, and not bound otherwise. -/
theorem Expr.invocationTarget?_keepTargets (expr : Expr) :
    (expr.keepTargets known).invocationTarget? = expr.invocationTarget?.filter known := by
  unfold Expr.invocationTarget?
  rw [Expr.kind_keepTargets]
  cases expr.kind <;> rfl

/-! ## Traversals -/

/-- The node without call targets that are not known. -/
def Visit.keepTargets : Visit → Visit
  | .body visited => .body (visited.keepTargets known)
  | .block visited => .block (visited.keepTargets known)
  | .stmt visited => .stmt (visited.keepTargets known)
  | .expr visited => .expr (visited.keepTargets known)
  | .localFunction declaration => .localFunction declaration

private theorem SwitchSection.children_keepTargets (entry : SwitchSection) :
    (entry.keepTargets known).children = entry.children.map (Visit.keepTargets known) := by
  cases entry
  simp [SwitchSection.children, SwitchSection.keepTargets, SwitchSection.labels,
    SwitchSection.stmts, Stmt.keepTargetsAll_eq_map, Expr.keepTargetsAll_eq_map,
    Function.comp_def, Visit.keepTargets]

theorem StmtKind.children_keepTargets (kind : StmtKind) :
    (kind.keepTargets known).children = kind.children.map (Visit.keepTargets known) := by
  have sections : (fun entry : SwitchSection => (entry.keepTargets known).children) =
      fun entry => entry.children.map (Visit.keepTargets known) :=
    funext (SwitchSection.children_keepTargets known)
  cases kind <;>
    simp [StmtKind.children, StmtKind.keepTargets, Visit.keepTargets, List.map_flatMap,
      List.flatMap_map, Stmt.keepTargetsOption_eq_map, Expr.keepTargetsOption_eq_map,
      Block.keepTargetsOption_eq_map, Block.keepTargetsAll_eq_map,
      SwitchSection.keepTargetsAll_eq_map, Option.toList_map, Function.comp_def, sections]

private theorem ExprKind.children_keepTargets (kind : ExprKind) :
    (kind.keepTargets known).children = kind.children.map (Visit.keepTargets known) := by
  cases kind <;>
    simp [ExprKind.children, ExprKind.keepTargets, Visit.keepTargets, Expr.keepTargetsAll_eq_map]

namespace Visit

theorem children_keepTargets (node : Visit) :
    (node.keepTargets known).children = node.children.map (keepTargets known) := by
  cases node with
  | body body => cases body <;> simp [children, keepTargets, Body.keepTargets]
  | block block => simp [children, keepTargets]
  | stmt stmt =>
      simp only [children, keepTargets, Stmt.kind_keepTargets, StmtKind.children_keepTargets]
  | expr expr =>
      simp only [children, keepTargets, Expr.kind_keepTargets, ExprKind.children_keepTargets]
  | localFunction declaration => rfl

/-- A traversal meets the same nodes in the same order, each without such targets. -/
theorem visits_keepTargets (node : Visit) :
    (node.keepTargets known).visits = node.visits.map (keepTargets known) := by
  induction node using Visit.induction with
  | step node inductionHypothesis =>
      rw [(node.keepTargets known).visits_eq_cons, node.visits_eq_cons, children_keepTargets,
        List.map_cons, List.flatMap_map, List.map_flatMap]
      congr 1
      exact List.flatMap_congr inductionHypothesis

theorem stmt?_keepTargets (node : Visit) :
    (node.keepTargets known).stmt? = node.stmt?.map (Stmt.keepTargets known) := by
  cases node <;> rfl

theorem localFunction?_keepTargets (node : Visit) :
    (node.keepTargets known).localFunction? = node.localFunction? := by
  cases node <;> rfl

theorem isStep_keepTargets (node : Visit) : (node.keepTargets known).isStep = node.isStep := by
  cases node <;> rfl

/-- What is called at a node, if it is known. -/
theorem invocationTarget?_keepTargets (node : Visit) :
    (node.keepTargets known).expr?.bind Expr.invocationTarget? =
      (node.expr?.bind Expr.invocationTarget?).filter known := by
  cases node with
  | expr expr => exact expr.invocationTarget?_keepTargets known
  | _ => rfl

end Visit

theorem Body.visits_keepTargets (body : Body) :
    (body.keepTargets known).visits = body.visits.map (Visit.keepTargets known) :=
  (Visit.body body).visits_keepTargets known

theorem Body.localFunctions_keepTargets (body : Body) :
    (body.keepTargets known).localFunctions = body.localFunctions := by
  unfold Body.localFunctions
  rw [Body.visits_keepTargets, List.filterMap_map]
  exact List.filterMap_congr fun node _ => node.localFunction?_keepTargets known

end

/-! ## Numbering -/

mutual

theorem Body.number_keepTargets (known : MemberId → Bool) (body : Body) :
    (body.keepTargets known).number = Body.keepTargets known <$> body.number := by
  cases body <;> simp only [Body.keepTargets, Body.number, map_bind, map_pure, bind_map_left,
    Block.number_keepTargets, Expr.number_keepTargets]

theorem Block.number_keepTargets (known : MemberId → Bool) (block : Block) :
    (block.keepTargets known).number = Block.keepTargets known <$> block.number := by
  cases block
  simp only [Block.keepTargets, Block.number, map_bind, map_pure, bind_map_left,
    Stmt.number_keepTargetsAll]

theorem Stmt.number_keepTargets (known : MemberId → Bool) (stmt : Stmt) :
    (stmt.keepTargets known).number = Stmt.keepTargets known <$> stmt.number := by
  cases stmt
  simp only [Stmt.keepTargets, Stmt.number, map_bind, map_pure, bind_map_left,
    StmtKind.number_keepTargets]

theorem StmtKind.number_keepTargets (known : MemberId → Bool) (kind : StmtKind) :
    (kind.keepTargets known).number = StmtKind.keepTargets known <$> kind.number := by
  cases kind <;> simp only [StmtKind.keepTargets, StmtKind.number, map_bind, map_pure,
    bind_map_left, Block.number_keepTargets, Expr.number_keepTargets, Stmt.number_keepTargets,
    Expr.number_keepTargetsOption, Stmt.number_keepTargetsOption, Block.number_keepTargetsOption,
    Block.number_keepTargetsAll, SwitchSection.number_keepTargetsAll]

theorem SwitchSection.number_keepTargets (known : MemberId → Bool) (entry : SwitchSection) :
    (entry.keepTargets known).number = SwitchSection.keepTargets known <$> entry.number := by
  cases entry
  simp only [SwitchSection.keepTargets, SwitchSection.number, map_bind, map_pure, bind_map_left,
    Expr.number_keepTargetsAll, Stmt.number_keepTargetsAll]

theorem Expr.number_keepTargets (known : MemberId → Bool) (expr : Expr) :
    (expr.keepTargets known).number = Expr.keepTargets known <$> expr.number := by
  cases expr
  simp only [Expr.keepTargets, Expr.number, map_bind, map_pure, bind_map_left,
    ExprKind.number_keepTargets]

theorem ExprKind.number_keepTargets (known : MemberId → Bool) (kind : ExprKind) :
    (kind.keepTargets known).number = ExprKind.keepTargets known <$> kind.number := by
  cases kind <;> simp only [ExprKind.keepTargets, ExprKind.number, map_bind, map_pure,
    bind_map_left, Expr.number_keepTargets, Expr.number_keepTargetsAll, Body.number_keepTargets]

theorem Stmt.number_keepTargetsAll (known : MemberId → Bool) (stmts : List Stmt) :
    Stmt.numberAll (Stmt.keepTargetsAll known stmts) =
      Stmt.keepTargetsAll known <$> Stmt.numberAll stmts := by
  cases stmts <;> simp only [Stmt.keepTargetsAll, Stmt.numberAll, map_bind, map_pure,
    bind_map_left, Stmt.number_keepTargets, Stmt.number_keepTargetsAll]

theorem Expr.number_keepTargetsAll (known : MemberId → Bool) (exprs : List Expr) :
    Expr.numberAll (Expr.keepTargetsAll known exprs) =
      Expr.keepTargetsAll known <$> Expr.numberAll exprs := by
  cases exprs <;> simp only [Expr.keepTargetsAll, Expr.numberAll, map_bind, map_pure,
    bind_map_left, Expr.number_keepTargets, Expr.number_keepTargetsAll]

theorem Block.number_keepTargetsAll (known : MemberId → Bool) (blocks : List Block) :
    Block.numberAll (Block.keepTargetsAll known blocks) =
      Block.keepTargetsAll known <$> Block.numberAll blocks := by
  cases blocks <;> simp only [Block.keepTargetsAll, Block.numberAll, map_bind, map_pure,
    bind_map_left, Block.number_keepTargets, Block.number_keepTargetsAll]

theorem SwitchSection.number_keepTargetsAll (known : MemberId → Bool)
    (sections : List SwitchSection) :
    SwitchSection.numberAll (SwitchSection.keepTargetsAll known sections) =
      SwitchSection.keepTargetsAll known <$> SwitchSection.numberAll sections := by
  cases sections <;> simp only [SwitchSection.keepTargetsAll, SwitchSection.numberAll, map_bind,
    map_pure, bind_map_left, SwitchSection.number_keepTargets,
    SwitchSection.number_keepTargetsAll]

theorem Stmt.number_keepTargetsOption (known : MemberId → Bool) (stmt : Option Stmt) :
    Stmt.numberOption (Stmt.keepTargetsOption known stmt) =
      Stmt.keepTargetsOption known <$> Stmt.numberOption stmt := by
  cases stmt <;> simp only [Stmt.keepTargetsOption, Stmt.numberOption, map_bind, map_pure,
    bind_map_left, Stmt.number_keepTargets]

theorem Expr.number_keepTargetsOption (known : MemberId → Bool) (expr : Option Expr) :
    Expr.numberOption (Expr.keepTargetsOption known expr) =
      Expr.keepTargetsOption known <$> Expr.numberOption expr := by
  cases expr <;> simp only [Expr.keepTargetsOption, Expr.numberOption, map_bind, map_pure,
    bind_map_left, Expr.number_keepTargets]

theorem Block.number_keepTargetsOption (known : MemberId → Bool) (block : Option Block) :
    Block.numberOption (Block.keepTargetsOption known block) =
      Block.keepTargetsOption known <$> Block.numberOption block := by
  cases block <;> simp only [Block.keepTargetsOption, Block.numberOption, map_bind, map_pure,
    bind_map_left, Block.number_keepTargets]

end

end StructureLint
