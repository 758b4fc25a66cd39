import StructureLint.Proofs.Syntax.Nodes
import StructureLint.Syntax.Numbering

/-!
Contract: syntax without its node numbers.

Erasing gives every block, statement and expression the same number and leaves
all else as it is.  Two bodies differ in their numbers only if they are the same
once erased.  Numbering reads nothing but what erasing leaves, and changes
nothing but what erasing takes away.

Owns:
- erasure of node numbers, throughout the syntax;
- what a traversal meets in an erased body;
- numbering before and behind erasure.

Does not own: programs, and which numbers are handed out.
-/

namespace StructureLint

mutual

/-- The body without its node numbers. -/
def Body.eraseNumbers : Body → Body
  | .block block => .block block.eraseNumbers
  | .expression expr => .expression expr.eraseNumbers

/-- The block without its node numbers. -/
def Block.eraseNumbers : Block → Block
  | .mk _ span stmts => .mk {} span (Stmt.eraseNumbersAll stmts)

/-- The statement without its node numbers. -/
def Stmt.eraseNumbers : Stmt → Stmt
  | .mk _ span kind => .mk {} span kind.eraseNumbers

def StmtKind.eraseNumbers : StmtKind → StmtKind
  | .block block => .block block.eraseNumbers
  | .expression expr => .expression expr.eraseNumbers
  | .declareLocal name init => .declareLocal name (Expr.eraseNumbersOption init)
  | .branch condition thenBranch elseBranch =>
    .branch condition.eraseNumbers thenBranch.eraseNumbers (Stmt.eraseNumbersOption elseBranch)
  | .whileLoop condition body => .whileLoop condition.eraseNumbers body.eraseNumbers
  | .doWhile body condition => .doWhile body.eraseNumbers condition.eraseNumbers
  | .forLoop condition body => .forLoop (Expr.eraseNumbersOption condition) body.eraseNumbers
  | .forEach collection body => .forEach collection.eraseNumbers body.eraseNumbers
  | .switch subject sections =>
    .switch subject.eraseNumbers (SwitchSection.eraseNumbersAll sections)
  | .tryCatch block catches finalizer =>
    .tryCatch block.eraseNumbers (Block.eraseNumbersAll catches)
      (Block.eraseNumbersOption finalizer)
  | .scoped construct resource body =>
    .scoped construct (Expr.eraseNumbersOption resource) body.eraseNumbers
  | .labeled label stmt => .labeled label stmt.eraseNumbers
  | .localFunction declaration => .localFunction declaration
  | .returns expr => .returns (Expr.eraseNumbersOption expr)
  | .throws expr => .throws (Expr.eraseNumbersOption expr)
  | .yields expr => .yields (Expr.eraseNumbersOption expr)
  | .breaks => .breaks
  | .continues => .continues
  | .goto label => .goto label
  | .empty => .empty

def SwitchSection.eraseNumbers : SwitchSection → SwitchSection
  | .mk labels stmts => .mk (Expr.eraseNumbersAll labels) (Stmt.eraseNumbersAll stmts)

/-- The expression without its node numbers. -/
def Expr.eraseNumbers : Expr → Expr
  | .mk _ span typeName kind => .mk {} span typeName kind.eraseNumbers

def ExprKind.eraseNumbers : ExprKind → ExprKind
  | .invocation callee arguments target =>
    .invocation callee.eraseNumbers (Expr.eraseNumbersAll arguments) target
  | .memberAccess receiver member => .memberAccess receiver.eraseNumbers member
  | .identifier name => .identifier name
  | .objectCreation typeName arguments => .objectCreation typeName (Expr.eraseNumbersAll arguments)
  | .literal text => .literal text
  | .lambda body => .lambda body.eraseNumbers
  | .binary operator left right => .binary operator left.eraseNumbers right.eraseNumbers
  | .assignment target value => .assignment target.eraseNumbers value.eraseNumbers
  | .other children => .other (Expr.eraseNumbersAll children)

def Stmt.eraseNumbersAll : List Stmt → List Stmt
  | [] => []
  | stmt :: rest => stmt.eraseNumbers :: Stmt.eraseNumbersAll rest

def Expr.eraseNumbersAll : List Expr → List Expr
  | [] => []
  | expr :: rest => expr.eraseNumbers :: Expr.eraseNumbersAll rest

def Block.eraseNumbersAll : List Block → List Block
  | [] => []
  | block :: rest => block.eraseNumbers :: Block.eraseNumbersAll rest

def SwitchSection.eraseNumbersAll : List SwitchSection → List SwitchSection
  | [] => []
  | first :: rest => first.eraseNumbers :: SwitchSection.eraseNumbersAll rest

def Stmt.eraseNumbersOption : Option Stmt → Option Stmt
  | none => none
  | some stmt => some stmt.eraseNumbers

def Expr.eraseNumbersOption : Option Expr → Option Expr
  | none => none
  | some expr => some expr.eraseNumbers

def Block.eraseNumbersOption : Option Block → Option Block
  | none => none
  | some block => some block.eraseNumbers

end

/-! ## Sequences and options -/

theorem Stmt.eraseNumbersAll_eq_map (stmts : List Stmt) :
    Stmt.eraseNumbersAll stmts = stmts.map Stmt.eraseNumbers := by
  induction stmts with
  | nil => rfl
  | cons stmt rest inductionHypothesis => rw [Stmt.eraseNumbersAll, inductionHypothesis, List.map]

theorem Expr.eraseNumbersAll_eq_map (exprs : List Expr) :
    Expr.eraseNumbersAll exprs = exprs.map Expr.eraseNumbers := by
  induction exprs with
  | nil => rfl
  | cons expr rest inductionHypothesis => rw [Expr.eraseNumbersAll, inductionHypothesis, List.map]

theorem Block.eraseNumbersAll_eq_map (blocks : List Block) :
    Block.eraseNumbersAll blocks = blocks.map Block.eraseNumbers := by
  induction blocks with
  | nil => rfl
  | cons block rest inductionHypothesis =>
      rw [Block.eraseNumbersAll, inductionHypothesis, List.map]

theorem SwitchSection.eraseNumbersAll_eq_map (sections : List SwitchSection) :
    SwitchSection.eraseNumbersAll sections = sections.map SwitchSection.eraseNumbers := by
  induction sections with
  | nil => rfl
  | cons first rest inductionHypothesis =>
      rw [SwitchSection.eraseNumbersAll, inductionHypothesis, List.map]

theorem Stmt.eraseNumbersOption_eq_map (stmt : Option Stmt) :
    Stmt.eraseNumbersOption stmt = stmt.map Stmt.eraseNumbers := by
  cases stmt <;> rfl

theorem Expr.eraseNumbersOption_eq_map (expr : Option Expr) :
    Expr.eraseNumbersOption expr = expr.map Expr.eraseNumbers := by
  cases expr <;> rfl

theorem Block.eraseNumbersOption_eq_map (block : Option Block) :
    Block.eraseNumbersOption block = block.map Block.eraseNumbers := by
  cases block <;> rfl

/-! ## Traversals -/

/-- The node without its node numbers. -/
def Visit.eraseNumbers : Visit → Visit
  | .body visited => .body visited.eraseNumbers
  | .block visited => .block visited.eraseNumbers
  | .stmt visited => .stmt visited.eraseNumbers
  | .expr visited => .expr visited.eraseNumbers
  | .localFunction declaration => .localFunction declaration

private theorem SwitchSection.children_eraseNumbers (entry : SwitchSection) :
    entry.eraseNumbers.children = entry.children.map Visit.eraseNumbers := by
  cases entry
  simp [SwitchSection.children, SwitchSection.eraseNumbers, SwitchSection.labels,
    SwitchSection.stmts, Stmt.eraseNumbersAll_eq_map, Expr.eraseNumbersAll_eq_map,
    Function.comp_def, Visit.eraseNumbers]

private theorem StmtKind.children_eraseNumbers (kind : StmtKind) :
    kind.eraseNumbers.children = kind.children.map Visit.eraseNumbers := by
  have sections : (fun entry : SwitchSection => entry.eraseNumbers.children) =
      fun entry => entry.children.map Visit.eraseNumbers :=
    funext SwitchSection.children_eraseNumbers
  cases kind <;>
    simp [StmtKind.children, StmtKind.eraseNumbers, Visit.eraseNumbers, List.map_flatMap,
      List.flatMap_map, Stmt.eraseNumbersOption_eq_map, Expr.eraseNumbersOption_eq_map,
      Block.eraseNumbersOption_eq_map, Block.eraseNumbersAll_eq_map,
      SwitchSection.eraseNumbersAll_eq_map, Option.toList_map, Function.comp_def, sections]

private theorem ExprKind.children_eraseNumbers (kind : ExprKind) :
    kind.eraseNumbers.children = kind.children.map Visit.eraseNumbers := by
  cases kind <;>
    simp [ExprKind.children, ExprKind.eraseNumbers, Visit.eraseNumbers,
      Expr.eraseNumbersAll_eq_map]

namespace Visit

theorem children_eraseNumbers (node : Visit) :
    node.eraseNumbers.children = node.children.map eraseNumbers := by
  cases node with
  | body body => cases body <;> simp [children, eraseNumbers, Body.eraseNumbers]
  | block block =>
      cases block
      simp [children, eraseNumbers, Block.eraseNumbers, Block.stmts, Stmt.eraseNumbersAll_eq_map]
  | stmt stmt =>
      cases stmt
      exact StmtKind.children_eraseNumbers _
  | expr expr =>
      cases expr
      exact ExprKind.children_eraseNumbers _
  | localFunction declaration => rfl

/-- A traversal of an erased node meets the erased nodes, in the same order. -/
theorem visits_eraseNumbers (node : Visit) :
    node.eraseNumbers.visits = node.visits.map eraseNumbers := by
  induction node using Visit.induction with
  | step node inductionHypothesis =>
      rw [node.eraseNumbers.visits_eq_cons, node.visits_eq_cons, children_eraseNumbers,
        List.map_cons, List.flatMap_map, List.map_flatMap]
      congr 1
      exact List.flatMap_congr inductionHypothesis

theorem localFunction?_eraseNumbers (node : Visit) :
    node.eraseNumbers.localFunction? = node.localFunction? := by
  cases node <;> rfl

end Visit

/-- Erasing numbers leaves the local functions of a body in place. -/
theorem Body.localFunctions_eraseNumbers (body : Body) :
    body.eraseNumbers.localFunctions = body.localFunctions := by
  have visits : body.eraseNumbers.visits = body.visits.map Visit.eraseNumbers :=
    (Visit.body body).visits_eraseNumbers
  unfold Body.localFunctions
  rw [visits, List.filterMap_map]
  exact List.filterMap_congr fun node _ => node.localFunction?_eraseNumbers

/-! ## Numbering -/

namespace Numbering

variable {α β γ δ : Type}

/-- The step for an erased piece of syntax is the step for the piece itself, and
erasing what it makes gives back the erased piece. -/
structure Forgets (step stepErased : Numbering α) (erase : α → α) (erased : α) : Prop where
  same : stepErased = step
  erased : ∀ first, erase (step.run first).1 = erased

theorem forgets_pure {erase : α → α} {value : α} (bare : erase value = value) :
    Forgets (pure value) (pure value) erase value where
  same := rfl
  erased _ := bare

variable {step stepErased : Numbering α} {erase : α → α} {part : α}
  {next nextErased : Numbering β} {eraseNext : β → β} {nextPart : β}
  {last lastErased : Numbering γ} {eraseLast : γ → γ} {lastPart : γ} {eraseWhole : δ → δ}

theorem Forgets.build (forgets : Forgets step stepErased erase part) {whole : α → δ}
    (shape : ∀ value, eraseWhole (whole value) = whole (erase value)) :
    Forgets (do return whole (← step)) (do return whole (← stepErased)) eraseWhole
      (whole part) where
  same := by rw [forgets.same]
  erased first := by
    show eraseWhole (whole (step.run first).1) = _
    rw [shape, forgets.erased]

theorem Forgets.build₂ (forgets : Forgets step stepErased erase part)
    (forgetsNext : Forgets next nextErased eraseNext nextPart) {whole : α → β → δ}
    (shape : ∀ value other,
      eraseWhole (whole value other) = whole (erase value) (eraseNext other)) :
    Forgets (do let value ← step; return whole value (← next))
      (do let value ← stepErased; return whole value (← nextErased)) eraseWhole
      (whole part nextPart) where
  same := by rw [forgets.same, forgetsNext.same]
  erased first := by
    show eraseWhole (whole (step.run first).1 (next.run (step.run first).2).1) = _
    rw [shape, forgets.erased, forgetsNext.erased]

theorem Forgets.build₃ (forgets : Forgets step stepErased erase part)
    (forgetsNext : Forgets next nextErased eraseNext nextPart)
    (forgetsLast : Forgets last lastErased eraseLast lastPart) {whole : α → β → γ → δ}
    (shape : ∀ value other third, eraseWhole (whole value other third) =
      whole (erase value) (eraseNext other) (eraseLast third)) :
    Forgets (do let value ← step; let other ← next; return whole value other (← last))
      (do let value ← stepErased; let other ← nextErased; return whole value other (← lastErased))
      eraseWhole (whole part nextPart lastPart) where
  same := by rw [forgets.same, forgetsNext.same, forgetsLast.same]
  erased first := by
    let second := (step.run first).2
    show eraseWhole (whole (step.run first).1 (next.run second).1
      (last.run (next.run second).2).1) = _
    rw [shape, forgets.erased, forgetsNext.erased, forgetsLast.erased]

end Numbering

open StructureLint.Numbering

/-- A fresh number is forgotten again. -/
private theorem forgets_fresh : Forgets fresh fresh (fun _ => {}) {} where
  same := rfl
  erased _ := rfl

mutual

/-- Numbering a body reads nothing but what is left of it when it is erased, and
changes nothing but what erasing takes away. -/
theorem Body.forgets_number (body : Body) :
    Forgets body.number body.eraseNumbers.number Body.eraseNumbers body.eraseNumbers := by
  cases body with
  | block inner =>
      simp only [Body.eraseNumbers, Body.number]
      exact inner.forgets_number.build fun _ => rfl
  | expression expr =>
      simp only [Body.eraseNumbers, Body.number]
      exact expr.forgets_number.build fun _ => rfl

theorem Block.forgets_number (block : Block) :
    Forgets block.number block.eraseNumbers.number Block.eraseNumbers block.eraseNumbers := by
  cases block with
  | mk id span stmts =>
      simp only [Block.eraseNumbers, Block.number]
      exact forgets_fresh.build₂ (Stmt.forgets_numberAll stmts) fun _ _ => rfl

theorem Stmt.forgets_number (stmt : Stmt) :
    Forgets stmt.number stmt.eraseNumbers.number Stmt.eraseNumbers stmt.eraseNumbers := by
  cases stmt with
  | mk id span kind =>
      simp only [Stmt.eraseNumbers, Stmt.number]
      exact forgets_fresh.build₂ kind.forgets_number fun _ _ => rfl

theorem StmtKind.forgets_number (kind : StmtKind) :
    Forgets kind.number kind.eraseNumbers.number StmtKind.eraseNumbers kind.eraseNumbers := by
  cases kind <;> simp only [StmtKind.eraseNumbers, StmtKind.number]
  case block inner =>
    exact inner.forgets_number.build fun _ => rfl
  case expression expr =>
    exact expr.forgets_number.build fun _ => rfl
  case declareLocal name init =>
    exact (Expr.forgets_numberOption init).build fun _ => rfl
  case branch condition thenBranch elseBranch =>
    exact condition.forgets_number.build₃ thenBranch.forgets_number
      (Stmt.forgets_numberOption elseBranch) fun _ _ _ => rfl
  case whileLoop condition inner =>
    exact condition.forgets_number.build₂ inner.forgets_number fun _ _ => rfl
  case doWhile inner condition =>
    exact condition.forgets_number.build₂ inner.forgets_number fun _ _ => rfl
  case forLoop condition inner =>
    exact (Expr.forgets_numberOption condition).build₂ inner.forgets_number fun _ _ => rfl
  case forEach collection inner =>
    exact collection.forgets_number.build₂ inner.forgets_number fun _ _ => rfl
  case switch subject sections =>
    exact subject.forgets_number.build₂ (SwitchSection.forgets_numberAll sections) fun _ _ => rfl
  case tryCatch guarded catches finalizer =>
    exact guarded.forgets_number.build₃ (Block.forgets_numberAll catches)
      (Block.forgets_numberOption finalizer) fun _ _ _ => rfl
  case «scoped» construct resource inner =>
    exact (Expr.forgets_numberOption resource).build₂ inner.forgets_number fun _ _ => rfl
  case labeled label inner =>
    exact inner.forgets_number.build fun _ => rfl
  case returns expr =>
    exact (Expr.forgets_numberOption expr).build fun _ => rfl
  case throws expr =>
    exact (Expr.forgets_numberOption expr).build fun _ => rfl
  case yields expr =>
    exact (Expr.forgets_numberOption expr).build fun _ => rfl
  case localFunction declaration => exact forgets_pure rfl
  case breaks => exact forgets_pure rfl
  case continues => exact forgets_pure rfl
  case goto label => exact forgets_pure rfl
  case empty => exact forgets_pure rfl

theorem SwitchSection.forgets_number (entry : SwitchSection) :
    Forgets entry.number entry.eraseNumbers.number SwitchSection.eraseNumbers
      entry.eraseNumbers := by
  cases entry with
  | mk labels stmts =>
      simp only [SwitchSection.eraseNumbers, SwitchSection.number]
      exact (Expr.forgets_numberAll labels).build₂ (Stmt.forgets_numberAll stmts) fun _ _ => rfl

theorem Expr.forgets_number (expr : Expr) :
    Forgets expr.number expr.eraseNumbers.number Expr.eraseNumbers expr.eraseNumbers := by
  cases expr with
  | mk id span typeName kind =>
      simp only [Expr.eraseNumbers, Expr.number]
      exact forgets_fresh.build₂ kind.forgets_number fun _ _ => rfl

theorem ExprKind.forgets_number (kind : ExprKind) :
    Forgets kind.number kind.eraseNumbers.number ExprKind.eraseNumbers kind.eraseNumbers := by
  cases kind <;> simp only [ExprKind.eraseNumbers, ExprKind.number]
  case invocation callee arguments target =>
    exact callee.forgets_number.build₂ (Expr.forgets_numberAll arguments) fun _ _ => rfl
  case memberAccess receiver member =>
    exact receiver.forgets_number.build fun _ => rfl
  case objectCreation typeName arguments =>
    exact (Expr.forgets_numberAll arguments).build fun _ => rfl
  case lambda inner =>
    exact inner.forgets_number.build fun _ => rfl
  case binary operator left right =>
    exact left.forgets_number.build₂ right.forgets_number fun _ _ => rfl
  case assignment target value =>
    exact target.forgets_number.build₂ value.forgets_number fun _ _ => rfl
  case other children =>
    exact (Expr.forgets_numberAll children).build fun _ => rfl
  case identifier name => exact forgets_pure rfl
  case literal text => exact forgets_pure rfl

theorem Stmt.forgets_numberAll (stmts : List Stmt) :
    Forgets (Stmt.numberAll stmts) (Stmt.numberAll (Stmt.eraseNumbersAll stmts))
      Stmt.eraseNumbersAll (Stmt.eraseNumbersAll stmts) := by
  cases stmts <;> simp only [Stmt.eraseNumbersAll, Stmt.numberAll]
  case nil => exact forgets_pure rfl
  case cons stmt rest =>
    exact stmt.forgets_number.build₂ (Stmt.forgets_numberAll rest) fun _ _ => rfl

theorem Expr.forgets_numberAll (exprs : List Expr) :
    Forgets (Expr.numberAll exprs) (Expr.numberAll (Expr.eraseNumbersAll exprs))
      Expr.eraseNumbersAll (Expr.eraseNumbersAll exprs) := by
  cases exprs <;> simp only [Expr.eraseNumbersAll, Expr.numberAll]
  case nil => exact forgets_pure rfl
  case cons expr rest =>
    exact expr.forgets_number.build₂ (Expr.forgets_numberAll rest) fun _ _ => rfl

theorem Block.forgets_numberAll (blocks : List Block) :
    Forgets (Block.numberAll blocks) (Block.numberAll (Block.eraseNumbersAll blocks))
      Block.eraseNumbersAll (Block.eraseNumbersAll blocks) := by
  cases blocks <;> simp only [Block.eraseNumbersAll, Block.numberAll]
  case nil => exact forgets_pure rfl
  case cons block rest =>
    exact block.forgets_number.build₂ (Block.forgets_numberAll rest) fun _ _ => rfl

theorem SwitchSection.forgets_numberAll (sections : List SwitchSection) :
    Forgets (SwitchSection.numberAll sections)
      (SwitchSection.numberAll (SwitchSection.eraseNumbersAll sections))
      SwitchSection.eraseNumbersAll (SwitchSection.eraseNumbersAll sections) := by
  cases sections <;> simp only [SwitchSection.eraseNumbersAll, SwitchSection.numberAll]
  case nil => exact forgets_pure rfl
  case cons first rest =>
    exact first.forgets_number.build₂ (SwitchSection.forgets_numberAll rest) fun _ _ => rfl

theorem Stmt.forgets_numberOption (stmt : Option Stmt) :
    Forgets (Stmt.numberOption stmt) (Stmt.numberOption (Stmt.eraseNumbersOption stmt))
      Stmt.eraseNumbersOption (Stmt.eraseNumbersOption stmt) := by
  cases stmt <;> simp only [Stmt.eraseNumbersOption, Stmt.numberOption]
  case none => exact forgets_pure rfl
  case some stmt =>
    exact stmt.forgets_number.build fun _ => rfl

theorem Expr.forgets_numberOption (expr : Option Expr) :
    Forgets (Expr.numberOption expr) (Expr.numberOption (Expr.eraseNumbersOption expr))
      Expr.eraseNumbersOption (Expr.eraseNumbersOption expr) := by
  cases expr <;> simp only [Expr.eraseNumbersOption, Expr.numberOption]
  case none => exact forgets_pure rfl
  case some expr =>
    exact expr.forgets_number.build fun _ => rfl

theorem Block.forgets_numberOption (block : Option Block) :
    Forgets (Block.numberOption block) (Block.numberOption (Block.eraseNumbersOption block))
      Block.eraseNumbersOption (Block.eraseNumbersOption block) := by
  cases block <;> simp only [Block.eraseNumbersOption, Block.numberOption]
  case none => exact forgets_pure rfl
  case some block =>
    exact block.forgets_number.build fun _ => rfl

end

end StructureLint
