import StructureLint.Position.Codec
import StructureLint.Syntax.Tree

/-!
Contract: the written form of syntax trees.

Statements and expressions are tagged records.  Every field is written except
the static type of an expression that has none.

Owns:
- the encoder, by recursion on the tree;
- the decoder, by recursion on the nesting height of the written form.

Does not own: text.
-/

namespace StructureLint

/-- A type number. -/
def TypeId.encode (id : TypeId) : Json :=
  .nat id.index.toNat

/-- Reads a type number. -/
def TypeId.decode? (value : Json) : Option TypeId :=
  value.word32?.map TypeId.mk

/-- A member number. -/
def MemberId.encode (id : MemberId) : Json :=
  .nat id.index.toNat

/-- Reads a member number. -/
def MemberId.decode? (value : Json) : Option MemberId :=
  value.word32?.map MemberId.mk

/-- A declaration number. -/
def DeclarationId.encode (id : DeclarationId) : Json :=
  .nat id.index.toNat

/-- Reads a declaration number. -/
def DeclarationId.decode? (value : Json) : Option DeclarationId :=
  value.word32?.map DeclarationId.mk

/-- A node number. -/
def NodeId.encode (id : NodeId) : Json :=
  .nat id.index.toNat

/-- Reads a node number. -/
def NodeId.decode? (value : Json) : Option NodeId :=
  value.word32?.map NodeId.mk

namespace ScopeConstruct

/-- How a scope construct is spelled. -/
def spelling : ScopeConstruct → String
  | .using => "using"
  | .lock => "lock"
  | .fixed => "fixed"
  | .checked => "checked"
  | .rawMemory => "unsafe"

/-- Reads a scope construct. -/
def decode? : Json → Option ScopeConstruct :=
  Json.innerChoice? spelling [.using, .lock, .fixed, .checked, .rawMemory]

end ScopeConstruct

/-- The tag of a statement. -/
def StmtKind.tag : StmtKind → String
  | .block _ => "block"
  | .expression _ => "expression"
  | .declareLocal _ _ => "local"
  | .branch _ _ _ => "if"
  | .whileLoop _ _ => "while"
  | .doWhile _ _ => "do_while"
  | .forLoop _ _ => "for"
  | .forEach _ _ => "for_each"
  | .switch _ _ => "switch"
  | .tryCatch _ _ _ => "try"
  | .scoped _ _ _ => "scoped"
  | .labeled _ _ => "labeled"
  | .localFunction _ => "local_function"
  | .returns _ => "return"
  | .throws _ => "throw"
  | .yields _ => "yield"
  | .breaks => "break"
  | .continues => "continue"
  | .goto _ => "goto"
  | .empty => "empty"

/-- The tag of an expression. -/
def ExprKind.tag : ExprKind → String
  | .invocation _ _ _ => "invocation"
  | .memberAccess _ _ => "member_access"
  | .identifier _ => "identifier"
  | .objectCreation _ _ => "object_creation"
  | .literal _ => "literal"
  | .lambda _ => "lambda"
  | .binary _ _ _ => "binary"
  | .assignment _ _ => "assignment"
  | .other _ => "other"

/-- The tags of statements in the order of their numbers. -/
def StmtKind.tags : List String :=
  ["block", "expression", "local", "if", "while", "do_while", "for", "for_each", "switch", "try",
    "scoped", "labeled", "local_function", "return", "throw", "yield", "break", "continue",
    "goto", "empty"]

/-- The tags of expressions in the order of their numbers. -/
def ExprKind.tags : List String :=
  ["invocation", "member_access", "identifier", "object_creation", "literal", "lambda", "binary",
    "assignment", "other"]

/-! ## Encoding -/

mutual

/-- Writes a body under the name of its kind. -/
def Body.encode : Body → Json
  | .block block => .obj [("block", block.encode)]
  | .expression expr => .obj [("expression", expr.encode)]

/-- Writes a block. -/
def Block.encode : Block → Json
  | .mk id span stmts =>
    .obj [("id", id.encode), ("span", span.encode), ("stmts", .arr (Stmt.encodeAll stmts))]

/-- Writes a statement. -/
def Stmt.encode : Stmt → Json
  | .mk id span kind =>
    .obj [("id", id.encode), ("span", span.encode),
      ("kind", .obj (("stmt", .str kind.tag) :: kind.encodeFields))]

/-- Writes the fields of a statement. -/
def StmtKind.encodeFields : StmtKind → List (String × Json)
  | .block block => [("block", block.encode)]
  | .expression expr => [("expr", expr.encode)]
  | .declareLocal name init => [("name", .str name), ("init", Expr.encodeOption init)]
  | .branch condition thenBranch elseBranch =>
    [("condition", condition.encode), ("then", thenBranch.encode),
      ("otherwise", Stmt.encodeOption elseBranch)]
  | .whileLoop condition body => [("condition", condition.encode), ("body", body.encode)]
  | .doWhile body condition => [("body", body.encode), ("condition", condition.encode)]
  | .forLoop condition body =>
    [("condition", Expr.encodeOption condition), ("body", body.encode)]
  | .forEach collection body => [("collection", collection.encode), ("body", body.encode)]
  | .switch subject sections =>
    [("subject", subject.encode), ("sections", .arr (SwitchSection.encodeAll sections))]
  | .tryCatch block catches finalizer =>
    [("block", block.encode), ("catches", .arr (Block.encodeAll catches)),
      ("finally", Block.encodeOption finalizer)]
  | .scoped construct resource body =>
    [("construct", .str construct.spelling), ("resource", Expr.encodeOption resource),
      ("body", body.encode)]
  | .labeled label stmt => [("label", .str label), ("statement", stmt.encode)]
  | .localFunction declaration => [("decl", declaration.encode)]
  | .returns expr => [("expr", Expr.encodeOption expr)]
  | .throws expr => [("expr", Expr.encodeOption expr)]
  | .yields expr => [("expr", Expr.encodeOption expr)]
  | .breaks => []
  | .continues => []
  | .goto label => [("label", .str label)]
  | .empty => []

/-- Writes a `switch` section. -/
def SwitchSection.encode : SwitchSection → Json
  | .mk labels stmts =>
    .obj [("labels", .arr (Expr.encodeAll labels)), ("stmts", .arr (Stmt.encodeAll stmts))]

/-- Writes an expression. -/
def Expr.encode : Expr → Json
  | .mk id span none kind =>
    .obj [("id", id.encode), ("span", span.encode),
      ("kind", .obj (("expr", .str kind.tag) :: kind.encodeFields))]
  | .mk id span (some typeName) kind =>
    .obj [("id", id.encode), ("span", span.encode), ("ty", .str typeName),
      ("kind", .obj (("expr", .str kind.tag) :: kind.encodeFields))]

/-- Writes the fields of an expression. -/
def ExprKind.encodeFields : ExprKind → List (String × Json)
  | .invocation callee arguments target =>
    [("callee", callee.encode), ("args", .arr (Expr.encodeAll arguments)),
      ("target", Json.option MemberId.encode target)]
  | .memberAccess receiver member => [("receiver", receiver.encode), ("member", .str member)]
  | .identifier name => [("name", .str name)]
  | .objectCreation typeName arguments =>
    [("type_name", .str typeName), ("args", .arr (Expr.encodeAll arguments))]
  | .literal text => [("text", .str text)]
  | .lambda body => [("body", body.encode)]
  | .binary operator left right =>
    [("op", .str operator), ("lhs", left.encode), ("rhs", right.encode)]
  | .assignment target value => [("target", target.encode), ("value", value.encode)]
  | .other children => [("children", .arr (Expr.encodeAll children))]

/-- Writes statements. -/
def Stmt.encodeAll : List Stmt → List Json
  | [] => []
  | stmt :: rest => stmt.encode :: Stmt.encodeAll rest

/-- Writes expressions. -/
def Expr.encodeAll : List Expr → List Json
  | [] => []
  | expr :: rest => expr.encode :: Expr.encodeAll rest

/-- Writes blocks. -/
def Block.encodeAll : List Block → List Json
  | [] => []
  | block :: rest => block.encode :: Block.encodeAll rest

/-- Writes `switch` sections. -/
def SwitchSection.encodeAll : List SwitchSection → List Json
  | [] => []
  | first :: rest => first.encode :: SwitchSection.encodeAll rest

/-- Writes an optional statement. -/
def Stmt.encodeOption : Option Stmt → Json
  | none => .null
  | some stmt => stmt.encode

/-- Writes an optional expression. -/
def Expr.encodeOption : Option Expr → Json
  | none => .null
  | some expr => expr.encode

/-- Writes an optional block. -/
def Block.encodeOption : Option Block → Json
  | none => .null
  | some block => block.encode

end

/-! ## Decoding -/

mutual

/-- Reads a body whose written form nests less than `depth` levels. -/
def Body.decodeWithin? : (depth : Nat) → Json.Place → Json → Option Body
  | 0, _, _ => none
  | depth + 1, place, value =>
    match value with
    | .obj [(name, content)] =>
      if name == "block" then (Block.decodeWithin? depth place content).map Body.block
      else if name == "expression" then (Expr.decodeWithin? depth place content).map Body.expression
      else none
    | _ => none

/-- Reads a block. -/
def Block.decodeWithin? : (depth : Nat) → Json.Place → Json → Option Block
  | 0, _, _ => none
  | depth + 1, place, value => do
    let record ← value.record? ["id", "span", "stmts"]
    let id ← record.orElse? "id" {} NodeId.decode?
    let span ← record.orElse? "span" {} Span.decode?
    let stmts ← record.orElse? "stmts" [] (Json.list? (Stmt.decodeWithin? depth place))
    return .mk id span stmts

/-- Reads a statement. -/
def Stmt.decodeWithin? : (depth : Nat) → Json.Place → Json → Option Stmt
  | 0, _, _ => none
  | depth + 1, place, value => do
    let record ← value.record? ["id", "span", "kind"]
    let id ← record.orElse? "id" {} NodeId.decode?
    let span ← record.orElse? "span" {} Span.decode?
    let kind ← record.required? "kind" (StmtKind.decodeWithin? depth place)
    return .mk id span kind

/-- Reads what a statement does. -/
def StmtKind.decodeWithin? : (depth : Nat) → Json.Place → Json → Option StmtKind
  | 0, _, _ => none
  | depth + 1, place, value => do
    let (tag, content) ← value.tagged? "stmt" StmtKind.tags place
    match tag with
    | "block" =>
      let record ← content.record? ["block"]
      return .block (← record.required? "block" (Block.decodeWithin? depth .inner))
    | "expression" =>
      let record ← content.record? ["expr"]
      return .expression (← record.required? "expr" (Expr.decodeWithin? depth .inner))
    | "local" =>
      let record ← content.record? ["name", "init"]
      let name ← record.required? "name" Json.str?
      let init ← record.orElse? "init" none (Json.option? (Expr.decodeWithin? depth .inner))
      return .declareLocal name init
    | "if" =>
      let record ← content.record? ["condition", "then", "otherwise"]
      let condition ← record.required? "condition" (Expr.decodeWithin? depth .inner)
      let thenBranch ← record.required? "then" (Stmt.decodeWithin? depth .inner)
      let elseBranch ← record.orElse? "otherwise" none
        (Json.option? (Stmt.decodeWithin? depth .inner))
      return .branch condition thenBranch elseBranch
    | "while" =>
      let record ← content.record? ["condition", "body"]
      let condition ← record.required? "condition" (Expr.decodeWithin? depth .inner)
      let body ← record.required? "body" (Stmt.decodeWithin? depth .inner)
      return .whileLoop condition body
    | "do_while" =>
      let record ← content.record? ["body", "condition"]
      let body ← record.required? "body" (Stmt.decodeWithin? depth .inner)
      let condition ← record.required? "condition" (Expr.decodeWithin? depth .inner)
      return .doWhile body condition
    | "for" =>
      let record ← content.record? ["condition", "body"]
      let condition ← record.orElse? "condition" none
        (Json.option? (Expr.decodeWithin? depth .inner))
      let body ← record.required? "body" (Stmt.decodeWithin? depth .inner)
      return .forLoop condition body
    | "for_each" =>
      let record ← content.record? ["collection", "body"]
      let collection ← record.required? "collection" (Expr.decodeWithin? depth .inner)
      let body ← record.required? "body" (Stmt.decodeWithin? depth .inner)
      return .forEach collection body
    | "switch" =>
      let record ← content.record? ["subject", "sections"]
      let subject ← record.required? "subject" (Expr.decodeWithin? depth .inner)
      let sections ← record.orElse? "sections" []
        (Json.list? (SwitchSection.decodeWithin? depth .inner))
      return .switch subject sections
    | "try" =>
      let record ← content.record? ["block", "catches", "finally"]
      let block ← record.required? "block" (Block.decodeWithin? depth .inner)
      let catches ← record.orElse? "catches" [] (Json.list? (Block.decodeWithin? depth .inner))
      let finalizer ← record.orElse? "finally" none
        (Json.option? (Block.decodeWithin? depth .inner))
      return .tryCatch block catches finalizer
    | "scoped" =>
      let record ← content.record? ["construct", "resource", "body"]
      let construct ← record.required? "construct" ScopeConstruct.decode?
      let resource ← record.orElse? "resource" none (Json.option? (Expr.decodeWithin? depth .inner))
      let body ← record.required? "body" (Stmt.decodeWithin? depth .inner)
      return .scoped construct resource body
    | "labeled" =>
      let record ← content.record? ["label", "statement"]
      let label ← record.required? "label" Json.str?
      let stmt ← record.required? "statement" (Stmt.decodeWithin? depth .inner)
      return .labeled label stmt
    | "local_function" =>
      let record ← content.record? ["decl"]
      return .localFunction (← record.required? "decl" DeclarationId.decode?)
    | "return" =>
      let record ← content.record? ["expr"]
      return .returns (← record.orElse? "expr" none
        (Json.option? (Expr.decodeWithin? depth .inner)))
    | "throw" =>
      let record ← content.record? ["expr"]
      return .throws (← record.orElse? "expr" none (Json.option? (Expr.decodeWithin? depth .inner)))
    | "yield" =>
      let record ← content.record? ["expr"]
      return .yields (← record.orElse? "expr" none (Json.option? (Expr.decodeWithin? depth .inner)))
    | "break" => content.noFields?.map fun _ => .breaks
    | "continue" => content.noFields?.map fun _ => .continues
    | "goto" =>
      let record ← content.record? ["label"]
      return .goto (← record.required? "label" Json.str?)
    | "empty" => content.noFields?.map fun _ => .empty
    | _ => none

/-- Reads a `switch` section. -/
def SwitchSection.decodeWithin? : (depth : Nat) → Json.Place → Json → Option SwitchSection
  | 0, _, _ => none
  | depth + 1, place, value => do
    let record ← value.record? ["labels", "stmts"]
    let labels ← record.orElse? "labels" [] (Json.list? (Expr.decodeWithin? depth place))
    let stmts ← record.orElse? "stmts" [] (Json.list? (Stmt.decodeWithin? depth place))
    return .mk labels stmts

/-- Reads an expression. -/
def Expr.decodeWithin? : (depth : Nat) → Json.Place → Json → Option Expr
  | 0, _, _ => none
  | depth + 1, place, value => do
    let record ← value.record? ["id", "span", "ty", "kind"]
    let id ← record.orElse? "id" {} NodeId.decode?
    let span ← record.orElse? "span" {} Span.decode?
    let typeName ← record.orElse? "ty" none (Json.option? Json.str?)
    let kind ← record.required? "kind" (ExprKind.decodeWithin? depth place)
    return .mk id span typeName kind

/-- Reads what an expression computes. -/
def ExprKind.decodeWithin? : (depth : Nat) → Json.Place → Json → Option ExprKind
  | 0, _, _ => none
  | depth + 1, place, value => do
    let (tag, content) ← value.tagged? "expr" ExprKind.tags place
    match tag with
    | "invocation" =>
      let record ← content.record? ["callee", "args", "target"]
      let callee ← record.required? "callee" (Expr.decodeWithin? depth .inner)
      let arguments ← record.orElse? "args" [] (Json.list? (Expr.decodeWithin? depth .inner))
      let target ← record.orElse? "target" none (Json.option? MemberId.decode?)
      return .invocation callee arguments target
    | "member_access" =>
      let record ← content.record? ["receiver", "member"]
      let receiver ← record.required? "receiver" (Expr.decodeWithin? depth .inner)
      let member ← record.required? "member" Json.str?
      return .memberAccess receiver member
    | "identifier" =>
      let record ← content.record? ["name"]
      return .identifier (← record.required? "name" Json.str?)
    | "object_creation" =>
      let record ← content.record? ["type_name", "args"]
      let typeName ← record.required? "type_name" Json.str?
      let arguments ← record.orElse? "args" [] (Json.list? (Expr.decodeWithin? depth .inner))
      return .objectCreation typeName arguments
    | "literal" =>
      let record ← content.record? ["text"]
      return .literal (← record.required? "text" Json.str?)
    | "lambda" =>
      let record ← content.record? ["body"]
      return .lambda (← record.required? "body" (Body.decodeWithin? depth .inner))
    | "binary" =>
      let record ← content.record? ["op", "lhs", "rhs"]
      let operator ← record.required? "op" Json.str?
      let left ← record.required? "lhs" (Expr.decodeWithin? depth .inner)
      let right ← record.required? "rhs" (Expr.decodeWithin? depth .inner)
      return .binary operator left right
    | "assignment" =>
      let record ← content.record? ["target", "value"]
      let target ← record.required? "target" (Expr.decodeWithin? depth .inner)
      let value ← record.required? "value" (Expr.decodeWithin? depth .inner)
      return .assignment target value
    | "other" =>
      let record ← content.record? ["children"]
      return .other (← record.orElse? "children" [] (Json.list? (Expr.decodeWithin? depth .inner)))
    | _ => none

end

/-- Reads a body. -/
def Body.decode? (value : Json) : Option Body :=
  Body.decodeWithin? (value.height + 1) .outermost value

/-- Reads a statement. -/
def Stmt.decode? (value : Json) : Option Stmt :=
  Stmt.decodeWithin? (value.height + 1) .outermost value

/-- Reads an expression. -/
def Expr.decode? (value : Json) : Option Expr :=
  Expr.decodeWithin? (value.height + 1) .outermost value

end StructureLint
