import StructureLint.Proofs.Json.Record
import StructureLint.Syntax.Codec

/-!
Contract: syntax trees are read back from their written form.

The decoder recurses on the nesting height of what it reads, the encoder on the
tree.  Both meet in one statement about each sort of syntax: its written form
can be read all through, and any depth beyond its height gives the tree back.

Owns:
- places and numbers, read back from their written form;
- bodies of any shape and depth, read back from theirs.

Does not own: declarations and symbols.
-/

namespace StructureLint

open Json

/-! ## Places and numbers -/

@[simp] theorem SourcePath.decode?_encode (path : SourcePath) :
    SourcePath.decode? path.encode = some path := by
  simp [SourcePath.decode?, SourcePath.encode]

@[simp] theorem Span.decode?_encode (span : Span) : Span.decode? span.encode = some span := by
  simp [Span.decode?, Span.encode, record?_obj, encodeWord]

@[simp] theorem Location.decode?_encode (location : Location) :
    Location.decode? location.encode = some location := by
  simp [Location.decode?, Location.encode, record?_obj, encodeWord]

@[simp] theorem TypeId.decode?_encode (id : TypeId) : TypeId.decode? id.encode = some id := by
  simp [TypeId.decode?, TypeId.encode]

@[simp] theorem MemberId.decode?_encode (id : MemberId) :
    MemberId.decode? id.encode = some id := by
  simp [MemberId.decode?, MemberId.encode]

@[simp] theorem DeclarationId.decode?_encode (id : DeclarationId) :
    DeclarationId.decode? id.encode = some id := by
  simp [DeclarationId.decode?, DeclarationId.encode]

@[simp] theorem NodeId.decode?_encode (id : NodeId) : NodeId.decode? id.encode = some id := by
  simp [NodeId.decode?, NodeId.encode]

@[simp] theorem ScopeConstruct.decode?_spelling (construct : ScopeConstruct) :
    ScopeConstruct.decode? (.str construct.spelling) = some construct := by
  cases construct <;> rfl

@[simp] theorem Span.encode_ne_null (span : Span) : span.encode ≠ .null :=
  nofun

@[simp] theorem Location.encode_ne_null (location : Location) : location.encode ≠ .null :=
  nofun

@[simp] theorem TypeId.encode_ne_null (id : TypeId) : id.encode ≠ .null :=
  nofun

@[simp] theorem MemberId.encode_ne_null (id : MemberId) : id.encode ≠ .null :=
  nofun

@[simp] theorem DeclarationId.encode_ne_null (id : DeclarationId) : id.encode ≠ .null :=
  nofun

@[simp] theorem Span.isReadable_encode (span : Span) : span.encode.isReadable = true :=
  rfl

@[simp] theorem NodeId.isReadable_encode (id : NodeId) : id.encode.isReadable = true :=
  rfl

@[simp] theorem MemberId.isReadable_encode (id : MemberId) : id.encode.isReadable = true :=
  rfl

@[simp] theorem DeclarationId.isReadable_encode (id : DeclarationId) :
    id.encode.isReadable = true :=
  rfl

/-! ## Reading within a depth -/

/-- What is written can be read all through, and gives the value back at every
place and within every depth beyond its height. -/
structure ReadsBack {α : Type} (decode : Nat → Place → Json → Option α) (written : Json)
    (value : α) : Prop where
  readable : written.isReadable = true
  reads {depth : Nat} (place : Place) (bound : written.height < depth) :
    decode depth place written = some value

namespace ReadsBack

variable {α : Type} {decode : Nat → Place → Json → Option α}

theorem nil : ReadsBack (fun depth place => list? (decode depth place)) (.arr []) [] where
  readable := rfl
  reads _ _ := rfl

theorem cons {written : Json} {others : List Json} {value : α} {rest : List α}
    (first : ReadsBack decode written value)
    (next : ReadsBack (fun depth place => list? (decode depth place)) (.arr others) rest) :
    ReadsBack (fun depth place => list? (decode depth place)) (.arr (written :: others))
      (value :: rest) where
  readable := by
    have readable := next.readable
    simp only [isReadable] at readable
    simp [isReadable, areReadable, first.readable, readable]
  reads {depth} place bound := by
    simp only [height, heightElements] at bound
    have head := first.reads place (show written.height < depth by omega)
    have tail := next.reads place (show (Json.arr others).height < depth by
      rw [height]
      omega)
    simp only [list?] at tail
    simp [list?, List.mapM_cons, head, tail]

theorem none : ReadsBack (fun depth place => option? (decode depth place)) .null .none where
  readable := rfl
  reads _ _ := rfl

theorem some {written : Json} {value : α} (present : ReadsBack decode written value)
    (visible : written ≠ .null) :
    ReadsBack (fun depth place => option? (decode depth place)) written (.some value) where
  readable := present.readable
  reads place bound := by
    rw [option?_of_ne_null visible, present.reads place bound, Option.map_some]

/-- An object is read back if one level more than its fields need reads it. -/
theorem of_fields {fields : List (String × Json)} {value : α}
    (readable : haveReadable fields = true)
    (reads : ∀ depth place, heightFields fields < depth →
      decode (depth + 1) place (.obj fields) = .some value) :
    ReadsBack decode (.obj fields) value where
  readable := by rw [isReadable_obj, readable]
  reads {depth} place bound := by
    cases depth with
    | zero => exact absurd bound (Nat.not_lt_zero _)
    | succ depth => exact reads depth place (height_obj_lt_succ.mp bound)

end ReadsBack

/-! ## Tagged records of the syntax -/

/-- The written form of what a statement does. -/
def StmtKind.encode (kind : StmtKind) : Json :=
  .obj (("stmt", .str kind.tag) :: kind.encodeFields)

/-- The written form of what an expression computes. -/
def ExprKind.encode (kind : ExprKind) : Json :=
  .obj (("expr", .str kind.tag) :: kind.encodeFields)

/-- No statement has two fields of one name, or one that is named like the tag. -/
theorem StmtKind.nodup_encodeFields (kind : StmtKind) :
    ("stmt" :: kind.encodeFields.map Prod.fst).Nodup := by
  cases kind <;> simp [encodeFields]

/-- No expression has two fields of one name, or one that is named like the tag. -/
theorem ExprKind.nodup_encodeFields (kind : ExprKind) :
    ("expr" :: kind.encodeFields.map Prod.fst).Nodup := by
  cases kind <;> simp [encodeFields]

theorem Stmt.encode_ne_null (stmt : Stmt) : stmt.encode ≠ .null := by
  cases stmt
  simp [Stmt.encode]

theorem Expr.encode_ne_null (expr : Expr) : expr.encode ≠ .null := by
  obtain ⟨id, span, typeName, kind⟩ := expr
  cases typeName <;> simp [Expr.encode]

theorem Block.encode_ne_null (block : Block) : block.encode ≠ .null := by
  cases block
  simp [Block.encode]

/-- A statement is read back if its alternative reads its fields back. -/
theorem StmtKind.readsBack_of_fields {kind : StmtKind}
    (readable : haveReadable kind.encodeFields = true)
    (reads : ∀ depth place, heightFields kind.encodeFields < depth →
      kind.encode.tagged? "stmt" StmtKind.tags place = some (kind.tag, .obj kind.encodeFields) →
      StmtKind.decodeWithin? (depth + 1) place kind.encode = some kind) :
    ReadsBack StmtKind.decodeWithin? kind.encode kind := by
  refine .of_fields (by simpa using readable) fun depth place bound => ?_
  have tagged := tagged?_obj kind.tag StmtKind.tags place readable
    (List.nodup_cons.mp kind.nodup_encodeFields).1
  exact reads depth place (heightFields_cons_lt.mp bound).2 tagged

/-- An expression is read back if its alternative reads its fields back. -/
theorem ExprKind.readsBack_of_fields {kind : ExprKind}
    (readable : haveReadable kind.encodeFields = true)
    (reads : ∀ depth place, heightFields kind.encodeFields < depth →
      kind.encode.tagged? "expr" ExprKind.tags place = some (kind.tag, .obj kind.encodeFields) →
      ExprKind.decodeWithin? (depth + 1) place kind.encode = some kind) :
    ReadsBack ExprKind.decodeWithin? kind.encode kind := by
  refine .of_fields (by simpa using readable) fun depth place bound => ?_
  have tagged := tagged?_obj kind.tag ExprKind.tags place readable
    (List.nodup_cons.mp kind.nodup_encodeFields).1
  exact reads depth place (heightFields_cons_lt.mp bound).2 tagged

/-! ## Syntax trees -/

-- The induction is on the tree.  Depth and place stay general in `ReadsBack`,
-- because what stands below a node is read one level deeper, and below a tag as
-- part of a tagged record.
mutual

theorem Body.readsBack (body : Body) : ReadsBack Body.decodeWithin? body.encode body := by
  cases body with
  | block inner =>
      have content := inner.readsBack
      rw [Body.encode]
      refine .of_fields (by simp [content.readable]) fun depth place bound => ?_
      simp only [heightFields_cons_lt] at bound
      simp [Body.decodeWithin?, content.reads, bound]
  | expression expr =>
      have content := expr.readsBack
      rw [Body.encode]
      refine .of_fields (by simp [content.readable]) fun depth place bound => ?_
      simp only [heightFields_cons_lt] at bound
      simp [Body.decodeWithin?, content.reads, bound]

theorem Block.readsBack (block : Block) : ReadsBack Block.decodeWithin? block.encode block := by
  cases block with
  | mk id span stmts =>
      have content := Stmt.readsBack_encodeAll stmts
      rw [Block.encode]
      refine .of_fields (by simp [content.readable]) fun depth place bound => ?_
      simp only [heightFields_cons_lt] at bound
      simp [Block.decodeWithin?, record?_obj, content.reads, bound]

theorem Stmt.readsBack (stmt : Stmt) : ReadsBack Stmt.decodeWithin? stmt.encode stmt := by
  cases stmt with
  | mk id span kind =>
      have content := kind.readsBack
      rw [Stmt.encode, ← StmtKind.encode]
      refine .of_fields (by simp [content.readable]) fun depth place bound => ?_
      simp only [heightFields_cons_lt] at bound
      simp [Stmt.decodeWithin?, record?_obj, content.reads, bound]

theorem StmtKind.readsBack (kind : StmtKind) :
    ReadsBack StmtKind.decodeWithin? kind.encode kind := by
  cases kind with
  | block inner =>
      have first := inner.readsBack
      refine StmtKind.readsBack_of_fields ?_ fun depth place bound tagged => ?_
      · simp [StmtKind.encodeFields, first.readable]
      · simp only [StmtKind.encodeFields, heightFields_cons_lt] at bound
        rw [StmtKind.decodeWithin?, tagged, Option.bind_eq_bind, Option.bind_some]
        simp [StmtKind.tag, StmtKind.encodeFields, record?_obj, first.reads, bound]
  | expression expr =>
      have first := expr.readsBack
      refine StmtKind.readsBack_of_fields ?_ fun depth place bound tagged => ?_
      · simp [StmtKind.encodeFields, first.readable]
      · simp only [StmtKind.encodeFields, heightFields_cons_lt] at bound
        rw [StmtKind.decodeWithin?, tagged, Option.bind_eq_bind, Option.bind_some]
        simp [StmtKind.tag, StmtKind.encodeFields, record?_obj, first.reads, bound]
  | declareLocal name init =>
      have first := Expr.readsBack_encodeOption init
      refine StmtKind.readsBack_of_fields ?_ fun depth place bound tagged => ?_
      · simp [StmtKind.encodeFields, first.readable]
      · simp only [StmtKind.encodeFields, heightFields_cons_lt] at bound
        rw [StmtKind.decodeWithin?, tagged, Option.bind_eq_bind, Option.bind_some]
        simp [StmtKind.tag, StmtKind.encodeFields, record?_obj, first.reads, bound]
  | branch condition thenBranch elseBranch =>
      have first := condition.readsBack
      have second := thenBranch.readsBack
      have third := Stmt.readsBack_encodeOption elseBranch
      refine StmtKind.readsBack_of_fields ?_ fun depth place bound tagged => ?_
      · simp [StmtKind.encodeFields, first.readable, second.readable, third.readable]
      · simp only [StmtKind.encodeFields, heightFields_cons_lt] at bound
        rw [StmtKind.decodeWithin?, tagged, Option.bind_eq_bind, Option.bind_some]
        simp [StmtKind.tag, StmtKind.encodeFields, record?_obj, first.reads, second.reads,
          third.reads, bound]
  | whileLoop condition inner =>
      have first := condition.readsBack
      have second := inner.readsBack
      refine StmtKind.readsBack_of_fields ?_ fun depth place bound tagged => ?_
      · simp [StmtKind.encodeFields, first.readable, second.readable]
      · simp only [StmtKind.encodeFields, heightFields_cons_lt] at bound
        rw [StmtKind.decodeWithin?, tagged, Option.bind_eq_bind, Option.bind_some]
        simp [StmtKind.tag, StmtKind.encodeFields, record?_obj, first.reads, second.reads, bound]
  | doWhile inner condition =>
      have first := inner.readsBack
      have second := condition.readsBack
      refine StmtKind.readsBack_of_fields ?_ fun depth place bound tagged => ?_
      · simp [StmtKind.encodeFields, first.readable, second.readable]
      · simp only [StmtKind.encodeFields, heightFields_cons_lt] at bound
        rw [StmtKind.decodeWithin?, tagged, Option.bind_eq_bind, Option.bind_some]
        simp [StmtKind.tag, StmtKind.encodeFields, record?_obj, first.reads, second.reads, bound]
  | forLoop condition inner =>
      have first := Expr.readsBack_encodeOption condition
      have second := inner.readsBack
      refine StmtKind.readsBack_of_fields ?_ fun depth place bound tagged => ?_
      · simp [StmtKind.encodeFields, first.readable, second.readable]
      · simp only [StmtKind.encodeFields, heightFields_cons_lt] at bound
        rw [StmtKind.decodeWithin?, tagged, Option.bind_eq_bind, Option.bind_some]
        simp [StmtKind.tag, StmtKind.encodeFields, record?_obj, first.reads, second.reads, bound]
  | forEach collection inner =>
      have first := collection.readsBack
      have second := inner.readsBack
      refine StmtKind.readsBack_of_fields ?_ fun depth place bound tagged => ?_
      · simp [StmtKind.encodeFields, first.readable, second.readable]
      · simp only [StmtKind.encodeFields, heightFields_cons_lt] at bound
        rw [StmtKind.decodeWithin?, tagged, Option.bind_eq_bind, Option.bind_some]
        simp [StmtKind.tag, StmtKind.encodeFields, record?_obj, first.reads, second.reads, bound]
  | switch subject sections =>
      have first := subject.readsBack
      have second := SwitchSection.readsBack_encodeAll sections
      refine StmtKind.readsBack_of_fields ?_ fun depth place bound tagged => ?_
      · simp [StmtKind.encodeFields, first.readable, second.readable]
      · simp only [StmtKind.encodeFields, heightFields_cons_lt] at bound
        rw [StmtKind.decodeWithin?, tagged, Option.bind_eq_bind, Option.bind_some]
        simp [StmtKind.tag, StmtKind.encodeFields, record?_obj, first.reads, second.reads, bound]
  | tryCatch guarded catches finalizer =>
      have first := guarded.readsBack
      have second := Block.readsBack_encodeAll catches
      have third := Block.readsBack_encodeOption finalizer
      refine StmtKind.readsBack_of_fields ?_ fun depth place bound tagged => ?_
      · simp [StmtKind.encodeFields, first.readable, second.readable, third.readable]
      · simp only [StmtKind.encodeFields, heightFields_cons_lt] at bound
        rw [StmtKind.decodeWithin?, tagged, Option.bind_eq_bind, Option.bind_some]
        simp [StmtKind.tag, StmtKind.encodeFields, record?_obj, first.reads, second.reads,
          third.reads, bound]
  | «scoped» construct resource inner =>
      have first := Expr.readsBack_encodeOption resource
      have second := inner.readsBack
      refine StmtKind.readsBack_of_fields ?_ fun depth place bound tagged => ?_
      · simp [StmtKind.encodeFields, first.readable, second.readable]
      · simp only [StmtKind.encodeFields, heightFields_cons_lt] at bound
        rw [StmtKind.decodeWithin?, tagged, Option.bind_eq_bind, Option.bind_some]
        simp [StmtKind.tag, StmtKind.encodeFields, record?_obj, first.reads, second.reads, bound]
  | labeled label inner =>
      have first := inner.readsBack
      refine StmtKind.readsBack_of_fields ?_ fun depth place bound tagged => ?_
      · simp [StmtKind.encodeFields, first.readable]
      · simp only [StmtKind.encodeFields, heightFields_cons_lt] at bound
        rw [StmtKind.decodeWithin?, tagged, Option.bind_eq_bind, Option.bind_some]
        simp [StmtKind.tag, StmtKind.encodeFields, record?_obj, first.reads, bound]
  | localFunction declaration =>
      refine StmtKind.readsBack_of_fields ?_ fun depth place bound tagged => ?_
      · simp [StmtKind.encodeFields]
      · rw [StmtKind.decodeWithin?, tagged, Option.bind_eq_bind, Option.bind_some]
        simp [StmtKind.tag, StmtKind.encodeFields, record?_obj]
  | returns expr =>
      have first := Expr.readsBack_encodeOption expr
      refine StmtKind.readsBack_of_fields ?_ fun depth place bound tagged => ?_
      · simp [StmtKind.encodeFields, first.readable]
      · simp only [StmtKind.encodeFields, heightFields_cons_lt] at bound
        rw [StmtKind.decodeWithin?, tagged, Option.bind_eq_bind, Option.bind_some]
        simp [StmtKind.tag, StmtKind.encodeFields, record?_obj, first.reads, bound]
  | throws expr =>
      have first := Expr.readsBack_encodeOption expr
      refine StmtKind.readsBack_of_fields ?_ fun depth place bound tagged => ?_
      · simp [StmtKind.encodeFields, first.readable]
      · simp only [StmtKind.encodeFields, heightFields_cons_lt] at bound
        rw [StmtKind.decodeWithin?, tagged, Option.bind_eq_bind, Option.bind_some]
        simp [StmtKind.tag, StmtKind.encodeFields, record?_obj, first.reads, bound]
  | yields expr =>
      have first := Expr.readsBack_encodeOption expr
      refine StmtKind.readsBack_of_fields ?_ fun depth place bound tagged => ?_
      · simp [StmtKind.encodeFields, first.readable]
      · simp only [StmtKind.encodeFields, heightFields_cons_lt] at bound
        rw [StmtKind.decodeWithin?, tagged, Option.bind_eq_bind, Option.bind_some]
        simp [StmtKind.tag, StmtKind.encodeFields, record?_obj, first.reads, bound]
  | breaks =>
      refine StmtKind.readsBack_of_fields ?_ fun depth place bound tagged => ?_
      · simp [StmtKind.encodeFields]
      · rw [StmtKind.decodeWithin?, tagged, Option.bind_eq_bind, Option.bind_some]
        simp [StmtKind.tag, noFields?]
  | continues =>
      refine StmtKind.readsBack_of_fields ?_ fun depth place bound tagged => ?_
      · simp [StmtKind.encodeFields]
      · rw [StmtKind.decodeWithin?, tagged, Option.bind_eq_bind, Option.bind_some]
        simp [StmtKind.tag, noFields?]
  | goto label =>
      refine StmtKind.readsBack_of_fields ?_ fun depth place bound tagged => ?_
      · simp [StmtKind.encodeFields]
      · rw [StmtKind.decodeWithin?, tagged, Option.bind_eq_bind, Option.bind_some]
        simp [StmtKind.tag, StmtKind.encodeFields, record?_obj]
  | empty =>
      refine StmtKind.readsBack_of_fields ?_ fun depth place bound tagged => ?_
      · simp [StmtKind.encodeFields]
      · rw [StmtKind.decodeWithin?, tagged, Option.bind_eq_bind, Option.bind_some]
        simp [StmtKind.tag, noFields?]

theorem SwitchSection.readsBack (entry : SwitchSection) :
    ReadsBack SwitchSection.decodeWithin? entry.encode entry := by
  cases entry with
  | mk labels stmts =>
      have first := Expr.readsBack_encodeAll labels
      have second := Stmt.readsBack_encodeAll stmts
      rw [SwitchSection.encode]
      refine .of_fields (by simp [first.readable, second.readable]) fun depth place bound => ?_
      simp only [heightFields_cons_lt] at bound
      simp [SwitchSection.decodeWithin?, record?_obj, first.reads, second.reads, bound]

theorem Expr.readsBack (expr : Expr) : ReadsBack Expr.decodeWithin? expr.encode expr := by
  cases expr with
  | mk id span typeName kind =>
      have content := kind.readsBack
      -- The static type is the one field that is left out when there is nothing to write.
      cases typeName with
      | none =>
          rw [Expr.encode, ← ExprKind.encode]
          refine .of_fields (by simp [content.readable]) fun depth place bound => ?_
          simp only [heightFields_cons_lt] at bound
          simp [Expr.decodeWithin?, record?_obj, content.reads, bound]
      | some typeName =>
          rw [Expr.encode, ← ExprKind.encode]
          refine .of_fields (by simp [content.readable]) fun depth place bound => ?_
          simp only [heightFields_cons_lt] at bound
          simp [Expr.decodeWithin?, record?_obj, option?, content.reads, bound]

theorem ExprKind.readsBack (kind : ExprKind) :
    ReadsBack ExprKind.decodeWithin? kind.encode kind := by
  cases kind with
  | invocation callee arguments target =>
      have first := callee.readsBack
      have second := Expr.readsBack_encodeAll arguments
      refine ExprKind.readsBack_of_fields ?_ fun depth place bound tagged => ?_
      · simp [ExprKind.encodeFields, first.readable, second.readable,
          isReadable_option target MemberId.isReadable_encode]
      · simp only [ExprKind.encodeFields, heightFields_cons_lt] at bound
        rw [ExprKind.decodeWithin?, tagged, Option.bind_eq_bind, Option.bind_some]
        simp [ExprKind.tag, ExprKind.encodeFields, record?_obj, option?_option, first.reads,
          second.reads, bound]
  | memberAccess receiver member =>
      have first := receiver.readsBack
      refine ExprKind.readsBack_of_fields ?_ fun depth place bound tagged => ?_
      · simp [ExprKind.encodeFields, first.readable]
      · simp only [ExprKind.encodeFields, heightFields_cons_lt] at bound
        rw [ExprKind.decodeWithin?, tagged, Option.bind_eq_bind, Option.bind_some]
        simp [ExprKind.tag, ExprKind.encodeFields, record?_obj, first.reads, bound]
  | identifier name =>
      refine ExprKind.readsBack_of_fields ?_ fun depth place bound tagged => ?_
      · simp [ExprKind.encodeFields]
      · rw [ExprKind.decodeWithin?, tagged, Option.bind_eq_bind, Option.bind_some]
        simp [ExprKind.tag, ExprKind.encodeFields, record?_obj]
  | objectCreation typeName arguments =>
      have first := Expr.readsBack_encodeAll arguments
      refine ExprKind.readsBack_of_fields ?_ fun depth place bound tagged => ?_
      · simp [ExprKind.encodeFields, first.readable]
      · simp only [ExprKind.encodeFields, heightFields_cons_lt] at bound
        rw [ExprKind.decodeWithin?, tagged, Option.bind_eq_bind, Option.bind_some]
        simp [ExprKind.tag, ExprKind.encodeFields, record?_obj, first.reads, bound]
  | literal text =>
      refine ExprKind.readsBack_of_fields ?_ fun depth place bound tagged => ?_
      · simp [ExprKind.encodeFields]
      · rw [ExprKind.decodeWithin?, tagged, Option.bind_eq_bind, Option.bind_some]
        simp [ExprKind.tag, ExprKind.encodeFields, record?_obj]
  | lambda inner =>
      have first := inner.readsBack
      refine ExprKind.readsBack_of_fields ?_ fun depth place bound tagged => ?_
      · simp [ExprKind.encodeFields, first.readable]
      · simp only [ExprKind.encodeFields, heightFields_cons_lt] at bound
        rw [ExprKind.decodeWithin?, tagged, Option.bind_eq_bind, Option.bind_some]
        simp [ExprKind.tag, ExprKind.encodeFields, record?_obj, first.reads, bound]
  | binary operator left right =>
      have first := left.readsBack
      have second := right.readsBack
      refine ExprKind.readsBack_of_fields ?_ fun depth place bound tagged => ?_
      · simp [ExprKind.encodeFields, first.readable, second.readable]
      · simp only [ExprKind.encodeFields, heightFields_cons_lt] at bound
        rw [ExprKind.decodeWithin?, tagged, Option.bind_eq_bind, Option.bind_some]
        simp [ExprKind.tag, ExprKind.encodeFields, record?_obj, first.reads, second.reads, bound]
  | assignment target value =>
      have first := target.readsBack
      have second := value.readsBack
      refine ExprKind.readsBack_of_fields ?_ fun depth place bound tagged => ?_
      · simp [ExprKind.encodeFields, first.readable, second.readable]
      · simp only [ExprKind.encodeFields, heightFields_cons_lt] at bound
        rw [ExprKind.decodeWithin?, tagged, Option.bind_eq_bind, Option.bind_some]
        simp [ExprKind.tag, ExprKind.encodeFields, record?_obj, first.reads, second.reads, bound]
  | other children =>
      have first := Expr.readsBack_encodeAll children
      refine ExprKind.readsBack_of_fields ?_ fun depth place bound tagged => ?_
      · simp [ExprKind.encodeFields, first.readable]
      · simp only [ExprKind.encodeFields, heightFields_cons_lt] at bound
        rw [ExprKind.decodeWithin?, tagged, Option.bind_eq_bind, Option.bind_some]
        simp [ExprKind.tag, ExprKind.encodeFields, record?_obj, first.reads, bound]

theorem Stmt.readsBack_encodeAll (stmts : List Stmt) :
    ReadsBack (fun depth place => list? (Stmt.decodeWithin? depth place))
      (.arr (Stmt.encodeAll stmts)) stmts := by
  cases stmts with
  | nil => exact .nil
  | cons stmt rest => exact .cons stmt.readsBack (Stmt.readsBack_encodeAll rest)

theorem Expr.readsBack_encodeAll (exprs : List Expr) :
    ReadsBack (fun depth place => list? (Expr.decodeWithin? depth place))
      (.arr (Expr.encodeAll exprs)) exprs := by
  cases exprs with
  | nil => exact .nil
  | cons expr rest => exact .cons expr.readsBack (Expr.readsBack_encodeAll rest)

theorem Block.readsBack_encodeAll (blocks : List Block) :
    ReadsBack (fun depth place => list? (Block.decodeWithin? depth place))
      (.arr (Block.encodeAll blocks)) blocks := by
  cases blocks with
  | nil => exact .nil
  | cons block rest => exact .cons block.readsBack (Block.readsBack_encodeAll rest)

theorem SwitchSection.readsBack_encodeAll (sections : List SwitchSection) :
    ReadsBack (fun depth place => list? (SwitchSection.decodeWithin? depth place))
      (.arr (SwitchSection.encodeAll sections)) sections := by
  cases sections with
  | nil => exact .nil
  | cons first rest => exact .cons first.readsBack (SwitchSection.readsBack_encodeAll rest)

theorem Stmt.readsBack_encodeOption (stmt : Option Stmt) :
    ReadsBack (fun depth place => option? (Stmt.decodeWithin? depth place))
      (Stmt.encodeOption stmt) stmt := by
  cases stmt with
  | none => exact .none
  | some stmt => exact .some stmt.readsBack stmt.encode_ne_null

theorem Expr.readsBack_encodeOption (expr : Option Expr) :
    ReadsBack (fun depth place => option? (Expr.decodeWithin? depth place))
      (Expr.encodeOption expr) expr := by
  cases expr with
  | none => exact .none
  | some expr => exact .some expr.readsBack expr.encode_ne_null

theorem Block.readsBack_encodeOption (block : Option Block) :
    ReadsBack (fun depth place => option? (Block.decodeWithin? depth place))
      (Block.encodeOption block) block := by
  cases block with
  | none => exact .none
  | some block => exact .some block.readsBack block.encode_ne_null

end

@[simp] theorem Body.encode_ne_null (body : Body) : body.encode ≠ .null := by
  cases body <;> simp [Body.encode]

/-- A body of any shape and depth is read back from its written form. -/
@[simp] theorem Body.decode?_encode (body : Body) : Body.decode? body.encode = some body :=
  body.readsBack.reads .outermost (Nat.lt_succ_self _)

end StructureLint
