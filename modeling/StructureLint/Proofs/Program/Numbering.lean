import StructureLint.Program.Basic
import StructureLint.Proofs.Syntax.Nodes
import StructureLint.Proofs.Syntax.Numbering

/-!
Contract: node numbers of a normalized program.

Normalization numbers the bodies of all declarations in one run that starts at
one.  In a program whose nodes can be counted in a word, a node number
therefore belongs to one node of one body, and visiting the bodies in order
counts up from one without a gap.

Owns:
- the nodes of a program in the order of its declarations;
- the number of nodes, counted on the syntax itself;
- their numbers after normalization.
-/

namespace StructureLint

open StructureLint.Numbering

/-- The node numbers in the body of a declaration, in visiting order. -/
def Declaration.nodes (declaration : Declaration) : List NodeId :=
  declaration.body.elim [] fun body => Visit.nodes body.visits

namespace Program

/-- The node numbers of a program: its declarations in order, the body of each
in visiting order. -/
def nodes (program : Program) : List NodeId :=
  program.declarations.flatMap Declaration.nodes

theorem issues_numberDeclaration (declaration : Declaration) :
    Issues declaration.nodes.length [] (numberDeclaration declaration) Declaration.nodes := by
  unfold numberDeclaration
  cases found : declaration.body with
  | none =>
      have bodiless : declaration.nodes = [] := by simp [Declaration.nodes, found]
      rw [bodiless]
      exact issues_pure bodiless
  | some body =>
      have shown : declaration.nodes = Visit.nodes body.visits := by
        simp [Declaration.nodes, found]
      rw [shown]
      exact body.issues_number.bind fun _ => issues_pure (by simp [Declaration.nodes])

theorem issues_numberDeclarations (declarations : List Declaration) :
    Issues (declarations.flatMap Declaration.nodes).length [] (numberDeclarations declarations)
      fun numbered => numbered.flatMap Declaration.nodes := by
  induction declarations with
  | nil => exact issues_pure rfl
  | cons declaration rest inductionHypothesis =>
      rw [numberDeclarations]
      exact ((issues_numberDeclaration declaration).bind fun _ => inductionHypothesis.bind
        fun _ => issues_pure (by simp)).of_size_eq (by simp)

/-- The nodes of a normalized program carry the numbers from one on. -/
theorem nodes_of_normalize {program normalized : Program}
    (accepted : program.normalize = .ok normalized) :
    normalized.nodes = (List.range' 1 program.nodes.length).map NodeId.ofNat := by
  unfold normalize at accepted
  split at accepted
  · cases accepted
  · cases accepted
    exact (issues_numberDeclarations program.declarations 1).2

/-- Normalization hands out one number for each node that is visited, and none besides. -/
theorem run_numberDeclarations (program : Program) :
    ((numberDeclarations program.declarations).run 1).2 = 1 + program.nodes.length :=
  (issues_numberDeclarations program.declarations 1).1

/-- No node number occurs twice in a normalized program. -/
theorem nodup_nodes_of_normalize {program normalized : Program}
    (accepted : program.normalize = .ok normalized)
    (countable : program.nodes.length < UInt32.size) :
    normalized.nodes.Nodup := by
  rw [nodes_of_normalize accepted]
  exact NodeId.nodup_map_ofNat (by omega)

end Program

/-! ## Nodes of the syntax -/

/-- Blocks, statements and expressions are numbered; nothing else is. -/
def Visit.nodeWeight (node : Visit) : Nat :=
  if node.node?.isSome then 1 else 0

theorem Visit.length_nodes (visits : List Visit) :
    (nodes visits).length = (visits.map nodeWeight).sum := by
  induction visits with
  | nil => rfl
  | cons visit rest inductionHypothesis =>
      rw [List.map_cons, List.sum_cons, ← inductionHypothesis]
      unfold nodes nodeWeight
      cases found : visit.node? with
      | none => simp [List.filterMap_cons_none found]
      | some id => simp [List.filterMap_cons_some found, Nat.add_comm]

/-- The number of blocks, statements and expressions in the body of a declaration. -/
def Declaration.nodeCount (declaration : Declaration) : Nat :=
  declaration.body.elim 0 fun body => (Visit.body body).total Visit.nodeWeight

theorem Declaration.length_nodes (declaration : Declaration) :
    declaration.nodes.length = declaration.nodeCount := by
  unfold Declaration.nodes Declaration.nodeCount
  cases declaration.body with
  | none => rfl
  | some body =>
      show (Visit.nodes body.visits).length = (Visit.body body).total Visit.nodeWeight
      rw [Visit.length_nodes, ← Visit.sum_map_visits]
      rfl

theorem Declaration.mem_nodes_iff {declaration : Declaration} {id : NodeId} :
    id ∈ declaration.nodes ↔
      ∃ body node, declaration.body = some body ∧ (Visit.body body).Contains node ∧
        node.node? = some id := by
  unfold Declaration.nodes
  cases declaration.body with
  | none => simp
  | some body =>
      simp only [Option.elim_some, Visit.nodes, List.mem_filterMap, Option.some.injEq,
        exists_and_left, exists_eq_left', ← Visit.mem_visits_iff_contains]
      rfl

namespace Program

/-- The number of blocks, statements and expressions of a program. -/
def nodeCount (program : Program) : Nat :=
  (program.declarations.map Declaration.nodeCount).sum

theorem length_nodes (program : Program) : program.nodes.length = program.nodeCount := by
  simp [nodes, nodeCount, List.length_flatMap, Declaration.length_nodes]

/-- A number is met on the way through a program when a node of some body has it. -/
theorem mem_nodes_iff {program : Program} {id : NodeId} :
    id ∈ program.nodes ↔
      ∃ declaration ∈ program.declarations, ∃ body node, declaration.body = some body ∧
        (Visit.body body).Contains node ∧ node.node? = some id := by
  simp only [nodes, List.mem_flatMap, Declaration.mem_nodes_iff]

/-- Visiting a normalized program meets the numbers from one on, one for each
block, statement and expression of its syntax, and these are the numbers that
were handed out: no node is zero, shares its number or was passed over. -/
theorem visits_count_up_of_normalize {program normalized : Program}
    (accepted : program.normalize = .ok normalized)
    (countable : program.nodeCount < UInt32.size) :
    (normalized.nodes.map fun id => id.index.toNat) = List.range' 1 program.nodeCount ∧
      (∀ id ∈ normalized.nodes, id.index ≠ 0) ∧
      normalized.nodes.Nodup ∧
      (∀ id, id ∈ normalized.nodes ↔
        ∃ declaration ∈ normalized.declarations, ∃ body node, declaration.body = some body ∧
          (Visit.body body).Contains node ∧ node.node? = some id) ∧
      normalized.nodeCount = program.nodeCount ∧
      ((numberDeclarations program.declarations).run 1).2 = 1 + program.nodeCount := by
  have numbers := nodes_of_normalize accepted
  rw [length_nodes] at numbers
  have values : (normalized.nodes.map fun id => id.index.toNat) =
      List.range' 1 program.nodeCount := by
    rw [numbers, List.map_map]
    refine (List.map_congr_left ?_).trans (List.map_id _)
    intro number member
    have bound := (List.mem_range'_1.mp member).2
    exact UInt32.toNat_ofNat_of_lt' (by omega)
  refine ⟨values, ?_, ?_, fun id => mem_nodes_iff, ?_, ?_⟩
  · intro id member zero
    have met : id.index.toNat ∈ List.range' 1 program.nodeCount := by
      rw [← values]
      exact List.mem_map_of_mem member
    rw [zero] at met
    exact absurd (List.mem_range'_1.mp met).1 (by decide)
  · rw [← length_nodes] at countable
    exact nodup_nodes_of_normalize accepted countable
  · rw [← length_nodes, numbers, List.length_map, List.length_range']
  · rw [run_numberDeclarations, length_nodes]

/-- Two bodies whose nodes all came with one number; the condition of the loop
in the first is a lambda. -/
def hostNumbered : Program :=
  let ready : Expr := .mk ⟨7⟩ {} none (.identifier "ready")
  let loop : StmtKind := .doWhile (.mk ⟨7⟩ {} .empty) (.mk ⟨7⟩ {} none (.lambda (.expression ready)))
  { declarations := [
      { name := "Poll", kind := .method, file := ⟨"Poll.cs"⟩
        body := some (.block (.mk ⟨7⟩ {} [.mk ⟨7⟩ {} loop])) },
      { name := "Ready", kind := .initializer, file := ⟨"Poll.cs"⟩
        body := some (.expression ready) }] }

theorem visits_count_up_hostNumbered :
    ∃ normalized, hostNumbered.normalize = .ok normalized ∧
      hostNumbered.nodeCount < UInt32.size ∧
      (normalized.nodes.map fun id => id.index.toNat) = [1, 2, 3, 4, 5, 6] ∧
      normalized.nodeCount = 6 := by
  have accepted : hostNumbered.normalize = .ok _ := rfl
  have six : hostNumbered.nodeCount = 6 := by
    rw [← length_nodes]
    rfl
  have countable : hostNumbered.nodeCount < UInt32.size := by
    rw [six]
    decide
  obtain ⟨values, _, _, _, counted, _⟩ := visits_count_up_of_normalize accepted countable
  rw [six] at values counted
  exact ⟨_, accepted, countable, values, counted⟩

end Program

end StructureLint
