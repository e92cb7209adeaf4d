import HashIf.Formula

/-!
# `HashIf.Formula.Graph`: a formula as a graph

The graph is a tree with one node for every node of the formula.  Nodes are numbered from zero in
the order in which the text mentions them, a node before its operands and the left operand before
the right one; every edge runs from a node to one of its operands and says which one it is.

## Contents
- `NodeKind`, `Role`, `describe`: what is known of a single node.
- `GraphNode`, `GraphEdge`, `Graph`.
- `number`: the numbering, with the nodes to come on a stack.
- `toGraph`, `Graph.edgesBySource`.
-/

namespace HashIf

/-- The kind of a node of a formula. -/
inductive NodeKind where
  | constant (value : Bool)
  | var
  | literal
  | conjunction
  | disjunction
  | negation
  | operator
  | call
  deriving DecidableEq, Repr

/-- The name of a kind. -/
def NodeKind.name : NodeKind → String
  | constant b => if b then "true" else "false"
  | var => "variable"
  | literal => "literal"
  | conjunction => "conjunction"
  | disjunction => "disjunction"
  | negation => "negation"
  | operator => "operator"
  | call => "macro"

/-- Which operand of its parent a node is. -/
inductive Role where
  | left | right | operand | argument
  deriving DecidableEq, Repr

/-- The name of a role. -/
def Role.name : Role → String
  | left => "left"
  | right => "right"
  | operand => "operand"
  | argument => "argument"

/-- A node with its number. -/
structure GraphNode where
  id : Nat
  kind : NodeKind
  label : String
  deriving DecidableEq, Repr

/-- An edge from a node to one of its operands. -/
structure GraphEdge where
  source : Nat
  target : Nat
  role : Role
  deriving DecidableEq, Repr

/-- The nodes in the order of their numbers, and the edges in the order of their targets. -/
structure Graph where
  nodes : List GraphNode
  edges : List GraphEdge
  deriving DecidableEq, Repr

namespace Formula

/-- Kind, label and operands of the outermost node. -/
def describe : Formula → Except UnknownNode (NodeKind × String × List (Role × Formula))
  | const b => .ok (.constant b, if b then "1" else "0", [])
  | var name => .ok (.var, name, [])
  | lit text => .ok (.literal, text, [])
  | and l r => .ok (.conjunction, "&&", [(.left, l), (.right, r)])
  | or l r => .ok (.disjunction, "||", [(.left, l), (.right, r)])
  | not f => .ok (.negation, "!", [(.operand, f)])
  | kept op l r => .ok (.operator, op.symbol, [(.left, l), (.right, r)])
  | emptyCall name => .ok (.call, name, [])
  | call name f => .ok (.call, name, [(.argument, f)])
  | unknown text => .error ⟨text⟩

/-- A formula to be numbered, with the number of its parent and its role there. -/
structure Pending where
  formula : Formula
  parent : Option (Nat × Role)

/-- The number of nodes to come. -/
def pendingSize : List Pending → Nat
  | [] => 0
  | p :: ps => p.formula.size + pendingSize ps

/-- The number of nodes of operands. -/
def operandsSize : List (Role × Formula) → Nat
  | [] => 0
  | c :: cs => c.2.size + operandsSize cs

/-- The operands of the node `parent` as formulas to be numbered. -/
def operandsOf (parent : Nat) (cs : List (Role × Formula)) : List Pending :=
  cs.map fun c => ⟨c.2, some (parent, c.1)⟩

/-- Operands on top of the stack add their nodes. -/
theorem pendingSize_operandsOf_append (parent : Nat) (cs : List (Role × Formula))
    (rest : List Pending) :
    pendingSize (operandsOf parent cs ++ rest) = operandsSize cs + pendingSize rest := by
  induction cs with
  | nil => simp [operandsOf, operandsSize]
  | cons c cs ih =>
      simp only [operandsOf, List.map_cons, List.cons_append, pendingSize, operandsSize] at ih ⊢
      omega

/-- The operands are smaller than the formula by its outermost node. -/
theorem describe_size {f : Formula} {d : NodeKind × String × List (Role × Formula)}
    (h : describe f = .ok d) : operandsSize d.2.2 < f.size := by
  cases f with
  | unknown text => cases h
  | const b | var name | lit text | emptyCall name =>
      cases h
      exact Nat.zero_lt_one
  | not f | call name f | and l r | or l r | kept op l r =>
      cases h
      simp only [operandsSize, size]
      omega

/-- Numbers the pending formulas from `next` on, operands before what was pending already. -/
def number (next : Nat) (pending : List Pending) :
    Except UnknownNode (List GraphNode × List GraphEdge) :=
  match pending with
  | [] => .ok ([], [])
  | p :: rest =>
    match _h : describe p.formula with
    | .error e => .error e
    | .ok d =>
      match number (next + 1) (operandsOf next d.2.2 ++ rest) with
      | .error e => .error e
      | .ok (nodes, edges) =>
        let edge := p.parent.toList.map fun q => ⟨q.1, next, q.2⟩
        .ok (⟨next, d.1, d.2.1⟩ :: nodes, edge ++ edges)
termination_by pendingSize pending
decreasing_by
  have := describe_size _h
  rw [pendingSize_operandsOf_append]
  simp only [pendingSize]
  omega

/-- The graph of a formula; its root has the number zero. -/
def toGraph (f : Formula) : Except UnknownNode Graph :=
  (fun r => ⟨r.1, r.2⟩) <$> number 0 [⟨f, none⟩]

end Formula

/-- The edges grouped by their source in ascending order, within a source by their target. -/
def Graph.edgesBySource (g : Graph) : List GraphEdge :=
  g.edges.mergeSort fun a b => a.source ≤ b.source

end HashIf
