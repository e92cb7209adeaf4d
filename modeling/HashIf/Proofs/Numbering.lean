import HashIf.Formula.Graph
import HashIf.Proofs.Support

/-!
# `HashIf.Proofs.Numbering`: the graph of a formula is its pre-order

Numbers are handed out when a node is taken from a stack, on which its operands are then put in its place.  The
result is the one of a plain recursion: the nodes of a formula get the numbers from `k` on in pre-order, those
of the left operand before those of the right one, and whatever waits below on the stack goes on from there.

The edges are listed by the recursion in the order of their targets.  The targets are all numbers but that of
the root, each once; and as a set the edges are the ones from each node to its operands, where the distance
from a node to an operand is known from the sizes of the operands in front of it.

## Contents
- `operandAt?`: the operands of a node, by their roles, with their distance from the node.
- `Listed`, `edgesBelow`: nodes and edges by plain recursion.
- `number_cons`, `number_of_not_known`: what the stack gives is what the recursion gives.
- `target_edgesBelow`: the targets of the edges.
- `Links`, `mem_edgesBelow_iff`: the edges as a set.
- `Graph.Encodes`, `exists_toGraph`, `encodes_of_toGraph`: the graph of a formula.
-/

namespace HashIf

namespace Formula

/-! ## Operands -/

/-- The operand with a role, and how far behind its parent it comes in pre-order. -/
def operandAt? : Formula → Role → Option (Nat × Formula)
  | not f, .operand | call _ f, .argument => some (1, f)
  | and l _, .left | or l _, .left | kept _ l _, .left => some (1, l)
  | and l r, .right | or l r, .right | kept _ l r, .right => some (1 + l.size, r)
  | _, _ => none

/-- An operand comes behind its parent, at its distance. -/
theorem getElem?_preorder_operand {p c : Formula} {role : Role} {d : Nat}
    (h : p.operandAt? role = some (d, c)) : 0 < d ∧ p.preorder[d]? = some c := by
  have hroot : ∀ f : Formula, f.preorder[0]? = some f := fun f => by
    rw [← List.head?_eq_getElem?, preorder_head?]
  unfold operandAt? at h
  split at h
  case h_9 => cases h
  case h_1 | h_2 =>
      cases h
      exact ⟨Nat.one_pos, hroot c⟩
  case h_3 l r | h_4 l r | h_5 op l r =>
      cases h
      have hpos : 0 < c.preorder.length := by
        rw [length_preorder]
        exact size_pos c
      refine ⟨Nat.one_pos, ?_⟩
      show (c.preorder ++ r.preorder)[0]? = some c
      rw [List.getElem?_append_left hpos, hroot]
  case h_6 l r | h_7 l r | h_8 op l r =>
      cases h
      refine ⟨by omega, ?_⟩
      rw [Nat.add_comm]
      show (l.preorder ++ c.preorder)[l.size]? = some c
      rw [← length_preorder, List.getElem?_append_right (Nat.le_refl _), Nat.sub_self, hroot]

/-- The nodes of `p` stand in a row of nodes from the place `i` on. -/
def Block (ps : List Formula) (i : Nat) (p : Formula) : Prop :=
  ∃ before after, ps = before ++ (p.preorder ++ after) ∧ before.length = i

namespace Block

variable {ps : List Formula} {i : Nat} {p : Formula}

theorem root (f : Formula) : Block f.preorder 0 f := ⟨[], [], (List.append_nil _).symm, rfl⟩

theorem cons (h : Block ps i p) (q : Formula) : Block (q :: ps) (i + 1) p := by
  obtain ⟨before, after, rfl, rfl⟩ := h
  exact ⟨q :: before, after, rfl, rfl⟩

theorem append_left (h : Block ps i p) (qs : List Formula) : Block (ps ++ qs) i p := by
  obtain ⟨before, after, rfl, hlength⟩ := h
  exact ⟨before, after ++ qs, by simp, hlength⟩

theorem append_right (h : Block ps i p) (qs : List Formula) : Block (qs ++ ps) (qs.length + i) p := by
  obtain ⟨before, after, rfl, rfl⟩ := h
  exact ⟨qs ++ before, after, by simp, List.length_append⟩

end Block

/-- A node of a formula comes with everything below it. -/
theorem block_of_getElem? {f p : Formula} {i : Nat} (h : f.preorder[i]? = some p) :
    Block f.preorder i p := by
  induction f generalizing i with
  | const | var | lit | emptyCall | unknown =>
      cases i with
      | zero =>
          cases h
          exact .root _
      | succ i => cases h
  | not f ih | call name f ih =>
      cases i with
      | zero =>
          cases h
          exact .root _
      | succ i => exact (ih h).cons _
  | and l r ihl ihr | or l r ihl ihr | kept op l r ihl ihr =>
      cases i with
      | zero =>
          cases h
          exact .root _
      | succ i =>
          replace h : (l.preorder ++ r.preorder)[i]? = some p := h
          by_cases hi : i < l.preorder.length
          · rw [List.getElem?_append_left hi] at h
            exact ((ihl h).append_left _).cons _
          · have hle : l.preorder.length ≤ i := Nat.le_of_not_lt hi
            rw [List.getElem?_append_right hle] at h
            have hblock := ((ihr h).append_right l.preorder).cons
            rw [Nat.add_sub_cancel' hle] at hblock
            exact hblock _

/-- The operand of a node stands at its distance behind the node. -/
theorem getElem?_preorder_add {f p c : Formula} {role : Role} {i d : Nat} (hp : f.preorder[i]? = some p)
    (h : p.operandAt? role = some (d, c)) : f.preorder[i + d]? = some c := by
  obtain ⟨before, after, hsplit, rfl⟩ := block_of_getElem? hp
  obtain ⟨-, hc⟩ := getElem?_preorder_operand h
  have hd : d < p.preorder.length := (List.getElem?_eq_some_iff.mp hc).1
  rw [hsplit, List.getElem?_append_right (Nat.le_add_right _ _), Nat.add_sub_cancel_left,
    List.getElem?_append_left hd, hc]

/-! ## Numbering by recursion -/

/-- The graph nodes that describe a row of nodes, numbered from `k` on. -/
inductive Listed : Nat → List Formula → List GraphNode → Prop where
  | nil (k : Nat) : Listed k [] []
  | cons {k : Nat} {p : Formula} {ps : List Formula} {nodes : List GraphNode} {kind : NodeKind}
      {label : String} {operands : List (Role × Formula)} (h : p.describe = .ok (kind, label, operands))
      (hrest : Listed (k + 1) ps nodes) : Listed k (p :: ps) (⟨k, kind, label⟩ :: nodes)

namespace Listed

theorem append {k : Nat} {ps qs : List Formula} {nodes nodes' : List GraphNode} (h : Listed k ps nodes)
    (h' : Listed (k + ps.length) qs nodes') : Listed k (ps ++ qs) (nodes ++ nodes') := by
  induction h with
  | nil k => exact h'
  | @cons k p ps nodes kind label operands hp _ ih =>
      refine .cons hp (ih ?_)
      rw [List.length_cons, Nat.add_comm ps.length, ← Nat.add_assoc] at h'
      exact h'

/-- The numbers go up by one. -/
theorem ids {k : Nat} {ps : List Formula} {nodes : List GraphNode} (h : Listed k ps nodes) :
    nodes.map GraphNode.id = List.range' k ps.length := by
  induction h with
  | nil k => rfl
  | cons hp _ ih => rw [List.map_cons, ih, List.length_cons, List.range'_succ]

/-- Each node is described at its place. -/
theorem getElem? {k i : Nat} {ps : List Formula} {nodes : List GraphNode} {p : Formula}
    (h : Listed k ps nodes) (hp : ps[i]? = some p) :
    ∃ kind label operands, p.describe = .ok (kind, label, operands)
      ∧ nodes[i]? = some ⟨k + i, kind, label⟩ := by
  induction h generalizing i with
  | nil k => cases hp
  | @cons k q ps nodes kind label operands hq _ ih =>
      cases i with
      | zero =>
          cases hp
          exact ⟨kind, label, operands, hq, rfl⟩
      | succ i =>
          obtain ⟨kind', label', operands', hdescribe, hnode⟩ := ih hp
          refine ⟨kind', label', operands', hdescribe, ?_⟩
          rw [List.getElem?_cons_succ, hnode]
          congr 2
          omega

end Listed

/-- The edges below the root of a formula, which has the number `k`, in the order of their targets. -/
def edgesBelow (k : Nat) : Formula → List GraphEdge
  | not f => ⟨k, k + 1, .operand⟩ :: f.edgesBelow (k + 1)
  | call _ f => ⟨k, k + 1, .argument⟩ :: f.edgesBelow (k + 1)
  | and l r | or l r | kept _ l r =>
    ⟨k, k + 1, .left⟩ :: (l.edgesBelow (k + 1)
      ++ ⟨k, k + 1 + l.size, .right⟩ :: r.edgesBelow (k + 1 + l.size))
  | const _ | var _ | lit _ | emptyCall _ | unknown _ => []

/-- The edge that leads to the node with the number `k`. -/
def arrival (k : Nat) (parent : Option (Nat × Role)) : List GraphEdge :=
  parent.toList.map fun q => ⟨q.1, k, q.2⟩

/-- One step of the numbering: the operands take the place of the node on the stack. -/
theorem number_step {f : Formula} {kind : NodeKind} {label : String} {operands : List (Role × Formula)}
    (h : f.describe = .ok (kind, label, operands)) (k : Nat) (parent : Option (Nat × Role))
    (rest : List Pending) :
    number k (⟨f, parent⟩ :: rest)
      = (fun r => (⟨k, kind, label⟩ :: r.1, arrival k parent ++ r.2))
          <$> number (k + 1) (operandsOf k operands ++ rest) := by
  rw [number]
  split
  · rename_i e he
    rw [h] at he
    cases he
  · rename_i d hd
    rw [h] at hd
    cases hd
    cases number (k + 1) (operandsOf k operands ++ rest) <;> rfl

/-- **The stack gives what the recursion gives**, and goes on with what waits below. -/
theorem number_cons {f : Formula} (hf : f.Known) (k : Nat) :
    ∃ nodes, Listed k f.preorder nodes ∧ ∀ parent rest, number k (⟨f, parent⟩ :: rest)
      = (fun r => (nodes ++ r.1, arrival k parent ++ (f.edgesBelow k ++ r.2)))
          <$> number (k + f.size) rest := by
  induction f generalizing k with
  | const | var | lit | emptyCall =>
      refine ⟨[_], .cons rfl (.nil _), fun parent rest => ?_⟩
      rw [number_step rfl]
      rfl
  | unknown text => exact hf.elim
  | not f ih | call name f ih =>
      obtain ⟨nodes, hlisted, hnumber⟩ := ih hf (k + 1)
      refine ⟨_ :: nodes, .cons rfl hlisted, fun parent rest => ?_⟩
      rw [number_step rfl]
      simp only [operandsOf, List.map_cons, List.map_nil, List.cons_append, List.nil_append, hnumber,
        Functor.map_map, size, ← Nat.add_assoc]
      rfl
  | and l r ihl ihr | or l r ihl ihr | kept op l r ihl ihr =>
      obtain ⟨nodes, hlisted, hnumber⟩ := ihl hf.1 (k + 1)
      obtain ⟨nodes', hlisted', hnumber'⟩ := ihr hf.2 (k + 1 + l.size)
      rw [← length_preorder l] at hlisted'
      refine ⟨_ :: (nodes ++ nodes'), .cons rfl (hlisted.append hlisted'), fun parent rest => ?_⟩
      rw [number_step rfl]
      simp only [operandsOf, List.map_cons, List.map_nil, List.cons_append, List.nil_append, hnumber,
        hnumber', Functor.map_map, size, ← Nat.add_assoc, edgesBelow, List.append_assoc]
      rfl

/-- Nothing is numbered if a node is of an unknown kind, whatever waits below. -/
theorem number_of_not_known {f : Formula} (hf : ¬ f.Known) (k : Nat) (parent : Option (Nat × Role))
    (rest : List Pending) : ∃ e, number k (⟨f, parent⟩ :: rest) = .error e := by
  induction f generalizing k parent rest with
  | const | var | lit | emptyCall => exact absurd trivial hf
  | unknown text =>
      rw [number]
      exact ⟨⟨text⟩, rfl⟩
  | not f ih | call name f ih =>
      rw [number_step rfl]
      simp only [operandsOf, List.map_cons, List.map_nil, List.cons_append, List.nil_append]
      obtain ⟨e, he⟩ := ih hf (k + 1) _ rest
      rw [he]
      exact ⟨e, rfl⟩
  | and l r ihl ihr | or l r ihl ihr | kept op l r ihl ihr =>
      rw [number_step rfl]
      simp only [operandsOf, List.map_cons, List.map_nil, List.cons_append, List.nil_append]
      by_cases hl : l.Known
      · have hr : ¬ r.Known := fun hr => hf ⟨hl, hr⟩
        obtain ⟨nodes, -, hnumber⟩ := number_cons hl (k + 1)
        obtain ⟨e, he⟩ := ihr hr (k + 1 + l.size) _ rest
        rw [hnumber, he]
        exact ⟨e, rfl⟩
      · obtain ⟨e, he⟩ := ihl hl (k + 1) _ _
        rw [he]
        exact ⟨e, rfl⟩

/-! ## The edges of a formula -/

/-- **The targets of the edges are all numbers but that of the root**, in order and each once. -/
theorem target_edgesBelow (k : Nat) (f : Formula) :
    k :: (f.edgesBelow k).map GraphEdge.target = List.range' k f.size := by
  induction f generalizing k with
  | const | var | lit | emptyCall | unknown => rfl
  | not f ih | call name f ih =>
      rw [size, Nat.add_comm, List.range'_succ, ← ih]
      rfl
  | and l r ihl ihr | or l r ihl ihr | kept op l r ihl ihr =>
      rw [size, Nat.add_assoc, Nat.add_comm 1, List.range'_succ, ← List.range'_append_1, ← ihl, ← ihr]
      simp [edgesBelow]

/-- The edge leads from the node `p`, which has the number `k`, to its operand of that role. -/
def Leaves (k : Nat) (p : Formula) (e : GraphEdge) : Prop :=
  ∃ d c, p.operandAt? e.role = some (d, c) ∧ e.source = k ∧ e.target = k + d

/-- The edge leads from a node of a row, which is numbered from `k` on, to its operand of that role. -/
def Links (k : Nat) (ps : List Formula) (e : GraphEdge) : Prop :=
  ∃ i p, ps[i]? = some p ∧ Leaves (k + i) p e

theorem links_cons_iff {k : Nat} {p : Formula} {ps : List Formula} {e : GraphEdge} :
    Links k (p :: ps) e ↔ Leaves k p e ∨ Links (k + 1) ps e := by
  constructor
  · rintro ⟨i, q, hq, hleaves⟩
    cases i with
    | zero =>
        cases hq
        exact .inl hleaves
    | succ i =>
        refine .inr ⟨i, q, hq, ?_⟩
        rw [Nat.add_assoc, Nat.add_comm 1]
        exact hleaves
  · rintro (hleaves | ⟨i, q, hq, hleaves⟩)
    · exact ⟨0, p, rfl, hleaves⟩
    · refine ⟨i + 1, q, hq, ?_⟩
      rw [Nat.add_comm i, ← Nat.add_assoc]
      exact hleaves

theorem links_append_iff {k : Nat} {ps qs : List Formula} {e : GraphEdge} :
    Links k (ps ++ qs) e ↔ Links k ps e ∨ Links (k + ps.length) qs e := by
  induction ps generalizing k with
  | nil =>
      have hnone : ¬ Links k [] e := by
        rintro ⟨i, q, hq, -⟩
        cases hq
      simp [hnone]
  | cons p ps ih =>
      rw [List.cons_append, links_cons_iff, links_cons_iff, ih, or_assoc, List.length_cons,
        Nat.add_assoc k 1, Nat.add_comm 1]

theorem leaves_unary_iff {p f : Formula} {role : Role}
    (hp : ∀ role', p.operandAt? role' = if role' = role then some (1, f) else none) {k : Nat}
    {e : GraphEdge} : Leaves k p e ↔ e = ⟨k, k + 1, role⟩ := by
  obtain ⟨source, target, role'⟩ := e
  by_cases hrole : role' = role
  · simp [Leaves, hp, hrole]
  · simp [Leaves, hp, hrole]

theorem leaves_binary_iff {p l r : Formula} (hl : p.operandAt? .left = some (1, l))
    (hr : p.operandAt? .right = some (1 + l.size, r)) (hop : p.operandAt? .operand = none)
    (harg : p.operandAt? .argument = none) {k : Nat} {e : GraphEdge} :
    Leaves k p e ↔ e = ⟨k, k + 1, .left⟩ ∨ e = ⟨k, k + 1 + l.size, .right⟩ := by
  obtain ⟨source, target, role⟩ := e
  cases role <;> simp [Leaves, hl, hr, hop, harg, Nat.add_assoc]

/-- **The edges lead from the nodes to their operands**, and all operands are reached. -/
theorem mem_edgesBelow_iff {k : Nat} {f : Formula} {e : GraphEdge} :
    e ∈ f.edgesBelow k ↔ Links k f.preorder e := by
  induction f generalizing k with
  | const | var | lit | emptyCall | unknown =>
      have hnone : ¬ Links (k + 1) [] e := by
        rintro ⟨i, q, hq, -⟩
        cases hq
      simp [edgesBelow, preorder, links_cons_iff, hnone, Leaves, operandAt?]
  | not f ih | call name f ih =>
      rw [preorder, links_cons_iff, edgesBelow, List.mem_cons, ih]
      exact or_congr_left (leaves_unary_iff fun role' => by cases role' <;> rfl).symm
  | and l r ihl ihr | or l r ihl ihr | kept op l r ihl ihr =>
      rw [preorder, links_cons_iff, leaves_binary_iff rfl rfl rfl rfl, links_append_iff, ← ihl, edgesBelow,
        List.mem_cons, List.mem_append, List.mem_cons, length_preorder, ← ihr]
      exact ⟨by tauto, by tauto⟩

end Formula

/-! ## The graph of a formula -/

open Formula

/-- The graph is the formula with its nodes numbered in pre-order. -/
structure Graph.Encodes (g : Graph) (f : Formula) : Prop where
  /-- There are as many nodes as the formula has, numbered from zero on. -/
  ids : g.nodes.map GraphNode.id = List.range f.size
  /-- A node has the number of its place in pre-order. -/
  described : ∀ {i : Nat} {p : Formula}, f.preorder[i]? = some p →
    ∃ kind label operands, p.describe = .ok (kind, label, operands)
      ∧ g.nodes[i]? = some ⟨i, kind, label⟩
  /-- The root has the number zero, and no edge leads to it. -/
  root : f.preorder[0]? = some f ∧ ∀ e ∈ g.edges, e.target ≠ 0
  /-- There is one edge less than there are nodes. -/
  edge_count : g.edges.length + 1 = f.size
  /-- To every node but the root leads one edge. -/
  incoming : ∀ {i : Nat}, 0 < i → i < f.size → ∃! e, e ∈ g.edges ∧ e.target = i
  /-- Edges lead to greater numbers. -/
  ascending : ∀ e ∈ g.edges, e.source < e.target
  /-- The edges lead from the nodes to their operands, in the role that the operand has there. -/
  edge_iff : ∀ e, e ∈ g.edges ↔ ∃ p d c, f.preorder[e.source]? = some p
    ∧ p.operandAt? e.role = some (d, c) ∧ e.target = e.source + d ∧ f.preorder[e.target]? = some c

namespace Formula

/-- The links of a formula lead from a node to the place of its operand. -/
theorem links_preorder_iff {f : Formula} {e : GraphEdge} :
    Links 0 f.preorder e ↔ ∃ p d c, f.preorder[e.source]? = some p ∧ p.operandAt? e.role = some (d, c)
      ∧ e.target = e.source + d ∧ f.preorder[e.target]? = some c := by
  constructor
  · rintro ⟨i, p, hp, d, c, hc, hsource, htarget⟩
    rw [Nat.zero_add] at hsource htarget
    rw [hsource, htarget]
    exact ⟨p, d, c, hp, hc, rfl, getElem?_preorder_add hp hc⟩
  · rintro ⟨p, d, c, hp, hc, htarget, -⟩
    refine ⟨e.source, p, hp, d, c, hc, ?_, ?_⟩
    · rw [Nat.zero_add]
    · rw [Nat.zero_add, htarget]

/-- **The graph of a formula is the formula in pre-order.** -/
theorem exists_toGraph {f : Formula} (hf : f.Known) : ∃ g, f.toGraph = .ok g ∧ g.Encodes f := by
  obtain ⟨nodes, hlisted, hnumber⟩ := number_cons hf 0
  have hgraph : f.toGraph = .ok ⟨nodes, f.edgesBelow 0⟩ := by
    unfold toGraph
    rw [hnumber, number]
    simp [arrival]
  have htargets : 0 :: (f.edgesBelow 0).map GraphEdge.target = List.range' 0 f.size := target_edgesBelow 0 f
  have hnodup : (0 :: (f.edgesBelow 0).map GraphEdge.target).Nodup := by
    rw [htargets]
    exact List.nodup_range'
  obtain ⟨hzero, hdistinct⟩ := List.nodup_cons.mp hnodup
  have hiff : ∀ e, e ∈ f.edgesBelow 0 ↔ Links 0 f.preorder e := fun e => mem_edgesBelow_iff
  refine ⟨⟨nodes, f.edgesBelow 0⟩, hgraph, ?_⟩
  constructor
  case ids => rw [hlisted.ids, length_preorder, List.range_eq_range']
  case described =>
    intro i p hp
    have hnode := hlisted.getElem? hp
    rw [Nat.zero_add] at hnode
    exact hnode
  case root =>
    refine ⟨?_, fun e he htarget => hzero ?_⟩
    · rw [← List.head?_eq_getElem?, preorder_head?]
    · exact List.mem_map.mpr ⟨e, he, htarget⟩
  case edge_count =>
    have hlength := congrArg List.length htargets
    rw [List.length_cons, List.length_map, List.length_range'] at hlength
    exact hlength
  case incoming =>
    intro i hpos hi
    have hmem : i ∈ 0 :: (f.edgesBelow 0).map GraphEdge.target := by
      rw [htargets, List.mem_range'_1]
      omega
    rcases List.mem_cons.mp hmem with rfl | hmem
    · exact absurd hpos (Nat.lt_irrefl 0)
    · obtain ⟨e, he, htarget⟩ := List.mem_map.mp hmem
      refine ⟨e, ⟨he, htarget⟩, ?_⟩
      rintro e' ⟨he', htarget'⟩
      exact List.inj_on_of_nodup_map hdistinct he' he (htarget'.trans htarget.symm)
  case ascending =>
    intro e he
    obtain ⟨p, d, c, -, hc, htarget, -⟩ := links_preorder_iff.mp ((hiff e).mp he)
    obtain ⟨hd, -⟩ := getElem?_preorder_operand hc
    omega
  case edge_iff =>
    intro e
    rw [hiff, links_preorder_iff]

/-- A formula that has a graph is the one in the graph, since there is none with a node of an unknown kind. -/
theorem encodes_of_toGraph {f : Formula} {g : Graph} (h : f.toGraph = .ok g) : g.Encodes f := by
  by_cases hf : f.Known
  · obtain ⟨g', hgraph, hencodes⟩ := exists_toGraph hf
    rw [h] at hgraph
    cases hgraph
    exact hencodes
  · obtain ⟨e, he⟩ := number_of_not_known hf 0 none []
    rw [toGraph, he] at h
    cases h

end Formula

end HashIf
