import HashIf.Proofs.NeededBrackets
import HashIf.Proofs.NodeLinkText
import HashIf.Proofs.Numbering

/-!
# `HashIf.Proofs.Recovery`: a formula can be told from the document of its graph

A node is made of its kind, its label and its operands.  Kind and label are in the document, and the edges say at
which numbers the operands are.  These are greater than the number of the node, so the formulas that two equal
documents come from agree at all places, from the last one down to the root.

Two things could be lost.  Calls with and without an argument are of one kind, but only the former have an edge
below them.  And a symbol alone does not tell an operator, since two of them are symbols of a unary and of a
binary one; among the binary operators it does.

## Contents
- `assemble?`, `assemble?_describe`: a node put together from what is known of it.
- `KeepsBinary`: formulas that keep no other operators than binary ones.
- `Graph.Encodes.node_eq`, `Graph.Encodes.preorder_eq`, `Graph.Encodes.formula_eq`: formulas with the same
  graph.
- `nodeLink_preorder`: the graph of a formula, and the formula from its document.
-/

namespace HashIf

namespace Formula

/-! ## A node from its parts -/

/-- The formula of a kind with a label and operands. -/
def assemble? (kind : NodeKind) (label : String) (operand? : Role → Option Formula) : Option Formula :=
  match kind with
  | .constant value => some (const value)
  | .var => some (var label)
  | .literal => some (lit label)
  | .negation => (operand? .operand).map not
  | .conjunction => (operand? .left).bind fun l => (operand? .right).map (and l)
  | .disjunction => (operand? .left).bind fun l => (operand? .right).map (or l)
  | .operator =>
    (binaryOf? label.toList).bind fun op =>
      (operand? .left).bind fun l => (operand? .right).map (kept op l)
  | .call =>
    match operand? .argument with
    | some f => some (call label f)
    | none => some (emptyCall label)

/-- Only operators with two operands are kept. -/
def KeepsBinary (f : Formula) : Prop := ∀ op l r, kept op l r ∈ f.preorder → op.isUnary = false

/-- **A node is made of its kind, its label and its operands.** -/
theorem assemble?_describe {p : Formula} {kind : NodeKind} {label : String}
    {operands : List (Role × Formula)} (hbinary : ∀ op l r, p = kept op l r → op.isUnary = false)
    (h : p.describe = .ok (kind, label, operands)) :
    assemble? kind label (fun role => (p.operandAt? role).map Prod.snd) = some p := by
  cases p with
  | unknown text => cases h
  | kept op l r =>
      cases h
      -- The symbol of a binary operator is that of no other one.
      have hop : binaryOf? op.symbol.toList = some op := by
        rw [Operator.symbol, String.toList_ofList]
        exact binaryOf?_symbolChars (hbinary op l r rfl)
      simp only [assemble?, hop]
      rfl
  | _ =>
      cases h
      rfl

end Formula

open Formula

namespace Graph.Encodes

variable {g g' : Graph} {f f' : Formula}

/-- A node has the operands of another one whose edges include its own, if the two formulas agree behind
    them. -/
theorem operandAt?_eq (h : g.Encodes f) (h' : g'.Encodes f') (hedges : ∀ e ∈ g.edges, e ∈ g'.edges)
    {i : Nat} {p p' : Formula} (hp : f.preorder[i]? = some p) (hp' : f'.preorder[i]? = some p')
    (hlater : ∀ j, i < j → f.preorder[j]? = f'.preorder[j]?) {role : Role} {d : Nat} {c : Formula}
    (hc : p.operandAt? role = some (d, c)) : p'.operandAt? role = some (d, c) := by
  have hplace : f.preorder[i + d]? = some c := getElem?_preorder_add hp hc
  have hedge : (⟨i, i + d, role⟩ : GraphEdge) ∈ g'.edges :=
    hedges _ ((h.edge_iff _).mpr ⟨p, d, c, hp, hc, rfl, hplace⟩)
  obtain ⟨q, d', c', hq, hc', htarget, hplace'⟩ := (h'.edge_iff _).mp hedge
  obtain rfl : p' = q := Option.some.inj (hp'.symm.trans hq)
  obtain rfl : d = d' := Nat.add_left_cancel htarget
  obtain ⟨hd, -⟩ := getElem?_preorder_operand hc
  rw [hlater (i + d) (by omega), hplace'] at hplace
  rw [hc', Option.some.inj hplace]

/-- Formulas with the same nodes have the same size. -/
theorem size_eq (h : g.Encodes f) (h' : g'.Encodes f') (hnodes : g.nodes = g'.nodes) : f.size = f'.size := by
  have hids := h.ids
  rw [hnodes, h'.ids] at hids
  have hlength := congrArg List.length hids
  rw [List.length_range, List.length_range] at hlength
  exact hlength.symm

/-- **Formulas with the same nodes and edges agree at a place if they agree behind it.** -/
theorem node_eq (h : g.Encodes f) (h' : g'.Encodes f') (hnodes : g.nodes = g'.nodes)
    (hedges : ∀ e, e ∈ g.edges ↔ e ∈ g'.edges) (hf : f.KeepsBinary) (hf' : f'.KeepsBinary) {i : Nat}
    {p p' : Formula} (hp : f.preorder[i]? = some p) (hp' : f'.preorder[i]? = some p')
    (hlater : ∀ j, i < j → f.preorder[j]? = f'.preorder[j]?) : p = p' := by
  have hoperands : ∀ role, p.operandAt? role = p'.operandAt? role := by
    intro role
    apply Option.ext
    rintro ⟨d, c⟩
    constructor
    · intro hc
      exact h.operandAt?_eq h' (fun e => (hedges e).mp) hp hp' hlater hc
    · intro hc
      exact h'.operandAt?_eq h (fun e => (hedges e).mpr) hp' hp (fun j hj => (hlater j hj).symm) hc
  obtain ⟨kind, label, operands, hdescribe, hnode⟩ := h.described hp
  obtain ⟨kind', label', operands', hdescribe', hnode'⟩ := h'.described hp'
  rw [hnodes, hnode'] at hnode
  cases hnode
  have hmade := assemble?_describe (fun op l r heq => hf op l r (heq ▸ List.mem_of_getElem? hp)) hdescribe
  have hmade' := assemble?_describe (fun op l r heq => hf' op l r (heq ▸ List.mem_of_getElem? hp')) hdescribe'
  simp only [hoperands, hmade'] at hmade
  exact (Option.some.inj hmade).symm

/-- **Formulas with the same nodes and edges agree at every place.**  The induction goes from the last place
    down, so that the operands of a node are known to agree before the node is. -/
theorem preorder_eq (h : g.Encodes f) (h' : g'.Encodes f') (hnodes : g.nodes = g'.nodes)
    (hedges : ∀ e, e ∈ g.edges ↔ e ∈ g'.edges) (hf : f.KeepsBinary) (hf' : f'.KeepsBinary) (n : Nat) :
    ∀ i, f.size ≤ i + n → f.preorder[i]? = f'.preorder[i]? := by
  have hlength : f.preorder.length = f'.preorder.length := by
    rw [length_preorder, length_preorder, h.size_eq h' hnodes]
  induction n with
  | zero =>
      intro i hi
      rw [Nat.add_zero, ← length_preorder] at hi
      rw [List.getElem?_eq_none hi, List.getElem?_eq_none (hlength ▸ hi)]
  | succ n ih =>
      intro i hi
      by_cases hlt : i < f.preorder.length
      · have hp := List.getElem?_eq_getElem hlt
        have hp' := List.getElem?_eq_getElem (hlength ▸ hlt)
        have hlater : ∀ j, i < j → f.preorder[j]? = f'.preorder[j]? := fun j hj => ih j (by omega)
        rw [hp, hp', h.node_eq h' hnodes hedges hf hf' hp hp' hlater]
      · rw [length_preorder] at hlt
        exact ih i (by omega)

/-- **A formula can be told from the nodes and edges of its graph.** -/
theorem formula_eq (h : g.Encodes f) (h' : g'.Encodes f') (hnodes : g.nodes = g'.nodes)
    (hedges : ∀ e, e ∈ g.edges ↔ e ∈ g'.edges) (hf : f.KeepsBinary) (hf' : f'.KeepsBinary) : f = f' := by
  have hroot := h.preorder_eq h' hnodes hedges hf hf' f.size 0 (by omega)
  rw [h.root.1, h'.root.1] at hroot
  exact Option.some.inj hroot

end Graph.Encodes

namespace Formula

/-- Grouping the edges by their sources keeps them all. -/
theorem mem_edgesBySource {g : Graph} {e : GraphEdge} : e ∈ g.edgesBySource ↔ e ∈ g.edges :=
  List.mem_mergeSort

/-- **The graph of a formula is its pre-order, and its document tells the formula.**  A formula without nodes of an
    unknown kind has a graph, whose nodes are its own, numbered in pre-order, with edges from each node to
    its operands.  No other formula has the same document, as long as the operators that are kept in both are
    binary. -/
theorem nodeLink_preorder {f : Formula} (hf : ∀ text, unknown text ∉ f.preorder) :
    ∃ g, f.toGraph = .ok g ∧ g.Encodes f
      ∧ (f.KeepsBinary → ∀ f' g', f'.KeepsBinary → f'.toGraph = .ok g' →
          Export.nodeLink g = Export.nodeLink g' → f = f') := by
  obtain ⟨g, hgraph, hencodes⟩ := exists_toGraph (known_iff.mpr hf)
  refine ⟨g, hgraph, hencodes, fun hbinary f' g' hbinary' hgraph' hdocument => ?_⟩
  have hencodes' : g'.Encodes f' := encodes_of_toGraph hgraph'
  obtain ⟨hnodes, hedges⟩ := Export.nodeLink_inj hdocument
  refine hencodes.formula_eq hencodes' hnodes (fun e => ?_) hbinary hbinary'
  rw [← mem_edgesBySource, hedges, mem_edgesBySource]

/-- The formula `f() - A && f(A)`. -/
def callsAndDifference : Formula :=
  .and (.kept .sub (.emptyCall "f") (.var "A")) (.call "f" (.var "A"))

/-- The formula `f() + A && f(A)`, which differs in an operator only. -/
def callsAndSum : Formula :=
  .and (.kept .add (.emptyCall "f") (.var "A")) (.call "f" (.var "A"))

/-- The operand of the kept operator and the argument of the call are two nodes, although they are equal, and the
    document tells one operator from the other. -/
theorem nodeLink_preorder_callsAndDifference :
    (∀ text, unknown text ∉ callsAndDifference.preorder)
      ∧ callsAndDifference.KeepsBinary ∧ callsAndSum.KeepsBinary
      ∧ ∃ g, callsAndDifference.toGraph = .ok g ∧ g.Encodes callsAndDifference
        ∧ g.edges = [⟨0, 1, .left⟩, ⟨1, 2, .left⟩, ⟨1, 3, .right⟩, ⟨0, 4, .right⟩, ⟨4, 5, .argument⟩]
        ∧ ∀ g', callsAndSum.toGraph = .ok g' → Export.nodeLink g ≠ Export.nodeLink g' := by
  have hknown : ∀ text, unknown text ∉ callsAndDifference.preorder := by
    intro text
    simp [callsAndDifference, preorder]
  have hbinary : callsAndDifference.KeepsBinary := by
    intro op l r h
    simp only [callsAndDifference, preorder, List.cons_append, List.nil_append, List.mem_cons, reduceCtorEq,
      kept.injEq, List.not_mem_nil, false_or, or_false] at h
    rw [h.1]
    rfl
  have hbinary' : callsAndSum.KeepsBinary := by
    intro op l r h
    simp only [callsAndSum, preorder, List.cons_append, List.nil_append, List.mem_cons, reduceCtorEq,
      kept.injEq, List.not_mem_nil, false_or, or_false] at h
    rw [h.1]
    rfl
  obtain ⟨g, hgraph, hencodes, hrecover⟩ := nodeLink_preorder hknown
  refine ⟨hknown, hbinary, hbinary', g, hgraph, hencodes, ?_, fun g' hgraph' hdocument => ?_⟩
  · have hedges : (Graph.edges <$> callsAndDifference.toGraph) = .ok
        [⟨0, 1, .left⟩, ⟨1, 2, .left⟩, ⟨1, 3, .right⟩, ⟨0, 4, .right⟩, ⟨4, 5, .argument⟩] := by cbv
    rw [hgraph] at hedges
    exact Except.ok.inj hedges
  · exact absurd (hrecover hbinary callsAndSum g' hbinary' hgraph' hdocument) (by decide)

end Formula

end HashIf
