import HashIf.Proofs.Preorder
import HashIf.Proofs.Rendering

/-!
# `HashIf.Proofs.PlainTexts`: the text of a formula without the loop

The text of a chain of operators is put together from the inside outwards: a loop walks down the left edge as long
as no brackets are needed, and what it stops at, as well as every right operand, starts a loop of its own.  The
text that comes out is that of the plain recursion, which looks at one node and its operands at a time.  This
holds for chains in which the operators bind tighter and looser in any order, and for all operators alike,
also for those that never stand between two operands in a condition.

A node of an unknown kind has no text.  Operands are written from left to right, so it is the leftmost of these
nodes that is reported.

## Contents
- `between`, `plainText`: the text of a formula as a plain recursion.
- `unknownNode?`, `firstUnknown?`, `firstUnknown?_eq_some_iff`: the leftmost node of an unknown kind.
- `toText_eq`: the loop against the recursion.
- `toText_iff_plainText`: when there is a text, and which node is reported otherwise.
-/

namespace HashIf.Formula

/-! ## The plain recursion -/

/-- An operator between the texts of its operands.  The left operand is put in brackets if it binds looser than
    the operator, the right one also if it binds as tightly. -/
def between (op : Operator) (left : Formula) (text : String) (right : Formula) (text' : String) : String :=
  bracketIf (left.precedence < op.precedence) text ++ " " ++ op.symbol ++ " "
    ++ bracketIf (right.precedence ≤ op.precedence) text'

/-- The text of a formula, node by node; a node of an unknown kind is left as it is. -/
def plainText : Formula → String
  | const b => if b then "1" else "0"
  | var name => name
  | lit text => text
  | emptyCall name => name ++ "()"
  | call name f => name ++ "(" ++ f.plainText ++ ")"
  | not f =>
    "!" ++ bracketIf (f.precedence < Operator.boolNot.precedence || f.startsWithSign) f.plainText
  | and l r => between .boolAnd l l.plainText r r.plainText
  | or l r => between .boolOr l l.plainText r r.plainText
  | kept op l r => between op l l.plainText r r.plainText
  | unknown text => text

/-! ## Nodes of an unknown kind -/

/-- The node itself, if it is of an unknown kind. -/
def unknownNode? : Formula → Option UnknownNode
  | unknown text => some ⟨text⟩
  | _ => none

/-- The leftmost node of an unknown kind. -/
def firstUnknown? (f : Formula) : Option UnknownNode := f.preorder.findSome? unknownNode?

theorem unknownNode?_eq_some_iff {f : Formula} {e : UnknownNode} :
    f.unknownNode? = some e ↔ f = unknown e.text := by
  cases f with
  | unknown text =>
      constructor
      · intro h
        cases h
        rfl
      · intro h
        cases h
        rfl
  | _ => exact ⟨nofun, nofun⟩

theorem unknownNode?_eq_none_iff {f : Formula} : f.unknownNode? = none ↔ ∀ text, f ≠ unknown text := by
  rw [Option.eq_none_iff_forall_not_mem]
  constructor
  · intro h text hf
    exact h ⟨text⟩ (unknownNode?_eq_some_iff.mpr hf)
  · intro h e he
    exact h e.text (unknownNode?_eq_some_iff.mp he)

/-- No node of a list is of an unknown kind. -/
theorem forall_unknownNode?_eq_none_iff {fs : List Formula} :
    (∀ f ∈ fs, f.unknownNode? = none) ↔ ∀ text, unknown text ∉ fs := by
  constructor
  · intro h text hmem
    exact unknownNode?_eq_none_iff.mp (h _ hmem) text rfl
  · intro h f hf
    refine unknownNode?_eq_none_iff.mpr fun text heq => h text ?_
    rw [← heq]
    exact hf

theorem firstUnknown?_eq_none_iff {f : Formula} :
    f.firstUnknown? = none ↔ ∀ text, unknown text ∉ f.preorder := by
  rw [firstUnknown?, List.findSome?_eq_none_iff, forall_unknownNode?_eq_none_iff]

/-- The leftmost node has none of an unknown kind in front of it. -/
theorem firstUnknown?_eq_some_iff {f : Formula} {e : UnknownNode} :
    f.firstUnknown? = some e ↔
      ∃ before after, f.preorder = before ++ unknown e.text :: after ∧ ∀ text, unknown text ∉ before := by
  rw [firstUnknown?, List.findSome?_eq_some_iff]
  constructor
  · rintro ⟨before, p, after, hsplit, hp, hbefore⟩
    obtain rfl := unknownNode?_eq_some_iff.mp hp
    exact ⟨before, after, hsplit, forall_unknownNode?_eq_none_iff.mp hbefore⟩
  · rintro ⟨before, after, hsplit, hbefore⟩
    exact ⟨before, unknown e.text, after, hsplit, rfl, forall_unknownNode?_eq_none_iff.mpr hbefore⟩

theorem firstUnknown?_binary {f l r : Formula} (hf : f.preorder = f :: (l.preorder ++ r.preorder))
    (hkind : f.unknownNode? = none) : f.firstUnknown? = l.firstUnknown?.or r.firstUnknown? := by
  unfold firstUnknown?
  rw [hf, List.findSome?_cons, hkind, List.findSome?_append]

/-! ## The loop against the recursion -/

/-- The text of a formula if no node is of an unknown kind, and the leftmost such node otherwise. -/
def textOr (first : Option UnknownNode) (text : String) : Except UnknownNode String :=
  match first with
  | some e => .error e
  | none => .ok text

theorem textOr_map (g : String → String) (first : Option UnknownNode) (text : String) :
    g <$> textOr first text = textOr first (g text) := by
  cases first <;> rfl

/-- A binary formula, whichever operator joins its operands. -/
theorem toText_binary {f l r : Formula} (op : Operator)
    (hjoint : joint? f = some (l, ⟨op.symbol, op.precedence, r⟩))
    (hnodes : f.preorder = f :: (l.preorder ++ r.preorder))
    (hl : l.toText = textOr l.firstUnknown? l.plainText)
    (hr : r.toText = textOr r.firstUnknown? r.plainText) :
    f.toText = textOr f.firstUnknown? (between op l l.plainText r r.plainText) := by
  have hkind : f.unknownNode? = none := by
    cases f with
    | unknown text => cases hjoint
    | _ => rfl
  rw [toText_of_joint? hjoint, firstUnknown?_binary hnodes hkind, hl, hr]
  -- The right operand comes into play only behind a left operand that has a text.
  cases l.firstUnknown? with
  | some e => rfl
  | none =>
      cases r.firstUnknown? with
      | some e => rfl
      | none => rfl

/-- **The loop gives the text of the plain recursion**, or the leftmost node that has no text. -/
theorem toText_eq (f : Formula) : f.toText = textOr f.firstUnknown? f.plainText := by
  induction f with
  | const | var | lit | emptyCall | unknown =>
      rw [toText]
      rfl
  | call name f ih =>
      rw [toText, ih, textOr_map]
      rfl
  | not f ih =>
      rw [toText, ih, textOr_map]
      rfl
  | and l r ihl ihr => exact toText_binary .boolAnd rfl rfl ihl ihr
  | or l r ihl ihr => exact toText_binary .boolOr rfl rfl ihl ihr
  | kept op l r ihl ihr => exact toText_binary op rfl rfl ihl ihr

/-- **The text of a formula is that of the plain recursion**, for every formula.  There is a text exactly if no
    node is of an unknown kind, and it is the plain one; otherwise the node that is reported is the first of an
    unknown kind from left to right. -/
theorem toText_iff_plainText (f : Formula) :
    (∀ text, f.toText = .ok text ↔ text = f.plainText ∧ ∀ t, unknown t ∉ f.preorder)
      ∧ ∀ e : UnknownNode, f.toText = .error e ↔
        ∃ before after, f.preorder = before ++ unknown e.text :: after ∧ ∀ t, unknown t ∉ before := by
  refine ⟨fun text => ?_, fun e => ?_⟩
  · rw [toText_eq, ← firstUnknown?_eq_none_iff]
    cases f.firstUnknown? with
    | none => simp [textOr, eq_comm]
    | some e => simp [textOr]
  · rw [toText_eq, ← firstUnknown?_eq_some_iff]
    cases f.firstUnknown? with
    | none => simp [textOr]
    | some e' => simp [textOr]

-- Along the left edge `<<` stands above `-`, `-` above `+` and `+` above `||`: the loop stops at the last one, and
-- `D - E` has brackets although it binds as tightly as the operator in front of it.
example :
    toText (.kept .shiftLeft
      (.kept .sub (.kept .add (.or (.var "A") (.var "B")) (.var "C")) (.kept .sub (.var "D") (.var "E")))
      (.lit "1")) = .ok "(A || B) + C - (D - E) << 1" := by
  cbv

end HashIf.Formula
