import HashIf.Number
import HashIf.Operator

/-!
# `HashIf.Expr`: expression trees

An expression grows in two steps: brackets turn the tokens into nested groups in which operators
are still unbound marks, and resolution then binds every operator to its operands.  One type
serves for both, so that each step maps trees to trees.

## Contents
- `Expr`, with the offset of the token that each node was made from.
- `Expr.induction`: induction on the operands of a tree.
- `Expr.text`: the fully bracketed text of a tree.
- `Expr.sameAs`: equality up to offsets, numbers being compared by value.
- `Expr.hasGroup`: whether a group is left anywhere.
-/

namespace HashIf

/-- An expression tree; `pos` is the offset of the token that a node was made from. -/
inductive Expr where
  | var (name : String) (pos : Option Int)
  | num (value : Number) (pos : Option Int)
  /-- An operator that is not bound to operands yet. -/
  | mark (op : Operator) (pos : Option Int)
  | unary (op : Operator) (operand : Expr) (pos : Option Int)
  | binary (op : Operator) (left right : Expr) (pos : Option Int)
  /-- A call with empty brackets. -/
  | emptyCall (name : String) (pos : Option Int)
  | call (name : String) (argument : Expr) (pos : Option Int)
  /-- What stands between a pair of brackets. -/
  | group (items : List Expr) (pos : Option Int)
  deriving Repr

namespace Expr

/-- Induction on the operands of a tree.  The items of a group are no operands, so there is no hypothesis
    about them. -/
@[elab_as_elim, induction_eliminator]
theorem induction {motive : Expr → Prop}
    (var : ∀ name pos, motive (var name pos))
    (num : ∀ value pos, motive (num value pos))
    (mark : ∀ op pos, motive (mark op pos))
    (unary : ∀ op e pos, motive e → motive (unary op e pos))
    (binary : ∀ op l r pos, motive l → motive r → motive (binary op l r pos))
    (emptyCall : ∀ name pos, motive (emptyCall name pos))
    (call : ∀ name e pos, motive e → motive (call name e pos))
    (group : ∀ items pos, motive (group items pos)) (e : Expr) : motive e :=
  @Expr.rec motive (fun _ => True) var num mark unary binary emptyCall call
    (fun items pos _ => group items pos) trivial (fun _ _ _ _ => trivial) e

/-- The offset of a node. -/
def pos : Expr → Option Int
  | var _ p | num _ p | mark _ p | unary _ _ p | binary _ _ _ p | emptyCall _ p | call _ _ p
  | group _ p => p

/-- The operator of a node, bound or not. -/
def operator? : Expr → Option Operator
  | mark op _ | unary op _ _ | binary op _ _ _ => some op
  | _ => none

mutual

/-- The fully bracketed text of a tree. -/
def text : Expr → String
  | var name _ => name
  | num v _ => v.plain
  | mark op _ => op.symbol
  | unary op e _ => op.symbol ++ "(" ++ e.text ++ ")"
  | binary op l r _ => "(" ++ l.text ++ ") " ++ op.symbol ++ " (" ++ r.text ++ ")"
  | emptyCall name _ => name ++ "()"
  | call name e _ => name ++ "(" ++ e.text ++ ")"
  | group items _ => "[" ++ ", ".intercalate (texts items) ++ "]"

/-- The texts of the items of a group. -/
def texts : List Expr → List String
  | [] => []
  | e :: es => e.text :: texts es

end

mutual

/-- Equality up to offsets; numbers are compared by value. -/
def sameAs : Expr → Expr → Bool
  | var a _, var b _ => a == b
  | num a _, num b _ => a.sameValue b
  | mark a _, mark b _ => a == b
  | unary a e _, unary b f _ => a == b && e.sameAs f
  | binary a l r _, binary b l' r' _ => a == b && l.sameAs l' && r.sameAs r'
  | emptyCall a _, emptyCall b _ => a == b
  | call a e _, call b f _ => a == b && e.sameAs f
  | group es _, group fs _ => sameItems es fs
  | _, _ => false

/-- Equality of groups, item by item. -/
def sameItems : List Expr → List Expr → Bool
  | [], [] => true
  | e :: es, f :: fs => e.sameAs f && sameItems es fs
  | _, _ => false

end

/-- Whether a group is left in the tree. -/
def hasGroup : Expr → Bool
  | group _ _ => true
  | unary _ e _ => e.hasGroup
  | binary _ l r _ => l.hasGroup || r.hasGroup
  | call _ e _ => e.hasGroup
  | _ => false

end Expr

end HashIf
