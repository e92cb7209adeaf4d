import HashIf.Operator

/-!
# `HashIf.Formula`: formulas

Constants, variables and the three connectives form the strict family, the propositional formulas.
The extended family adds literals, kept operators and kept calls, which stand for the parts of a
condition that have no Boolean reading.

## Contents
- `Formula`.
- `Formula.bracketed`: the fully bracketed text.
- `Formula.sameAs`: equality that does not look at kept operators, only at their operands.
- `Formula.allOf`, `Formula.anyOf`: conjunction and disjunction of several formulas.
- `Formula.size`: the number of nodes.
-/

namespace HashIf

/-- A propositional formula, or one with parts that are kept as they stand in the condition. -/
inductive Formula where
  | const (value : Bool)
  | var (name : String)
  /-- A number in its textual form. -/
  | lit (text : String)
  | not (operand : Formula)
  | and (left right : Formula)
  | or (left right : Formula)
  /-- An arithmetic, bitwise or comparison operator. -/
  | kept (op : Operator) (left right : Formula)
  | emptyCall (name : String)
  | call (name : String) (argument : Formula)
  /-- A bare text where a formula is expected. -/
  | unknown (text : String)
  deriving DecidableEq, Repr

/-- A node of no known kind was met. -/
structure UnknownNode where
  text : String
  deriving DecidableEq, Repr

namespace Formula

/-- The number of nodes. -/
def size : Formula → Nat
  | const _ | var _ | lit _ | emptyCall _ | unknown _ => 1
  | not f | call _ f => 1 + f.size
  | and l r | or l r | kept _ l r => 1 + l.size + r.size

/-- The fully bracketed text of a formula. -/
def bracketed : Formula → String
  | const b => if b then "1" else "0"
  | var name => name
  | lit text => text
  | not f => "!(" ++ f.bracketed ++ ")"
  | and l r => "(" ++ l.bracketed ++ ") && (" ++ r.bracketed ++ ")"
  | or l r => "(" ++ l.bracketed ++ ") || (" ++ r.bracketed ++ ")"
  | kept op l r => "(" ++ l.bracketed ++ ") " ++ op.symbol ++ " (" ++ r.bracketed ++ ")"
  | emptyCall name => name ++ "()"
  | call name f => name ++ "(" ++ f.bracketed ++ ")"
  | unknown text => text

/-- Equality that ignores which operator is kept. -/
def sameAs : Formula → Formula → Bool
  | const a, const b => a == b
  | var a, var b => a == b
  | lit a, lit b => a == b
  | not f, not g => f.sameAs g
  | and l r, and l' r' => l.sameAs l' && r.sameAs r'
  | or l r, or l' r' => l.sameAs l' && r.sameAs r'
  | kept _ l r, kept _ l' r' => l.sameAs l' && r.sameAs r'
  | emptyCall a, emptyCall b => a == b
  | call a f, call b g => a == b && f.sameAs g
  | unknown a, unknown b => a == b
  | _, _ => false

/-- The conjunction of a formula with others, nested to the left. -/
def allOf (first : Formula) (rest : List Formula) : Formula := rest.foldl and first

/-- The disjunction of a formula with others, nested to the left. -/
def anyOf (first : Formula) (rest : List Formula) : Formula := rest.foldl or first

/-- Every formula has a node. -/
theorem size_pos (f : Formula) : 0 < f.size := by
  cases f <;> simp only [size] <;> omega

/-- The number of nodes of several formulas. -/
def sizes : List Formula → Nat
  | [] => 0
  | f :: fs => f.size + sizes fs

end Formula

end HashIf
