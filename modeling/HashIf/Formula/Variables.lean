import HashIf.Formula
import HashIf.Text.Quoted

/-!
# `HashIf.Formula.Variables`: the variables of a formula

Variables are collected below negations, connectives, kept operators and calls alike.  The
pending formulas are kept on a stack from which right operands are taken first.

## Contents
- `UnknownNode.message`: the wording for a node of no known kind.
- `collect`: the names in the pending formulas, as often as they occur.
- `nameSet`: names in the order of code points, each once.
- `varNames`: the variables of a formula.
-/

namespace HashIf

/-- The text shown for a node of no known kind. -/
def UnknownNode.message (e : UnknownNode) : String := "Unknown formula node: " ++ Text.quoted e.text

namespace Formula

/-- The names of the variables in the pending formulas, put in front of `found`. -/
def collect (pending : List Formula) (found : List String) : Except UnknownNode (List String) :=
  match pending with
  | [] => .ok found
  | .var name :: rest => collect rest (name :: found)
  | .and l r :: rest | .or l r :: rest | .kept _ l r :: rest => collect (r :: l :: rest) found
  | .not f :: rest | .call _ f :: rest => collect (f :: rest) found
  | .emptyCall _ :: rest | .const _ :: rest | .lit _ :: rest => collect rest found
  | .unknown text :: _ => .error ⟨text⟩
termination_by sizes pending
decreasing_by
  all_goals simp only [sizes, size]
  all_goals omega

/-- Removes neighbours that are equal. -/
def dropRepeats : List String → List String
  | a :: b :: rest => if a == b then dropRepeats (b :: rest) else a :: dropRepeats (b :: rest)
  | names => names

/-- The names in ascending order, each once. -/
def nameSet (names : List String) : List String :=
  dropRepeats (names.mergeSort fun a b => a ≤ b)

/-- The names of the variables of a formula in ascending order, each once. -/
def varNames (f : Formula) : Except UnknownNode (List String) := nameSet <$> collect [f] []

end Formula

end HashIf
