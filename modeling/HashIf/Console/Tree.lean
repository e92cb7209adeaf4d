import HashIf.Console.Lines
import HashIf.Expr

/-!
# `HashIf.Console.Tree`: an expression tree drawn with lines

Every node has a line with its label; the operands stand below it, joined to it by guides of four
columns.  A label that does not fit into the columns left is folded, and a node without any
column left is not drawn.
-/

namespace HashIf.Console

/-- The label of a node. -/
def label : Expr → String
  | .mark op _ | .unary op _ _ | .binary op _ _ _ => op.symbol ++ " (" ++ op.name ++ ")"
  | .emptyCall name _ | .call name _ _ => name ++ "()"
  | e => e.text

/-- The lines of a label behind its guides. -/
def labelLines (first rest : String) (e : Expr) : List String :=
  match wrap (terminalWidth - first.length) (label e) with
  | [] => []
  | l :: ls => (first ++ l) :: ls.map (rest ++ ·)

/-- The lines of a tree: `first` are the guides in front of its label, `rest` those of what is
    below. -/
def treeLines (first rest : String) : Expr → List String
  | .unary op e p =>
    labelLines first rest (.unary op e p) ++ treeLines (rest ++ "└── ") (rest ++ "    ") e
  | .call n e p =>
    labelLines first rest (.call n e p) ++ treeLines (rest ++ "└── ") (rest ++ "    ") e
  | .binary op l r p =>
    labelLines first rest (.binary op l r p) ++ treeLines (rest ++ "├── ") (rest ++ "│   ") l
      ++ treeLines (rest ++ "└── ") (rest ++ "    ") r
  | e => labelLines first rest e

/-- The drawing of a tree. -/
def tree (e : Expr) : String := String.join ((treeLines "" "" e).map (· ++ "\n"))

end HashIf.Console
