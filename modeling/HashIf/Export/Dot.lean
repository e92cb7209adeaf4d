import HashIf.Formula.Graph
import HashIf.Log
import HashIf.Text.Alphanumeric

/-!
# `HashIf.Export.Dot`: a graph in the DOT language

A label is written bare if DOT reads it as one word: digits only, letters and digits that do not
start with a digit, an ASCII numeral with a point, or an ASCII text that is in quotes or angle
brackets already.  The keywords of DOT and all other labels are quoted.
-/

namespace HashIf.Export

/-- The words that have a meaning of their own in DOT. -/
def dotKeywords : List String := ["graph", "subgraph", "digraph", "node", "edge", "strict"]

/-- Digits with at most one point, and a digit on one side of it. -/
def isDotNumeral (cs : List Char) : Bool :=
  let whole := cs.takeWhile Char.isDigit
  match cs.dropWhile Char.isDigit with
  | [] => !whole.isEmpty
  | '.' :: fraction => fraction.all Char.isDigit && !(whole.isEmpty && fraction.isEmpty)
  | _ => false

/-- A text on one line between an opening and a closing character. -/
def isEnclosed (opening closing : Char) (cs : List Char) : Bool :=
  2 ≤ cs.length && cs.head? == some opening && cs.getLast? == some closing && !cs.contains '\n'

/-- The text without one line feed at its end. -/
def dropFinalBreak (cs : List Char) : List Char :=
  if cs.getLast? == some '\n' then cs.dropLast else cs

/-- Whether a label is written without quotes. -/
def isBareLabel (s : String) : Bool :=
  let cs := s.toList
  if dotKeywords.contains s.toLower then false
  else if !cs.isEmpty && cs.all Text.isScriptDigit then true
  else if !cs.isEmpty && cs.all Text.isAlphanumeric then
    !(cs.head?.map Text.isScriptDigit).getD false
  else
    let line := dropFinalBreak cs
    cs.all (·.toNat < 0x80) &&
      (isDotNumeral line || isEnclosed '"' '"' line || isEnclosed '<' '>' line)

/-- One character inside quotes. -/
def dotChar (c : Char) : List Char :=
  if c == '"' then ['\\', '"']
  else if c == '\n' then ['\\', 'n']
  else if c == '\r' then ['\\', 'r']
  else [c]

/-- A label, quoted if necessary. -/
def dotLabel (s : String) : String :=
  if isBareLabel s then s else String.ofList ('"' :: (s.toList.flatMap dotChar ++ ['"']))

/-- The line of a node. -/
def dotNode (n : GraphNode) : String :=
  toString n.id ++ " [type=" ++ n.kind.name ++ ", label=" ++ dotLabel n.label ++ "];\n"

/-- The line of an edge. -/
def dotEdge (e : GraphEdge) : String :=
  toString e.source ++ " -> " ++ toString e.target ++ " [role=" ++ e.role.name ++ "];\n"

/-- The DOT text of a graph. -/
def dot (g : Graph) : String :=
  "strict digraph \x7b\n" ++ String.join (g.nodes.map dotNode)
    ++ String.join (g.edgesBySource.map dotEdge) ++ "\x7d\n"

/-- The record of an export that can not be made because DOT is not supported on the spot. -/
def dotUnavailable : LogRecord :=
  ⟨.warning, "cppcondition.export.dot", "pydot not available, DOT export skipped"⟩

end HashIf.Export
