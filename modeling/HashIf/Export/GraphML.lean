import HashIf.Formula.Graph

/-!
# `HashIf.Export.GraphML`: a graph as a GraphML document

Only ASCII is written: a character outside of it becomes a reference to its code point, and every
kind of line break inside a label becomes a line feed.
-/

namespace HashIf.Export

/-- One character of XML text. -/
def xmlChar (c : Char) : List Char :=
  if c == '&' then "&amp;".toList
  else if c == '<' then "&lt;".toList
  else if c == '>' then "&gt;".toList
  else if c.toNat < 0x80 then [c]
  else "&#".toList ++ Nat.toDigits 10 c.toNat ++ [';']

/-- The single characters that break a line. -/
def breaksLine (c : Char) : Bool :=
  c == '\r' || c.toNat = 0x0b || c.toNat = 0x0c || (0x1c ≤ c.toNat && c.toNat ≤ 0x1e)

/-- The text with every line break written as a line feed. -/
def plainBreaks : List Char → List Char
  | '\r' :: '\n' :: rest => '\n' :: plainBreaks rest
  | c :: rest => (if breaksLine c then '\n' else c) :: plainBreaks rest
  | [] => []

/-- The escaped form of a label. -/
def xmlText (s : String) : String := String.ofList (plainBreaks (s.toList.flatMap xmlChar))

/-- A datum under a key; an empty text has no closing tag. -/
def dataElement (key text : String) : String :=
  if text.isEmpty then "<data key=\"" ++ key ++ "\" />"
  else "<data key=\"" ++ key ++ "\">" ++ text ++ "</data>"

/-- The declaration of a key. -/
def keyElement (id target name type : String) : String :=
  "  <key id=\"" ++ id ++ "\" for=\"" ++ target ++ "\" attr.name=\"" ++ name
    ++ "\" attr.type=\"" ++ type ++ "\" />"

/-- The lines of a node. -/
def nodeElement (n : GraphNode) : List String :=
  ["    <node id=\"" ++ toString n.id ++ "\">",
   "      " ++ dataElement "d1" n.kind.name,
   "      " ++ dataElement "d2" (xmlText n.label),
   "    </node>"]

/-- The lines of an edge. -/
def edgeElement (e : GraphEdge) : List String :=
  ["    <edge source=\"" ++ toString e.source ++ "\" target=\"" ++ toString e.target ++ "\">",
   "      " ++ dataElement "d3" e.role.name,
   "    </edge>"]

/-- The opening tag of a document. -/
def graphMLTag : String :=
  "<graphml xmlns=\"http://graphml.graphdrawing.org/xmlns\" "
    ++ "xmlns:xsi=\"http://www.w3.org/2001/XMLSchema-instance\" "
    ++ "xsi:schemaLocation=\"http://graphml.graphdrawing.org/xmlns "
    ++ "http://graphml.graphdrawing.org/xmlns/1.0/graphml.xsd\">"

/-- The document of a graph.  The key of the roles is declared only if there are edges. -/
def graphML (g : Graph) : String :=
  let roleKey := if g.edges.isEmpty then [] else [keyElement "d3" "edge" "role" "string"]
  "\n".intercalate (
    [graphMLTag] ++ roleKey ++
    [keyElement "d2" "node" "label" "string", keyElement "d1" "node" "type" "string",
     keyElement "d0" "graph" "root" "long", "  <graph edgedefault=\"directed\">"]
    ++ g.nodes.flatMap nodeElement ++ g.edgesBySource.flatMap edgeElement
    ++ ["    " ++ dataElement "d0" "0", "  </graph>", "</graphml>"])

end HashIf.Export
