import HashIf.Formula.Graph
import HashIf.Text.Quoted

/-!
# `HashIf.Export.NodeLink`: a graph as a JSON document

The document lists the nodes in the order of their numbers and the edges grouped by source, one
entry per line and two spaces for every level.
-/

namespace HashIf.Export

/-- One character inside a JSON string. -/
def jsonChar (c : Char) : List Char :=
  if c == '"' || c == '\\' then ['\\', c]
  else if c == '\n' then ['\\', 'n']
  else if c == '\r' then ['\\', 'r']
  else if c == '\t' then ['\\', 't']
  else if c.toNat = 8 then ['\\', 'b']
  else if c.toNat = 12 then ['\\', 'f']
  else if c.toNat < 0x20 then '\\' :: 'u' :: Text.hexDigits 4 c.toNat
  else [c]

/-- A JSON string. -/
def jsonString (s : String) : String :=
  String.ofList ('"' :: (s.toList.flatMap jsonChar ++ ['"']))

/-- A row of entries between two marks, each on a line of its own. -/
def jsonBlock (indent opening closing : String) (entries : List String) : String :=
  if entries.isEmpty then opening ++ closing
  else opening ++ "\n" ++ ",\n".intercalate (entries.map fun e => indent ++ "  " ++ e) ++ "\n"
    ++ indent ++ closing

/-- A named entry of an object. -/
def jsonField (name value : String) : String := jsonString name ++ ": " ++ value

/-- An object of the given fields. -/
def jsonObject (indent : String) (fields : List String) : String :=
  jsonBlock indent "\x7b" "\x7d" fields

/-- A node as an object. -/
def nodeObject (n : GraphNode) : String :=
  jsonObject "    " [jsonField "type" (jsonString n.kind.name),
    jsonField "label" (jsonString n.label), jsonField "id" (toString n.id)]

/-- An edge as an object. -/
def edgeObject (e : GraphEdge) : String :=
  jsonObject "    " [jsonField "role" (jsonString e.role.name),
    jsonField "source" (toString e.source), jsonField "target" (toString e.target)]

/-- The document of a graph. -/
def nodeLink (g : Graph) : String :=
  jsonObject "" [
    jsonField "directed" "true",
    jsonField "multigraph" "false",
    jsonField "graph" (jsonObject "  " [jsonField "root" "0"]),
    jsonField "nodes" (jsonBlock "  " "[" "]" (g.nodes.map nodeObject)),
    jsonField "edges" (jsonBlock "  " "[" "]" (g.edgesBySource.map edgeObject))]

end HashIf.Export
