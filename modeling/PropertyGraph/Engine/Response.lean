import PropertyGraph.Engine.Server
import PropertyGraph.Query.Reply
import PropertyGraph.Render

/-!
# Responses

What a caller gets for a request, be it a reply or an error, as a JSON document.
-/

namespace PropertyGraph

inductive Response
  | rows (shape : Shape) (columns : List String) (objects : List Json)
  | message (text : String)
  | help (text : String)
  | failure (kind : ErrorKind) (text : String)

namespace Response

def ofError (e : Error) : Response := .failure e.kind e.text

/-- A reply with its entities as they are in a graph. -/
def ofReply (g : Store) : Reply → Response
  | .rows shape columns lines _ => .rows shape columns (lines.map (g.rowJson columns))
  | .message text _ => .message text
  | .help text => .help text

/-- The rows of a table are its data, those of a graph its result. -/
def json : Response → Json
  | rows .table columns objects => .obj [("ok", .bool true), ("type", .str "tabular"),
      ("columns", .strings columns), ("data", .arr objects)]
  | rows .graph columns objects => .obj [("ok", .bool true), ("type", .str "graph"),
      ("columns", .strings columns), ("result", .arr objects)]
  | message text => .obj [("ok", .bool true), ("type", .str "message"), ("message", .str text)]
  | help text => .obj [("ok", .bool true), ("type", .str "help"), ("message", .str text)]
  | failure kind text => .obj [("ok", .bool false), ("error", .str text), ("code", .str kind.code)]

end Response

end PropertyGraph
