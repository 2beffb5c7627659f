import PropertyGraph.Function

/-!
# Functions on the graph
-/

namespace PropertyGraph

namespace Function

/-- The properties of an entity or map; none of null and of what has been deleted. -/
def propertiesOf? (c : Call) (v : Value) : Except FunctionError (Option Properties) :=
  match v with
  | .null => .ok none
  | .node id => .ok ((c.store.node? id).map Node.properties)
  | .rel id => .ok ((c.store.rel? id).map Relationship.properties)
  | .map es => .ok (some es)
  | v => c.fail "Node, Relationship or Map" v

def properties (c : Call) : Answer := do
  return (← propertiesOf? c (c.arg 0)).elim .null .map

def keys (c : Call) : Answer := do
  return (← propertiesOf? c (c.arg 0)).elim .null fun es => .list ((Dict.keys es).map .str)

def id (c : Call) : Answer :=
  match c.arg 0 with
  | .null => .ok .null
  | .node id | .rel id => .ok (.count id)
  | v => c.fail "Node or Relationship" v

def labels (c : Call) : Answer :=
  match c.arg 0 with
  | .null => .ok .null
  | .node id => .ok ((c.store.node? id).elim .null fun n => .list (n.labels.map .str))
  | v => c.fail "Node" v

/-- What `f` makes of a relationship, and null if there is no such relationship. -/
def ofRel (f : Relationship → Value) (c : Call) : Answer :=
  match c.arg 0 with
  | .null => .ok .null
  | .rel id => .ok ((c.store.rel? id).elim .null f)
  | v => c.fail "Relationship" v

def type : Call → Answer := ofRel fun r => .str r.type

def startNode : Call → Answer := ofRel fun r => .node r.source

def endNode : Call → Answer := ofRel fun r => .node r.target

def ofPath (f : Path → Value) (c : Call) : Answer :=
  match c.arg 0 with
  | .null => .ok .null
  | .path p => .ok (f p)
  | v => c.fail "Path" v

def nodes : Call → Answer := ofPath fun p => .list (p.nodes.map .node)

def relationships : Call → Answer := ofPath fun p => .list (p.rels.map .rel)

/-- The length of a path, and also of a string or list. -/
def length (c : Call) : Answer :=
  match c.arg 0 with
  | .null => .ok .null
  | .path p => .ok (.count p.length)
  | .str s => .ok (.count s.length)
  | .list xs => .ok (.count xs.length)
  | v => c.fail "Path" v

def graphFunctions : List Function := [
  unary "id" "Internal id of a node or relationship. id(entity)" "Integer" id,
  unary "labels" "Labels of a node. labels(node)" "List" labels,
  unary "type" "Type of a relationship. type(rel)" "String" type,
  unary "properties" "Property map of an entity or map. properties(value)" "Map" properties,
  unary "keys" "Property keys of an entity or map. keys(value)" "List" keys,
  unary "nodes" "Nodes along a path. nodes(path)" "List" nodes,
  unary "relationships" "Relationships along a path. relationships(path)" "List" relationships,
  unary "length" "Relationship count of a path. length(path)" "Integer" length,
  unary "startNode" "Start node of a relationship. startNode(rel)" "Node" startNode,
  unary "endNode" "End node of a relationship. endNode(rel)" "Node" endNode]

end Function

end PropertyGraph
