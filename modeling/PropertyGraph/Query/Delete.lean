import PropertyGraph.Query.Edit

/-!
# Deleting

Relationships go at once. So do nodes if they are to be detached; otherwise they wait until all
rows are done, so that the order of what is deleted does not matter. What is gone already, and
null, is nothing to delete.
-/

namespace PropertyGraph

namespace Query

def deleteRel (id : RelId) : Edit Unit := do
  if ← Edit.store fun s => let (b, s) := s.deleteRel id; (.ok b, s) then
    Edit.count { relsDeleted := 1 }

/-- Deletes a node with the relationships at it. -/
def detachNode (id : NodeId) : Edit Unit := do
  match ← Edit.store (Store.deleteNode id true) with
  | some n => Edit.count { nodesDeleted := 1, relsDeleted := n }
  | none => return

/-- Deletes a node that must not have relationships. -/
def deleteNode (id : NodeId) : Edit Unit := do
  if (← Edit.store (Store.deleteNode id false)).isSome then Edit.count { nodesDeleted := 1 }

/-- Deletes a node now, or adds it to those that wait. -/
def dropNode (detach : Bool) (waiting : List NodeId) (id : NodeId) : Edit (List NodeId) := do
  if detach then
    detachNode id
    return waiting
  else return if id ∈ waiting then waiting else waiting ++ [id]

mutual

/-- Deletes what a value holds, and gives the nodes that wait. -/
def deleteValue (detach : Bool) (waiting : List NodeId) : Value → Edit (List NodeId)
  | .null => return waiting
  | .node id => dropNode detach waiting id
  | .rel id => do
    deleteRel id
    return waiting
  | .path p => do
    p.rels.forM deleteRel
    p.nodes.foldlM (dropNode detach) waiting
  | .list items => deleteItems detach waiting items
  | v => throw (.type (.expects "DELETE" "a Node, Relationship or Path" v.typeName))

def deleteItems (detach : Bool) (waiting : List NodeId) : List Value → Edit (List NodeId)
  | [] => return waiting
  | v :: vs => do deleteItems detach (← deleteValue detach waiting v) vs

end

/-- Deletes what some expressions give in a row. -/
def deleteRow (c : Context) (detach : Bool) (targets : List Meaning) (waiting : List NodeId)
    (row : Row) : Edit (List NodeId) :=
  targets.foldlM (fun waiting m => do
    deleteValue detach waiting (← Edit.reading c fun env => m.value env row)) waiting

/-- Deletes what some expressions give in all rows, and then the nodes that wait. -/
def deleteRows (c : Context) (detach : Bool) (targets : List Meaning) (rows : List Row) :
    Edit Unit := do
  let waiting ← rows.foldlM (deleteRow c detach targets) []
  waiting.forM deleteNode

end Query

end PropertyGraph
