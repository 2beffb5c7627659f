import PropertyGraph.Query.Edit

/-!
# Changing properties and labels

SET and REMOVE. Changing null does nothing.
-/

namespace PropertyGraph

namespace Query

open Cypher

variable (c : Context)

/-! ### SET -/

/-- Sets a property of an entity; null removes it. Properties hold no entities. -/
def setProperty (target : Value) (key : String) (v : Value) : Edit Unit := do
  if v.mentionsEntity then throw (.type (.propertyValue v.typeName))
  match target with
  | .null => return
  | .node id => Edit.store (Store.setNodeProperty id key v)
  | .rel id => Edit.store (Store.setRelProperty id key v)
  | t => throw (.type (.propertyTarget key t.typeName))
  Edit.count { propertiesSet := 1 }

/-- The entries that properties are set from. -/
def propertySource (s : Store) : Value → Except Error Properties
  | .map ps => .ok ps
  | .null => .ok []
  | .node id => .ok (s.nodeProperties id)
  | .rel id => .ok (s.relProperties id)
  | v => .error (.type (.propertySource v.typeName))

def sourceOf (m : Meaning) (row : Row) : Edit Properties :=
  Edit.reading c fun env => do propertySource env.store (← m.value env row)

def setAll (target : Value) (ps : Properties) : Edit Unit :=
  ps.forM fun p => setProperty target p.1 p.2

/-- The properties of what they are to be replaced of. -/
def replaced (s : Store) : Value → Except Error Properties
  | .node id => .ok (s.nodeProperties id)
  | .rel id => .ok (s.relProperties id)
  | v => .error (.type (.replaceTarget v.typeName))

/-- Removes the properties that are not given, and sets those that are. -/
def replaceAll (target : Value) (ps : Properties) : Edit Unit := do
  if target.isNull then return
  let old ← Edit.reading c fun env => replaced env.store target
  let gone := (Dict.keys old).filter fun k => !Dict.contains ps k
  gone.forM fun k => setProperty target k .null
  setAll target ps

def addLabels (ls : List String) : Option Value → Edit Unit
  | none | some .null => return
  | some (.node id) => ls.forM fun l => do
    if ← Edit.store (Store.addLabel id l) then Edit.count { labelsAdded := 1 }
  | some v => throw (.type (.labelTarget v.typeName))

def setItem (row : Row) : SetItem Meaning → Edit Unit
  | .property e k v => do
    let (target, value) ← Edit.reading c fun env => do
      let target ← e.value env row
      return (target, ← v.value env row)
    setProperty target k value
  | .replace n v => do replaceAll c (Dict.getD row n .null) (← sourceOf c v row)
  | .extend n v => do setAll (Dict.getD row n .null) (← sourceOf c v row)
  | .labels n ls => addLabels ls (Dict.get? row n)

def setItems (is : List (SetItem Meaning)) (row : Row) : Edit Unit := is.forM (setItem c row)

/-! ### REMOVE -/

/-- Removes a property of an entity; tells whether it was there. -/
def removeProperty (key : String) : Value → Edit Bool
  | .null => return false
  | .node id => Edit.store (Store.removeNodeProperty id key)
  | .rel id => Edit.store (Store.removeRelProperty id key)
  | v => throw (.type (.removeTarget key v.typeName))

def removeLabels (ls : List String) : Option Value → Edit Unit
  | some (.node id) => ls.forM fun l => do
    if ← Edit.store (Store.removeLabel id l) then Edit.count { labelsRemoved := 1 }
  | _ => return

def removeItem (row : Row) : RemoveItem Meaning → Edit Unit
  | .property e k => do
    let target ← Edit.reading c fun env => e.value env row
    if ← removeProperty k target then Edit.count { propertiesSet := 1 }
  | .labels n ls => removeLabels ls (Dict.get? row n)

def removeItems (is : List (RemoveItem Meaning)) (row : Row) : Edit Unit :=
  is.forM (removeItem c row)

end Query

end PropertyGraph
