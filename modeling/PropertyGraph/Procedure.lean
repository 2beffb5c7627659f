import PropertyGraph.Store
import PropertyGraph.Text.Case

/-!
# Procedures

What CALL can call: tables about a graph and its rules. None of them takes arguments.
-/

namespace PropertyGraph

structure Procedure where
  name : String
  columns : List String
  /-- The rows, each with a value for every column. -/
  rows : Store → List (List Value)

namespace Procedure

/-- The text of a constraint. Its variable is the label in lower case. -/
def constraintText (r : Rule) : String :=
  let v := Text.toLower r.label
  "CONSTRAINT ON ( " ++ v ++ ":" ++ r.label ++ " ) ASSERT " ++ v ++ "." ++ r.property ++
    " IS UNIQUE"

def single (names : List String) : List (List Value) := names.map fun n => [.str n]

def constraintRow (r : Rule) : List Value :=
  [.str r.name, .str (constraintText r), .str r.label, .str r.property]

def indexRow (r : Rule) : List Value := [.str r.name, .str r.label, .str r.property]

def all : List Procedure := [
  ⟨"db.labels", ["label"], fun s => single s.labelsInUse⟩,
  ⟨"db.relationshipTypes", ["relationshipType"], fun s => single s.relTypes⟩,
  ⟨"db.propertyKeys", ["propertyKey"], fun s => single s.propertyKeys⟩,
  ⟨"db.constraints", ["name", "description", "label", "property"],
    fun s => s.constraints.map constraintRow⟩,
  ⟨"db.indexes", ["name", "label", "property"], fun s => s.indexes.map indexRow⟩]

/-- The procedure of a name, in any case of letters. -/
def ofName? (name : String) : Option Procedure :=
  all.find? fun p => Text.asciiLower p.name == Text.asciiLower name

end Procedure

end PropertyGraph
