import PropertyGraph.Error

/-!
# Catalogs

The databases by name: each is a graph of its own. One of them is the default and is always
there.
-/

namespace PropertyGraph

structure Catalog where
  databases : Dict String Store
  defaultName : String

namespace Catalog

/-- The default database alone, and empty. -/
def ofDefault (name : String) : Catalog := ⟨[(name, {})], name⟩

def names (c : Catalog) : List String := c.databases.keys

def get? (c : Catalog) (name : String) : Option Store := c.databases.get? name

def contains (c : Catalog) (name : String) : Bool := c.databases.contains name

/-- Puts a graph in the place of a database's own. -/
def put (c : Catalog) (name : String) (s : Store) : Catalog :=
  { c with databases := c.databases.modify name fun _ => s }

/-- Adds an empty database. -/
def create (c : Catalog) (name : String) : Except DatabaseFault Catalog :=
  if c.contains name then .error (.alreadyExists name)
  else .ok { c with databases := c.databases.insert name {} }

/-- Takes a database away; the default one stays. -/
def drop (c : Catalog) (name : String) : Except DatabaseFault Catalog :=
  if name = c.defaultName then .error (.isDefault name)
  else if c.contains name then .ok { c with databases := c.databases.erase name }
  else .error (.notFound name)

/-- The default database alone, and empty again. -/
def reset (c : Catalog) : Catalog := ofDefault c.defaultName

end Catalog

end PropertyGraph
