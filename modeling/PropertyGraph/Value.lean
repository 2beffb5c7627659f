import PropertyGraph.Dict
import PropertyGraph.Number

/-!
# Values

What flows through a query: null, the scalars, lists, maps with ascending keys, and
references to nodes, relationships and paths of a graph.
-/

namespace PropertyGraph

abbrev NodeId := Nat

abbrev RelId := Nat

/-- A path: its nodes, and the relationships between successive ones. -/
structure Path where
  nodes : List NodeId
  rels : List RelId
deriving DecidableEq

namespace Path

/-- The path without relationships at a node. -/
def single (id : NodeId) : Path := ⟨[id], []⟩

def length (p : Path) : Nat := p.rels.length

end Path

inductive Value
  | null
  | bool (b : Bool)
  | num (n : Number)
  | str (s : String)
  | list (items : List Value)
  | map (entries : List (String × Value))
  | node (id : NodeId)
  | rel (id : RelId)
  | path (p : Path)

namespace Value

instance : Inhabited Value := ⟨null⟩

/-- The number of a count. -/
def count (n : Nat) : Value := .num (.ofNat n)

def isNull : Value → Bool
  | null => true
  | _ => false

/-- The name of a value's type, as messages give it. -/
def typeName : Value → String
  | null => "Null"
  | bool _ => "Boolean"
  | num n => if n.isIntegral then "Integer" else "Float"
  | str _ => "String"
  | list _ => "List"
  | map _ => "Map"
  | node _ => "Node"
  | rel _ => "Relationship"
  | path _ => "Path"

/-- A number without fraction, zero or above, as a count. -/
def toIndex? : Value → Option Nat
  | num n => n.toIndex?
  | _ => none

/-! ### Identity -/

mutual

/-- Whether two values are the same value, bit for bit. -/
def identical : Value → Value → Bool
  | null, null => true
  | bool a, bool b => a == b
  | num a, num b => a == b
  | str a, str b => a == b
  | list a, list b => identicalItems a b
  | map a, map b => identicalEntries a b
  | node a, node b => a == b
  | rel a, rel b => a == b
  | path a, path b => a == b
  | _, _ => false

def identicalItems : List Value → List Value → Bool
  | [], [] => true
  | x :: xs, y :: ys => x.identical y && identicalItems xs ys
  | _, _ => false

def identicalEntries : List (String × Value) → List (String × Value) → Bool
  | [], [] => true
  | (j, x) :: xs, (k, y) :: ys => j == k && x.identical y && identicalEntries xs ys
  | _, _ => false

end

mutual

theorem identical_iff (a b : Value) : a.identical b = true ↔ a = b := by
  cases a <;> cases b <;> simp only [identical, beq_iff_eq, Bool.false_eq_true, reduceCtorEq,
    bool.injEq, num.injEq, str.injEq, list.injEq, map.injEq, node.injEq, rel.injEq, path.injEq]
  · exact identicalItems_iff _ _
  · exact identicalEntries_iff _ _

theorem identicalItems_iff (a b : List Value) : identicalItems a b = true ↔ a = b := by
  match a, b with
  | [], [] => simp [identicalItems]
  | [], _ :: _ => simp [identicalItems]
  | _ :: _, [] => simp [identicalItems]
  | x :: xs, y :: ys => simp [identicalItems, identical_iff x y, identicalItems_iff xs ys]

theorem identicalEntries_iff (a b : List (String × Value)) :
    identicalEntries a b = true ↔ a = b := by
  match a, b with
  | [], [] => simp [identicalEntries]
  | [], _ :: _ => simp [identicalEntries]
  | _ :: _, [] => simp [identicalEntries]
  | (j, x) :: xs, (k, y) :: ys =>
    simp [identicalEntries, identical_iff x y, identicalEntries_iff xs ys]

end

instance : DecidableEq Value := fun a b => decidable_of_iff _ (identical_iff a b)

/-! ### Graph entities -/

mutual

/-- Whether a value refers to a node, relationship or path, at any depth. -/
def mentionsEntity : Value → Bool
  | node _ | rel _ | path _ => true
  | list items => itemsMentionEntity items
  | map entries => entriesMentionEntity entries
  | _ => false

def itemsMentionEntity : List Value → Bool
  | [] => false
  | x :: xs => x.mentionsEntity || itemsMentionEntity xs

def entriesMentionEntity : List (String × Value) → Bool
  | [] => false
  | (_, x) :: xs => x.mentionsEntity || entriesMentionEntity xs

end

/-! ### Grouping -/

mutual

/-- One representative of values that grouping, DISTINCT and UNION do not tell apart. -/
def key : Value → Value
  | num n => num n.canonical
  | list items => list (itemKeys items)
  | map entries => map (entryKeys entries)
  | v => v

def itemKeys : List Value → List Value
  | [] => []
  | x :: xs => x.key :: itemKeys xs

def entryKeys : List (String × Value) → List (String × Value)
  | [] => []
  | (k, x) :: xs => (k, x.key) :: entryKeys xs

end

theorem itemKeys_eq_map (xs : List Value) : itemKeys xs = xs.map key := by
  induction xs with
  | nil => rfl
  | cons x xs ih => simp [itemKeys, ih]

/-- Keeps the elements whose `f` has not been seen before. -/
def distinctBy {α β : Type} [DecidableEq β] (f : α → β) (xs : List α) : List α :=
  (xs.foldl (fun (acc : List α × List β) x =>
    if f x ∈ acc.2 then acc else (x :: acc.1, f x :: acc.2)) ([], [])).1.reverse

end Value

/-- A row of bindings, ordered by name. -/
abbrev Row := Dict String Value

/-- The properties of an entity, ordered by key. -/
abbrev Properties := Dict String Value

end PropertyGraph
