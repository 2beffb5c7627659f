import PropertyGraph.Value

/-!
# Equality and order of values

Three relations: the equality of the language, which is unknown where null is involved; the
order of the comparison operators, which is partial; and the total order that sorts.
-/

namespace PropertyGraph

/-- Conjunction in three-valued logic, for `none` as unknown. -/
def Kleene.and : Option Bool → Option Bool → Option Bool
  | some false, _ | _, some false => some false
  | some true, some true => some true
  | _, _ => none

/-- Disjunction in three-valued logic. -/
def Kleene.or : Option Bool → Option Bool → Option Bool
  | some true, _ | _, some true => some true
  | some false, some false => some false
  | _, _ => none

/-- Exclusive disjunction in three-valued logic. -/
def Kleene.xor : Option Bool → Option Bool → Option Bool
  | some a, some b => some (a != b)
  | _, _ => none

namespace Value

/-- A truth value of three-valued logic as a value. -/
def ofTruth : Option Bool → Value
  | some b => bool b
  | none => null

/-! ### Equality -/

mutual

/-- Equality of the language: unknown if either side is null, elementwise in lists and in maps
with the same keys. -/
def equals : Value → Value → Option Bool
  | null, _ | _, null => none
  | list a, list b => itemsEqual a b
  | map a, map b => entriesEqual a b
  | bool a, bool b => some (a == b)
  | num a, num b => some (a.equals b)
  | str a, str b => some (a == b)
  | node a, node b => some (a == b)
  | rel a, rel b => some (a == b)
  | path a, path b => some (a == b)
  | _, _ => some false

def itemsEqual : List Value → List Value → Option Bool
  | [], [] => some true
  | x :: xs, y :: ys => Kleene.and (x.equals y) (itemsEqual xs ys)
  | _, _ => some false

def entriesEqual : List (String × Value) → List (String × Value) → Option Bool
  | [], [] => some true
  | (j, x) :: xs, (k, y) :: ys =>
    if j = k then Kleene.and (x.equals y) (entriesEqual xs ys) else some false
  | _, _ => some false

end

mutual

/-- Equality that a uniqueness constraint uses: null equals null, numbers compare as numbers. -/
def same : Value → Value → Bool
  | null, null => true
  | bool a, bool b => a == b
  | num a, num b => a.equals b
  | str a, str b => a == b
  | list a, list b => sameItems a b
  | map a, map b => sameEntries a b
  | node a, node b => a == b
  | rel a, rel b => a == b
  | path a, path b => a == b
  | _, _ => false

def sameItems : List Value → List Value → Bool
  | [], [] => true
  | x :: xs, y :: ys => x.same y && sameItems xs ys
  | _, _ => false

def sameEntries : List (String × Value) → List (String × Value) → Bool
  | [], [] => true
  | (j, x) :: xs, (k, y) :: ys => j == k && x.same y && sameEntries xs ys
  | _, _ => false

end

/-- Membership in a list by the equality of the language: true if one element is equal, else
unknown if one comparison is. -/
def memberOf (x : Value) (items : List Value) : Option Bool :=
  items.foldr (fun y r => Kleene.or (x.equals y) r) (some false)

/-! ### Comparison -/

mutual

/-- The order of `<` and its kin: numbers, strings, Booleans, and lists of these. -/
def compare? : Value → Value → Option Ordering
  | num a, num b => a.compare? b
  | str a, str b => some (compare a b)
  | bool a, bool b => some (compare a b)
  | list a, list b => compareItems? a b
  | _, _ => none

def compareItems? : List Value → List Value → Option Ordering
  | [], [] => some .eq
  | [], _ :: _ => some .lt
  | _ :: _, [] => some .gt
  | x :: xs, y :: ys =>
    match x.compare? y with
    | some .eq => compareItems? xs ys
    | r => r

end

/-! ### Sorting -/

/-- The place of a value's type in the total order. -/
def typeRank : Value → Nat
  | map _ => 0
  | node _ => 1
  | rel _ => 2
  | list _ => 3
  | path _ => 4
  | str _ => 5
  | bool _ => 6
  | num _ => 7
  | null => 8

/-- Lexicographic order of lists of ids. -/
def compareIds : List Nat → List Nat → Ordering
  | [], [] => .eq
  | [], _ :: _ => .lt
  | _ :: _, [] => .gt
  | x :: xs, y :: ys => (compare x y).then (compareIds xs ys)

mutual

/-- The total order behind ORDER BY, min and max: by type, then within the type. -/
def sortCompare : Value → Value → Ordering
  | num a, num b => a.totalCompare b
  | str a, str b => compare a b
  | bool a, bool b => compare a b
  | node a, node b => compare a b
  | rel a, rel b => compare a b
  | path a, path b => (compareIds a.nodes b.nodes).then (compareIds a.rels b.rels)
  | list a, list b => sortCompareItems a b
  | map a, map b => sortCompareEntries a b
  | a, b => compare a.typeRank b.typeRank

def sortCompareItems : List Value → List Value → Ordering
  | [], [] => .eq
  | [], _ :: _ => .lt
  | _ :: _, [] => .gt
  | x :: xs, y :: ys => (x.sortCompare y).then (sortCompareItems xs ys)

def sortCompareEntries : List (String × Value) → List (String × Value) → Ordering
  | [], [] => .eq
  | [], _ :: _ => .lt
  | _ :: _, [] => .gt
  | (j, x) :: xs, (k, y) :: ys =>
    ((compare j k).then (x.sortCompare y)).then (sortCompareEntries xs ys)

end

end Value

end PropertyGraph
