import PropertyGraph.Function

/-!
# Functions on lists
-/

namespace PropertyGraph

namespace Function

def size (c : Call) : Answer :=
  match c.arg 0 with
  | .null => .ok .null
  | .list xs => .ok (.count xs.length)
  | .str s => .ok (.count s.length)
  | .map es => .ok (.count es.length)
  | v => c.fail "List or String" v

def coalesce (c : Call) : Answer := .ok ((c.args.find? fun v => !v.isNull).getD .null)

/-! ### Ranges -/

/-- The greatest length of a range. -/
def rangeLimit : Nat := 1000000

/-- Whether a range that goes by `step` to `stop` has reached beyond it. -/
def isPast (step stop current : Int64) : Bool :=
  !((0 < step && current ≤ stop) || (step < 0 && stop ≤ current))

/-- Integers of 64 bits from `current` by `step` to `stop`, after those in `before`, which are
reversed; nothing if there are more than `room`. Past the greatest integer comes the least. -/
def rangeFrom? (step stop : Int64) : Nat → Int64 → List Value → Option (List Value)
  | 0, current, before => if isPast step stop current then some before.reverse else none
  | room + 1, current, before =>
    if isPast step stop current then some before.reverse
    else rangeFrom? step stop room (current + step) (.num (.ofInt current.toInt) :: before)

def range (c : Call) : Answer := c.unlessNull do
  let start ← c.integer 0
  let stop ← c.integer 1
  let step ← if 2 < c.args.length then c.integer 2 else .ok 1
  if step = 0 then throw (.zeroStep c.name)
  else
    match rangeFrom? (.ofInt step) (.ofInt stop) rangeLimit (.ofInt start) [] with
    | some xs => return .list xs
    | none => throw (.tooLong c.name rangeLimit)

/-! ### Parts -/

/-- What `f` makes of a list. -/
def ofList (f : List Value → Value) (c : Call) : Answer := c.unlessNull (f <$> c.list 0)

def head : Call → Answer := ofList fun xs => xs.head?.getD .null

def last : Call → Answer := ofList fun xs => xs.getLast?.getD .null

def tail : Call → Answer := ofList fun xs => .list xs.tail

def sequenceFunctions : List Function := [
  unary "size" "Number of elements in a list or characters in a string. size(value)" "Integer"
    size,
  ⟨"coalesce", "First non-null argument. coalesce(a, b, ...)", 1, none, "Any", coalesce⟩,
  ⟨"range", "Inclusive integer range. range(start, end[, step])", 2, some 3, "List", range⟩,
  unary "head" "First element of a list. head(list)" "Any" head,
  unary "last" "Last element of a list. last(list)" "Any" last,
  unary "tail" "All but the first element of a list. tail(list)" "List" tail]

end Function

end PropertyGraph
