import PropertyGraph.Cypher.Expr
import PropertyGraph.Error
import PropertyGraph.Regex.Grammar
import PropertyGraph.Text.Search
import PropertyGraph.Value.Order

/-!
# Operators on values

Null in, null out, unless an operator is defined otherwise.
-/

namespace PropertyGraph

namespace Value

/-! ### Truth values -/

/-- A value as a truth value, null being unknown. -/
def truth (user : String) : Value → Except Error (Option Bool)
  | null => .ok none
  | bool b => .ok (some b)
  | v => .error (.type (.expects user "a Boolean" v.typeName))

def unary (op : Cypher.UnaryOp) (v : Value) : Except Error Value :=
  match op, v with
  | _, null => .ok null
  | .not, bool b => .ok (bool !b)
  | .negate, num n => .ok (num n.neg)
  | .plus, num n => .ok (num n)
  | .not, v => .error (.type (.expects "NOT" "a Boolean" v.typeName))
  | _, v => .error (.type (.expects "unary sign" "a Number" v.typeName))

/-! ### Parts of values -/

/-- A property of an entity or map; null if there is none. -/
def property (s : Store) (key : String) (v : Value) : Except Error Value :=
  match v with
  | null => .ok null
  | node id => .ok (Dict.getD (s.nodeProperties id) key null)
  | rel id => .ok (Dict.getD (s.relProperties id) key null)
  | map es => .ok (Dict.getD es key null)
  | v => .error (.type (.noProperty key v.typeName))

/-- A position in a list of some length; a negative one counts from the end. -/
def position (length : Nat) (i : Int) : Int := if i < 0 then length + i else i

/-- The item at a position, null outside of the list. -/
def itemAt (items : List Value) (i : Int) : Value :=
  let p := position items.length i
  if p < 0 then null else items.getD p.toNat null

def index (s : Store) (v i : Value) : Except Error Value :=
  match v, i with
  | null, _ | _, null => .ok null
  | list items, num n =>
    if n.isIntegral then .ok (itemAt items n.toInt64)
    else .error (.type (.fractionalIndex n))
  | map _, str k | node _, str k | rel _, str k => v.property s k
  | v, i => .error (.type (.notIndexable v.typeName i.typeName))

/-- A position kept between the ends of a list. -/
def clampPosition (length : Nat) (i : Int) : Nat := min (position length i).toNat length

/-- The items from one position up to another. -/
def sliceItems (items : List Value) (start stop : Nat) : List Value :=
  (items.take stop).drop start

/-- A bound of a slice, or its default. -/
def sliceBound (length default : Nat) : Option Value → Except Error Nat
  | none => .ok default
  | some (num n) =>
    if n.isIntegral then .ok (clampPosition length n.toInt64)
    else .error (.type (.notSliceBound (num n).typeName))
  | some v => .error (.type (.notSliceBound v.typeName))

def slice (v : Value) (start stop : Option Value) : Except Error Value :=
  if v.isNull || start.any isNull || stop.any isNull then .ok null
  else
    match v with
    | list items => do
      let a ← sliceBound items.length 0 start
      let b ← sliceBound items.length items.length stop
      return list (sliceItems items a b)
    | v => throw (.type (.notSliceable v.typeName))

/-! ### Binary operators -/

/-- The sum of numbers, and the concatenation of strings or lists. A number is added to a string
as its text, any value to a list as an item. -/
def add (a b : Value) : Except Error Value :=
  match a, b with
  | null, _ | _, null => .ok null
  | num m, num n => .ok (num (m.add n))
  | str s, str t => .ok (str (s ++ t))
  | str s, num n => .ok (str (s ++ n.text))
  | num n, str s => .ok (str (n.text ++ s))
  | list xs, list ys => .ok (list (xs ++ ys))
  | list xs, v => .ok (list (xs ++ [v]))
  | v, list ys => .ok (list (v :: ys))
  | a, b => .error (.type (.notOperands "+" a.typeName b.typeName))

/-- Numbers to a number, by an operation that may be undefined. -/
def arithmetic (symbol : String) (f : Number → Number → Except TypeFault Number) (a b : Value) :
    Except Error Value :=
  match a, b with
  | null, _ | _, null => .ok null
  | num m, num n => ((f m n).map num).mapError .type
  | a, b => .error (.type (.notOperands symbol a.typeName b.typeName))

/-- An operation that is undefined for a zero on the right. -/
def nonZero (f : Number → Number → Number) (a b : Number) : Except TypeFault Number :=
  if b.equals .zero then .error .divisionByZero else .ok (f a b)

/-- A question about the order of two values; unknown if they cannot be compared. -/
def ordered (test : Ordering → Bool) (a b : Value) : Value :=
  if a.isNull || b.isNull then null else ofTruth ((a.compare? b).map test)

/-- A question about two strings; null for anything else. -/
def textual (test : String → String → Bool) : Value → Value → Value
  | str s, str t => bool (test s t)
  | _, _ => null

def isIn (x xs : Value) : Except Error Value :=
  match xs with
  | null => .ok null
  | list items => .ok (ofTruth (x.memberOf items))
  | v => .error (.type (.expects "IN" "a List" v.typeName))

def regexMatch (a b : Value) : Except Error Value :=
  match a, b with
  | str text, str pattern =>
    match Regex.ofPattern? pattern with
    | some r => .ok (bool (r.hasMatch text))
    | none => .error (.type .badRegex)
  | _, _ => .ok null

/-- A binary operator, given the left operand and what computes the right one. The logical
operators need the right one only if the left one does not decide. -/
def binary (op : Cypher.BinaryOp) (left : Value) (right : Unit → Except Error Value) :
    Except Error Value := do
  match op with
  | .and =>
    match ← left.truth "AND" with
    | some false => return bool false
    | a => return ofTruth (Kleene.and a (← (← right ()).truth "AND"))
  | .or =>
    match ← left.truth "OR" with
    | some true => return bool true
    | a => return ofTruth (Kleene.or a (← (← right ()).truth "OR"))
  | .xor =>
    let a ← left.truth "XOR"
    return ofTruth (Kleene.xor a (← (← right ()).truth "XOR"))
  | .eq => return ofTruth (left.equals (← right ()))
  | .ne => return ofTruth ((left.equals (← right ())).map not)
  | .lt => return ordered (· == .lt) left (← right ())
  | .le => return ordered (· != .gt) left (← right ())
  | .gt => return ordered (· == .gt) left (← right ())
  | .ge => return ordered (· != .lt) left (← right ())
  | .add => left.add (← right ())
  | .sub => arithmetic "-" (fun a b => .ok (a.sub b)) left (← right ())
  | .mul => arithmetic "*" (fun a b => .ok (a.mul b)) left (← right ())
  | .div => arithmetic "/" (nonZero Number.div) left (← right ())
  | .rem => arithmetic "%" (nonZero Number.rem) left (← right ())
  | .pow => arithmetic "^" (fun a b => .ok (a.pow b)) left (← right ())
  | .isIn => left.isIn (← right ())
  | .startsWith => return textual (fun s t => t.toList.isPrefixOf s.toList) left (← right ())
  | .endsWith => return textual (fun s t => t.toList.isSuffixOf s.toList) left (← right ())
  | .contains => return textual (fun s t => Text.occursIn t.toList s.toList) left (← right ())
  | .regexMatch => left.regexMatch (← right ())

end Value

/-! ### Quantifiers -/

/-- What a quantifier says of the verdicts on the items of a list, some of which may be
unknown. -/
def Kleene.quantify (q : Cypher.Quantifier) (vs : List (Option Bool)) : Option Bool :=
  let hasTrue := vs.contains (some true)
  let hasFalse := vs.contains (some false)
  let isKnown := !vs.contains none
  match q with
  | .all => if hasFalse then some false else if isKnown then some true else none
  | .any => if hasTrue then some true else if isKnown then some false else none
  | .none => if hasTrue then some false else if isKnown then some true else none
  | .single =>
    let trues := vs.count (some true)
    if 1 < trues then some false else if isKnown then some (trues == 1) else none

end PropertyGraph
