import PropertyGraph.Function
import PropertyGraph.Text.Letter

/-!
# Functions on numbers and conversions

A conversion gives null for a string that it cannot read.
-/

namespace PropertyGraph

namespace Function

def ofNumber (f : Number → Number) (c : Call) : Answer :=
  c.unlessNull ((fun n => .num (f n)) <$> c.number 0)

/-- The number that a string is, with blanks around it. -/
def numberIn? (s : String) : Option Number := Number.read? (Text.trim s)

def toInteger (c : Call) : Answer :=
  match c.arg 0 with
  | .null => .ok .null
  | .num n => .ok (.num n.trunc)
  | .bool b => .ok (.count b.toNat)
  | .str s => .ok (((numberIn? s).filter Number.isFinite).elim .null fun n => .num n.trunc)
  | v => .error (.notConvertible c.name v.typeName "Integer")

def toFloat (c : Call) : Answer :=
  match c.arg 0 with
  | .null => .ok .null
  | .num n => .ok (.num n)
  | .str s => .ok ((numberIn? s).elim .null .num)
  | v => .error (.notConvertible c.name v.typeName "Float")

def toBoolean (c : Call) : Answer :=
  match c.arg 0 with
  | .null => .ok .null
  | .bool b => .ok (.bool b)
  | .num n => .ok (.bool (!n.equals .zero))
  | .str s =>
    match Text.asciiLower (Text.trim s) with
    | "true" => .ok (.bool true)
    | "false" => .ok (.bool false)
    | _ => .ok .null
  | v => .error (.notConvertible c.name v.typeName "Boolean")

def timestamp (c : Call) : Answer := .ok (.num c.clock)

def numericFunctions : List Function := [
  unary "abs" "Absolute value. abs(n)" "Number" (ofNumber .abs),
  unary "ceil" "Smallest integer not below n. ceil(n)" "Number" (ofNumber .ceil),
  unary "floor" "Largest integer not above n. floor(n)" "Number" (ofNumber .floor),
  unary "round" "Nearest integer, halves round up. round(n)" "Number" (ofNumber .round),
  unary "sqrt" "Square root. sqrt(n)" "Number" (ofNumber .sqrt),
  unary "sign" "Sign of n as -1, 0 or 1. sign(n)" "Number" (ofNumber .sign),
  unary "toInteger" "Converts to an integer, truncating. toInteger(value)" "Number" toInteger,
  unary "toFloat" "Converts to a float. toFloat(value)" "Number" toFloat,
  unary "toBoolean" "Converts 'true'/'false' strings and booleans. toBoolean(value)" "Boolean"
    toBoolean,
  ⟨"timestamp", "Milliseconds since the Unix epoch. timestamp()", 0, some 0, "Integer",
    timestamp⟩]

end Function

end PropertyGraph
