import PropertyGraph.Store
import PropertyGraph.Text.Case

/-!
# Functions

What a function of the expression language is: a name, how many arguments it takes, and a body
that reads the graph and cannot change it.
-/

namespace PropertyGraph

inductive FunctionError
  | unknown (name : String)
  | argumentCount (name : String) (least : Nat) (most : Option Nat) (given : Nat)
  | argumentType (name wanted found : String)
  | notConvertible (name found target : String)
  | notWhole (name : String) (n : Number)
  | zeroStep (name : String)
  | tooLong (name : String) (limit : Nat)
  | negative (name : String) (n : Int)
deriving DecidableEq

namespace FunctionError

/-- How many arguments are allowed, in words. -/
def countText (least : Nat) : Option Nat → String
  | none => "at least " ++ toString least
  | some most =>
    if most = least then toString least else toString least ++ ".." ++ toString most

def mismatch (name what : String) : String := "Type mismatch in " ++ name ++ "(): " ++ what

def message : FunctionError → String
  | unknown n => "Unknown function '" ++ n ++ "'"
  | argumentCount n least most given =>
    "Function " ++ n ++ "() expects " ++ countText least most ++ " argument(s), got " ++
      toString given
  | argumentType n wanted found => mismatch n ("expected a " ++ wanted ++ " but was " ++ found)
  | notConvertible n found target => mismatch n ("cannot convert " ++ found ++ " to " ++ target)
  | notWhole n x => mismatch n ("expected an Integer but was " ++ x.text)
  | zeroStep n => n ++ "(): step must not be zero"
  | tooLong n limit => n ++ "(): range exceeds " ++ toString limit ++ " elements"
  | negative n i => n ++ "(): negative value " ++ Number.intText i ++ " is not allowed"

end FunctionError

/-- A call: the name as it is written, the arguments, and what else a body may look at. -/
structure Call where
  name : String
  args : List Value
  store : Store
  /-- Milliseconds since 1970. -/
  clock : Number

abbrev Answer := Except FunctionError Value

structure Function where
  name : String
  description : String
  least : Nat
  most : Option Nat
  returns : String
  body : Call → Answer

namespace Call

/-- An argument; null if it is not given. -/
def arg (c : Call) (i : Nat) : Value := c.args.getD i .null

def fail {α : Type} (c : Call) (wanted : String) (v : Value) : Except FunctionError α :=
  .error (.argumentType c.name wanted v.typeName)

def string (c : Call) (i : Nat) : Except FunctionError String :=
  match c.arg i with
  | .str s => .ok s
  | v => c.fail "String" v

def number (c : Call) (i : Nat) : Except FunctionError Number :=
  match c.arg i with
  | .num n => .ok n
  | v => c.fail "Number" v

/-- A number without fraction, kept within 64 signed bits. -/
def integer (c : Call) (i : Nat) : Except FunctionError Int := do
  let n ← c.number i
  if n.isIntegral then return n.toInt64 else throw (.notWhole c.name n)

/-- An integer that is not negative. -/
def natural (c : Call) (i : Nat) : Except FunctionError Nat := do
  let n ← c.integer i
  if n < 0 then throw (.negative c.name n) else return n.toNat

def list (c : Call) (i : Nat) : Except FunctionError (List Value) :=
  match c.arg i with
  | .list xs => .ok xs
  | v => c.fail "List" v

/-- Null if any argument is null. -/
def unlessNull (c : Call) (answer : Answer) : Answer :=
  if c.args.any Value.isNull then .ok .null else answer

end Call

/-- A function of one argument. -/
def Function.unary (name description returns : String) (body : Call → Answer) : Function :=
  { name, description, least := 1, most := some 1, returns, body }

end PropertyGraph
