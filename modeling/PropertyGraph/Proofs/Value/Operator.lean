import PropertyGraph.Operator
import PropertyGraph.Proofs.Except

/-!
What operators can give: scalars, and lists where lists are added to. None makes a map or comes
upon an entity that is not in one of its operands.
-/

namespace PropertyGraph

open Cypher

def Value.isScalar : Value → Bool
  | .null | .bool _ | .num _ | .str _ => true
  | _ => false

/-- If there is a value at all, then it is a scalar. -/
def GivesScalar (x : Except Error Value) : Prop := ∀ v, x = .ok v → v.isScalar

lemma GivesScalar.ok {v : Value} (hv : v.isScalar) : GivesScalar (.ok v) := by
  rintro _ ⟨⟩
  exact hv

lemma GivesScalar.error (e : Error) : GivesScalar (.error e) := nofun

lemma GivesScalar.bind {α : Type} {x : Except Error α} {f : α → Except Error Value}
    (h : ∀ a, GivesScalar (f a)) : GivesScalar (x >>= f) := by
  intro v hv
  obtain ⟨a, -, ha⟩ := bind_eq_ok.1 hv
  exact h a v ha

namespace Value

lemma isScalar_ofTruth (b : Option Bool) : (ofTruth b).isScalar := by cases b <;> rfl

lemma isScalar_ordered (test : Ordering → Bool) (v w : Value) : (ordered test v w).isScalar := by
  rw [ordered]
  split_ifs
  · rfl
  · exact isScalar_ofTruth _

lemma isScalar_textual (test : String → String → Bool) (v w : Value) :
    (textual test v w).isScalar := by
  rw [textual.eq_def]
  split <;> rfl

lemma givesScalar_unary (op : UnaryOp) (v : Value) : GivesScalar (v.unary op) := by
  cases op <;> cases v <;> first | exact .ok rfl | exact .error _

lemma givesScalar_arithmetic (symbol : String) (f : Number → Number → Except TypeFault Number)
    (v w : Value) : GivesScalar (arithmetic symbol f v w) := by
  rw [arithmetic.eq_def]
  split
  · exact .ok rfl
  · exact .ok rfl
  · rename_i m n
    cases f m n with
    | error e => exact .error _
    | ok k => exact .ok rfl
  · exact .error _

lemma givesScalar_isIn (v w : Value) : GivesScalar (v.isIn w) := by
  cases w <;> first | exact .ok rfl | exact .ok (isScalar_ofTruth _) | exact .error _

lemma givesScalar_regexMatch (v w : Value) : GivesScalar (v.regexMatch w) := by
  rw [regexMatch.eq_def]
  split
  · split
    · exact .ok rfl
    · exact .error _
  · exact .ok rfl

/-- All binary operators but one give scalars: lists may be added to. -/
lemma givesScalar_binary {op : BinaryOp} (hop : op ≠ .add) (v : Value)
    (w : Unit → Except Error Value) : GivesScalar (v.binary op w) := by
  cases op with
  | and | or =>
    refine .bind fun a => ?_
    split
    · exact .ok rfl
    · exact .bind fun _ => .bind fun _ => .ok (isScalar_ofTruth _)
  | xor => exact .bind fun _ => .bind fun _ => .bind fun _ => .ok (isScalar_ofTruth _)
  | eq | ne => exact .bind fun _ => .ok (isScalar_ofTruth _)
  | lt | le | gt | ge => exact .bind fun _ => .ok (isScalar_ordered ..)
  | add => exact absurd rfl hop
  | sub | mul | div | rem | pow => exact .bind fun w => givesScalar_arithmetic _ _ v w
  | isIn => exact .bind fun w => givesScalar_isIn v w
  | startsWith | endsWith | contains => exact .bind fun _ => .ok (isScalar_textual ..)
  | regexMatch => exact .bind fun w => givesScalar_regexMatch v w

/-- The items of a list that a value is added as: its own, or itself. -/
def addends : Value → List Value
  | list xs => xs
  | v => [v]

/-- A sum is a scalar, or the list of what was added. -/
lemma add_cases {v w u : Value} (h : v.add w = .ok u) :
    u.isScalar ∨ u = list (v.addends ++ w.addends) := by
  cases v <;> cases w <;> simp only [add, reduceCtorEq, Except.ok.injEq] at h <;> subst h <;>
    simp [isScalar, addends]

end Value

end PropertyGraph
