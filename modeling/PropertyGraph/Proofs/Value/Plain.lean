import PropertyGraph.Json
import PropertyGraph.Proofs.Dict
import PropertyGraph.Proofs.Value.Operator

/-!
Plain values: those in which no entity occurs, at any depth. Parameters are plain, and operators
make plain values of plain ones.
-/

namespace PropertyGraph

/-- No entity occurs in a value. -/
def Value.Plain (v : Value) : Prop := v.mentionsEntity = false

/-- No entity occurs in the values of a map. -/
def Dict.Plain (d : Dict String Value) : Prop := ∀ e ∈ d, e.2.Plain

namespace Dict.Plain

variable {d : Dict String Value}

lemma nil : Dict.Plain [] := Every.nil

lemma get? (hd : Dict.Plain d) {k : String} {v : Value} (h : Dict.get? d k = some v) : v.Plain :=
  Every.get? hd h

lemma insert (hd : Dict.Plain d) (k : String) {v : Value} (hv : v.Plain) :
    Dict.Plain (Dict.insert d k v) :=
  Every.insert hd k hv

lemma ofList (hd : Dict.Plain d) : Dict.Plain (Dict.ofList d) := Every.ofList hd

end Dict.Plain

namespace Value

lemma plain_of_isScalar {v : Value} (h : v.isScalar) : v.Plain := by
  cases v <;> first | rfl | exact absurd h Bool.false_ne_true

@[simp] lemma plain_list {xs : List Value} : (list xs).Plain ↔ ∀ x ∈ xs, x.Plain := by
  rw [Plain, mentionsEntity]
  induction xs with
  | nil => simp [itemsMentionEntity]
  | cons x xs ih => simp [itemsMentionEntity, ih, Plain]

@[simp] lemma plain_map {es : List (String × Value)} : (map es).Plain ↔ Dict.Plain es := by
  rw [Plain, mentionsEntity, Dict.Plain]
  induction es with
  | nil => simp [entriesMentionEntity]
  | cons e es ih =>
    obtain ⟨k, x⟩ := e
    simp [entriesMentionEntity, ih, Plain]

/-! ### Operators -/

lemma Plain.addends {v : Value} (h : v.Plain) : ∀ x ∈ v.addends, x.Plain := by
  cases v with
  | list xs => exact plain_list.1 h
  | _ => simpa [Value.addends] using h

/-- What plain values are added to is plain. -/
lemma Plain.add {v w u : Value} (hv : v.Plain) (hw : w.Plain) (h : v.add w = .ok u) :
    u.Plain := by
  rcases add_cases h with hu | rfl
  · exact plain_of_isScalar hu
  · rw [plain_list]
    intro x hx
    rcases List.mem_append.1 hx with hx | hx
    · exact hv.addends x hx
    · exact hw.addends x hx

lemma Plain.unary {op : Cypher.UnaryOp} {v u : Value} (h : v.unary op = .ok u) : u.Plain :=
  plain_of_isScalar (givesScalar_unary op v u h)

lemma Plain.binary {op : Cypher.BinaryOp} {v u : Value} {w : Except Error Value} (hv : v.Plain)
    (hw : ∀ x, w = .ok x → x.Plain) (h : (v.binary op fun _ => w) = .ok u) : u.Plain := by
  by_cases hop : op = .add
  · subst hop
    obtain ⟨x, hx, hu⟩ := bind_eq_ok.1 h
    exact hv.add (hw x hx) hu
  · exact plain_of_isScalar (givesScalar_binary hop v _ u h)

/-! ### Parameters -/

mutual

/-- **A document has no entities.** -/
lemma plain_ofJson (j : Json) : (ofJson j).Plain := by
  match j with
  | .null | .bool _ | .int _ | .num _ | .str _ => rfl
  | .arr items => rw [ofJson, plain_list]; exact plain_ofJsonItems items
  | .obj members => rw [ofJson, plain_map]; exact plain_ofJsonMembers members

lemma plain_ofJsonItems (js : List Json) : ∀ x ∈ ofJsonItems js, x.Plain := by
  match js with
  | [] => simp [ofJsonItems]
  | j :: js =>
    rw [ofJsonItems, List.forall_mem_cons]
    exact ⟨plain_ofJson j, plain_ofJsonItems js⟩

lemma plain_ofJsonMembers (ms : List (String × Json)) : Dict.Plain (ofJsonMembers ms) := by
  match ms with
  | [] => exact .nil
  | (k, j) :: ms => exact (plain_ofJsonMembers ms).insert k (plain_ofJson j)

end

end Value

end PropertyGraph
