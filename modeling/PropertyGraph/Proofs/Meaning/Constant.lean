import PropertyGraph.Meaning.Layer
import PropertyGraph.Proofs.Cypher.Parts
import PropertyGraph.Proofs.Value.Plain

/-!
Expressions that are made of literals and parameters look at neither the graph nor the row. They
have one value wherever a statement evaluates them, in which no entity occurs, and maps among these
have ascending keys if those among the parameters have.
-/

namespace PropertyGraph

open Cypher

/-- Whether the maps among the parameters have ascending keys. -/
def Context.Ordered (c : Context) : Prop :=
  ∀ n es, Dict.get? c.parameters n = some (.map es) → Dict.Ascending es

/-- No entity occurs in the parameters. -/
def Context.Plain (c : Context) : Prop := Dict.Plain c.parameters

lemma Cypher.Expr.value_parameter {env : Env} {row : Row} {n : String} {v : Value}
    (h : (of (.parameter n)).meaning.value env row = .ok v) :
    Dict.get? env.parameters n = some v := by
  change Meaning.evalLayer env none row (.parameter n) = _ at h
  rw [Meaning.evalLayer] at h
  split at h
  · rename_i w hw
    obtain rfl := Except.ok.inj h
    exact hw
  · cases h

namespace Cypher.Expr

section

variable {env env' : Env} {row row' : Row}

/-- Expressions of the same values one by one have the same values as a list. -/
lemma values_congr {xs : List Expr}
    (h : ∀ x ∈ xs, x.meaning.value env row = x.meaning.value env' row') :
    (foldList Meaning.ofLayer xs).mapM (fun m => m.value env row) =
      (foldList Meaning.ofLayer xs).mapM fun m => m.value env' row' := by
  rw [foldList_eq_map, List.mapM_map, List.mapM_map]
  exact mapM_congr h

/-- Entries of the same values one by one have the same values as a map. -/
lemma entries_congr {es : List (String × Expr)}
    (h : ∀ e ∈ es, e.2.meaning.value env row = e.2.meaning.value env' row') :
    (foldEntries Meaning.ofLayer es).mapM (fun e => do return (e.1, ← e.2.value env row)) =
      (foldEntries Meaning.ofLayer es).mapM fun e => do return (e.1, ← e.2.value env' row') := by
  rw [foldEntries_eq_map, List.mapM_map, List.mapM_map]
  exact mapM_congr fun e he => congrArg (fun x => do return (e.1, ← x)) (h e he)

end

/-- Literals and parameters, and lists, maps and operations of these. -/
inductive Constant : Expr → Prop
  | literal {v : Value} (hv : v.isScalar) : Constant (of (.literal v))
  | parameter (n : String) : Constant (of (.parameter n))
  | list {xs : List Expr} (h : ∀ x ∈ xs, Constant x) : Constant (of (.list xs))
  | map {es : List (String × Expr)} (h : ∀ e ∈ es, Constant e.2) : Constant (of (.map es))
  | unary {x : Expr} (op : UnaryOp) (hx : Constant x) : Constant (of (.unary op x))
  | binary {x y : Expr} (op : BinaryOp) (hx : Constant x) (hy : Constant y) :
      Constant (of (.binary op x y))

/-- Whether an expression is constant. -/
def isConstant : Expr → Bool := fold fun
  | .literal v => v.isScalar
  | .parameter _ => true
  | .list xs => xs.all id
  | .map es => es.all Prod.snd
  | .unary _ x => x
  | .binary _ x y => x && y
  | _ => false

variable {e : Expr}

lemma Constant.isConstant (h : e.Constant) : e.isConstant := by
  induction h with
  | literal hv => exact hv
  | parameter => rfl
  | @list xs _ ih =>
    change (foldList _ xs).all id = true
    rw [foldList_eq_map, List.all_map]
    exact List.all_eq_true.2 ih
  | @map es _ ih =>
    change (foldEntries _ es).all Prod.snd = true
    rw [foldEntries_eq_map, List.all_map]
    exact List.all_eq_true.2 ih
  | unary op _ ih => exact ih
  | binary op _ _ ihx ihy => exact Bool.and_eq_true_iff.2 ⟨ihx, ihy⟩

lemma constant_of_isConstant (e : Expr) : e.isConstant → e.Constant := by
  induction e using layerInduction with
  | h l ih =>
    intro h
    cases l with
    | literal v => exact .literal h
    | parameter n => exact .parameter n
    | list xs =>
      change (foldList _ xs).all id = true at h
      rw [foldList_eq_map, List.all_map, List.all_eq_true] at h
      exact .list fun x hx => ih x hx (h x hx)
    | map es =>
      change (foldEntries _ es).all Prod.snd = true at h
      rw [foldEntries_eq_map, List.all_map, List.all_eq_true] at h
      exact .map fun e he => ih e.2 (List.mem_map_of_mem he) (h e he)
    | unary op x => exact .unary op (ih x (by simp [Layer.parts]) h)
    | binary op x y =>
      have hxy := Bool.and_eq_true_iff.1 h
      exact .binary op (ih x (by simp [Layer.parts]) hxy.1) (ih y (by simp [Layer.parts]) hxy.2)
    | _ => exact absurd h Bool.false_ne_true

instance : DecidablePred Constant := fun e =>
  decidable_of_iff (e.isConstant = true) ⟨constant_of_isConstant e, Constant.isConstant⟩

/-- **A constant expression has one value in all graphs and rows.** -/
theorem Constant.value_eq (h : e.Constant) (c : Context) (s s' : Store) (row row' : Row) :
    e.meaning.value (c.on s) row = e.meaning.value (c.on s') row' := by
  induction h with
  | literal => rfl
  | parameter => rfl
  | list _ ih => exact congrArg (· >>= _) (values_congr ih)
  | map _ ih => exact congrArg (· >>= _) (entries_congr ih)
  | unary op _ ih => exact congrArg (· >>= _) ih
  | binary op _ _ ihx ihy =>
    exact congrArg₂ (fun x y => x >>= fun v => v.binary op fun _ => y) ihx ihy

end Cypher.Expr

/-- **A constant value is plain.** -/
theorem Cypher.Expr.Constant.plain {e : Expr} (h : e.Constant) {c : Context} (hc : c.Plain)
    {s : Store} {row : Row} {v : Value} (he : e.meaning.value (c.on s) row = .ok v) : v.Plain := by
  induction h generalizing v with
  | literal hv =>
    obtain rfl := Except.ok.inj he
    exact Value.plain_of_isScalar hv
  | parameter n => exact Dict.Plain.get? hc (Expr.value_parameter he)
  | @list xs _ ih =>
    obtain ⟨vs, hvs, he⟩ := bind_eq_ok.1 he
    obtain rfl := Except.ok.inj he
    rw [foldList_eq_map] at hvs
    refine Value.plain_list.2 fun w hw => ?_
    obtain ⟨m, hm, hmw⟩ := mem_mapM hvs hw
    obtain ⟨x, hx, rfl⟩ := List.mem_map.1 hm
    exact ih x hx hmw
  | @map es _ ih =>
    obtain ⟨ds, hds, he⟩ := bind_eq_ok.1 he
    obtain rfl := Except.ok.inj he
    rw [foldEntries_eq_map] at hds
    refine Value.plain_map.2 (Dict.Plain.ofList fun d hd => ?_)
    obtain ⟨m, hm, hmd⟩ := mem_mapM hds hd
    obtain ⟨x, hx, rfl⟩ := List.mem_map.1 hm
    obtain ⟨w, hw, hwd⟩ := bind_eq_ok.1 hmd
    obtain rfl := Except.ok.inj hwd
    exact ih x hx hw
  | unary op _ ih =>
    obtain ⟨w, -, hv⟩ := bind_eq_ok.1 he
    exact Value.Plain.unary hv
  | binary op _ _ ihx ihy =>
    obtain ⟨w, hw, hv⟩ := bind_eq_ok.1 he
    exact (ihx hw).binary (fun _ => ihy) hv

/-- **A constant map has ascending keys.** -/
theorem Cypher.Expr.Constant.ascending {e : Expr} (h : e.Constant) {c : Context} (hc : c.Ordered)
    {s : Store} {row : Row} {es : Properties} (he : e.meaning.value (c.on s) row = .ok (.map es)) :
    Dict.Ascending es := by
  have hscalar : ¬ (Value.map es).isScalar := Bool.false_ne_true
  cases h with
  | @literal v hv =>
    obtain rfl : v = .map es := Except.ok.inj he
    exact absurd hv hscalar
  | parameter n =>
    exact hc n es (Expr.value_parameter he)
  | list _ =>
    obtain ⟨xs, -, hx⟩ := bind_eq_ok.1 he
    cases hx
  | map _ =>
    obtain ⟨ds, -, hd⟩ := bind_eq_ok.1 he
    cases hd
    exact Dict.ascending_ofList ds
  | unary op _ =>
    obtain ⟨v, -, hv⟩ := bind_eq_ok.1 he
    exact absurd (Value.givesScalar_unary op v _ hv) hscalar
  | binary op _ _ =>
    obtain ⟨v, -, hv⟩ := bind_eq_ok.1 he
    by_cases hop : op = .add
    · subst hop
      obtain ⟨w, -, hw⟩ := bind_eq_ok.1 hv
      rcases Value.add_cases hw with hs | hs
      · exact absurd hs hscalar
      · cases hs
    · exact absurd (Value.givesScalar_binary hop v _ _ hv) hscalar

end PropertyGraph
