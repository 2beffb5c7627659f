import PropertyGraph.Proofs.Value.Plain

/-!
The entities that a value mentions. Operators make none up: what they give mentions no others than
their operands do, or the properties that they look up.
-/

namespace PropertyGraph

/-- A node or a relationship, by its id. -/
inductive Entity
  | node (id : NodeId)
  | rel (id : RelId)
deriving DecidableEq

def Path.entities (p : Path) : List Entity := p.nodes.map .node ++ p.rels.map .rel

namespace Value

mutual

/-- The entities that a value mentions, at any depth. -/
def entities : Value → List Entity
  | node i => [.node i]
  | rel i => [.rel i]
  | path p => p.entities
  | list items => itemEntities items
  | map entries => entryEntities entries
  | _ => []

def itemEntities : List Value → List Entity
  | [] => []
  | x :: xs => x.entities ++ itemEntities xs

def entryEntities : List (String × Value) → List Entity
  | [] => []
  | (_, x) :: xs => x.entities ++ entryEntities xs

end

/-- A value mentions none but some entities. -/
def Among (K : Entity → Prop) (v : Value) : Prop := ∀ x ∈ v.entities, K x

end Value

/-- The values of a map mention none but some entities. -/
abbrev Dict.Among (K : Entity → Prop) (d : Dict String Value) : Prop := Dict.Every (Value.Among K) d

namespace Value

variable {K L : Entity → Prop} {v w u : Value}

lemma Among.mono (hv : v.Among K) (h : K ≤ L) : v.Among L := fun x hx => h x (hv x hx)

@[simp] lemma among_node {i : NodeId} : (node i).Among K ↔ K (.node i) := by simp [Among, entities]

@[simp] lemma among_rel {i : RelId} : (rel i).Among K ↔ K (.rel i) := by simp [Among, entities]

@[simp] lemma among_path {p : Path} :
    (path p).Among K ↔ (∀ i ∈ p.nodes, K (.node i)) ∧ ∀ i ∈ p.rels, K (.rel i) := by
  simp [Among, entities, Path.entities, or_imp, forall_and]

@[simp] lemma among_list {xs : List Value} : (list xs).Among K ↔ ∀ x ∈ xs, x.Among K := by
  rw [Among, entities]
  induction xs with
  | nil => simp [itemEntities]
  | cons x xs ih => simp [itemEntities, or_imp, forall_and, ih, Among]

@[simp] lemma among_map {es : List (String × Value)} : (map es).Among K ↔ Dict.Among K es := by
  rw [Among, entities]
  induction es with
  | nil => simp [entryEntities, Dict.Every]
  | cons e es ih =>
    obtain ⟨k, x⟩ := e
    simp [entryEntities, or_imp, forall_and, ih, Among, Dict.Every]

lemma among_of_isScalar (hv : v.isScalar) : v.Among K := by
  cases v <;> simp_all [isScalar, Among, entities]

lemma among_null : null.Among K := among_of_isScalar rfl

mutual

/-- A plain value mentions nothing. -/
lemma Plain.among {v : Value} (hv : v.Plain) : v.Among K := by
  match v, hv with
  | .null, _ | .bool _, _ | .num _, _ | .str _, _ => exact among_of_isScalar rfl
  | .node _, hv | .rel _, hv | .path _, hv => simp [Plain, mentionsEntity] at hv
  | .list xs, hv => exact among_list.2 (among_of_items_plain (plain_list.1 hv))
  | .map es, hv => exact among_map.2 (among_of_entries_plain (plain_map.1 hv))

lemma among_of_items_plain {xs : List Value} (h : ∀ x ∈ xs, x.Plain) : ∀ x ∈ xs, x.Among K := by
  match xs, h with
  | [], _ => simp
  | x :: xs, h =>
    rw [List.forall_mem_cons] at h ⊢
    exact ⟨h.1.among, among_of_items_plain h.2⟩

lemma among_of_entries_plain {es : List (String × Value)} (h : Dict.Plain es) :
    Dict.Among K es := by
  match es, h with
  | [], _ => exact .nil
  | (_, _) :: _, h =>
    have h := List.forall_mem_cons.1 h
    exact List.forall_mem_cons.2 ⟨Plain.among h.1, among_of_entries_plain h.2⟩

end

/-! ### Operators -/

lemma among_unary {op : Cypher.UnaryOp} : Gives (Among K) (v.unary op) :=
  fun u hu => among_of_isScalar (givesScalar_unary op v u hu)

lemma Among.addends (hv : v.Among K) : ∀ x ∈ v.addends, x.Among K := by
  cases v with
  | list xs => exact among_list.1 hv
  | _ => simpa [Value.addends] using hv

lemma Among.add (hv : v.Among K) (hw : w.Among K) : Gives (Among K) (v.add w) := by
  intro u hu
  rcases add_cases hu with hu | rfl
  · exact among_of_isScalar hu
  · exact among_list.2 (List.forall_mem_append.2 ⟨hv.addends, hw.addends⟩)

lemma Among.binary (hv : v.Among K) {w : Except Error Value} (hw : Gives (Among K) w)
    (op : Cypher.BinaryOp) : Gives (Among K) (v.binary op fun _ => w) := by
  by_cases hop : op = .add
  · subst hop
    exact hw.bind fun _ hx => hv.add hx
  · exact fun u hu => among_of_isScalar (givesScalar_binary hop v _ u hu)

lemma among_itemAt {xs : List Value} (h : ∀ x ∈ xs, x.Among K) (i : Int) :
    (itemAt xs i).Among K := by
  rw [itemAt]
  split_ifs
  · exact among_null
  · rw [List.getD_eq_getElem?_getD]
    cases hx : xs[(position xs.length i).toNat]? with
    | none => exact among_null
    | some x => exact h x (List.mem_of_getElem? hx)

lemma Among.slice (hv : v.Among K) (start stop : Option Value) :
    Gives (Among K) (v.slice start stop) := by
  rw [Value.slice.eq_def]
  split_ifs
  · exact .ok among_null
  · split
    next items =>
      refine .after fun a => .after fun b => .ok (among_list.2 fun x hx => ?_)
      exact among_list.1 hv x (List.mem_of_mem_take (List.mem_of_mem_drop hx))
    · exact .error _

end Value

end PropertyGraph
