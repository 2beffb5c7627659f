import PropertyGraph.Proofs.Cypher.Contents
import PropertyGraph.Proofs.Meaning.Library
import PropertyGraph.Proofs.Query.Names
import PropertyGraph.Proofs.Table.Grouping

/-!
What expressions mention: nothing but what the graph, the parameters and the rows do, in which they
are evaluated, provided that their literals are scalars, as those in texts are.

Each construct passes this on from its parts. Conditions give truth values, and so do patterns and
queries that are only asked for a match, whatever their parts mention.
-/

namespace PropertyGraph

open Cypher

/-- What can be read in an environment is among some entities. -/
structure Env.Among (K : Entity → Prop) (env : Env) : Prop where
  parameters : Dict.Among K env.parameters
  store : env.store.Among K

/-- Rows mention none but some entities. -/
def Row.AllAmong (K : Entity → Prop) (rows : List Row) : Prop := ∀ row ∈ rows, Dict.Among K row

/-- A meaning that mentions nothing new. -/
structure Meaning.Closed (m : Meaning) : Prop where
  eval : ∀ {K : Entity → Prop} {env : Env} {group : Option (List Row)} {row : Row}, env.Among K →
    (∀ rows ∈ group, Row.AllAmong K rows) → Dict.Among K row →
      Gives (Value.Among K) (m.eval env group row)
  paths : ∀ f ∈ m.paths, ∀ {K : Entity → Prop} {env : Env} {row : Row}, env.Among K →
    Dict.Among K row → Gives (fun vs => ∀ v ∈ vs, v.Among K) (f env row)

variable {K : Entity → Prop} {env : Env} {group : Option (List Row)} {row : Row}

open Value (among_null among_of_isScalar)

lemma Value.among_ofTruth (b : Option Bool) : (ofTruth b).Among K :=
  among_of_isScalar (isScalar_ofTruth b)

lemma Dict.Among.getD {row : Row} (h : Dict.Among K row) (n : String) :
    (Dict.getD row n .null).Among K :=
  Dict.Every.getD h n among_null

/-! ### Aggregates -/

lemma Cypher.Aggregate.among_best {better : Value → Value → Bool} {vs : List Value}
    (h : ∀ v ∈ vs, v.Among K) : (best better vs).Among K := by
  cases vs with
  | nil => exact among_null
  | cons v vs =>
    rw [best]
    rw [List.forall_mem_cons] at h
    induction vs generalizing v with
    | nil => exact h.1
    | cons w ws ih =>
      rw [List.forall_mem_cons] at h
      refine ih _ ⟨?_, h.2.2⟩
      dsimp only
      split_ifs
      · exact h.2.1
      · exact h.1

lemma Cypher.Aggregate.among_apply (a : Aggregate) (distinct : Bool) {vs : List Value}
    (h : ∀ v ∈ vs, v.Among K) : Gives (Value.Among K) (a.apply distinct vs) := by
  have hvalues : ∀ v ∈ if distinct then Value.distinctBy Value.key vs else vs, v.Among K := by
    split_ifs
    · exact fun v hv => h v ((Value.distinctBy_sublist _ _).mem hv)
    · exact h
  have hknown : ∀ v ∈ (if distinct then Value.distinctBy Value.key vs else vs).filter
      fun v => !v.isNull, v.Among K := fun v hv => hvalues v (List.mem_of_mem_filter hv)
  cases a with
  | collect => exact .ok (Value.among_list.2 hvalues)
  | count => exact .ok (among_of_isScalar rfl)
  | sum => exact .after fun n => .ok (among_of_isScalar rfl)
  | avg =>
    have hmean (b : Bool) (n : Number) : (if b then Value.null else .num n).Among K := by
      split_ifs <;> exact among_of_isScalar rfl
    exact .after fun n => .ok (hmean _ _)
  | min => exact .ok (among_best hknown)
  | max => exact .ok (among_best hknown)

namespace Meaning

lemma closed_ofName (n : String) : (ofName n).Closed where
  eval _ _ hrow := .ok (Dict.Among.getD hrow n)
  paths := nofun

/-! ### Parts -/

section

variable (he : env.Among K)
include he

lemma Closed.value {m : Meaning} (hm : m.Closed) (hrow : Dict.Among K row) :
    Gives (Value.Among K) (m.value env row) :=
  hm.eval he nofun hrow

omit he in
lemma among_filterRows (m : Option Meaning) {rows : List Row} (hrows : Row.AllAmong K rows) :
    Gives (Row.AllAmong K) (filterRows m env rows) := by
  intro kept hkept row hrow
  exact hrows row (Query.mem_filterRows hkept hrow)

variable (hg : ∀ rows ∈ group, Row.AllAmong K rows) (hrow : Dict.Among K row)
include hg hrow

lemma among_value? {m : Option Meaning} (hm : ∀ x ∈ m, x.Closed) :
    Gives (fun o => ∀ v ∈ o, v.Among K) (value? m env group row) := by
  cases m with
  | none => exact .ok nofun
  | some m =>
    refine ((hm m rfl).eval he hg hrow).map fun v hv => ?_
    rintro _ ⟨⟩
    exact hv

lemma among_evals {ms : List Meaning} (hm : ∀ x ∈ ms, x.Closed) :
    Gives (fun vs => ∀ v ∈ vs, v.Among K) (ms.mapM fun m => m.eval env group row) :=
  .mapM fun m h => (hm m h).eval he hg hrow

/-! ### Lists -/

lemma among_overItems {source : Meaning} (hs : source.Closed) {f : List Value → Except Error Value}
    (hf : ∀ xs, (∀ x ∈ xs, x.Among K) → Gives (Value.Among K) (f xs)) :
    Gives (Value.Among K) (overItems env group row source f) := by
  have hitems : Gives (fun o => ∀ xs ∈ o, ∀ x ∈ xs, x.Among K) (listItems? env group row source) := by
    refine .bind (hs.eval he hg hrow) fun v hv => ?_
    split
    · exact .ok nofun
    next xs =>
      refine .ok ?_
      rintro _ ⟨⟩
      exact Value.among_list.1 hv
    · exact .error _
  refine .bind hitems fun o ho => ?_
  cases o with
  | none => exact .ok among_null
  | some xs => exact hf xs (ho xs rfl)

omit hrow in
lemma among_valuesWhere (filter : Option Meaning) {projection : Meaning}
    (hp : projection.Closed) {rows : List Row} (hrows : Row.AllAmong K rows) :
    Gives (Value.Among K) (valuesWhere env group filter projection rows) := by
  refine .bind (.filterMapM fun r hr => .after fun b => ?_) fun vs hvs =>
    .ok (Value.among_list.2 hvs)
  split_ifs
  · refine .bind (hp.eval he hg (hrows r hr)) fun v hv => .ok ?_
    rintro _ ⟨⟩
    exact hv
  · exact .ok nofun

lemma among_listOf {source : Meaning} (hs : source.Closed) (filter : Option Meaning)
    {projection : Option Meaning} (hp : ∀ x ∈ projection, x.Closed) (name : String) :
    Gives (Value.Among K) (listOf env group row name source filter projection) := by
  have hproj : (projection.getD (ofName name)).Closed := by
    cases projection with
    | none => exact closed_ofName name
    | some x => exact hp x rfl
  refine among_overItems he hg hrow hs fun xs hxs => among_valuesWhere he hg filter hproj ?_
  exact List.forall_mem_map.2 fun x hx => Dict.Every.insert hrow name (hxs x hx)

lemma among_quantified {source : Meaning} (hs : source.Closed) (predicate : Meaning)
    (q : Quantifier) (name : String) :
    Gives (Value.Among K) (quantified env group row q name source predicate) :=
  among_overItems he hg hrow hs fun _ _ => .after fun _ => .ok (Value.among_ofTruth _)

lemma among_reduce {init source body : Meaning} (hi : init.Closed) (hs : source.Closed)
    (hb : body.Closed) (accumulator name : String) :
    Gives (Value.Among K) (reduce env group row accumulator init name source body) := by
  refine .bind (hi.eval he hg hrow) fun start hstart => among_overItems he hg hrow hs fun xs hxs => ?_
  refine .foldlM (fun acc hacc x hx => hb.eval he hg ?_) hstart
  exact (Dict.Every.insert hrow accumulator hacc).insert name (hxs x hx)

/-! ### Maps -/

omit hg hrow in
lemma among_mapSource? {v : Value} (hv : v.Among K) :
    Gives (fun o => ∀ ps ∈ o, Dict.Among K ps) (mapSource? env.store v) := by
  cases v with
  | null => exact .ok nofun
  | node i =>
    refine .ok ?_
    rintro _ ⟨⟩
    exact he.store.nodeProperties i
  | rel i =>
    refine .ok ?_
    rintro _ ⟨⟩
    exact he.store.relProperties i
  | map es =>
    refine .ok ?_
    rintro _ ⟨⟩
    exact Value.among_map.1 hv
  | _ => exact .error _

lemma among_mapEntries {source : Properties} (hs : Dict.Among K source) {i : MapItem Meaning}
    (hi : ∀ x ∈ i.parts, x.Closed) :
    Gives (Dict.Among K) (mapEntries env group row source i) := by
  cases i with
  | everything => exact .ok hs
  | property k => exact .ok (List.forall_mem_singleton.2 (Dict.Among.getD hs k))
  | entry k m =>
    exact .bind ((hi m (by simp [MapItem.parts])).eval he hg hrow) fun v hv =>
      .ok (List.forall_mem_singleton.2 hv)
  | name n => exact .ok (List.forall_mem_singleton.2 (Dict.Among.getD hrow n))

lemma among_mapOf {items : List (MapItem Meaning)} (hi : ∀ i ∈ items, ∀ x ∈ i.parts, x.Closed)
    (name : String) : Gives (Value.Among K) (mapOf env group row name items) := by
  refine .bind (among_mapSource? he (Dict.Among.getD hrow name)) fun o ho => ?_
  cases o with
  | none => exact .ok among_null
  | some source =>
    exact .bind (.mapM fun i h => among_mapEntries he hg hrow (ho source rfl) (hi i h))
      fun added hadded => .ok (Value.among_map.2 (Dict.Every.ofList
        (List.forall_mem_flatten.2 hadded)))

/-! ### Choices -/

lemma among_firstBranch (taken : Meaning → Except Error Bool) {fallback : Option Meaning}
    {branches : List (Meaning × Meaning)} (hf : ∀ x ∈ fallback, x.Closed)
    (hb : ∀ b ∈ branches, b.2.Closed) :
    Gives (Value.Among K) (firstBranch env group row taken fallback branches) := by
  induction branches with
  | nil =>
    refine .bind (among_value? he hg hrow hf) fun o ho => .ok ?_
    cases o with
    | none => exact among_null
    | some v => exact ho v rfl
  | cons b bs ih =>
    rw [List.forall_mem_cons] at hb
    refine .after fun t => ?_
    split_ifs
    · exact hb.1.eval he hg hrow
    · exact ih hb.2

lemma among_choice (subject : Option Meaning) {fallback : Option Meaning}
    {branches : List (Meaning × Meaning)} (hb : ∀ b ∈ branches, b.2.Closed)
    (hf : ∀ x ∈ fallback, x.Closed) :
    Gives (Value.Among K) (choice env group row subject branches fallback) := by
  refine .after fun o => ?_
  cases o with
  | none => exact among_firstBranch he hg hrow _ hf hb
  | some v => exact among_firstBranch he hg hrow _ hf hb

/-! ### Calls -/

omit hrow in
lemma among_aggregate {args : List Meaning} (ha : ∀ x ∈ args, x.Closed) (a : Aggregate)
    (name : String) (distinct : Bool) :
    Gives (Value.Among K) (aggregate env group a name distinct args) := by
  cases group with
  | none => exact .error _
  | some rows =>
    rw [aggregate.eq_def]
    dsimp only
    split
    next m =>
      exact .bind (.mapM fun r hr => (ha m (by simp)).value he (hg rows rfl r hr))
        fun vs hvs => a.among_apply distinct hvs
    · exact .error _

lemma among_call {args : List Meaning} (ha : ∀ x ∈ args, x.Closed) (name : String)
    (distinct : Bool) : Gives (Value.Among K) (call env group row name distinct args) := by
  rw [call]
  cases Aggregate.ofName? name with
  | some a => exact among_aggregate he hg ha a name distinct
  | none =>
    refine .bind (among_evals he hg hrow ha) fun vs hvs => ?_
    exact (Call.Among.answer ⟨hvs, he.store⟩).mapError _

/-! ### Patterns -/

omit hg

lemma among_pathsIn (p : PathPattern Meaning) :
    Gives (fun vs => ∀ v ∈ vs, v.Among K) (pathsIn env row p) :=
  .bind (Matcher.among_paths (by exact he.store) _ hrow) fun ps hps =>
    .ok (List.forall_mem_map.2 fun p hp => Value.among_path.2 (hps p hp))

lemma among_joinedPaths (p : PathPattern Meaning) :
    Gives (fun vs => ∀ v ∈ vs, v.Among K) (joinedPaths env row p) := by
  refine .bind (among_pathsIn he hrow p) fun vs hvs => .ok ?_
  split_ifs
  · exact fun v hv => hvs v (List.mem_of_mem_take hv)
  · exact hvs

lemma among_pathValue (p : PathPattern Meaning) : Gives (Value.Among K) (pathValue env row p) := by
  refine .bind (among_pathsIn he hrow p) fun vs hvs => .ok ?_
  split_ifs
  · exact Value.among_list.2 hvs
  · cases vs with
    | nil => exact among_null
    | cons v vs => exact hvs v (by simp)

include hg in
lemma among_matchesOf (p : PathPattern Meaning) (filter : Option Meaning) {projection : Meaning}
    (hp : projection.Closed) :
    Gives (Value.Among K) (matchesOf env group row p filter projection) :=
  .bind (Matcher.among_rows (by exact he.store) _ hrow) fun _ hrows =>
    among_valuesWhere he hg filter hp hrows

omit he hrow in
lemma among_hasLabels (ls : List String) (v : Value) :
    Gives (Value.Among K) (hasLabels env ls v) := by
  cases v <;> first | exact .ok (among_of_isScalar rfl) | exact .error _

/-! ### Layers -/

omit hrow in
lemma among_property {v : Value} (hv : v.Among K) (k : String) :
    Gives (Value.Among K) (v.property env.store k) := by
  cases v with
  | null => exact .ok among_null
  | node i => exact .ok (Dict.Among.getD (he.store.nodeProperties i) k)
  | rel i => exact .ok (Dict.Among.getD (he.store.relProperties i) k)
  | map es => exact .ok (Dict.Among.getD (Value.among_map.1 hv) k)
  | _ => exact .error _

omit hrow in
lemma among_index {v : Value} (hv : v.Among K) (i : Value) :
    Gives (Value.Among K) (v.index env.store i) := by
  rw [Value.index.eq_def]
  split
  · exact .ok among_null
  · exact .ok among_null
  · split_ifs
    · exact .ok (Value.among_itemAt (Value.among_list.1 hv) _)
    · exact .error _
  · exact among_property he hv _
  · exact among_property he hv _
  · exact among_property he hv _
  · exact .error _

end

end Meaning

/-- Whether a layer can stand in a text: literals there are scalars. -/
def Cypher.Layer.isWritten {ε : Type} : Layer ε → Bool
  | .literal v => v.isScalar
  | _ => true

namespace Meaning

lemma among_evalLayer {l : Layer Meaning} (hl : l.isWritten) (h : ∀ x ∈ l.parts, x.Closed)
    (he : env.Among K) (hg : ∀ rows ∈ group, Row.AllAmong K rows) (hrow : Dict.Among K row) :
    Gives (Value.Among K) (evalLayer env group row l) := by
  cases l with
  | literal v => exact .ok (among_of_isScalar hl)
  | parameter n =>
    rw [evalLayer]
    cases hv : Dict.get? env.parameters n with
    | none => exact .error _
    | some v => exact .ok (Dict.Every.get? he.parameters hv)
  | name n => exact .ok (Dict.Among.getD hrow n)
  | countRows =>
    cases group with
    | none => exact .error _
    | some rows => exact .ok (among_of_isScalar rfl)
  | property t k =>
    exact .bind ((h t (by simp [Layer.parts])).eval he hg hrow) fun v hv => among_property he hv k
  | index t i =>
    exact .bind ((h t (by simp [Layer.parts])).eval he hg hrow) fun v hv =>
      .after fun i => among_index he hv i
  | slice t a b =>
    exact .bind ((h t (by simp [Layer.parts])).eval he hg hrow) fun v hv =>
      .after fun a => .after fun b => hv.slice a b
  | list xs =>
    exact .bind (among_evals he hg hrow h) fun vs hvs => .ok (Value.among_list.2 hvs)
  | map es =>
    refine .bind (.mapM fun e hmem => ?_) fun es hes =>
      .ok (Value.among_map.2 (Dict.Every.ofList hes))
    exact .bind ((h e.2 (List.mem_map_of_mem hmem)).eval he hg hrow) fun v hv => .ok hv
  | binary op x y =>
    exact .bind ((h x (by simp [Layer.parts])).eval he hg hrow) fun v hv =>
      hv.binary ((h y (by simp [Layer.parts])).eval he hg hrow) op
  | unary op x => exact .after fun v => Value.among_unary
  | isNull x _ => exact .after fun v => .ok (among_of_isScalar rfl)
  | existsValue x => exact .after fun v => .ok (among_of_isScalar rfl)
  | hasLabels x ls => exact .after fun v => among_hasLabels ls v
  | call n d xs => exact among_call he hg hrow h n d
  | case s bs d =>
    refine among_choice he hg hrow s (fun b hb => h _ ?_) fun x hx => h x (by simp_all [Layer.parts])
    simp only [Layer.parts, List.mem_append, List.mem_flatMap]
    exact .inl (.inr ⟨b, hb, by simp⟩)
  | listOf n s w p =>
    exact among_listOf he hg hrow (h s (by simp [Layer.parts])) w
      (fun x hx => h x (by simp_all [Layer.parts])) n
  | quantified q n s p => exact among_quantified he hg hrow (h s (by simp [Layer.parts])) p q n
  | reduce a i n s b =>
    exact among_reduce he hg hrow (h i (by simp [Layer.parts])) (h s (by simp [Layer.parts]))
      (h b (by simp [Layer.parts])) a n
  | matchesOf p w x => exact among_matchesOf he hg hrow p w (h x (by simp [Layer.parts]))
  | matched p => exact .after fun b => .ok (among_of_isScalar rfl)
  | mapOf n is =>
    exact among_mapOf he hg hrow (fun i hi x hx => h x (List.mem_flatMap.2 ⟨i, hi, hx⟩)) n
  | existsQuery q => exact .after fun o => .ok (among_of_isScalar rfl)
  | paths p => exact among_pathValue he hrow p

/-- A layer mentions nothing new unless a part of it does. -/
lemma closed_ofLayer {l : Layer Meaning} (hl : l.isWritten) (h : ∀ x ∈ l.parts, x.Closed) :
    (ofLayer l).Closed where
  eval he hg hrow := among_evalLayer hl h he hg hrow
  paths f hf := by
    cases l with
    | paths p =>
      obtain rfl := Option.some.inj hf
      exact fun he hrow => among_joinedPaths he hrow p
    | _ => exact nomatch hf

end Meaning

namespace Cypher

/-- Whether an expression can stand in a text, as far as its literals go. -/
def Expr.isWritten : Expr → Bool := Expr.fold fun l => l.isWritten && l.parts.all id

lemma Expr.isWritten_of (l : Layer Expr) :
    (of l).isWritten = (l.isWritten && l.parts.all Expr.isWritten) := by
  have hwritten (f : Layer Bool → Bool) : (foldLayer f l).isWritten = l.isWritten := by
    cases l <;> rfl
  rw [isWritten, fold, parts_foldLayer, hwritten, List.all_map]
  rfl

/-- **What stands in a text mentions nothing new.** -/
theorem Expr.closed_meaning {x : Expr} (hx : x.isWritten) : x.meaning.Closed := by
  induction x using layerInduction with
  | _ l ih =>
    rw [isWritten_of, Bool.and_eq_true, List.all_eq_true] at hx
    have hwritten : (foldLayer Meaning.ofLayer l).isWritten = l.isWritten := by cases l <;> rfl
    refine Meaning.closed_ofLayer (hwritten ▸ hx.1) ?_
    rw [parts_foldLayer, List.forall_mem_map]
    exact fun y hy => ih y hy (hx.2 y hy)

/-- Being written passes on. -/
lemma passOn_isWritten : PassOn (fun x => x.isWritten) fun c => ∀ x ∈ c.parts, x.isWritten where
  literal hv := by
    rw [Expr.isWritten_of, Bool.and_eq_true]
    exact ⟨hv, rfl⟩
  layer {l} hl h := by
    rw [Expr.isWritten_of, Bool.and_eq_true, List.all_eq_true]
    refine ⟨?_, h⟩
    cases l <;> first | rfl | cases hl
  existsQuery h := by
    rw [Expr.isWritten_of, Bool.and_eq_true, List.all_eq_true]
    exact ⟨rfl, QueryOf.forall_mem_parts.2 fun cs hcs => (h cs hcs).2⟩
  target {x k} h := by
    rw [Expr.isWritten_of, Bool.and_eq_true, List.all_eq_true] at h
    exact h.2 x (List.mem_singleton_self x)
  clause _ h := h
  foreach hx _ hcs := by
    rw [Clause.parts, List.forall_mem_cons, Clause.forall_mem_allParts]
    exact ⟨hx, fun c hc => (hcs c hc).2⟩
  subquery {q} h := by
    have hparts : (Clause.subquery q).parts = q.parts := rfl
    rw [hparts]
    exact QueryOf.forall_mem_parts.2 fun cs hcs => (h cs hcs).2

/-- All parts of a query that is written mention nothing new. -/
def Statement.Closed : Statement → Prop
  | .query q => ∀ x ∈ (queryMeaning q).parts, x.Closed
  | _ => True

/-- **The statements of a text mention nothing new.** -/
theorem closed_of_parse {source : String} {ks : List Statement} (h : parse source = .ok ks) :
    ∀ k ∈ ks, k.Closed := by
  intro k hk
  have hwritten := passOn_isWritten.of_parse h k hk
  cases k with
  | query q =>
    rw [Statement.Closed, queryMeaning, Expr.parts_foldQuery, List.forall_mem_map]
    intro x hx
    exact Expr.closed_meaning (QueryOf.forall_mem_parts.2 (fun cs hcs => (hwritten cs hcs).2) x hx)
  | _ => trivial

end Cypher

end PropertyGraph
