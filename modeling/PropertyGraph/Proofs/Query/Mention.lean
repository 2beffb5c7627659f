import PropertyGraph.Proofs.Meaning.Mention
import PropertyGraph.Query.Write

/-!
What the rows of a query mention: nothing but what the graph, the parameters and the rows before
do.
-/

namespace PropertyGraph

open Cypher

variable {K : Entity → Prop} {env : Env}

/-- The rows of a table mention none but some entities. -/
def Table.Among (K : Entity → Prop) (t : Table) : Prop := Row.AllAmong K t.rows

/-! ### Projections -/

namespace Table

variable (he : env.Among K)
include he

lemma among_joinPaths {m : Meaning} (hm : m.Closed) {paths : Env → Row → Except Error (List Value)}
    (hpaths : m.paths = some paths) (name : String) {rows : List Row}
    (hrows : Row.AllAmong K rows) :
    Gives (Row.AllAmong K) (joinPaths env name paths rows) := by
  refine .bind (.mapM (R := Row.AllAmong K) fun row hrow => ?_) fun rowss hrowss =>
    .ok (List.forall_mem_flatten.2 hrowss)
  refine .bind (hm.paths paths hpaths he (hrows row hrow)) fun vs hvs => .ok ?_
  exact List.forall_mem_map.2 fun v hv => Dict.Every.insert (hrows row hrow) name (hvs v hv)

lemma among_itemColumns {is : List (ProjectionItem Meaning)} (hi : ∀ i ∈ is, i.expr.Closed)
    (index : Nat) {rows : List Row} (hrows : Row.AllAmong K rows) :
    Gives (fun p => (∀ c ∈ p.1, c.2.Closed) ∧ Row.AllAmong K p.2)
      (itemColumns env index is rows) := by
  induction is generalizing index rows with
  | nil => exact .ok ⟨by simp, hrows⟩
  | cons i is ih =>
    rw [List.forall_mem_cons] at hi
    have htail {m : Meaning} (hm : m.Closed) {rows : List Row} (hrows : Row.AllAmong K rows) :
        Gives (fun p => (∀ c ∈ p.1, c.2.Closed) ∧ Row.AllAmong K p.2) (do
          let p ← itemColumns env (index + 1) is rows
          return ((i.column, m) :: p.1, p.2) : Except Error (List (String × Meaning) × _)) :=
      .bind (ih hi.2 (index + 1) hrows) fun p hp =>
        .ok ⟨List.forall_mem_cons.2 ⟨hm, hp.1⟩, hp.2⟩
    rw [itemColumns]
    cases hpaths : i.expr.paths with
    | none => exact htail hi.1 hrows
    | some paths =>
      have hjoined := among_joinPaths he hi.1 hpaths (pathName index) hrows
      exact .bind hjoined fun joined hjoined => htail (Meaning.closed_ofName _) hjoined

variable {columns : List (String × Meaning)} (hc : ∀ c ∈ columns, c.2.Closed)
include hc

lemma among_projectRow {group : Option (List Row)} (hg : ∀ rows ∈ group, Row.AllAmong K rows)
    {row : Row} (hrow : Dict.Among K row) :
    Gives (fun p => Dict.Among K p.out) (projectRow env columns group row) := by
  refine .bind (.mapM (R := fun e : String × Value => e.2.Among K) fun c h => ?_) fun es hes =>
    .ok (Dict.Every.ofList hes)
  exact .bind ((hc c h).eval he hg hrow) fun v hv => .ok hv

lemma among_projectRows {rows : List Row} (hrows : Row.AllAmong K rows) :
    Gives (fun ps => ∀ p ∈ ps, Dict.Among K p.out) (projectRows env columns rows) := by
  rw [projectRows]
  split_ifs
  · intro ps h
    obtain ⟨groups, hgroups, h⟩ := bind_eq_ok.1 h
    have hgroup (g : Group) (hmem : g ∈ groups) : Row.AllAmong K g.rows := fun r hr =>
      hrows r ((Group.partition_ofRows hgroups).mem hmem hr)
    refine Gives.mapM (R := fun p : Projected => Dict.Among K p.out) (fun g hmem => ?_) ps h
    refine among_projectRow he hc (by rintro _ ⟨⟩; exact hgroup g hmem) ?_
    cases hhead : g.rows.head? with
    | none => exact .nil
    | some r => exact hgroup g hmem r (List.mem_of_mem_head? hhead)
  · exact .mapM (R := fun p : Projected => Dict.Among K p.out) fun row hrow =>
      among_projectRow he hc (by simp) (hrows row hrow)

omit hc

/-- **Projections** mention nothing new. -/
theorem among_project {b : Projection Meaning} (hb : ∀ x ∈ b.parts, x.Closed) {t : Table}
    (ht : t.Among K) : Gives (Table.Among K) (project env b t) := by
  simp only [Projection.parts, List.forall_mem_append, List.forall_mem_map] at hb
  intro t' h
  obtain ⟨⟨listed, rows⟩, hlisted, h⟩ := bind_eq_ok.1 h
  obtain ⟨projected, hprojected, h⟩ := bind_eq_ok.1 h
  obtain ⟨sorted, hsorted, h⟩ := bind_eq_ok.1 h
  obtain ⟨skip, -, h⟩ := bind_eq_ok.1 h
  obtain ⟨limit, -, h⟩ := bind_eq_ok.1 h
  obtain rfl := Except.ok.inj h
  obtain ⟨hlisted, hrows⟩ := among_itemColumns he hb.1.1.1 0 ht _ hlisted
  have hcolumns : ∀ c ∈ (if b.star then starColumns t.columns b.items else []).map
      (fun c => (c, Meaning.ofName c)) ++ listed, c.2.Closed :=
    List.forall_mem_append.2 ⟨List.forall_mem_map.2 fun c _ => Meaning.closed_ofName c, hlisted⟩
  have hout := among_projectRows he hcolumns hrows _ hprojected
  refine List.forall_mem_map.2 fun p hp => hout p ?_
  have hp := (Query.mem_sortRows hsorted).1 (Query.cut_subset _ _ _ hp)
  cases hd : b.distinct with
  | true =>
    rw [if_pos hd] at hp
    exact (Value.distinctBy_sublist _ _).mem hp
  | false =>
    rw [if_neg (by simp [hd])] at hp
    exact hp

end Table

/-! ### Reading clauses -/

lemma Procedure.isScalar_rows {n : String} {p : Procedure} (hp : ofName? n = some p) (s : Store) :
    ∀ values ∈ p.rows s, ∀ v ∈ values, v.isScalar := by
  have hsingle (names : List String) : ∀ values ∈ single names, ∀ v ∈ values, v.isScalar := by
    simp [single, Value.isScalar]
  have hmem := List.mem_of_find?_eq_some hp
  simp only [all, List.mem_cons, List.not_mem_nil, or_false] at hmem
  rcases hmem with rfl | rfl | rfl | rfl | rfl
  · exact hsingle _
  · exact hsingle _
  · exact hsingle _
  · simp [constraintRow, Value.isScalar]
  · simp [indexRow, Value.isScalar]

namespace Query

omit env in
lemma among_bindNulls (names : List String) {row : Row} (hrow : Dict.Among K row) :
    Dict.Among K (bindNulls names row) := by
  rw [bindNulls]
  induction names generalizing row with
  | nil => exact hrow
  | cons n names ih =>
    refine ih ?_
    dsimp only
    split_ifs
    · exact hrow
    · exact hrow.insert n Value.among_null

variable (he : env.Among K) {t : Table} (ht : t.Among K)
include he ht

lemma among_matching (optional : Bool) (ps : List (PathPattern Meaning)) (filter : Option Meaning) :
    Gives (Table.Among K) (matching env optional ps filter t) := by
  refine .bind (.mapM (R := Row.AllAmong K) fun row hrow => ?_) fun rowss hrowss =>
    .ok (List.forall_mem_flatten.2 hrowss)
  refine .bind (Matcher.among_rows (by exact he.store) _ (ht row hrow)) fun found hfound =>
    .bind (Meaning.among_filterRows filter hfound) fun kept hkept => ?_
  split_ifs
  · exact .ok (List.forall_mem_singleton.2 (among_bindNulls _ (ht row hrow)))
  · exact .ok hkept

lemma among_unwind {source : Meaning} (hs : source.Closed) (name : String) :
    Gives (Table.Among K) (unwind env source name t) := by
  refine .bind (.mapM (R := Row.AllAmong K) fun row hrow => ?_) fun rowss hrowss =>
    .ok (List.forall_mem_flatten.2 hrowss)
  refine .bind (hs.value he (ht row hrow)) fun v hv => .ok (List.forall_mem_map.2 fun x hx => ?_)
  refine Dict.Every.insert (ht row hrow) name ?_
  cases v with
  | null => cases hx
  | list xs => exact Value.among_list.1 hv x hx
  | _ => exact List.mem_singleton.1 hx ▸ hv

omit he in
lemma among_call (c : ProcedureCall Meaning) : Gives (Table.Among K) (call env c t) := by
  rw [call]
  cases hp : Procedure.ofName? c.name with
  | none => exact .error _
  | some p =>
    have hrows (row : Row) : Gives (fun vss => ∀ values ∈ vss, ∀ v ∈ values, v.isScalar)
        (procedureRows env p c row) := by
      refine .after fun args => ?_
      split_ifs
      · exact .ok (Procedure.isScalar_rows hp env.store)
      · exact .error _
    have houts (outs : List (String × Nat)) {values : List Value}
        (hvalues : ∀ v ∈ values, v.isScalar) {row : Row} (hrow : Dict.Among K row) :
        Dict.Among K
          (outs.foldl (fun r o => Dict.insert r o.1 (values.getD o.2 .null)) row) := by
      induction outs generalizing row with
      | nil => exact hrow
      | cons o outs ih =>
        refine ih (hrow.insert o.1 (Value.among_of_isScalar ?_))
        rw [List.getD_eq_getElem?_getD]
        cases hv : values[o.2]? with
        | none => rfl
        | some v => exact hvalues v (List.mem_of_getElem? hv)
    refine .after fun outs => .bind (.mapM (R := Row.AllAmong K) fun row hrow => ?_)
      fun rowss hrowss => .bind (Meaning.among_filterRows c.filter
        (List.forall_mem_flatten.2 hrowss)) fun kept hkept => .ok hkept
    exact .bind (hrows row) fun vss hvss => .ok (List.forall_mem_map.2 fun values hvalues =>
      houts outs (hvss values hvalues) (ht row hrow))

/-- **A reading clause** mentions nothing new. -/
theorem among_readStep {c : Clause Meaning} (hc : ∀ x ∈ c.parts, x.Closed) :
    Gives (Table.Among K) (readStep env c t) := by
  cases c with
  | matching optional ps w => exact among_matching he ht optional ps w
  | unwind x n => exact among_unwind he ht (hc x (by simp [Clause.parts])) n
  | withItems b w =>
    simp only [Clause.parts, List.forall_mem_append] at hc
    exact .bind (Table.among_project he hc.1 ht) fun t' ht' =>
      .bind (Meaning.among_filterRows w ht') fun kept hkept => .ok hkept
  | returnItems b => exact Table.among_project he hc ht
  | call c => exact among_call ht c
  | _ => exact .error _

end Query

/-! ### Joined rows -/

namespace Output

lemma among_joinRows {row : Row} (hrow : Dict.Among K row) {o : Output} (ho : o.table.Among K) :
    Row.AllAmong K (joinRows row o) := by
  rw [joinRows]
  split_ifs
  · refine List.forall_mem_map.2 fun inner hinner => Dict.Every.merge hrow ?_
    exact List.forall_mem_map.2 fun c _ => Dict.Among.getD (ho inner hinner) c
  · exact List.forall_mem_singleton.2 hrow

lemma among_union (all : Bool) {a b : Output} (ha : a.table.Among K) (hb : b.table.Among K) :
    (union all a b).table.Among K := by
  have hrows : Row.AllAmong K (a.table.rows ++ b.table.rows) := List.forall_mem_append.2 ⟨ha, hb⟩
  cases all with
  | true => exact hrows
  | false => exact fun row hrow => hrows row ((Value.distinctBy_sublist _ _).mem hrow)

end Output

end PropertyGraph
