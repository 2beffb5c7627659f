import PropertyGraph.Proofs.Cypher.Parts
import PropertyGraph.Proofs.Fault
import PropertyGraph.Meaning.Layer

/-!
Expressions and reading queries never come to a clause that there is no run for.

A step that reads takes all clauses but those that write and those that hold others, and both are
told apart before it. All other faults are about values and names, so it is enough to go through
the places where something is refused.
-/

namespace PropertyGraph

open Cypher

/-- A clause has come where none of its kind is run. -/
def Error.isDispatch : Error → Bool
  | .meaning (.notReading _) | .meaning (.notWriting _) => true
  | _ => false

/-- A computation never comes to a clause that there is no run for. -/
abbrev Ordinary {α : Type} (x : Except Error α) : Prop := Raises (fun e => e.isDispatch = false) x

/-! ### Values -/

namespace Value

lemma ordinary_truth (user : String) (v : Value) : Ordinary (v.truth user) := by
  cases v <;> first | exact .ok _ | exact .error rfl

lemma ordinary_unary (op : UnaryOp) (v : Value) : Ordinary (v.unary op) := by
  unfold unary
  split <;> first | exact .ok _ | exact .error rfl

lemma ordinary_property (s : Store) (k : String) (v : Value) : Ordinary (v.property s k) := by
  cases v <;> first | exact .ok _ | exact .error rfl

lemma ordinary_index (s : Store) (v i : Value) : Ordinary (v.index s i) := by
  unfold index
  split
  · exact .ok _
  · exact .ok _
  · split_ifs
    · exact .ok _
    · exact .error rfl
  · exact ordinary_property s _ _
  · exact ordinary_property s _ _
  · exact ordinary_property s _ _
  · exact .error rfl

lemma ordinary_slice (v : Value) (start stop : Option Value) : Ordinary (v.slice start stop) := by
  have hbound (length default : Nat) (b : Option Value) :
      Ordinary (sliceBound length default b) := by
    unfold sliceBound
    split
    · exact .ok _
    · split_ifs
      · exact .ok _
      · exact .error rfl
    · exact .error rfl
  unfold slice
  split_ifs
  · exact .ok _
  · cases v with
    | list items => exact (hbound _ _ _).bind fun a => (hbound _ _ _).andThen _
    | _ => exact .error rfl

lemma ordinary_arithmetic (symbol : String) (f : Number → Number → Except TypeFault Number)
    (a b : Value) : Ordinary (arithmetic symbol f a b) := by
  unfold arithmetic
  split
  · exact .ok _
  · exact .ok _
  · exact .mapError (f := Error.type) (fun _ => rfl) _
  · exact .error rfl

lemma ordinary_binary (op : BinaryOp) (left : Value) {right : Except Error Value}
    (h : Ordinary right) : Ordinary (left.binary op fun _ => right) := by
  have htruth (user : String) (f : Option Bool → Value) :
      Ordinary (right >>= fun w => w.truth user >>= fun b => pure (f b)) :=
    h.bind fun w => (ordinary_truth user w).andThen _
  cases op with
  | and | or =>
    refine (ordinary_truth _ left).bind fun a => ?_
    rcases a with _ | (_ | _)
    all_goals first | exact .ok _ | exact htruth _ _
  | xor => exact (ordinary_truth _ left).bind fun a => htruth _ _
  | add =>
    refine h.bind fun w => ?_
    unfold add
    split <;> first | exact .ok _ | exact .error rfl
  | sub | mul | div | rem | pow => exact h.bind fun w => ordinary_arithmetic _ _ left w
  | isIn =>
    refine h.bind fun w => ?_
    cases w <;> first | exact .ok _ | exact .error rfl
  | regexMatch =>
    refine h.bind fun w => ?_
    unfold regexMatch
    split
    · split
      · exact .ok _
      · exact .error rfl
    · exact .ok _
  | eq | ne | lt | le | gt | ge | startsWith | endsWith | contains => exact h.andThen _

end Value

lemma Cypher.Aggregate.ordinary_apply (a : Aggregate) (distinct : Bool) (values : List Value) :
    Ordinary (a.apply distinct values) := by
  have htotal (vs : List Value) : Ordinary (a.total vs) := by
    refine .foldlM (fun n v _ => ?_) _
    have hnumber : Ordinary (a.number v) := by
      cases v <;> first | exact .ok _ | exact .error rfl
    exact hnumber.andThen _
  cases a with
  | collect | count | min | max => exact .ok _
  | sum | avg => exact (htotal _).andThen _

/-! ### Matches -/

namespace Matcher

def Tame (part : Part) : Prop := ∀ row, Ordinary (part row)

variable (m : Matcher) {t : Trail}

lemma ordinary_required {part : Option Part} (h : ∀ x ∈ part, Tame x) (row : Row) :
    Ordinary (required part row) := by
  cases part with
  | none => exact .ok _
  | some part =>
    refine (h part rfl row).bind fun v => ?_
    cases v <;> first | exact .ok _ | exact .error rfl

lemma ordinary_candidates {p : NodePattern Part} (h : ∀ x ∈ p.properties, Tame x) (row : Row) :
    Ordinary (m.candidates p row) := by
  refine (ordinary_required h row).bind fun ps => ?_
  split <;> exact .ok _

variable {h : Hop Part} (hrel : ∀ x ∈ h.rel.properties, Tame x)
  (hnode : ∀ x ∈ h.node.properties, Tame x)

include hrel hnode

lemma ordinary_hopMove (t : Trail) : Ordinary (m.hopMove h t) := by
  refine (ordinary_required hrel _).bind fun _ => (ordinary_required hnode _).bind fun _ => ?_
  split <;> exact .ok _

lemma ordinary_shortestMove (all : Bool) (t : Trail) : Ordinary (m.shortestMove all h t) := by
  refine (ordinary_required hrel _).bind fun _ => ?_
  dsimp only
  split
  · exact .ok _
  · exact (m.ordinary_candidates hnode _).andThen _

omit hrel hnode

lemma ordinary_move {p : PathPattern Part} (hp : ∀ x ∈ p.properties, Tame x) {v : Move}
    (hv : v ∈ Move.ofPattern p) (t : Trail) : Ordinary (m.move t v) := by
  simp only [PathPattern.properties, List.forall_mem_append, List.forall_mem_flatMap,
    Option.mem_toList] at hp
  obtain ⟨⟨hstart, hnodes⟩, hrels⟩ := hp
  simp only [Move.ofPattern, List.mem_cons, List.mem_append, List.not_mem_nil, or_false] at hv
  rcases hv with (rfl | hv) | rfl
  · exact (m.ordinary_candidates hstart _).andThen _
  · split_ifs at hv
    · obtain ⟨h, hh, rfl⟩ := List.mem_map.1 hv
      exact m.ordinary_hopMove (hrels h hh) (hnodes h hh) t
    · obtain rfl := List.mem_singleton.1 hv
      rw [move]
      split
      next h hops =>
        have hh : h ∈ p.hops := by simp [hops]
        exact m.ordinary_shortestMove (hrels h hh) (hnodes h hh) _ t
      · exact .ok _
  · exact .ok _

lemma ordinary_follow {vs : List Move} (h : ∀ v ∈ vs, ∀ t, Ordinary (m.move t v)) (t : Trail) :
    Ordinary (m.follow vs t) := by
  induction vs generalizing t with
  | nil => exact .ok _
  | cons v vs ih =>
    rw [List.forall_mem_cons] at h
    exact (h.1 t).bind fun ts => (Raises.mapM fun u _ => ih h.2 u).andThen _

lemma ordinary_reaches {vs : List Move} (h : ∀ v ∈ vs, ∀ t, Ordinary (m.move t v)) (t : Trail) :
    Ordinary (m.reaches vs t) := by
  induction vs generalizing t with
  | nil => exact .ok _
  | cons v vs ih =>
    rw [List.forall_mem_cons] at h
    exact (h.1 t).bind fun ts => .anyM fun u => ih h.2 u

end Matcher

/-! ### Constructs -/

namespace Meaning

/-- A meaning that never comes to a clause that there is no run for. -/
structure Tame (m : Meaning) : Prop where
  eval : ∀ env group row, Ordinary (m.eval env group row)
  paths : ∀ f ∈ m.paths, ∀ env row, Ordinary (f env row)

lemma tame_ofName (n : String) : (ofName n).Tame := ⟨fun _ _ _ => .ok _, nofun⟩

section

variable (env : Env) (group : Option (List Row)) (row : Row)

lemma Tame.holds {m : Meaning} (hm : m.Tame) : Ordinary (m.holds env group row) :=
  (hm.eval env group row).andThen _

lemma ordinary_value? {m : Option Meaning} (hm : ∀ x ∈ m, x.Tame) :
    Ordinary (value? m env group row) := by
  cases m with
  | none => exact .ok _
  | some m => exact ((hm m rfl).eval env group row).map some

lemma ordinary_filterRows {m : Option Meaning} (hm : ∀ x ∈ m, x.Tame) (rows : List Row) :
    Ordinary (filterRows m env rows) := by
  cases m with
  | none => exact .ok _
  | some m => exact .filterM fun row => (hm m rfl).holds env none row

lemma tame_parts {p : PathPattern Meaning} (hp : ∀ x ∈ p.properties, x.Tame) :
    ∀ x ∈ (parts p env).properties, Matcher.Tame x := by
  rw [parts, PathPattern.properties_map, List.forall_mem_map]
  exact fun m hm row => (hp m hm).eval env none row

lemma ordinary_rows {ps : List (PathPattern Meaning)}
    (hp : ∀ x ∈ ps.flatMap PathPattern.properties, x.Tame) :
    Ordinary (env.matcher.rows (ps.map fun p => parts p env) row) := by
  refine (Matcher.ordinary_follow _ (fun v hv t => ?_) _).andThen _
  obtain ⟨_, hmem, hv⟩ := List.mem_flatMap.1 hv
  obtain ⟨p, hps, rfl⟩ := List.mem_map.1 hmem
  exact Matcher.ordinary_move _
    (tame_parts env fun x hx => hp x (List.mem_flatMap.2 ⟨p, hps, hx⟩)) hv t

section

variable {p : PathPattern Meaning} (hp : ∀ x ∈ p.properties, x.Tame)

include hp

lemma ordinary_hasMatch : Ordinary (env.matcher.hasMatch (parts p env) row) :=
  Matcher.ordinary_reaches _ (fun _ hv t => Matcher.ordinary_move _ (tame_parts env hp) hv t) _

lemma ordinary_pathsIn : Ordinary (pathsIn env row p) :=
  Raises.andThen (Raises.andThen (Matcher.ordinary_follow _
    (fun _ hv t => Matcher.ordinary_move _ (tame_parts env hp) hv t) _) _) _

end

end

end Meaning

/-! ### Projections -/

namespace Table

open Meaning

variable (env : Env)

lemma tame_itemColumns {is : List (ProjectionItem Meaning)} (hi : ∀ i ∈ is, i.expr.Tame)
    (index : Nat) (rows : List Row) :
    Ordinary (itemColumns env index is rows) ∧
      Gives (fun p => ∀ c ∈ p.1, c.2.Tame) (itemColumns env index is rows) := by
  induction is generalizing index rows with
  | nil => exact ⟨.ok _, .ok (by simp)⟩
  | cons i is ih =>
    rw [List.forall_mem_cons] at hi
    rw [itemColumns]
    have hfirst : ∀ x : Except Error (Meaning × List Row), Ordinary x → Gives (·.1.Tame) x →
        Ordinary (x >>= fun p => itemColumns env (index + 1) is p.2 >>= fun q =>
          pure ((i.column, p.1) :: q.1, q.2)) ∧
        Gives (fun p => ∀ c ∈ p.1, c.2.Tame) (x >>= fun p =>
          itemColumns env (index + 1) is p.2 >>= fun q =>
            pure ((i.column, p.1) :: q.1, q.2)) := by
      intro x hx hg
      refine ⟨hx.bind fun p => (ih hi.2 _ _).1.andThen _, .bind hg fun p hp => ?_⟩
      exact .bind (ih hi.2 _ _).2 fun q hq => .ok (List.forall_mem_cons.2 ⟨hp, hq⟩)
    cases hpaths : i.expr.paths with
    | none => exact hfirst _ (.ok _) (.ok hi.1)
    | some paths =>
      have hjoined : Ordinary (joinPaths env (pathName index) paths rows) :=
        (Raises.mapM fun row _ => (hi.1.paths paths hpaths env row).andThen _).andThen _
      have hname (rows : List Row) := hfirst (.ok (ofName (pathName index), rows)) (.ok _)
        (.ok (tame_ofName _))
      exact ⟨hjoined.bind fun rows => (hname rows).1, .after fun rows => (hname rows).2⟩

lemma ordinary_projectRows {columns : List (String × Meaning)} (hc : ∀ c ∈ columns, c.2.Tame)
    (rows : List Row) : Ordinary (projectRows env columns rows) := by
  have hrow (group : Option (List Row)) (row : Row) :
      Ordinary (projectRow env columns group row) :=
    (Raises.mapM fun c h => ((hc c h).eval env group row).andThen _).andThen _
  unfold projectRows
  dsimp only
  split_ifs
  · refine Raises.bind ?_ fun gs => .mapM fun g _ => hrow _ _
    unfold Group.ofRows
    split_ifs
    · exact .ok _
    · refine (Raises.foldlM (fun gs row _ => (Raises.mapM fun k hk => ?_).andThen _) _).andThen _
      obtain ⟨c, hmem, rfl⟩ := List.mem_map.1 hk
      exact (hc c (List.mem_of_mem_filter hmem)).eval env none row
  · exact .mapM fun row _ => hrow none row

lemma ordinary_sortRows {items : List (SortItem Meaning)} (hi : ∀ i ∈ items, i.expr.Tame)
    (rows : List Projected) : Ordinary (sortRows env items rows) := by
  unfold sortRows
  split_ifs
  · exact .ok _
  · exact (Raises.mapM fun p _ =>
      (Raises.mapM fun i h => (hi i h).eval env p.group p.scope).andThen _).andThen _

lemma ordinary_bound? {m : Option Meaning} (hm : ∀ x ∈ m, x.Tame) (clause : String) :
    Ordinary (bound? env clause m) := by
  refine (ordinary_value? env none [] hm).bind fun v => ?_
  split
  · exact .ok _
  · split
    · exact .ok _
    · exact .error rfl

lemma ordinary_project {b : Projection Meaning} (hb : ∀ x ∈ b.parts, x.Tame) (t : Table) :
    Ordinary (project env b t) := by
  simp only [Projection.parts, List.forall_mem_append, List.forall_mem_map, Option.mem_toList]
    at hb
  obtain ⟨⟨⟨hitems, horder⟩, hskip⟩, hlimit⟩ := hb
  have hlisted := tame_itemColumns env hitems 0 t.rows
  refine hlisted.1.bindOf hlisted.2 fun p hp => ?_
  refine (ordinary_projectRows env ?_ p.2).bind fun projected => ?_
  · rw [List.forall_mem_append, List.forall_mem_map]
    exact ⟨fun c _ => tame_ofName c, hp⟩
  · exact (ordinary_sortRows env horder _).bind fun _ => (ordinary_bound? env hskip _).bind
      fun _ => (ordinary_bound? env hlimit _).andThen _

end Table

/-! ### Reading queries -/

namespace Query

open Meaning

variable (env : Env)

lemma ordinary_matching {ps : List (PathPattern Meaning)} {filter : Option Meaning}
    (hp : ∀ x ∈ ps.flatMap PathPattern.properties, x.Tame) (hf : ∀ x ∈ filter, x.Tame)
    (optional : Bool) (t : Table) : Ordinary (matching env optional ps filter t) := by
  refine (Raises.mapM fun row _ => ?_).andThen _
  refine (ordinary_rows env row hp).bind fun found => ?_
  refine (ordinary_filterRows env hf found).bind fun kept => ?_
  split_ifs <;> exact .ok _

lemma ordinary_call {c : ProcedureCall Meaning} (hc : ∀ x ∈ c.parts, x.Tame) (t : Table) :
    Ordinary (call env c t) := by
  simp only [ProcedureCall.parts, List.forall_mem_append, Option.mem_toList] at hc
  have hrows (p : Procedure) (row : Row) : Ordinary (procedureRows env p c row) := by
    refine (Raises.mapM fun m hm => (hc.1 m hm).eval env none row).bind fun args => ?_
    split_ifs
    · exact .ok _
    · exact .error rfl
  have houtputs (p : Procedure) : Ordinary (outputs p c) := by
    unfold outputs
    split
    · exact .ok _
    · refine .mapM fun y _ => ?_
      split
      · exact .ok _
      · exact .error rfl
  unfold call
  split
  · exact .error rfl
  next p _ =>
    exact (houtputs p).bind fun outs =>
      (Raises.mapM fun row _ => (hrows p row).andThen _).bind fun rows =>
        (ordinary_filterRows env hc.2 _).andThen _

/-- **A clause that neither writes nor holds others is run as a reading step.** -/
lemma ordinary_readStep {k : Clause Meaning} (hk : ∀ x ∈ k.parts, x.Tame)
    (hread : k.isWrite = false) (hquery : ∀ q, k ≠ .subquery q) (t : Table) :
    Ordinary (readStep env k t) := by
  cases k with
  | matching optional ps w =>
    simp only [Clause.parts, List.forall_mem_append, Option.mem_toList] at hk
    exact ordinary_matching env hk.1 hk.2 optional t
  | unwind x n =>
    exact (Raises.mapM fun row _ =>
      ((hk x (by simp [Clause.parts])).eval env none row).andThen _).andThen _
  | withItems b w =>
    simp only [Clause.parts, List.forall_mem_append, Option.mem_toList] at hk
    exact (Table.ordinary_project env hk.1 t).bind fun projected =>
      (ordinary_filterRows env hk.2 _).andThen _
  | returnItems b => exact Table.ordinary_project env hk t
  | call c => exact ordinary_call env hk t
  | subquery q => exact absurd rfl (hquery q)
  | create | merge | set | remove | delete | «foreach» => simp [Clause.isWrite] at hread

lemma raises_join {P : Error → Prop} {run : Row → Except Error Output}
    (h : ∀ row, Raises P (run row)) (t : Table) : Raises P (t.join run) :=
  (Raises.mapM fun row _ => (h row).andThen _).andThen _

mutual

lemma ordinary_readClause {k : Clause Meaning} (hk : ∀ x ∈ k.parts, x.Tame) (t : Table) :
    Ordinary (readClause env t k) := by
  match k with
  | .subquery ⟨first, unions⟩ =>
    simp only [Clause.parts, List.forall_mem_append] at hk
    simp only [readClause]
    exact raises_join (fun row => (ordinary_readClauses hk.1 _).bind fun o =>
      ordinary_readBranches hk.2 _ o) t
  | .matching .. | .unwind .. | .withItems .. | .returnItems .. | .create .. | .merge .. | .set ..
  | .remove .. | .delete .. | .foreach .. | .call .. =>
    simp only [readClause]
    split_ifs with hwrite
    · exact .error rfl
    · exact ordinary_readStep env hk (Bool.eq_false_iff.2 hwrite) nofun t

lemma ordinary_readClauses {ks : List (Clause Meaning)}
    (hk : ∀ x ∈ Clause.allParts ks, x.Tame) (o : Output) : Ordinary (readClauses env o ks) := by
  match ks with
  | [] => exact .ok _
  | k :: ks =>
    rw [Clause.allParts, List.forall_mem_append] at hk
    simp only [readClauses]
    exact (ordinary_readClause hk.1 _).bind fun t => ordinary_readClauses hk.2 _

lemma ordinary_readBranches {bs : List (Branch (Clause Meaning))}
    (hb : ∀ x ∈ Clause.branchParts bs, x.Tame) (seed : Table) (o : Output) :
    Ordinary (readBranches env seed o bs) := by
  match bs with
  | [] => exact .ok _
  | ⟨all, ks⟩ :: bs =>
    rw [Clause.branchParts, List.forall_mem_append] at hb
    simp only [readBranches]
    exact (ordinary_readClauses hb.1 _).bind fun o' => ordinary_readBranches hb.2 seed _

end

/-- **A reading query takes all its clauses for what they are.** -/
theorem ordinary_read {q : Query Meaning} (hq : ∀ x ∈ q.parts, x.Tame) (seed : Table) :
    Ordinary (read env seed q) := by
  rw [QueryOf.parts, List.forall_mem_append] at hq
  exact (ordinary_readClauses env hq.1 _).bind fun o => ordinary_readBranches env hq.2 seed o

end Query

/-! ### Layers -/

namespace Meaning

section

variable (env : Env) (group : Option (List Row)) (row : Row)

lemma ordinary_evals {ms : List Meaning} (hm : ∀ x ∈ ms, x.Tame) :
    Ordinary (ms.mapM fun m => m.eval env group row) :=
  .mapM fun m h => (hm m h).eval env group row

lemma ordinary_overItems {source : Meaning} (hs : source.Tame)
    {f : List Value → Except Error Value} (hf : ∀ vs, Ordinary (f vs)) :
    Ordinary (overItems env group row source f) := by
  have hitems : Ordinary (listItems? env group row source) := by
    refine (hs.eval env group row).bind fun v => ?_
    cases v <;> first | exact .ok _ | exact .error rfl
  refine hitems.bind fun vs => ?_
  cases vs with
  | none => exact .ok _
  | some vs => exact hf vs

lemma ordinary_valuesWhere {filter : Option Meaning} {projection : Meaning}
    (hf : ∀ x ∈ filter, x.Tame) (hp : projection.Tame) (rows : List Row) :
    Ordinary (valuesWhere env group filter projection rows) := by
  refine (Raises.filterMapM fun r => ?_).andThen _
  have hfilter : Ordinary (filter.elim (.ok true) fun w => w.holds env group r) := by
    cases filter with
    | none => exact .ok _
    | some w => exact (hf w rfl).holds env group r
  refine hfilter.bind fun b => ?_
  cases b with
  | false => exact .ok _
  | true => exact (hp.eval env group r).andThen _

lemma ordinary_mapOf {items : List (MapItem Meaning)}
    (hi : ∀ i ∈ items, ∀ x ∈ i.parts, x.Tame) (name : String) :
    Ordinary (mapOf env group row name items) := by
  have hsource (v : Value) : Ordinary (mapSource? env.store v) := by
    cases v <;> first | exact .ok _ | exact .error rfl
  refine (hsource _).bind fun source => ?_
  cases source with
  | none => exact .ok _
  | some source =>
    refine (Raises.mapM fun i hmem => ?_).andThen _
    cases i with
    | entry k m => exact ((hi _ hmem m (by simp [MapItem.parts])).eval env group row).andThen _
    | everything | property | name => exact .ok _

lemma ordinary_firstBranch {taken : Meaning → Except Error Bool} {fallback : Option Meaning}
    {branches : List (Meaning × Meaning)} (hf : ∀ x ∈ fallback, x.Tame)
    (hb : ∀ b ∈ branches, b.2.Tame ∧ Ordinary (taken b.1)) :
    Ordinary (firstBranch env group row taken fallback branches) := by
  induction branches with
  | nil => exact (ordinary_value? env group row hf).andThen _
  | cons b bs ih =>
    rw [List.forall_mem_cons] at hb
    rw [firstBranch]
    refine hb.1.2.bind fun chosen => ?_
    cases chosen with
    | false => exact ih hb.2
    | true => exact hb.1.1.eval env group row

lemma ordinary_choice {subject fallback : Option Meaning} {branches : List (Meaning × Meaning)}
    (hs : ∀ x ∈ subject, x.Tame) (hb : ∀ b ∈ branches, b.1.Tame ∧ b.2.Tame)
    (hf : ∀ x ∈ fallback, x.Tame) : Ordinary (choice env group row subject branches fallback) := by
  refine (ordinary_value? env group row hs).bind fun v => ?_
  cases v with
  | none =>
    exact ordinary_firstBranch env group row hf
      fun b h => ⟨(hb b h).2, (hb b h).1.holds env group row⟩
  | some v =>
    exact ordinary_firstBranch env group row hf
      fun b h => ⟨(hb b h).2, ((hb b h).1.eval env group row).andThen _⟩

lemma ordinary_call {args : List Meaning} (ha : ∀ x ∈ args, x.Tame) (name : String)
    (distinct : Bool) : Ordinary (call env group row name distinct args) := by
  rw [call]
  cases Aggregate.ofName? name with
  | none =>
    exact (ordinary_evals env group row ha).bind fun _ =>
      .mapError (f := Error.function) (fun _ => rfl) _
  | some a =>
    cases group with
    | none => exact .error rfl
    | some rows =>
      rcases args with _ | ⟨m, _ | _⟩
      · exact .error rfl
      · exact (Raises.mapM fun r _ => (ha m (by simp)).eval env none r).bind fun vs =>
          a.ordinary_apply distinct vs
      · exact .error rfl

end

/-- A layer is tame if its parts are. -/
lemma tame_ofLayer {l : Layer Meaning} (h : ∀ x ∈ l.parts, x.Tame) : (ofLayer l).Tame where
  eval env group row := by
    change Ordinary (evalLayer env group row l)
    cases l with
    | literal | name => exact .ok _
    | parameter n =>
      rw [evalLayer]
      split
      · exact .ok _
      · exact .error rfl
    | countRows =>
      cases group with
      | none => exact .error rfl
      | some rows => exact .ok _
    | matched p => exact (ordinary_hasMatch env row h).andThen _
    | existsQuery q => exact (Query.ordinary_read env h _).andThen _
    | paths p =>
      refine (ordinary_pathsIn env row h).bind fun found => ?_
      split_ifs <;> exact .ok _
    | property t k =>
      exact ((h t (by simp [Layer.parts])).eval env group row).bind
        fun v => v.ordinary_property env.store k
    | index t i =>
      exact ((h t (by simp [Layer.parts])).eval env group row).bind fun v =>
        ((h i (by simp [Layer.parts])).eval env group row).bind
          fun i => v.ordinary_index env.store i
    | slice t a b =>
      have ha : ∀ x ∈ a, x.Tame := fun x hx => h x (by simp_all [Layer.parts])
      have hb : ∀ x ∈ b, x.Tame := fun x hx => h x (by simp_all [Layer.parts])
      exact ((h t (by simp [Layer.parts])).eval env group row).bind fun v =>
        (ordinary_value? env group row ha).bind fun a =>
          (ordinary_value? env group row hb).bind fun b => v.ordinary_slice a b
    | list xs => exact (ordinary_evals env group row h).andThen _
    | map es =>
      refine (Raises.mapM fun e he => ?_).andThen _
      exact ((h e.2 (List.mem_map_of_mem he)).eval env group row).andThen _
    | binary op x y =>
      exact ((h x (by simp [Layer.parts])).eval env group row).bind
        fun v => v.ordinary_binary op ((h y (by simp [Layer.parts])).eval env group row)
    | unary op x =>
      exact ((h x (by simp [Layer.parts])).eval env group row).bind fun v => v.ordinary_unary op
    | isNull x _ | existsValue x =>
      exact ((h x (by simp [Layer.parts])).eval env group row).andThen _
    | hasLabels x ls =>
      refine ((h x (by simp [Layer.parts])).eval env group row).bind fun v => ?_
      cases v <;> first | exact .ok _ | exact .error rfl
    | call n d xs => exact ordinary_call env group row h n d
    | case s bs d =>
      refine ordinary_choice env group row (fun x hx => h x (by simp_all [Layer.parts]))
        (fun b hb => ⟨h _ ?_, h _ ?_⟩) fun x hx => h x (by simp_all [Layer.parts])
      all_goals
        simp only [Layer.parts, List.mem_append, List.mem_flatMap]
        exact .inl (.inr ⟨b, hb, by simp⟩)
    | listOf n s w p =>
      have hproj : (p.getD (ofName n)).Tame := by
        cases p with
        | none => exact tame_ofName n
        | some x => exact h x (by simp [Layer.parts])
      exact ordinary_overItems env group row (h s (by simp [Layer.parts])) fun _ =>
        ordinary_valuesWhere env group (fun x hx => h x (by simp_all [Layer.parts])) hproj _
    | quantified q n s p =>
      exact ordinary_overItems env group row (h s (by simp [Layer.parts])) fun _ =>
        (Raises.mapM fun v _ => ((h p (by simp [Layer.parts])).eval env group _).bind
          fun w => w.ordinary_truth _).andThen _
    | reduce a i n s b =>
      exact ((h i (by simp [Layer.parts])).eval env group row).bind fun start =>
        ordinary_overItems env group row (h s (by simp [Layer.parts])) fun _ =>
          .foldlM (fun _ _ _ => (h b (by simp [Layer.parts])).eval env group _) start
    | matchesOf p w x =>
      have hp : ∀ y ∈ [p].flatMap PathPattern.properties, y.Tame :=
        fun y hy => h y (by simp_all [Layer.parts])
      exact (ordinary_rows env row hp).bind fun rows => ordinary_valuesWhere env group
        (fun y hy => h y (by simp_all [Layer.parts])) (h x (by simp [Layer.parts])) rows
    | mapOf n is =>
      exact ordinary_mapOf env group row (fun i hi x hx => h x (List.mem_flatMap.2 ⟨i, hi, hx⟩)) n
  paths f hf env row := by
    cases l with
    | paths p =>
      obtain rfl := Option.some.inj hf
      exact (ordinary_pathsIn env row h).andThen _
    | _ => cases hf

end Meaning

/-- **No expression comes to a clause that there is no run for**, whatever the subqueries in it. -/
theorem Cypher.Expr.tame_meaning (x : Expr) : x.meaning.Tame := by
  induction x using Expr.layerInduction with
  | _ l ih =>
    refine Meaning.tame_ofLayer ?_
    rw [Expr.parts_foldLayer, List.forall_mem_map]
    exact ih

end PropertyGraph
