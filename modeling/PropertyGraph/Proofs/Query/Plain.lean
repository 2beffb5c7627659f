import PropertyGraph.Proofs.Meaning.Constant
import PropertyGraph.Proofs.Query.Maintained

/-!
Writing queries leave plain graphs plain, provided that no entity gets into them through what
CREATE and MERGE create.

SET looks at every value that it is to store, whichever its form, and a copy of properties is plain
as they were. The maps in the patterns of CREATE and MERGE are stored as they are, so they need a
condition.
-/

namespace PropertyGraph

open Edit

/-- All maps that it gives in plain graphs, with plain parameters, are plain. -/
def Meaning.Plain (m : Meaning) : Prop :=
  ∀ (c : Context) (s : Store) (row : Row) (ps : Properties), c.Plain → s.Plain →
    m.value (c.on s) row = .ok (.map ps) → Dict.Plain ps

lemma Cypher.Expr.Constant.plain_meaning {e : Expr} (h : e.Constant) : e.meaning.Plain :=
  fun _ _ _ _ hc _ he => Value.plain_map.1 (h.plain hc he)

namespace Query

open Cypher

/-! ### CREATE -/

section

variable {c : Context} (hc : c.Plain)
include hc

lemma plain_newProperties {part : Option Meaning} (hp : ∀ x ∈ part, x.Plain) (row : Row) :
    Keeps Store.Plain (newProperties c part row) Dict.Plain := by
  have hvalue : Keeps Store.Plain (Edit.reading c fun env => Meaning.value? part env none row)
      fun v => ∀ ps, v = some (.map ps) → Dict.Plain ps := by
    refine .reading ?_
    rintro s _ hs hv ps rfl
    cases part with
    | none => cases hv
    | some m =>
      obtain ⟨v, hm, hv⟩ := bind_eq_ok.1 hv
      obtain rfl := Option.some.inj (Except.ok.inj hv)
      exact hp m rfl c s row ps hc hs hm
  refine .bind hvalue fun v hv => ?_
  split
  · exact .pure .nil
  · exact .pure .nil
  next ps => exact .pure (hv ps rfl)
  · exact .throw _

lemma plain_createNode {p : NodePattern Meaning} (hp : ∀ x ∈ p.properties, x.Plain) (row : Row) :
    Maintains Store.Plain (createNode c p row) := by
  unfold createNode
  split
  · split_ifs
    · exact .pure trivial
    · exact .throw _
  · exact .throw _
  · exact .bind (plain_newProperties hc hp row) fun ps hps =>
      .bind (.store fun s hs => hs.createNode p.labels hps) fun i _ =>
        .bind (.count _) fun _ _ => .pure trivial

lemma plain_createHop {h : Hop Meaning} (hr : ∀ x ∈ h.rel.properties, x.Plain)
    (hn : ∀ x ∈ h.node.properties, x.Plain) (near : NodeId) (row : Row) :
    Maintains Store.Plain (createHop c h near row) := by
  refine .bind (maintains_createType h.rel) fun type _ => ?_
  dsimp only
  split
  · exact .throw _
  · exact .bind (plain_createNode hc hn row) fun far _ => .bind (maintains_createEnds _ _ _) fun e _ =>
      .bind (plain_newProperties hc hr _) fun ps hps =>
        .bind (.store fun s hs => hs.createRel type e.1 e.2 hps) fun i _ =>
          .bind (.count _) fun _ _ => .pure trivial

lemma plain_createHops {hs : List (Hop Meaning)}
    (hp : ∀ h ∈ hs, (∀ x ∈ h.rel.properties, x.Plain) ∧ ∀ x ∈ h.node.properties, x.Plain)
    (near : NodeId) (row : Row) : Maintains Store.Plain (createHops c hs near row) := by
  induction hs generalizing near row with
  | nil => exact .pure trivial
  | cons h hs ih =>
    obtain ⟨hr, hn⟩ := hp h (by simp)
    exact .bind (plain_createHop hc hr hn near row) fun _ _ =>
      .bind (ih (fun k hk => hp k (by simp [hk])) _ _) fun _ _ => .pure trivial

lemma plain_createPath {p : PathPattern Meaning} (hp : ∀ x ∈ p.properties, x.Plain) (row : Row) :
    Maintains Store.Plain (createPath c p row) := by
  simp only [PathPattern.properties, List.forall_mem_append, List.forall_mem_flatMap,
    Option.mem_toList] at hp
  obtain ⟨⟨hstart, hnodes⟩, hrels⟩ := hp
  exact .bind (plain_createNode hc hstart row) fun _ _ =>
    .bind (plain_createHops hc (fun h hh => ⟨hrels h hh, hnodes h hh⟩) _ _) fun _ _ =>
      .pure trivial

lemma plain_createPaths {ps : List (PathPattern Meaning)}
    (hp : ∀ x ∈ ps.flatMap PathPattern.properties, x.Plain) (row : Row) :
    Maintains Store.Plain (createPaths c ps row) :=
  .foldlM (fun row p h =>
    plain_createPath hc (fun x hx => hp x (List.mem_flatMap.2 ⟨p, h, hx⟩)) row) row

end

/-! ### Clauses -/

variable {c : Context}

lemma plain_mergeRow (hc : c.Plain) {p : PathPattern Meaning} (hp : ∀ x ∈ p.properties, x.Plain)
    (onCreate onMatch : List (SetItem Meaning)) (row : Row) :
    Maintains Store.Plain (mergeRow c p onCreate onMatch row) := by
  refine .bind (maintains_reading c _) fun found _ => ?_
  split_ifs
  · exact .bind (plain_createPath hc hp row) fun row _ =>
      .bind (maintains_setItems Store.tended_plain c onCreate row) fun _ _ => .pure trivial
  · exact .bind (.count _) fun _ _ =>
      maintains_eachRow (maintains_setItems Store.tended_plain c onMatch) found

mutual

lemma plain_writeClause (hc : c.Plain) {k : Clause Meaning} (hk : ∀ x ∈ k.creations, x.Plain)
    (rows : List Row) : Maintains Store.Plain (writeClause c rows k) := by
  match k with
  | .create ps => simp only [writeClause]; exact .mapM (plain_createPaths hc hk)
  | .merge p onCreate onMatch =>
    simp only [writeClause]
    exact .map (.mapM (plain_mergeRow hc hk onCreate onMatch)) _
  | .set is =>
    simp only [writeClause]
    exact maintains_eachRow (maintains_setItems Store.tended_plain c is) rows
  | .remove is =>
    simp only [writeClause]
    exact maintains_eachRow (maintains_removeItems Store.tended_plain c is) rows
  | .delete detach xs =>
    simp only [writeClause]
    exact .bind (maintains_deleteRows Store.tended_plain c detach xs rows) fun _ _ => .pure trivial
  | .foreach n x body =>
    simp only [writeClause]
    refine maintains_eachRow (fun row => .bind (maintains_reading c _)
      fun items _ => .forM fun v _ => ?_) rows
    exact .bind (plain_writeClauses hc hk [Dict.insert row n v]) fun _ _ => .pure trivial
  | .matching .. | .unwind .. | .withItems .. | .returnItems .. | .call .. | .subquery .. =>
    exact .throw _

lemma plain_writeClauses (hc : c.Plain) {ks : List (Clause Meaning)}
    (hk : ∀ x ∈ Clause.allCreations ks, x.Plain) (rows : List Row) :
    Maintains Store.Plain (writeClauses c rows ks) := by
  match ks with
  | [] => simp only [writeClauses]; exact .pure trivial
  | k :: ks =>
    rw [Clause.allCreations, List.forall_mem_append] at hk
    simp only [writeClauses]
    exact .bind (plain_writeClause hc hk.1 rows) fun rows _ => plain_writeClauses hc hk.2 rows

end

/-! ### Queries -/

lemma plain_join {f : Row → Edit Output} (h : ∀ row, Maintains Store.Plain (f row)) (t : Table) :
    Maintains Store.Plain (t.join f) :=
  .bind (.mapM fun row => .bind (h row) fun _ _ => .pure trivial) fun _ _ => .pure trivial

lemma plain_step (hc : c.Plain) {k : Clause Meaning} (hk : ∀ x ∈ k.creations, x.Plain) (t : Table) :
    Maintains Store.Plain (do
      if k.isWrite then
        let rows ← writeClause c t.rows k
        return { t with rows }.declare (writtenNames k)
      else Edit.reading c fun env => readStep env k t : Edit Table) := by
  split_ifs
  · exact .bind (plain_writeClause hc hk t.rows) fun _ _ => .pure trivial
  · exact .reading fun _ _ _ _ => trivial

mutual

lemma plain_runClause (hc : c.Plain) {k : Clause Meaning} (hk : ∀ x ∈ k.creations, x.Plain)
    (t : Table) : Maintains Store.Plain (runClause c t k) := by
  match k with
  | .subquery ⟨first, unions⟩ =>
    rw [Clause.creations, List.forall_mem_append] at hk
    simp only [runClause]
    refine plain_join (fun row => ?_) t
    exact .bind (plain_runClauses hc hk.1 _) fun o _ => plain_runBranches hc hk.2 _ o
  | .create .. | .merge .. | .set .. | .remove .. | .delete .. | .foreach .. | .matching ..
  | .unwind .. | .withItems .. | .returnItems .. | .call .. =>
    simp only [runClause]
    exact plain_step hc hk t

lemma plain_runClauses (hc : c.Plain) {ks : List (Clause Meaning)}
    (hk : ∀ x ∈ Clause.allCreations ks, x.Plain) (o : Output) :
    Maintains Store.Plain (runClauses c o ks) := by
  match ks with
  | [] => simp only [runClauses]; exact .pure trivial
  | k :: ks =>
    rw [Clause.allCreations, List.forall_mem_append] at hk
    simp only [runClauses]
    exact .bind (plain_runClause hc hk.1 o.table) fun t _ =>
      plain_runClauses hc hk.2 ⟨t, k.makesResult⟩

lemma plain_runBranches (hc : c.Plain) {bs : List (Branch (Clause Meaning))}
    (hb : ∀ x ∈ Clause.branchCreations bs, x.Plain) (seed : Table) (o : Output) :
    Maintains Store.Plain (runBranches c seed o bs) := by
  match bs with
  | [] => simp only [runBranches]; exact .pure trivial
  | ⟨all, ks⟩ :: bs =>
    rw [Clause.branchCreations, List.forall_mem_append] at hb
    simp only [runBranches]
    exact .bind (plain_runClauses hc hb.1 ⟨seed, false⟩) fun o' _ =>
      plain_runBranches hc hb.2 seed _

end

/-- **A query leaves a plain graph plain** if what it creates gets plain properties. -/
theorem plain_reply (hc : c.Plain) {q : Query Meaning} (hq : ∀ x ∈ q.creations, x.Plain) :
    Maintains Store.Plain (reply c q) := by
  rw [QueryOf.creations, List.forall_mem_append] at hq
  refine .bind (.bind (plain_runClauses hc hq.1 _) fun _ _ => plain_runBranches hc hq.2 _ _)
    fun o _ => .bind .draft fun d _ => ?_
  split_ifs
  · exact .pure trivial
  · exact .pure trivial

end Query

end PropertyGraph
