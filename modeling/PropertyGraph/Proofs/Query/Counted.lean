import PropertyGraph.Proofs.Cypher.Parts
import PropertyGraph.Proofs.Query.Made
import PropertyGraph.Query.Reply

/-!
Queries count what they do as they do it. Each operation that succeeds is followed at once by what
it adds to the counters, so a query that succeeds has gone through steps that change a graph and its
counters together; what is to be shown of counters is shown of these steps. The labels that a step
gives to a node that it creates are spelled out in the query, so what holds of all labels there
holds of those in each step.

A query that fails may have stopped in between, and its counters are never seen.
-/

namespace PropertyGraph

/-- An operation together with what is counted for it; `P` is what is known of the labels that a
node is created with. -/
inductive Draft.Step (P : List String → Prop) (d : Draft) : Draft → Prop
  | createNode {labels : List String} {ps : Properties} {i : NodeId} {s : Store} (hl : P labels)
      (h : d.store.createNode labels ps = (.ok i, s)) :
      Step P d ⟨s, d.tally + { nodesCreated := 1, propertiesSet := Query.countKnown ps,
                               labelsAdded := labels.length }⟩
  | createRel {type : String} {a b : NodeId} {ps : Properties} {i : RelId} {s : Store}
      (h : d.store.createRel type a b ps = (.ok i, s)) :
      Step P d ⟨s, d.tally + { relsCreated := 1, propertiesSet := Query.countKnown ps }⟩
  | setNodeProperty {i : NodeId} {k : String} {v : Value} {s : Store}
      (h : d.store.setNodeProperty i k v = (.ok (), s)) :
      Step P d ⟨s, d.tally + { propertiesSet := 1 }⟩
  | setRelProperty {i : RelId} {k : String} {v : Value} {s : Store}
      (h : d.store.setRelProperty i k v = (.ok (), s)) :
      Step P d ⟨s, d.tally + { propertiesSet := 1 }⟩
  | removeNodeProperty {i : NodeId} {k : String} {b : Bool} {s : Store}
      (h : d.store.removeNodeProperty i k = (.ok b, s)) :
      Step P d ⟨s, d.tally + if b then { propertiesSet := 1 } else {}⟩
  | removeRelProperty {i : RelId} {k : String} {b : Bool} {s : Store}
      (h : d.store.removeRelProperty i k = (.ok b, s)) :
      Step P d ⟨s, d.tally + if b then { propertiesSet := 1 } else {}⟩
  | addLabel {i : NodeId} {l : String} {b : Bool} {s : Store}
      (h : d.store.addLabel i l = (.ok b, s)) :
      Step P d ⟨s, d.tally + if b then { labelsAdded := 1 } else {}⟩
  | removeLabel {i : NodeId} {l : String} {b : Bool} {s : Store}
      (h : d.store.removeLabel i l = (.ok b, s)) :
      Step P d ⟨s, d.tally + if b then { labelsRemoved := 1 } else {}⟩
  | deleteRel {i : RelId} {b : Bool} {s : Store} (h : d.store.deleteRel i = (b, s)) :
      Step P d ⟨s, d.tally + if b then { relsDeleted := 1 } else {}⟩
  | deleteNode {i : NodeId} {n : Option Nat} {s : Store}
      (h : d.store.deleteNode i false = (.ok n, s)) :
      Step P d ⟨s, d.tally + if n.isSome then { nodesDeleted := 1 } else {}⟩
  | detachNode {i : NodeId} {n : Option Nat} {s : Store}
      (h : d.store.deleteNode i true = (.ok n, s)) :
      Step P d ⟨s, d.tally + n.elim {} fun k => { nodesDeleted := 1, relsDeleted := k }⟩
  | matched (n : Nat) : Step P d { d with tally := d.tally + { mergesMatched := n } }

abbrev Draft.Steps (P : List String → Prop) : Draft → Draft → Prop :=
  Relation.ReflTransGen (Draft.Step P)

namespace Edit

variable {α β : Type} {P : List String → Prop}

/-- Whenever it succeeds, an edit has gone through counted steps. -/
def Counted (P : List String → Prop) (e : Edit α) : Prop :=
  ∀ d a d', ExceptT.run e d = (.ok a, d') → Draft.Steps P d d'

namespace Counted

lemma pure (a : α) : Counted P (Pure.pure a) := by
  intro d b d' h
  obtain ⟨-, rfl⟩ := Prod.mk.inj h
  exact .refl

lemma throw (x : Error) : Counted P (MonadExcept.throw x : Edit α) := fun _ _ _ h => nomatch h

lemma throw_bind (x : Error) (f : α → Edit β) : Counted P (MonadExcept.throw x >>= f) :=
  throw (α := β) x

lemma bind {e : Edit α} {f : α → Edit β} (he : Counted P e) (hf : ∀ a, Counted P (f a)) :
    Counted P (e >>= f) := by
  intro d b d'' h
  obtain ⟨a, d', hrun, hrun'⟩ := run_bind_eq_ok.1 h
  exact (he d a d' hrun).trans (hf a d' b d'' hrun')

lemma reading (c : Context) (f : Env → Except Error α) : Counted P (Edit.reading c f) := by
  intro d a d' h
  rw [run_reading] at h
  obtain ⟨-, rfl⟩ := Prod.mk.inj h
  exact .refl

/-- An operation is counted by what comes after it. -/
lemma store {op : Store.Operation α} {t : α → Tally} {f g : α → Edit β}
    (hstep : ∀ {d : Draft} {a : α} {s : Store}, op d.store = (.ok a, s) →
      Draft.Step P d ⟨s, d.tally + t a⟩)
    (hf : ∀ a d, ExceptT.run (f a) d = ExceptT.run (g a) { d with tally := d.tally + t a })
    (hg : ∀ a, Counted P (g a)) : Counted P (Edit.store op >>= f) := by
  intro d b d'' h
  obtain ⟨a, d', hrun, hrun'⟩ := run_bind_eq_ok.1 h
  obtain ⟨hop, htally⟩ := run_store_eq_ok hrun
  rw [hf, htally] at hrun'
  exact .head (hstep hop) (hg a _ b d'' hrun')

lemma store_count {op : Store.Operation α} {t : α → Tally} {f : α → Edit Unit}
    (hstep : ∀ {d : Draft} {a : α} {s : Store}, op d.store = (.ok a, s) →
      Draft.Step P d ⟨s, d.tally + t a⟩)
    (hf : ∀ a d, ExceptT.run (f a) d = (.ok (), { d with tally := d.tally + t a })) :
    Counted P (Edit.store op >>= f) :=
  .store hstep (g := fun _ => Pure.pure ()) hf fun _ => .pure _

lemma map {e : Edit α} (he : Counted P e) (f : α → β) : Counted P (f <$> e) :=
  .bind he fun _ => .pure _

lemma forM {xs : List β} {f : β → Edit PUnit} (h : ∀ x, Counted P (f x)) :
    Counted P (xs.forM f) := by
  induction xs with
  | nil => exact .pure _
  | cons x xs ih => exact .bind (h x) fun _ => ih

lemma foldlM {xs : List β} {f : α → β → Edit α} (h : ∀ a, ∀ x ∈ xs, Counted P (f a x)) (a : α) :
    Counted P (xs.foldlM f a) := by
  induction xs generalizing a with
  | nil => exact .pure a
  | cons x xs ih =>
    have hxs : ∀ a, ∀ y ∈ xs, Counted P (f a y) := fun a y hy => h a y (List.mem_cons_of_mem x hy)
    exact .bind (h a x List.mem_cons_self) fun a => ih hxs a

lemma mapM {xs : List β} {f : β → Edit α} (h : ∀ x, Counted P (f x)) :
    Counted P (xs.mapM f) := by
  induction xs with
  | nil => exact .pure _
  | cons x xs ih =>
    rw [List.mapM_cons]
    exact .bind (h x) fun _ => .bind ih fun _ => .pure _

end Counted

end Edit

namespace Query

open Cypher Edit

variable {P : List String → Prop}

/-! ### SET and REMOVE -/

lemma counted_setProperty (target : Value) (k : String) (v : Value) :
    Counted P (setProperty target k v) := by
  unfold setProperty
  split_ifs
  · exact .throw_bind _ _
  · cases target with
    | null => exact .pure _
    | node i => exact .store_count .setNodeProperty fun _ _ => rfl
    | rel i => exact .store_count .setRelProperty fun _ _ => rfl
    | _ => exact .throw_bind _ _

lemma counted_setAll (target : Value) (ps : Properties) : Counted P (setAll target ps) :=
  .forM fun p => counted_setProperty target p.1 p.2

section

variable (c : Context)

lemma counted_replaceAll (target : Value) (ps : Properties) :
    Counted P (replaceAll c target ps) := by
  unfold replaceAll
  split_ifs
  · exact .pure _
  · exact .bind (.reading _ _) fun _ =>
      .bind (.forM fun k => counted_setProperty target k .null) fun _ => counted_setAll target ps

lemma counted_addLabels (ls : List String) (v : Option Value) : Counted P (addLabels ls v) := by
  unfold addLabels
  split
  · exact .pure _
  · exact .pure _
  · exact .forM fun l => .store_count .addLabel fun b _ => by cases b <;> rfl
  · exact .throw _

lemma counted_setItem (row : Row) (i : SetItem Meaning) : Counted P (setItem c row i) := by
  cases i with
  | property e k v => exact .bind (.reading _ _) fun p => counted_setProperty p.1 k p.2
  | replace n v => exact .bind (.reading _ _) fun _ => counted_replaceAll c _ _
  | extend n v => exact .bind (.reading _ _) fun _ => counted_setAll _ _
  | labels n ls => exact counted_addLabels ls _

lemma counted_setItems (is : List (SetItem Meaning)) (row : Row) : Counted P (setItems c is row) :=
  .forM fun i => counted_setItem c row i

lemma counted_removeLabels (ls : List String) (v : Option Value) :
    Counted P (removeLabels ls v) := by
  unfold removeLabels
  split
  · exact .forM fun l => .store_count .removeLabel fun b _ => by cases b <;> rfl
  · exact .pure _

lemma counted_removeItem (row : Row) (i : RemoveItem Meaning) : Counted P (removeItem c row i) := by
  cases i with
  | property e k =>
    refine .bind (.reading _ _) fun target => ?_
    cases target <;> simp only [removeProperty]
    case null => rw [pure_bind]; exact .pure _
    case node i => exact .store_count .removeNodeProperty fun b _ => by cases b <;> rfl
    case rel i => exact .store_count .removeRelProperty fun b _ => by cases b <;> rfl
    all_goals exact .throw_bind _ _
  | labels n ls => exact counted_removeLabels ls _

/-! ### CREATE -/

lemma counted_createEnds (d : Direction) (near far : NodeId) :
    Counted P (createEnds d near far) := by
  cases d with
  | undirected => exact .throw _
  | _ => exact .pure _

lemma counted_createType (p : RelPattern Meaning) : Counted P (createType p) := by
  unfold createType
  split
  · exact .throw _
  · exact .pure _
  · exact .throw _

lemma counted_newProperties (part : Option Meaning) (row : Row) :
    Counted P (newProperties c part row) := by
  refine .bind (.reading _ _) fun v => ?_
  split
  · exact .pure _
  · exact .pure _
  · exact .pure _
  · exact .throw _

lemma counted_createNode {p : NodePattern Meaning} (hp : P p.labels) (row : Row) :
    Counted P (createNode c p row) := by
  unfold createNode
  split
  · split_ifs
    · exact .pure _
    · exact .throw _
  · exact .throw _
  · exact .bind (counted_newProperties c _ row) fun _ =>
      .store (.createNode hp) (fun _ _ => rfl) fun _ => .pure _

lemma counted_createHop {h : Hop Meaning} (hp : P h.node.labels) (near : NodeId) (row : Row) :
    Counted P (createHop c h near row) := by
  refine .bind (counted_createType h.rel) fun type => ?_
  dsimp only
  split
  · exact .throw _
  · exact .bind (counted_createNode c hp row) fun far => .bind (counted_createEnds _ _ _)
      fun e => .bind (counted_newProperties c _ _) fun _ =>
        .store .createRel (fun _ _ => rfl) fun _ => .pure _

lemma counted_createHops {hs : List (Hop Meaning)} (hp : ∀ h ∈ hs, P h.node.labels)
    (near : NodeId) (row : Row) : Counted P (createHops c hs near row) := by
  induction hs generalizing near row with
  | nil => exact .pure _
  | cons h hs ih =>
    obtain ⟨hh, hhs⟩ := List.forall_mem_cons.1 hp
    exact .bind (counted_createHop c hh near row) fun _ => .bind (ih hhs _ _) fun _ => .pure _

lemma counted_createPath {p : PathPattern Meaning} (hp : ∀ ls ∈ p.labels, P ls) (row : Row) :
    Counted P (createPath c p row) := by
  rw [PathPattern.labels, List.forall_mem_cons, List.forall_mem_map] at hp
  exact .bind (counted_createNode c hp.1 row) fun _ =>
    .bind (counted_createHops c hp.2 _ _) fun _ => .pure _

lemma counted_createPaths {ps : List (PathPattern Meaning)}
    (hp : ∀ ls ∈ ps.flatMap PathPattern.labels, P ls) (row : Row) :
    Counted P (createPaths c ps row) :=
  .foldlM (fun row p h => counted_createPath c
    (fun ls hls => hp ls (List.mem_flatMap.2 ⟨p, h, hls⟩)) row) row

/-! ### DELETE -/

lemma counted_deleteRel (i : RelId) : Counted P (deleteRel i) :=
  .store_count (fun h => .deleteRel (Prod.ext (Except.ok.inj (Prod.mk.inj h).1) (Prod.mk.inj h).2))
    fun b _ => by cases b <;> rfl

lemma counted_dropNode (detach : Bool) (waiting : List NodeId) (i : NodeId) :
    Counted P (dropNode detach waiting i) := by
  have hdetach : Counted P (detachNode i) :=
    .store_count .detachNode fun n _ => by cases n <;> rfl
  unfold dropNode
  split_ifs
  · exact .bind hdetach fun _ => .pure _
  · exact .pure _
  · exact .pure _

mutual

lemma counted_deleteValue (detach : Bool) (waiting : List NodeId) (v : Value) :
    Counted P (deleteValue detach waiting v) := by
  match v with
  | .null => simp only [deleteValue]; exact .pure _
  | .node i => simp only [deleteValue]; exact counted_dropNode detach waiting i
  | .rel i => simp only [deleteValue]; exact .bind (counted_deleteRel i) fun _ => .pure _
  | .path p =>
    simp only [deleteValue]
    exact .bind (.forM counted_deleteRel) fun _ =>
      .foldlM (fun w i _ => counted_dropNode detach w i) waiting
  | .list items => simp only [deleteValue]; exact counted_deleteItems detach waiting items
  | .bool _ | .num _ | .str _ | .map _ => exact .throw _

lemma counted_deleteItems (detach : Bool) (waiting : List NodeId) (vs : List Value) :
    Counted P (deleteItems detach waiting vs) := by
  match vs with
  | [] => simp only [deleteItems]; exact .pure _
  | v :: vs =>
    simp only [deleteItems]
    exact .bind (counted_deleteValue detach waiting v) fun w => counted_deleteItems detach w vs

end

lemma counted_deleteRows (detach : Bool) (targets : List Meaning) (rows : List Row) :
    Counted P (deleteRows c detach targets rows) := by
  have hdelete (i : NodeId) : Counted P (deleteNode i) :=
    .store_count .deleteNode fun n _ => by cases n <;> rfl
  refine .bind (.foldlM (fun w row _ => ?_) []) fun _ => .forM hdelete
  exact .foldlM (fun w _ _ => .bind (.reading _ _) fun v => counted_deleteValue detach w v) w

/-! ### Clauses -/

lemma counted_eachRow {f : Row → Edit Unit} (h : ∀ row, Counted P (f row)) (rows : List Row) :
    Counted P (eachRow f rows) :=
  .bind (.forM h) fun _ => .pure _

lemma counted_matched (n : Nat) : Counted P (Edit.count { mergesMatched := n }) := by
  intro d a d' h
  obtain ⟨-, rfl⟩ := Prod.mk.inj h
  exact .single (.matched n)

lemma counted_mergeRow {p : PathPattern Meaning} (hp : ∀ ls ∈ p.labels, P ls)
    (onCreate onMatch : List (SetItem Meaning)) (row : Row) :
    Counted P (mergeRow c p onCreate onMatch row) := by
  refine .bind (.reading _ _) fun found => ?_
  split_ifs
  · exact .bind (counted_createPath c hp row) fun row =>
      .bind (counted_setItems c onCreate row) fun _ => .pure _
  · exact .bind (counted_matched _) fun _ => counted_eachRow (counted_setItems c onMatch) found

mutual

lemma counted_writeClause {k : Clause Meaning} (hk : ∀ ls ∈ k.newLabels, P ls) (rows : List Row) :
    Counted P (writeClause c rows k) := by
  match k with
  | .create ps => simp only [writeClause]; exact .mapM (counted_createPaths c hk)
  | .merge p onCreate onMatch =>
    simp only [writeClause]
    exact .map (.mapM (counted_mergeRow c hk onCreate onMatch)) _
  | .set is => simp only [writeClause]; exact counted_eachRow (counted_setItems c is) rows
  | .remove is =>
    simp only [writeClause]
    exact counted_eachRow (fun row => .forM (counted_removeItem c row)) rows
  | .delete detach xs =>
    simp only [writeClause]
    exact .bind (counted_deleteRows c detach xs rows) fun _ => .pure _
  | .foreach n x body =>
    simp only [writeClause]
    exact counted_eachRow (fun row => .bind (.reading _ _) fun items =>
      .forM fun v => .bind (counted_writeClauses hk [Dict.insert row n v]) fun _ => .pure _) rows
  | .matching .. | .unwind .. | .withItems .. | .returnItems .. | .call .. | .subquery .. =>
    exact .throw _

lemma counted_writeClauses {ks : List (Clause Meaning)}
    (hk : ∀ ls ∈ Clause.allNewLabels ks, P ls) (rows : List Row) :
    Counted P (writeClauses c rows ks) := by
  match ks with
  | [] => simp only [writeClauses]; exact .pure _
  | k :: ks =>
    rw [Clause.allNewLabels, List.forall_mem_append] at hk
    simp only [writeClauses]
    exact .bind (counted_writeClause hk.1 rows) fun rows => counted_writeClauses hk.2 rows

end

/-! ### Queries -/

lemma counted_step {k : Clause Meaning} (hk : ∀ ls ∈ k.newLabels, P ls) (t : Table) :
    Counted P (do
      if k.isWrite then
        let rows ← writeClause c t.rows k
        return { t with rows }.declare (writtenNames k)
      else Edit.reading c fun env => readStep env k t : Edit Table) := by
  split_ifs
  · exact .bind (counted_writeClause c hk t.rows) fun _ => .pure _
  · exact .reading _ _

mutual

lemma counted_runClause {k : Clause Meaning} (hk : ∀ ls ∈ k.newLabels, P ls) (t : Table) :
    Counted P (runClause c t k) := by
  match k with
  | .subquery ⟨first, unions⟩ =>
    rw [Clause.newLabels, List.forall_mem_append] at hk
    simp only [runClause]
    have hrow (row : Row) : Counted P (do
        let o ← runClauses c ⟨.ofRow row, false⟩ first
        runBranches c (.ofRow row) o unions) :=
      .bind (counted_runClauses hk.1 _) fun o => counted_runBranches hk.2 _ o
    exact .bind (.mapM fun row => .bind (hrow row) fun _ => .pure _) fun _ => .pure _
  | .create .. | .merge .. | .set .. | .remove .. | .delete .. | .foreach .. | .matching ..
  | .unwind .. | .withItems .. | .returnItems .. | .call .. =>
    simp only [runClause]
    exact counted_step c hk t

lemma counted_runClauses {ks : List (Clause Meaning)}
    (hk : ∀ ls ∈ Clause.allNewLabels ks, P ls) (o : Output) :
    Counted P (runClauses c o ks) := by
  match ks with
  | [] => simp only [runClauses]; exact .pure _
  | k :: ks =>
    rw [Clause.allNewLabels, List.forall_mem_append] at hk
    simp only [runClauses]
    exact .bind (counted_runClause hk.1 o.table) fun t =>
      counted_runClauses hk.2 ⟨t, k.makesResult⟩

lemma counted_runBranches {bs : List (Branch (Clause Meaning))}
    (hb : ∀ ls ∈ Clause.branchNewLabels bs, P ls) (seed : Table) (o : Output) :
    Counted P (runBranches c seed o bs) := by
  match bs with
  | [] => simp only [runBranches]; exact .pure _
  | ⟨all, ks⟩ :: bs =>
    rw [Clause.branchNewLabels, List.forall_mem_append] at hb
    simp only [runBranches]
    exact .bind (counted_runClauses hb.1 ⟨seed, false⟩) fun o' => counted_runBranches hb.2 seed _

end

/-- **A query counts what it does.** -/
theorem counted_run (seed : Table) {q : Query Meaning} (hq : ∀ ls ∈ q.newLabels, P ls) :
    Counted P (run c seed q) := by
  rw [QueryOf.newLabels, List.forall_mem_append] at hq
  exact .bind (counted_runClauses c hq.1 _) fun _ => counted_runBranches c hq.2 _ _

end

end Query

end PropertyGraph
