import PropertyGraph.Engine.Command
import PropertyGraph.Proofs.Cypher.Contents
import PropertyGraph.Proofs.Cypher.Map
import PropertyGraph.Proofs.Meaning.Fault
import PropertyGraph.Proofs.Query.Reading

/-!
Which clauses come to where none of their kind is run.

The parser lets FOREACH go through all clauses that may write, and so through subqueries that write;
but there is no run for them there. All other clauses of a text come to a run for their kind, however
they are nested.
-/

namespace PropertyGraph

open Cypher

/-! ### Clauses under FOREACH -/

namespace Cypher

namespace Clause

variable {ε : Type}

mutual

/-- The clauses that stand right under FOREACH, at any depth. -/
def looped : Clause ε → List (Clause ε)
  | .foreach _ _ cs => cs ++ allLooped cs
  | .subquery ⟨first, unions⟩ => allLooped first ++ branchLooped unions
  | _ => []

def allLooped : List (Clause ε) → List (Clause ε)
  | [] => []
  | c :: cs => c.looped ++ allLooped cs

def branchLooped : List (Branch (Clause ε)) → List (Clause ε)
  | [] => []
  | ⟨_, cs⟩ :: bs => allLooped cs ++ branchLooped bs

end

def isSubquery : Clause ε → Bool
  | .subquery _ => true
  | _ => false

end Clause

def QueryOf.looped {ε : Type} (q : Query ε) : List (Clause ε) :=
  Clause.allLooped q.first ++ Clause.branchLooped q.unions

/-- Whether a subquery stands right under FOREACH. -/
def Statement.loopsSubquery : Statement → Bool
  | .query q => q.looped.any Clause.isSubquery
  | _ => false

end Cypher

/-! ### Commands and edits -/

/-- The fault that a step ends with, from any state, meets a condition. -/
def Fails {σ α : Type} (P : Error → Prop) (x : ExceptT Error (StateM σ) α) : Prop :=
  ∀ s, Raises P (ExceptT.run x s).1

namespace Fails

variable {σ α β : Type} {P : Error → Prop} {x : ExceptT Error (StateM σ) α}

lemma pure (a : α) : Fails P (Pure.pure a : ExceptT Error (StateM σ) α) := fun _ => .ok a

lemma throw {e : Error} (h : P e) : Fails P (MonadExcept.throw e : ExceptT Error (StateM σ) α) :=
  fun _ => .error h

lemma bind {f : α → ExceptT Error (StateM σ) β} (hx : Fails P x) (hf : ∀ a, Fails P (f a)) :
    Fails P (x >>= f) := by
  intro s
  have hs := hx s
  rw [run_bind]
  rcases h : ExceptT.run x s with ⟨e | a, t⟩
  · exact .error (hs e (congrArg Prod.fst h))
  · exact hf a t

/-- What would come after a refusal does not matter. -/
lemma throw_bind {e : Error} (h : P e) (f : α → ExceptT Error (StateM σ) β) :
    Fails P (MonadExcept.throw e >>= f) := by
  intro s
  rw [run_bind]
  exact .error h

lemma get : Fails P (MonadState.get : ExceptT Error (StateM σ) σ) := fun _ => .ok _

lemma set (s : σ) : Fails P (MonadStateOf.set s : ExceptT Error (StateM σ) PUnit) := fun _ => .ok _

lemma map (hx : Fails P x) (f : α → β) : Fails P (f <$> x) := hx.bind fun a => .pure (f a)

variable {xs : List β}

lemma forM {f : β → ExceptT Error (StateM σ) PUnit} (h : ∀ x ∈ xs, Fails P (f x)) :
    Fails P (xs.forM f) := by
  induction xs with
  | nil => exact .pure _
  | cons x xs ih =>
    rw [List.forall_mem_cons] at h
    exact h.1.bind fun _ => ih h.2

lemma foldlM {f : α → β → ExceptT Error (StateM σ) α} (h : ∀ a, ∀ x ∈ xs, Fails P (f a x))
    (a : α) : Fails P (xs.foldlM f a) := by
  induction xs generalizing a with
  | nil => exact .pure _
  | cons x xs ih =>
    exact (h a x List.mem_cons_self).bind fun b => ih (fun a y hy => h a y (by simp [hy])) b

lemma mapM {f : β → ExceptT Error (StateM σ) α} (h : ∀ x, Fails P (f x)) :
    Fails P (xs.mapM f) := by
  induction xs with
  | nil => exact .pure _
  | cons x xs ih =>
    rw [List.mapM_cons]
    exact (h x).bind fun y => ih.bind fun ys => .pure _

end Fails

/-- A condition that all faults but those of dispatch meet. -/
def Error.Lenient (P : Error → Prop) : Prop := ∀ e : Error, e.isDispatch = false → P e

namespace Edit

variable {α : Type} {P : Error → Prop} (hP : Error.Lenient P)

include hP

lemma fails_reading (c : Context) {f : Env → Except Error α} (h : ∀ env, Ordinary (f env)) :
    Fails P (reading c f) := by
  intro d
  rw [run_reading]
  exact (h _).imp hP

lemma fails_store (op : Store.Operation α) : Fails P (Edit.store op) := by
  intro d
  rw [run_store]
  exact .mapError (fun e => hP (.store e) rfl) _

omit hP

lemma fails_count (t : Tally) : Fails P (count t) := fun _ => .ok _

lemma fails_countIf (b : Bool) (t : Tally) : Fails P (if b then count t else pure ()) := by
  split_ifs
  · exact fails_count t
  · exact .pure ()

end Edit

open Edit

namespace Query

variable {P : Error → Prop} (hP : Error.Lenient P) (c : Context)

include hP

/-! ### CREATE -/

lemma fails_newProperties {part : Option Meaning} (h : ∀ x ∈ part, x.Tame) (row : Row) :
    Fails P (newProperties c part row) := by
  refine (fails_reading hP c fun env => Meaning.ordinary_value? env none row h).bind fun v => ?_
  split
  · exact .pure _
  · exact .pure _
  · exact .pure _
  · exact .throw (hP _ rfl)

lemma fails_createNode {p : NodePattern Meaning} (h : ∀ x ∈ p.properties, x.Tame) (row : Row) :
    Fails P (createNode c p row) := by
  unfold createNode
  split
  · split_ifs
    · exact .pure _
    · exact .throw (hP _ rfl)
  · exact .throw (hP _ rfl)
  · exact (fails_newProperties hP c h row).bind fun _ => (fails_store hP _).bind fun _ =>
      (fails_count _).bind fun _ => .pure _

lemma fails_createHop {h : Hop Meaning} (hrel : ∀ x ∈ h.rel.properties, x.Tame)
    (hnode : ∀ x ∈ h.node.properties, x.Tame) (near : NodeId) (row : Row) :
    Fails P (createHop c h near row) := by
  have htype : Fails P (createType h.rel) := by
    unfold createType
    split
    · exact .throw (hP _ rfl)
    · exact .pure _
    · exact .throw (hP _ rfl)
  have hends (far : NodeId) : Fails P (createEnds h.rel.direction near far) := by
    cases h.rel.direction with
    | undirected => exact .throw (hP _ rfl)
    | outgoing | incoming => exact .pure _
  refine htype.bind fun type => ?_
  dsimp only
  split
  · exact .throw (hP _ rfl)
  · exact (fails_createNode hP c hnode row).bind fun far => (hends _).bind fun _ =>
      (fails_newProperties hP c hrel _).bind fun _ => (fails_store hP _).bind fun _ =>
        (fails_count _).bind fun _ => .pure _

lemma fails_createHops {hs : List (Hop Meaning)}
    (h : ∀ k ∈ hs, (∀ x ∈ k.rel.properties, x.Tame) ∧ ∀ x ∈ k.node.properties, x.Tame)
    (near : NodeId) (row : Row) : Fails P (createHops c hs near row) := by
  induction hs generalizing near row with
  | nil => exact .pure _
  | cons k hs ih =>
    rw [List.forall_mem_cons] at h
    exact (fails_createHop hP c h.1.1 h.1.2 near row).bind fun _ =>
      (ih h.2 _ _).bind fun _ => .pure _

lemma fails_createPath {p : PathPattern Meaning} (h : ∀ x ∈ p.properties, x.Tame) (row : Row) :
    Fails P (createPath c p row) := by
  simp only [PathPattern.properties, List.forall_mem_append, List.forall_mem_flatMap,
    Option.mem_toList] at h
  obtain ⟨⟨hstart, hnodes⟩, hrels⟩ := h
  exact (fails_createNode hP c hstart row).bind fun _ =>
    (fails_createHops hP c (fun k hk => ⟨hrels k hk, hnodes k hk⟩) _ _).bind fun _ => .pure _

lemma fails_createPaths {ps : List (PathPattern Meaning)}
    (h : ∀ x ∈ ps.flatMap PathPattern.properties, x.Tame) (row : Row) :
    Fails P (createPaths c ps row) :=
  .foldlM (fun row _ hp =>
    fails_createPath hP c (fun x hx => h x (List.mem_flatMap.2 ⟨_, hp, hx⟩)) row) row

/-! ### SET and REMOVE -/

lemma fails_setProperty (target : Value) (k : String) (v : Value) :
    Fails P (setProperty target k v) := by
  unfold setProperty
  split_ifs
  · exact .throw_bind (hP _ rfl) _
  · cases target with
    | null => exact .pure _
    | node | rel => exact (fails_store hP _).bind fun _ => fails_count _
    | _ => exact .throw_bind (hP _ rfl) _

lemma fails_setAll (target : Value) (ps : Properties) : Fails P (setAll target ps) :=
  .forM fun p _ => fails_setProperty hP target p.1 p.2

lemma fails_replaceAll (target : Value) (ps : Properties) : Fails P (replaceAll c target ps) := by
  have hold (env : Env) : Ordinary (replaced env.store target) := by
    cases target <;> first | exact .ok _ | exact .error rfl
  unfold replaceAll
  split_ifs
  · exact .pure _
  · exact (fails_reading hP c hold).bind fun old =>
      (Fails.forM fun k _ => fails_setProperty hP target k .null).bind fun _ =>
        fails_setAll hP target ps

lemma fails_addLabels (ls : List String) (v : Option Value) : Fails P (addLabels ls v) := by
  unfold addLabels
  split
  · exact .pure _
  · exact .pure _
  · exact .forM fun l _ => (fails_store hP _).bind fun b => fails_countIf b _
  · exact .throw (hP _ rfl)

lemma fails_setItem (row : Row) {i : SetItem Meaning} (h : ∀ x ∈ i.parts, x.Tame) :
    Fails P (setItem c row i) := by
  have hsource (m : Meaning) (hm : m.Tame) : Fails P (sourceOf c m row) := by
    refine fails_reading hP c fun env => (hm.eval env none row).bind fun v => ?_
    cases v <;> first | exact .ok _ | exact .error rfl
  cases i with
  | property e k v =>
    refine (fails_reading hP c fun env => ?_).bind fun p => fails_setProperty hP p.1 k p.2
    exact ((h e (by simp [SetItem.parts])).eval env none row).bind
      fun _ => ((h v (by simp [SetItem.parts])).eval env none row).andThen _
  | replace n v =>
    exact (hsource v (h v (by simp [SetItem.parts]))).bind fun _ => fails_replaceAll hP c _ _
  | extend n v =>
    exact (hsource v (h v (by simp [SetItem.parts]))).bind fun _ => fails_setAll hP _ _
  | labels n ls => exact fails_addLabels hP ls _

lemma fails_setItems {is : List (SetItem Meaning)} (h : ∀ x ∈ is.flatMap SetItem.parts, x.Tame)
    (row : Row) : Fails P (setItems c is row) :=
  .forM fun _ hi => fails_setItem hP c row fun x hx => h x (List.mem_flatMap.2 ⟨_, hi, hx⟩)

lemma fails_removeItem (row : Row) {i : RemoveItem Meaning} (h : ∀ x ∈ i.parts, x.Tame) :
    Fails P (removeItem c row i) := by
  have hremove (k : String) (v : Value) : Fails P (removeProperty k v) := by
    cases v with
    | null => exact .pure _
    | node | rel => exact fails_store hP _
    | _ => exact .throw (hP _ rfl)
  cases i with
  | property e k =>
    exact (fails_reading hP c fun env => (h e (by simp [RemoveItem.parts])).eval env none row).bind
      fun target => (hremove k target).bind fun b => fails_countIf b _
  | labels n ls =>
    rw [removeItem]
    unfold removeLabels
    split
    · exact .forM fun l _ => (fails_store hP _).bind fun b => fails_countIf b _
    · exact .pure _

/-! ### DELETE -/

lemma fails_deleteRel (i : RelId) : Fails P (deleteRel i) :=
  (fails_store hP _).bind fun b => fails_countIf b _

lemma fails_dropNode (detach : Bool) (waiting : List NodeId) (i : NodeId) :
    Fails P (dropNode detach waiting i) := by
  unfold dropNode
  split_ifs
  · refine Fails.bind ((fails_store hP _).bind fun n => ?_) fun _ => .pure _
    cases n with
    | some n => exact fails_count _
    | none => exact .pure _
  · exact .pure _
  · exact .pure _

omit hP

mutual

lemma fails_deleteValue (hP : Error.Lenient P) (detach : Bool) (waiting : List NodeId)
    (v : Value) : Fails P (deleteValue detach waiting v) := by
  match v with
  | .null => simp only [deleteValue]; exact .pure _
  | .node i => simp only [deleteValue]; exact fails_dropNode hP detach waiting i
  | .rel i =>
    simp only [deleteValue]
    exact (fails_deleteRel hP i).bind fun _ => .pure _
  | .path p =>
    simp only [deleteValue]
    exact (Fails.forM fun i _ => fails_deleteRel hP i).bind fun _ =>
      .foldlM (fun w i _ => fails_dropNode hP detach w i) waiting
  | .list items => simp only [deleteValue]; exact fails_deleteItems hP detach waiting items
  | .bool _ | .num _ | .str _ | .map _ => exact .throw (hP _ rfl)

lemma fails_deleteItems (hP : Error.Lenient P) (detach : Bool) (waiting : List NodeId)
    (vs : List Value) : Fails P (deleteItems detach waiting vs) := by
  match vs with
  | [] => simp only [deleteItems]; exact .pure _
  | v :: vs =>
    simp only [deleteItems]
    exact (fails_deleteValue hP detach waiting v).bind fun w => fails_deleteItems hP detach w vs

end

include hP

lemma fails_deleteRows (detach : Bool) {targets : List Meaning} (h : ∀ x ∈ targets, x.Tame)
    (rows : List Row) : Fails P (deleteRows c detach targets rows) := by
  refine (Fails.foldlM (fun w row _ => ?_) []).bind fun waiting => .forM fun i _ =>
    (fails_store hP _).bind fun n => fails_countIf n.isSome _
  exact .foldlM (fun w m hm => (fails_reading hP c fun env => (h m hm).eval env none row).bind
    fun v => fails_deleteValue hP detach w v) w

/-! ### Clauses -/

omit hP in
lemma fails_eachRow {f : Row → Edit Unit} (h : ∀ row, Fails P (f row)) (rows : List Row) :
    Fails P (eachRow f rows) :=
  (Fails.forM fun row _ => h row).bind fun _ => .pure _

lemma fails_mergeRow {p : PathPattern Meaning} {onCreate onMatch : List (SetItem Meaning)}
    (hp : ∀ x ∈ p.properties, x.Tame) (hc : ∀ x ∈ onCreate.flatMap SetItem.parts, x.Tame)
    (hm : ∀ x ∈ onMatch.flatMap SetItem.parts, x.Tame) (row : Row) :
    Fails P (mergeRow c p onCreate onMatch row) := by
  have hp' : ∀ x ∈ [p].flatMap PathPattern.properties, x.Tame := by simpa using hp
  have hrows (env : Env) : Ordinary (env.matcher.rows [Meaning.parts p env] row) :=
    Meaning.ordinary_rows env row hp'
  refine (fails_reading hP c hrows).bind fun found => ?_
  split_ifs
  · exact (fails_createPath hP c hp row).bind fun row =>
      (fails_setItems hP c hc row).bind fun _ => .pure _
  · exact (fails_count _).bind fun _ => fails_eachRow (fails_setItems hP c hm) found

/-- A clause that FOREACH may come to: it writes, and if it is a subquery it is refused. -/
structure Loopable (P : Error → Prop) (k : Clause Meaning) : Prop where
  writes : k.isWrite
  refused : k.isSubquery → P (.meaning (.notWriting k.name))

omit hP

mutual

lemma fails_writeClause (hP : Error.Lenient P) {k : Clause Meaning} (ht : ∀ x ∈ k.parts, x.Tame)
    (hk : Loopable P k) (hl : ∀ j ∈ k.looped, Loopable P j) (rows : List Row) :
    Fails P (writeClause c rows k) := by
  match k with
  | .create ps => simp only [writeClause]; exact .mapM (fails_createPaths hP c ht)
  | .merge p onCreate onMatch =>
    simp only [Clause.parts, List.forall_mem_append] at ht
    simp only [writeClause]
    exact .map (.mapM (fails_mergeRow hP c ht.1.1 ht.1.2 ht.2)) _
  | .set is => simp only [writeClause]; exact fails_eachRow (fails_setItems hP c ht) rows
  | .remove is =>
    simp only [writeClause]
    exact fails_eachRow (fun row => .forM fun i hi =>
      fails_removeItem hP c row fun x hx => ht x (List.mem_flatMap.2 ⟨i, hi, hx⟩)) rows
  | .delete detach xs =>
    simp only [writeClause]
    exact (fails_deleteRows hP c detach ht rows).bind fun _ => .pure _
  | .foreach n x body =>
    rw [Clause.parts, List.forall_mem_cons] at ht
    rw [Clause.looped, List.forall_mem_append] at hl
    have hitems (row : Row) (env : Env) :
        Ordinary (do foreachItems (← x.value env row)) := by
      refine (ht.1.eval env none row).bind fun v => ?_
      cases v <;> first | exact .ok _ | exact .error rfl
    simp only [writeClause]
    refine fails_eachRow (fun row => (fails_reading hP c (hitems row)).bind
      fun items => .forM fun v _ => ?_) rows
    exact (fails_writeClauses hP ht.2 hl.1 hl.2 [Dict.insert row n v]).bind fun _ => .pure _
  | .subquery q => exact .throw (hk.refused rfl)
  | .matching .. | .unwind .. | .withItems .. | .returnItems .. | .call .. =>
    exact absurd hk.writes (by simp [Clause.isWrite])

lemma fails_writeClauses (hP : Error.Lenient P) {ks : List (Clause Meaning)}
    (ht : ∀ x ∈ Clause.allParts ks, x.Tame) (hk : ∀ k ∈ ks, Loopable P k)
    (hl : ∀ j ∈ Clause.allLooped ks, Loopable P j) (rows : List Row) :
    Fails P (writeClauses c rows ks) := by
  match ks with
  | [] => simp only [writeClauses]; exact .pure _
  | k :: ks =>
    rw [Clause.allParts, List.forall_mem_append] at ht
    rw [Clause.allLooped, List.forall_mem_append] at hl
    rw [List.forall_mem_cons] at hk
    simp only [writeClauses]
    exact (fails_writeClause hP ht.1 hk.1 hl.1 rows).bind fun rows =>
      fails_writeClauses hP ht.2 hk.2 hl.2 rows

end

/-! ### Queries -/

/-- A clause that holds no others is run as what it is: as a writing clause or as a reading step. -/
lemma fails_step (hP : Error.Lenient P) {k : Clause Meaning} (ht : ∀ x ∈ k.parts, x.Tame)
    (hl : ∀ j ∈ k.looped, Loopable P j) (hquery : ∀ q, k ≠ .subquery q) (t : Table) :
    Fails P (do
      if k.isWrite then
        let rows ← writeClause c t.rows k
        return { t with rows }.declare (writtenNames k)
      else Edit.reading c fun env => readStep env k t : Edit Table) := by
  split_ifs with hwrite
  · have hk : Loopable P k := ⟨hwrite, fun hs => by
      cases k with
      | subquery q => exact absurd rfl (hquery q)
      | _ => cases hs⟩
    exact (fails_writeClause c hP ht hk hl t.rows).bind fun _ => .pure _
  · exact fails_reading hP c fun env =>
      ordinary_readStep env ht (Bool.eq_false_iff.2 hwrite) hquery t

mutual

lemma fails_runClause (hP : Error.Lenient P) {k : Clause Meaning} (ht : ∀ x ∈ k.parts, x.Tame)
    (hl : ∀ j ∈ k.looped, Loopable P j) (t : Table) : Fails P (runClause c t k) := by
  match k with
  | .subquery ⟨first, unions⟩ =>
    rw [Clause.parts, List.forall_mem_append] at ht
    rw [Clause.looped, List.forall_mem_append] at hl
    simp only [runClause]
    exact (Fails.mapM fun row => (Fails.bind (fails_runClauses hP ht.1 hl.1 _) fun o =>
      fails_runBranches hP ht.2 hl.2 _ o).bind fun _ => .pure _).bind fun _ => .pure _
  | .create .. | .merge .. | .set .. | .remove .. | .delete .. | .foreach .. | .matching ..
  | .unwind .. | .withItems .. | .returnItems .. | .call .. =>
    simp only [runClause]
    exact fails_step c hP ht hl nofun t

lemma fails_runClauses (hP : Error.Lenient P) {ks : List (Clause Meaning)}
    (ht : ∀ x ∈ Clause.allParts ks, x.Tame) (hl : ∀ j ∈ Clause.allLooped ks, Loopable P j)
    (o : Output) : Fails P (runClauses c o ks) := by
  match ks with
  | [] => simp only [runClauses]; exact .pure _
  | k :: ks =>
    rw [Clause.allParts, List.forall_mem_append] at ht
    rw [Clause.allLooped, List.forall_mem_append] at hl
    simp only [runClauses]
    exact (fails_runClause hP ht.1 hl.1 o.table).bind fun t => fails_runClauses hP ht.2 hl.2 _

lemma fails_runBranches (hP : Error.Lenient P) {bs : List (Branch (Clause Meaning))}
    (ht : ∀ x ∈ Clause.branchParts bs, x.Tame) (hl : ∀ j ∈ Clause.branchLooped bs, Loopable P j)
    (seed : Table) (o : Output) : Fails P (runBranches c seed o bs) := by
  match bs with
  | [] => simp only [runBranches]; exact .pure _
  | ⟨all, ks⟩ :: bs =>
    rw [Clause.branchParts, List.forall_mem_append] at ht
    rw [Clause.branchLooped, List.forall_mem_append] at hl
    simp only [runBranches]
    exact (fails_runClauses hP ht.1 hl.1 ⟨seed, false⟩).bind fun o' =>
      fails_runBranches hP ht.2 hl.2 seed _

end

lemma fails_reply (hP : Error.Lenient P) {q : Query Meaning} (ht : ∀ x ∈ q.parts, x.Tame)
    (hl : ∀ j ∈ q.looped, Loopable P j) : Fails P (reply c q) := by
  rw [QueryOf.parts, List.forall_mem_append] at ht
  rw [QueryOf.looped, List.forall_mem_append] at hl
  refine Fails.bind ((fails_runClauses c hP ht.1 hl.1 _).bind fun o =>
    fails_runBranches c hP ht.2 hl.2 _ o) fun o => Fails.get.bind fun d => ?_
  split_ifs <;> exact .pure _

end Query

/-! ### Statements -/

namespace Command

variable {P : Error → Prop} (hP : Error.Lenient P)

lemma fails_ensure {α : Type} {x : Except Error α} (h : Raises P x) : Fails P (ensure x) := by
  cases x with
  | ok a => exact .pure a
  | error e => exact .throw (h e rfl)

include hP

lemma fails_store (s : Server) : Fails P (ensure s.store) := by
  refine fails_ensure ?_
  rw [Server.store]
  split
  · exact .ok _
  · exact .error (hP _ rfl)

lemma fails_edit {α : Type} {e : Edit α} (he : Fails P e) : Fails P (Command.edit e) := by
  have hatomic (b : Bool) (g : Store) : Raises P (e.atomically b g).1 := by
    have hd := he ⟨g, {}⟩
    rw [Edit.atomically]
    rcases h : ExceptT.run e ⟨g, {}⟩ with ⟨x | a, d⟩
    · exact .error (hd x (congrArg Prod.fst h))
    · exact .ok a
  exact Fails.get.bind fun s => (fails_store hP s).bind fun g => (Fails.set _).bind fun _ =>
    fails_ensure (hatomic _ g)

lemma fails_database (k : DatabaseCommand) : Fails P (database k) := by
  have hchange (change : Catalog → Except DatabaseFault Catalog) (tolerated : DatabaseFault → Bool)
      (done : String) : Fails P (changeCatalog change tolerated done) := by
    refine Fails.get.bind fun s => ?_
    split
    · exact (Fails.set _).bind fun _ => .pure _
    · split_ifs
      · exact .pure _
      · exact .throw (hP _ rfl)
  refine Fails.get.bind fun s => ?_
  split_ifs
  · exact .throw_bind (hP _ rfl) _
  cases k with
  | create n ifNotExists => exact hchange _ _ _
  | drop n ifExists => exact (hchange _ _ _).bind fun r => Fails.bind (fun _ => .ok _) fun _ => .pure _
  | use n =>
    dsimp only
    split_ifs
    · exact (Fails.set _).bind fun _ => .pure _
    · exact .throw (hP _ rfl)

lemma fails_transaction (clock : Number) (k : TransactionCommand) :
    Fails P (transaction clock k) := by
  have hend (word : String) (f : Transaction → Store → Store) :
      Fails P (endTransaction word f) := by
    refine Fails.get.bind fun s => (fails_store hP s).bind fun g => ?_
    split
    · exact .throw (hP _ rfl)
    · exact .set _
  cases k with
  | start =>
    refine Fails.get.bind fun s => (fails_store hP s).bind fun g => ?_
    split_ifs
    · exact .throw_bind (hP _ rfl) _
    · exact (Fails.set _).bind fun _ => .pure _
  | commit | rollback => exact (hend _ _).bind fun _ => .pure _

lemma fails_listing (t : ShowTarget) : Fails P (do ensure ((← get).listing t)) := by
  refine Fails.get.bind fun s => fails_ensure ?_
  refine Raises.bind ?_ fun g => ?_
  · rw [Server.store]
    split
    · exact .ok _
    · exact .error (hP _ rfl)
  · cases t <;> first | exact .ok _ | exact .error (hP _ rfl)

end Command

/-! ### Texts -/

namespace Cypher

namespace Expr

variable {δ : Type} (f : Layer δ → δ)

lemma isSubquery_foldClause (k : Clause Expr) : (foldClause f k).isSubquery = k.isSubquery := by
  cases k <;> rfl

mutual

lemma looped_foldClause (k : Clause Expr) :
    (foldClause f k).looped = k.looped.map (foldClause f) := by
  match k with
  | .foreach n x cs =>
    rw [foldClause, Clause.looped, looped_foldClauses cs, foldClauses_eq_map, Clause.looped,
      List.map_append]
  | .subquery ⟨first, unions⟩ =>
    simp [foldClause, foldQuery, Clause.looped, looped_foldClauses first,
      looped_foldBranchQueries unions]
  | .matching .. | .unwind .. | .withItems .. | .returnItems .. | .create .. | .merge .. | .set ..
  | .remove .. | .delete .. | .call .. => simp [foldClause, Clause.looped]

lemma looped_foldClauses (ks : List (Clause Expr)) :
    Clause.allLooped (foldClauses f ks) = (Clause.allLooped ks).map (foldClause f) := by
  match ks with
  | [] => rfl
  | k :: ks => simp [foldClauses, Clause.allLooped, looped_foldClause k, looped_foldClauses ks]

lemma looped_foldBranchQueries (bs : List (Branch (Clause Expr))) :
    Clause.branchLooped (foldBranchQueries f bs) = (Clause.branchLooped bs).map (foldClause f) := by
  match bs with
  | [] => rfl
  | ⟨all, ks⟩ :: bs =>
    simp [foldBranchQueries, Clause.branchLooped, looped_foldClauses ks,
      looped_foldBranchQueries bs]

end

lemma looped_foldQuery (q : Query Expr) : (foldQuery f q).looped = q.looped.map (foldClause f) := by
  cases q
  simp [foldQuery, QueryOf.looped, looped_foldClauses, looped_foldBranchQueries]

end Expr

lemma Clause.allLooped_eq {ε : Type} (ks : List (Clause ε)) :
    allLooped ks = ks.flatMap looped := by
  induction ks with
  | nil => rfl
  | cons k ks ih => rw [allLooped, List.flatMap_cons, ih]

lemma QueryOf.looped_eq {ε : Type} (q : Query ε) :
    q.looped = q.sequences.flatMap fun cs => cs.flatMap Clause.looped := by
  have hunions (bs : List (Branch (Clause ε))) : Clause.branchLooped bs =
      (bs.map Branch.clauses).flatMap fun cs => cs.flatMap Clause.looped := by
    induction bs with
    | nil => rfl
    | cons b bs ih =>
      rw [Clause.branchLooped, Clause.allLooped_eq, List.map_cons, List.flatMap_cons, ih]
  rw [looped, sequences, Clause.allLooped_eq, hunions, List.flatMap_cons]

lemma QueryOf.Of.looped {ε : Type} {C : Clause ε → Prop} {needsResult : Bool} {q : Query ε}
    (h : q.Of (fun k => ∀ j ∈ k.looped, C j) needsResult) : ∀ j ∈ q.looped, C j := by
  rw [QueryOf.looped_eq]
  intro j hj
  obtain ⟨cs, hcs, hj⟩ := List.mem_flatMap.1 hj
  obtain ⟨k, hk, hj⟩ := List.mem_flatMap.1 hj
  exact (h cs hcs).2 k hk j hj

/-- **The parser lets FOREACH go through clauses that write only.** -/
lemma passOn_looped : PassOn (fun _ => True) fun k => ∀ j ∈ k.looped, j.isWrite where
  literal _ := trivial
  layer _ _ := trivial
  existsQuery _ := trivial
  target _ := trivial
  clause {k} hk _ := by
    cases k with
    | «foreach» | subquery => cases hk
    | _ => simp [Clause.looped]
  foreach _ _ hcs := by
    rw [Clause.looped, Clause.allLooped_eq, List.forall_mem_append, List.forall_mem_flatMap]
    exact ⟨fun k hk => (hcs k hk).1, fun k hk => (hcs k hk).2⟩
  subquery h := h.looped

end Cypher

/-! ### Statements -/

/-- What a clause is called if there is no run for it under FOREACH. -/
def Cypher.Statement.Strays (k : Statement) (e : Error) : Prop :=
  e.isDispatch = true → e = .meaning (.notWriting "CALL \x7b\x7d") ∧ k.loopsSubquery = true

/-- **Every clause of a text comes to where its kind is run**, at any nesting of FOREACH, subqueries
and unions, on any graph and with any parameters, but for subqueries right under FOREACH. -/
theorem Cypher.Statement.run_strays {source : String} {ks : List Statement}
    (h : parse source = .ok ks) {k : Statement} (hk : k ∈ ks) (c : Context) (s : Server) :
    Raises k.Strays (ExceptT.run (k.run c) s).1 := by
  have hP : Error.Lenient k.Strays := fun e he he' => by simp [he] at he'
  have hloops := passOn_looped.of_parse h k hk
  revert s
  change Fails k.Strays (k.run c)
  cases k with
  | query q =>
    change Fails _ (Command.edit (Query.reply c (queryMeaning q)))
    refine Command.fails_edit hP (Query.fails_reply c hP ?_ ?_)
    · rw [queryMeaning, Expr.parts_foldQuery, List.forall_mem_map]
      exact fun x _ => x.tame_meaning
    · rw [queryMeaning, Expr.looped_foldQuery, List.forall_mem_map]
      intro j hj
      have hwrites := QueryOf.Of.looped hloops j hj
      refine ⟨by rwa [Expr.isWrite_foldClause], fun hs _ => ?_⟩
      rw [Expr.isSubquery_foldClause] at hs
      refine ⟨?_, List.any_eq_true.2 ⟨j, hj, hs⟩⟩
      cases j with
      | subquery r => rfl
      | _ => cases hs
  | schema d =>
    change Fails _ (Command.edit d.reply)
    exact Command.fails_edit hP ((Edit.fails_store hP _).map _)
  | database d => exact Command.fails_database hP d
  | listing t => exact Command.fails_listing hP t
  | transaction d => exact Command.fails_transaction hP c.clock d
  | help => exact .pure _

/-- FOREACH in FOREACH in a subquery in a union: no clause of it is ever refused. -/
theorem Cypher.Statement.run_strays_nested :
    let text := "UNWIND [1] AS x CALL \x7b WITH x FOREACH (y IN [x] | FOREACH (z IN [y] | " ++
      "CREATE (:A \x7bn: z\x7d))) \x7d RETURN x UNION MATCH (a) RETURN a.n AS x"
    ∃ k, parse text = .ok [k] ∧ k.check = .ok () ∧ k.loopsSubquery = false ∧
      ∀ c s, Raises k.Strays (ExceptT.run (k.run c) s).1 := by
  intro text
  have h : (soleQuery? text).any (fun q => (Statement.check (.query q)).toOption == some () &&
      !(Statement.query q).loopsSubquery) = true := by decide +kernel
  obtain ⟨q, hq, h⟩ := (Option.any_eq_true _ _).1 h
  simp only [Bool.and_eq_true, beq_iff_eq, Bool.not_eq_true'] at h
  have hparse := parse_of_soleQuery? hq
  exact ⟨.query q, hparse, toOption_eq_some.1 h.1, h.2,
    fun c s => Statement.run_strays hparse (List.mem_singleton_self _) c s⟩

/-- A subquery right under FOREACH is parsed and checked, and refused when it is run. -/
theorem Cypher.Statement.not_run_of_loopsSubquery :
    ¬ ∀ (source : String) (k : Statement) (c : Context) (s : Server) (e : Error),
      parse source = .ok [k] → k.check = .ok () →
        (ExceptT.run (k.run c) s).1 = .error e → e.isDispatch = false := by
  intro hall
  let c : Context := ⟨[], 8, .zero⟩
  let s : Server := .ofDefault "neo4j"
  have h : (soleQuery? "FOREACH (x IN [1] | CALL \x7b CREATE (:A) \x7d)").any (fun q =>
      (Statement.check (.query q)).toOption == some () &&
        (match (ExceptT.run ((Statement.query q).run c) s).1 with
        | .error e => e.isDispatch
        | .ok _ => false)) = true := by
    decide +kernel
  obtain ⟨q, hq, h⟩ := (Option.any_eq_true _ _).1 h
  simp only [Bool.and_eq_true, beq_iff_eq] at h
  obtain ⟨hcheck, h⟩ := h
  split at h
  next e he =>
    rw [hall _ _ c s e (parse_of_soleQuery? hq) (toOption_eq_some.1 hcheck) he] at h
    cases h
  · cases h

end PropertyGraph
