import PropertyGraph.Proofs.Query.Made
import PropertyGraph.Proofs.Query.Read

/-!
Writing queries and schema commands move a graph by operations of the store only, and unless they
ask for the time, they do the same in every frame.
-/

namespace PropertyGraph

open Edit

namespace Query

open Cypher

variable {fr : Frame}

/-! ### SET and REMOVE -/

lemma made_setProperty (target : Value) (k : String) (v : Value) :
    Made fr fun _ => setProperty target k v := by
  unfold setProperty
  split_ifs
  · exact .throw_bind _ _
  · cases target with
    | null => exact .pure _
    | node i =>
      refine .bind (.call (c := .setNodeProperty i k v) rfl (fun _ => rfl) ?_) fun _ => .count _
      exact Store.framed_setNodeProperty i k v
    | rel i =>
      refine .bind (.call (c := .setRelProperty i k v) rfl (fun _ => rfl) ?_) fun _ => .count _
      exact Store.framed_setRelProperty i k v
    | _ => exact .throw_bind _ _

lemma made_sourceOf {m : Meaning} (hm : m.Steady fr) (row : Row) :
    Made fr fun c => sourceOf c m row := by
  refine .reading fun env => ?_
  have hsource (v : Value) :
      propertySource (env.within fr).store v = propertySource env.store v := by cases v <;> rfl
  simp only [hm.value, hsource]

lemma made_setAll (target : Value) (ps : Properties) : Made fr fun _ => setAll target ps :=
  .forM fun p _ => made_setProperty target p.1 p.2

lemma made_replaceAll (target : Value) (ps : Properties) :
    Made fr fun c => replaceAll c target ps := by
  have hreplaced (env : Env) :
      replaced (env.within fr).store target = replaced env.store target := by
    cases target <;> rfl
  unfold replaceAll
  split_ifs
  · exact .pure _
  · refine .bind (.reading hreplaced) fun old => .bind (.forM fun k _ => ?_) fun _ =>
      made_setAll target ps
    exact made_setProperty target k .null

lemma made_addLabels (ls : List String) (v : Option Value) : Made fr fun _ => addLabels ls v := by
  unfold addLabels
  split
  · exact .pure _
  · exact .pure _
  next i =>
    refine .forM fun l _ => .bind (.call (c := .addLabel i l) rfl (fun _ => rfl)
      (Store.framed_addLabel i l)) fun b => ?_
    split_ifs
    · exact .count _
    · exact .pure _
  · exact .throw _

lemma made_setItem {i : SetItem Meaning} (hi : ∀ x ∈ i.parts, x.Steady fr) (row : Row) :
    Made fr fun c => setItem c row i := by
  cases i with
  | property e k v =>
    have he := hi e (by simp [SetItem.parts])
    have hv := hi v (by simp [SetItem.parts])
    refine .bind (.reading fun env => ?_) fun p => made_setProperty p.1 k p.2
    simp only [he.value, hv.value]
  | replace n v =>
    exact .bind (made_sourceOf (hi v (by simp [SetItem.parts])) row) fun _ => made_replaceAll _ _
  | extend n v =>
    exact .bind (made_sourceOf (hi v (by simp [SetItem.parts])) row) fun _ => made_setAll _ _
  | labels n ls => exact made_addLabels ls _

lemma made_setItems {is : List (SetItem Meaning)}
    (hi : ∀ x ∈ is.flatMap SetItem.parts, x.Steady fr) (row : Row) :
    Made fr fun c => setItems c is row :=
  .forM fun i h => made_setItem (fun x hx => hi x (List.mem_flatMap.2 ⟨i, h, hx⟩)) row

lemma made_removeProperty (k : String) (v : Value) : Made fr fun _ => removeProperty k v := by
  cases v with
  | null => exact .pure _
  | node i =>
    change Made fr fun _ => Edit.store (Store.removeNodeProperty i k)
    exact .call (c := .removeNodeProperty i k) rfl (fun _ => rfl)
      (Store.framed_removeNodeProperty i k)
  | rel i =>
    change Made fr fun _ => Edit.store (Store.removeRelProperty i k)
    exact .call (c := .removeRelProperty i k) rfl (fun _ => rfl)
      (Store.framed_removeRelProperty i k)
  | _ => exact .throw _

lemma made_removeLabels (ls : List String) (v : Option Value) :
    Made fr fun _ => removeLabels ls v := by
  unfold removeLabels
  split
  next i =>
    refine .forM fun l _ => .bind (.call (c := .removeLabel i l) rfl (fun _ => rfl)
      (Store.framed_removeLabel i l)) fun b => ?_
    split_ifs
    · exact .count _
    · exact .pure _
  · exact .pure _

lemma made_removeItem {i : RemoveItem Meaning} (hi : ∀ x ∈ i.parts, x.Steady fr) (row : Row) :
    Made fr fun c => removeItem c row i := by
  cases i with
  | property e k =>
    have he := hi e (by simp [RemoveItem.parts])
    refine .bind (.reading fun env => by rw [he.value]) fun target =>
      .bind (made_removeProperty k target) fun b => ?_
    split_ifs
    · exact .count _
    · exact .pure _
  | labels n ls => exact made_removeLabels ls _

lemma made_removeItems {is : List (RemoveItem Meaning)}
    (hi : ∀ x ∈ is.flatMap RemoveItem.parts, x.Steady fr) (row : Row) :
    Made fr fun c => removeItems c is row :=
  .forM fun i h => made_removeItem (fun x hx => hi x (List.mem_flatMap.2 ⟨i, h, hx⟩)) row

/-! ### CREATE -/

lemma made_newProperties {part : Option Meaning} (hp : ∀ x ∈ part, x.Steady fr) (row : Row) :
    Made fr fun c => newProperties c part row := by
  refine .bind (.reading fun env => Meaning.value?_within env none row hp) fun v => ?_
  split
  · exact .pure _
  · exact .pure _
  · exact .pure _
  · exact .throw _

lemma made_createNode {p : NodePattern Meaning} (hp : ∀ x ∈ p.properties, x.Steady fr)
    (row : Row) : Made fr fun c => createNode c p row := by
  unfold createNode
  split
  · split_ifs
    · exact .pure _
    · exact .throw _
  · exact .throw _
  · refine .bind (made_newProperties hp row) fun ps => .bind ?_ fun i =>
      .bind (.count _) fun _ => .pure _
    exact .call (c := .createNode p.labels ps) rfl (fun _ => rfl)
      (Store.framed_createNode p.labels ps)

lemma made_createEnds (d : Direction) (near far : NodeId) :
    Made fr fun _ => createEnds d near far := by
  cases d with
  | undirected => exact .throw _
  | _ => exact .pure _

lemma made_createType (p : RelPattern Meaning) : Made fr fun _ => createType p := by
  unfold createType
  split
  · exact .throw _
  · exact .pure _
  · exact .throw _

lemma made_createHop {h : Hop Meaning} (hr : ∀ x ∈ h.rel.properties, x.Steady fr)
    (hn : ∀ x ∈ h.node.properties, x.Steady fr) (near : NodeId) (row : Row) :
    Made fr fun c => createHop c h near row := by
  refine .bind (made_createType h.rel) fun type => ?_
  dsimp only
  split
  · exact .throw _
  · refine .bind (made_createNode hn row) fun far => .bind (made_createEnds _ _ _) fun e =>
      .bind (made_newProperties hr _) fun ps => .bind ?_ fun i =>
      .bind (.count _) fun _ => .pure _
    exact .call (c := .createRel type e.1 e.2 ps) rfl (fun _ => rfl)
      (Store.framed_createRel type e.1 e.2 ps)

lemma made_createHops {hs : List (Hop Meaning)}
    (hp : ∀ h ∈ hs, (∀ x ∈ h.rel.properties, x.Steady fr) ∧ ∀ x ∈ h.node.properties, x.Steady fr)
    (near : NodeId) (row : Row) : Made fr fun c => createHops c hs near row := by
  induction hs generalizing near row with
  | nil => exact .pure _
  | cons h hs ih =>
    obtain ⟨hr, hn⟩ := hp h (by simp)
    exact .bind (made_createHop hr hn near row) fun _ =>
      .bind (ih (fun k hk => hp k (by simp [hk])) _ _) fun _ => .pure _

lemma made_createPath {p : PathPattern Meaning} (hp : ∀ x ∈ p.properties, x.Steady fr)
    (row : Row) : Made fr fun c => createPath c p row := by
  simp only [PathPattern.properties, List.forall_mem_append, List.forall_mem_flatMap,
    Option.mem_toList] at hp
  obtain ⟨⟨hstart, hnodes⟩, hrels⟩ := hp
  exact .bind (made_createNode hstart row) fun _ =>
    .bind (made_createHops (fun h hh => ⟨hrels h hh, hnodes h hh⟩) _ _) fun _ => .pure _

lemma made_createPaths {ps : List (PathPattern Meaning)}
    (hp : ∀ x ∈ ps.flatMap PathPattern.properties, x.Steady fr) (row : Row) :
    Made fr fun c => createPaths c ps row :=
  .foldlM (fun row p h => made_createPath (fun x hx => hp x (List.mem_flatMap.2 ⟨p, h, hx⟩)) row)
    row

/-! ### DELETE -/

lemma made_deleteRel (i : RelId) : Made fr fun _ => deleteRel i := by
  refine .bind (.call (c := .deleteRel i) rfl (fun _ => rfl) (Store.framed_deleteRel i)) fun b => ?_
  split_ifs
  · exact .count _
  · exact .pure _

lemma made_detachNode (i : NodeId) : Made fr fun _ => detachNode i := by
  refine .bind (.call (c := .deleteNode i true) rfl (fun _ => rfl)
    (Store.framed_deleteNode i true)) fun n => ?_
  cases n with
  | some n => exact .count _
  | none => exact .pure _

lemma made_deleteNode (i : NodeId) : Made fr fun _ => deleteNode i := by
  refine .bind (.call (c := .deleteNode i false) rfl (fun _ => rfl)
    (Store.framed_deleteNode i false)) fun n => ?_
  split_ifs
  · exact .count _
  · exact .pure _

lemma made_dropNode (detach : Bool) (waiting : List NodeId) (i : NodeId) :
    Made fr fun _ => dropNode detach waiting i := by
  unfold dropNode
  split_ifs
  · exact .bind (made_detachNode i) fun _ => .pure _
  · exact .pure _
  · exact .pure _

mutual

lemma made_deleteValue (detach : Bool) (waiting : List NodeId) (v : Value) :
    Made fr fun _ => deleteValue detach waiting v := by
  match v with
  | .null => simp only [deleteValue]; exact .pure _
  | .node i => simp only [deleteValue]; exact made_dropNode detach waiting i
  | .rel i => simp only [deleteValue]; exact .bind (made_deleteRel i) fun _ => .pure _
  | .path p =>
    simp only [deleteValue]
    exact .bind (.forM fun i _ => made_deleteRel i) fun _ =>
      .foldlM (fun w i _ => made_dropNode detach w i) waiting
  | .list items => simp only [deleteValue]; exact made_deleteItems detach waiting items
  | .bool _ | .num _ | .str _ | .map _ => exact .throw _

lemma made_deleteItems (detach : Bool) (waiting : List NodeId) (vs : List Value) :
    Made fr fun _ => deleteItems detach waiting vs := by
  match vs with
  | [] => simp only [deleteItems]; exact .pure _
  | v :: vs =>
    simp only [deleteItems]
    exact .bind (made_deleteValue detach waiting v) fun w => made_deleteItems detach w vs

end

lemma made_deleteRow {targets : List Meaning} (ht : ∀ x ∈ targets, x.Steady fr) (detach : Bool)
    (waiting : List NodeId) (row : Row) :
    Made fr fun c => deleteRow c detach targets waiting row := by
  refine .foldlM (fun waiting m hm => ?_) waiting
  exact .bind (.reading fun env => by rw [(ht m hm).value]) fun v =>
    made_deleteValue detach waiting v

lemma made_deleteRows {targets : List Meaning} (ht : ∀ x ∈ targets, x.Steady fr) (detach : Bool)
    (rows : List Row) : Made fr fun c => deleteRows c detach targets rows :=
  .bind (.foldlM (fun w row _ => made_deleteRow ht detach w row) []) fun _ =>
    .forM fun i _ => made_deleteNode i

/-! ### Clauses -/

lemma made_eachRow {f : Context → Row → Edit Unit} (h : ∀ row, Made fr fun c => f c row)
    (rows : List Row) : Made fr fun c => eachRow (f c) rows :=
  .bind (.forM fun row _ => h row) fun _ => .pure _

lemma made_mergeRow {p : PathPattern Meaning} {onCreate onMatch : List (SetItem Meaning)}
    (hp : ∀ x ∈ p.properties, x.Steady fr)
    (hc : ∀ x ∈ onCreate.flatMap SetItem.parts, x.Steady fr)
    (hm : ∀ x ∈ onMatch.flatMap SetItem.parts, x.Steady fr) (row : Row) :
    Made fr fun c => mergeRow c p onCreate onMatch row := by
  have hps : ∀ x ∈ [p].flatMap PathPattern.properties, x.Steady fr := by simpa using hp
  refine .bind (.reading fun env => rows_within env hps row) fun found => ?_
  split_ifs
  · exact .bind (made_createPath hp row) fun row =>
      .bind (made_setItems hc row) fun _ => .pure _
  · exact .bind (.count _) fun _ => made_eachRow (made_setItems hm) found

mutual

lemma made_writeClause {k : Clause Meaning} (hk : ∀ x ∈ k.parts, x.Steady fr) (rows : List Row) :
    Made fr fun c => writeClause c rows k := by
  match k with
  | .create ps => simp only [writeClause]; exact .mapM (made_createPaths hk)
  | .merge p onCreate onMatch =>
    simp only [Clause.parts, List.forall_mem_append] at hk
    simp only [writeClause]
    exact .map (.mapM (made_mergeRow hk.1.1 hk.1.2 hk.2)) _
  | .set is => simp only [writeClause]; exact made_eachRow (made_setItems hk) rows
  | .remove is => simp only [writeClause]; exact made_eachRow (made_removeItems hk) rows
  | .delete detach xs =>
    simp only [writeClause]
    exact .bind (made_deleteRows hk detach rows) fun _ => .pure _
  | .foreach n x body =>
    rw [Clause.parts, List.forall_mem_cons] at hk
    simp only [writeClause]
    refine made_eachRow (fun row => .bind (.reading fun env => ?_) fun items =>
      .forM fun v _ => ?_) rows
    · rw [hk.1.value]
    · exact .bind (made_writeClauses hk.2 [Dict.insert row n v]) fun _ => .pure _
  | .matching .. | .unwind .. | .withItems .. | .returnItems .. | .call .. | .subquery .. =>
    exact .throw _

lemma made_writeClauses {ks : List (Clause Meaning)}
    (hk : ∀ x ∈ Clause.allParts ks, x.Steady fr) (rows : List Row) :
    Made fr fun c => writeClauses c rows ks := by
  match ks with
  | [] => simp only [writeClauses]; exact .pure _
  | k :: ks =>
    rw [Clause.allParts, List.forall_mem_append] at hk
    simp only [writeClauses]
    exact .bind (made_writeClause hk.1 rows) fun rows => made_writeClauses hk.2 rows

end

/-! ### Queries -/

lemma made_join {f : Context → Row → Edit Output} (h : ∀ row, Made fr fun c => f c row)
    (t : Table) : Made fr fun c => t.join (f c) :=
  .bind (.mapM fun row => .bind (h row) fun _ => .pure _) fun _ => .pure _

lemma made_step {k : Clause Meaning} (hk : ∀ x ∈ k.parts, x.Steady fr) (t : Table) :
    Made fr fun c => (do
      if k.isWrite then
        let rows ← writeClause c t.rows k
        return { t with rows }.declare (writtenNames k)
      else Edit.reading c fun env => readStep env k t : Edit Table) := by
  split_ifs
  · exact .bind (made_writeClause hk t.rows) fun _ => .pure _
  · exact .reading fun env => readStep_within env hk t

mutual

lemma made_runClause {k : Clause Meaning} (hk : ∀ x ∈ k.parts, x.Steady fr) (t : Table) :
    Made fr fun c => runClause c t k := by
  match k with
  | .subquery ⟨first, unions⟩ =>
    rw [Clause.parts, List.forall_mem_append] at hk
    simp only [runClause]
    refine made_join (fun row => ?_) t
    exact .bind (made_runClauses hk.1 _) fun o => made_runBranches hk.2 _ o
  | .create .. | .merge .. | .set .. | .remove .. | .delete .. | .foreach .. | .matching ..
  | .unwind .. | .withItems .. | .returnItems .. | .call .. =>
    simp only [runClause]
    exact made_step hk t

lemma made_runClauses {ks : List (Clause Meaning)} (hk : ∀ x ∈ Clause.allParts ks, x.Steady fr)
    (o : Output) : Made fr fun c => runClauses c o ks := by
  match ks with
  | [] => simp only [runClauses]; exact .pure _
  | k :: ks =>
    rw [Clause.allParts, List.forall_mem_append] at hk
    simp only [runClauses]
    exact .bind (made_runClause hk.1 o.table) fun t => made_runClauses hk.2 ⟨t, k.makesResult⟩

lemma made_runBranches {bs : List (Branch (Clause Meaning))}
    (hb : ∀ x ∈ Clause.branchParts bs, x.Steady fr) (seed : Table) (o : Output) :
    Made fr fun c => runBranches c seed o bs := by
  match bs with
  | [] => simp only [runBranches]; exact .pure _
  | ⟨all, ks⟩ :: bs =>
    rw [Clause.branchParts, List.forall_mem_append] at hb
    simp only [runBranches]
    exact .bind (made_runClauses hb.1 ⟨seed, false⟩) fun o' => made_runBranches hb.2 seed _

end

/-- **A query** is made of what edits are made of. -/
theorem made_reply {q : Query Meaning} (hq : ∀ x ∈ q.parts, x.Steady fr) :
    Made fr fun c => reply c q := by
  rw [QueryOf.parts, List.forall_mem_append] at hq
  have hrun : Made fr fun c => run c .unit q :=
    .bind (made_runClauses hq.1 _) fun _ => made_runBranches hq.2 _ _
  refine .bind hrun fun o => .tally (f := fun _ t =>
    if o.returns then return Reply.rows (shape q) o.table.columns o.table.valueRows t
    else return Reply.message t.summary t) fun t => ?_
  split_ifs
  · exact .pure _
  · exact .pure _

/-- **A query moves the graph by operations only.** -/
theorem moves_reply (c : Context) (q : Query Meaning) : (reply c q).Moves :=
  (made_reply fun m _ => m.steady_bare).moves c

end Query

/-! ### Schema commands -/

namespace Store

lemma declareRule_snd (k : RuleKind) (rule : Rule) (tolerant : Bool) (s : Store) :
    (declareRule k rule tolerant s).2 = (createRule k rule s).2 := by
  rw [declareRule]
  split
  · simp [*]
  · split_ifs <;> simp [*]
  · simp [*]

lemma withdrawRule_snd (k : RuleKind) (name : String) (tolerant : Bool) (s : Store) :
    (withdrawRule k name tolerant s).2 = (dropRule k name s).2 := by
  rw [withdrawRule]
  split
  · simp [*]
  · split_ifs <;> simp [*]

lemma framed_declareRule (k : RuleKind) (rule : Rule) (tolerant : Bool) :
    Framed (declareRule k rule tolerant) := by
  intro s older
  rw [declareRule, declareRule, framed_createRule]
  rcases createRule k rule s with ⟨x | _, _⟩
  · cases x with
    | ruleExists k' existing => cases tolerant <;> rfl
    | _ => rfl
  · rfl

lemma framed_withdrawRule (k : RuleKind) (name : String) (tolerant : Bool) :
    Framed (withdrawRule k name tolerant) := by
  intro s older
  rw [withdrawRule, withdrawRule, framed_dropRule]
  rcases dropRule k name s with ⟨_ | _, _⟩
  · cases tolerant <;> rfl
  · rfl

end Store

/-- **A schema command** is made of what edits are made of. -/
theorem Cypher.SchemaCommand.made_reply {fr : Frame} (k : Cypher.SchemaCommand) :
    Made fr fun _ => k.reply := by
  refine .map (.store (fun s => ?_) ?_) _
  · cases k with
    | create k name tolerant t =>
      change s.Leads (Store.declareRule k _ tolerant s).2
      rw [Store.declareRule_snd]
      exact Store.leads_call (c := .createRule k _) rfl s
    | drop k name tolerant =>
      change s.Leads (Store.withdrawRule k name tolerant s).2
      rw [Store.withdrawRule_snd]
      exact Store.leads_call (c := .dropRule k name) rfl s
    | dropIndexOn t =>
      change s.Leads (Store.withdrawRule .index (s.indexName t) false s).2
      rw [Store.withdrawRule_snd]
      exact Store.leads_call (c := .dropRule .index (s.indexName t)) rfl s
  · cases k with
    | create k name tolerant t => exact Store.framed_declareRule k _ tolerant
    | drop k name tolerant => exact Store.framed_withdrawRule k name tolerant
    | dropIndexOn t => exact fun s => Store.framed_withdrawRule .index (s.indexName t) false s

/-- **A schema command moves the graph by operations only.** -/
theorem Cypher.SchemaCommand.moves_reply (c : Context) (k : Cypher.SchemaCommand) :
    k.reply.Moves := by
  have h : Made .bare fun _ => k.reply := k.made_reply
  exact h.moves c

end PropertyGraph
