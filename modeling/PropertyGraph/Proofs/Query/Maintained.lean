import PropertyGraph.Proofs.Query.Keeps
import PropertyGraph.Proofs.Query.Write
import PropertyGraph.Proofs.Store.Modest

/-!
SET, REMOVE, DELETE and the schema commands make modest calls only: they create no entity, and SET
looks at every value that it is to store, whichever its form, and refuses one that mentions an
entity. So they maintain what modest calls do.
-/

namespace PropertyGraph

namespace Edit

/-- An edit maintains a property of graphs. -/
abbrev Maintains (I : Store → Prop) {α : Type} (e : Edit α) : Prop := Keeps I e fun _ => True

variable {I : Store → Prop} {α : Type}

lemma maintains_reading (c : Context) (f : Env → Except Error α) : Maintains I (reading c f) :=
  Keeps.reading fun _ _ _ _ => trivial

lemma maintains_call (hI : Store.Tended I) {op : Store.Operation α} (c : Store.Call)
    (hc : c.Modest) (h : ∀ s, (op s).2 = c.run s) : Maintains I (Edit.store op) :=
  .store fun s hs => h s ▸ hI s c hc hs

/-- What is counted if something was there to be done. -/
lemma maintains_countIf (b : Bool) (t : Tally) :
    Maintains I (if b then Edit.count t else pure ()) := by
  split_ifs
  · exact .count _
  · exact .pure trivial

end Edit

open Edit

namespace Query

open Cypher

variable {I : Store → Prop}

lemma maintains_eachRow {f : Row → Edit Unit} (h : ∀ row, Maintains I (f row)) (rows : List Row) :
    Maintains I (eachRow f rows) :=
  .bind (.forM fun row _ => h row) fun _ _ => .pure trivial

lemma maintains_createEnds (d : Direction) (near far : NodeId) :
    Maintains I (createEnds d near far) := by
  cases d with
  | undirected => exact .throw _
  | _ => exact .pure trivial

lemma maintains_createType (p : RelPattern Meaning) : Maintains I (createType p) := by
  unfold createType
  split
  · exact .throw _
  · exact .pure trivial
  · exact .throw _

variable (hI : Store.Tended I)
include hI

/-! ### SET and REMOVE -/

/-- **SET stores plain values only**: it refuses all others. -/
lemma maintains_setProperty (target : Value) (k : String) (v : Value) :
    Maintains I (setProperty target k v) := by
  unfold setProperty
  split_ifs with hv
  · exact .throw_bind _ _
  · have hplain : v.Plain := Bool.eq_false_of_not_eq_true hv
    cases target with
    | null => exact .pure trivial
    | node i =>
      exact .bind (maintains_call hI (.setNodeProperty i k v) hplain fun _ => rfl) fun _ _ =>
        .count _
    | rel i =>
      exact .bind (maintains_call hI (.setRelProperty i k v) hplain fun _ => rfl) fun _ _ =>
        .count _
    | _ => exact .throw_bind _ _

lemma maintains_setAll (target : Value) (ps : Properties) : Maintains I (setAll target ps) :=
  .forM fun p _ => maintains_setProperty hI target p.1 p.2

section

variable (c : Context)

lemma maintains_replaceAll (target : Value) (ps : Properties) :
    Maintains I (replaceAll c target ps) := by
  unfold replaceAll
  split_ifs
  · exact .pure trivial
  · exact .bind (maintains_reading c _) fun old _ =>
      .bind (.forM fun k _ => maintains_setProperty hI target k .null) fun _ _ =>
        maintains_setAll hI target ps

lemma maintains_addLabels (ls : List String) (v : Option Value) :
    Maintains I (addLabels ls v) := by
  unfold addLabels
  split
  · exact .pure trivial
  · exact .pure trivial
  next i =>
    exact .forM fun l _ => .bind (maintains_call hI (.addLabel i l) trivial fun _ => rfl)
      fun b _ => maintains_countIf b _
  · exact .throw _

lemma maintains_setItem (row : Row) (i : SetItem Meaning) : Maintains I (setItem c row i) := by
  cases i with
  | property e k v =>
    exact .bind (maintains_reading c _) fun p _ => maintains_setProperty hI p.1 k p.2
  | replace n v =>
    exact .bind (maintains_reading c _) fun _ _ => maintains_replaceAll hI c _ _
  | extend n v => exact .bind (maintains_reading c _) fun _ _ => maintains_setAll hI _ _
  | labels n ls => exact maintains_addLabels hI ls _

lemma maintains_setItems (is : List (SetItem Meaning)) (row : Row) :
    Maintains I (setItems c is row) :=
  .forM fun i _ => maintains_setItem hI c row i

lemma maintains_removeProperty (k : String) (v : Value) : Maintains I (removeProperty k v) := by
  cases v with
  | null => exact .pure trivial
  | node i => exact maintains_call hI (.removeNodeProperty i k) trivial fun _ => rfl
  | rel i => exact maintains_call hI (.removeRelProperty i k) trivial fun _ => rfl
  | _ => exact .throw _

lemma maintains_removeLabels (ls : List String) (v : Option Value) :
    Maintains I (removeLabels ls v) := by
  unfold removeLabels
  split
  next i =>
    exact .forM fun l _ => .bind (maintains_call hI (.removeLabel i l) trivial fun _ => rfl)
      fun b _ => maintains_countIf b _
  · exact .pure trivial

lemma maintains_removeItem (row : Row) (i : RemoveItem Meaning) :
    Maintains I (removeItem c row i) := by
  cases i with
  | property e k =>
    exact .bind (maintains_reading c _) fun target _ =>
      .bind (maintains_removeProperty hI k target) fun b _ => maintains_countIf b _
  | labels n ls => exact maintains_removeLabels hI ls _

lemma maintains_removeItems (is : List (RemoveItem Meaning)) (row : Row) :
    Maintains I (removeItems c is row) :=
  .forM fun i _ => maintains_removeItem hI c row i

end

/-! ### DELETE -/

lemma maintains_deleteRel (i : RelId) : Maintains I (deleteRel i) :=
  .bind (maintains_call hI (.deleteRel i) trivial fun _ => rfl) fun b _ => maintains_countIf b _

lemma maintains_detachNode (i : NodeId) : Maintains I (detachNode i) := by
  refine .bind (maintains_call hI (.deleteNode i true) trivial fun _ => rfl) fun n _ => ?_
  cases n with
  | some n => exact .count _
  | none => exact .pure trivial

lemma maintains_deleteNode (i : NodeId) : Maintains I (deleteNode i) :=
  .bind (maintains_call hI (.deleteNode i false) trivial fun _ => rfl) fun n _ =>
    maintains_countIf n.isSome _

lemma maintains_dropNode (detach : Bool) (waiting : List NodeId) (i : NodeId) :
    Maintains I (dropNode detach waiting i) := by
  unfold dropNode
  split_ifs
  · exact .bind (maintains_detachNode hI i) fun _ _ => .pure trivial
  · exact .pure trivial
  · exact .pure trivial

omit hI

mutual

lemma maintains_deleteValue (hI : Store.Tended I) (detach : Bool) (waiting : List NodeId)
    (v : Value) : Maintains I (deleteValue detach waiting v) := by
  match v with
  | .null => simp only [deleteValue]; exact .pure trivial
  | .node i => simp only [deleteValue]; exact maintains_dropNode hI detach waiting i
  | .rel i =>
    simp only [deleteValue]
    exact .bind (maintains_deleteRel hI i) fun _ _ => .pure trivial
  | .path p =>
    simp only [deleteValue]
    exact .bind (.forM fun i _ => maintains_deleteRel hI i) fun _ _ =>
      .foldlM (fun w i _ => maintains_dropNode hI detach w i) waiting
  | .list items => simp only [deleteValue]; exact maintains_deleteItems hI detach waiting items
  | .bool _ | .num _ | .str _ | .map _ => exact .throw _

lemma maintains_deleteItems (hI : Store.Tended I) (detach : Bool) (waiting : List NodeId)
    (vs : List Value) : Maintains I (deleteItems detach waiting vs) := by
  match vs with
  | [] => simp only [deleteItems]; exact .pure trivial
  | v :: vs =>
    simp only [deleteItems]
    exact .bind (maintains_deleteValue hI detach waiting v) fun w _ =>
      maintains_deleteItems hI detach w vs

end

lemma maintains_deleteRows (hI : Store.Tended I) (c : Context) (detach : Bool)
    (targets : List Meaning) (rows : List Row) :
    Maintains I (deleteRows c detach targets rows) := by
  refine .bind (.foldlM (fun w row _ => ?_) []) fun _ _ => .forM fun i _ =>
    maintains_deleteNode hI i
  exact .foldlM (fun w m _ => .bind (maintains_reading c _) fun v _ =>
    maintains_deleteValue hI detach w v) w

end Query

/-! ### Schema commands -/

lemma Cypher.SchemaCommand.maintains_reply {I : Store → Prop} (hI : Store.Tended I)
    (k : SchemaCommand) : Maintains I k.reply := by
  refine .map (.store fun s hs => ?_) _
  cases k with
  | create k name tolerant t =>
    change I (Store.declareRule k _ tolerant s).2
    rw [Store.declareRule_snd]
    exact hI s (.createRule k _) trivial hs
  | drop k name tolerant =>
    change I (Store.withdrawRule k name tolerant s).2
    rw [Store.withdrawRule_snd]
    exact hI s (.dropRule k name) trivial hs
  | dropIndexOn t =>
    change I (Store.withdrawRule .index (s.indexName t) false s).2
    rw [Store.withdrawRule_snd]
    exact hI s (.dropRule .index _) trivial hs

end PropertyGraph
