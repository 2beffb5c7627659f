import PropertyGraph.Proofs.Meaning.Constant
import PropertyGraph.Proofs.Query.Maintained
import PropertyGraph.Proofs.Query.Mention
import PropertyGraph.Proofs.Store.Grounded
import PropertyGraph.Proofs.Store.Operation

/-!
Writing queries leave grounded graphs grounded.

CREATE and MERGE store the maps of their patterns as they are, with the entities that these mention.
What a map mentions is known to the graph when it is evaluated, and what is created with it is not.
So rows have to be watched as well: whatever they mention at some time has to be known by then. It
stays known, since an id is not forgotten when its entity is deleted.
-/

namespace PropertyGraph

/-- What an environment over a grounded graph mentions is known to the graph. -/
lemma Context.Plain.among {c : Context} (hc : c.Plain) {s : Store} (hs : s.Grounded) :
    (c.on s).Among s.Knows := ⟨Dict.Every.imp hc fun _ hv => Value.Plain.among hv, hs.among⟩

lemma Dict.among_mono : Monotone fun (K : Entity → Prop) (d : Dict String Value) => Among K d :=
  fun _ _ hK _ hd => hd.imp fun _ hv => hv.mono hK

lemma Row.allAmong_mono : Monotone Row.AllAmong := fun _ _ hK _ hrows row hrow =>
  Dict.among_mono hK _ (hrows row hrow)

namespace Edit

variable {α β : Type} {K : Entity → Prop} {Q R : (Entity → Prop) → α → Prop}
  {S : (Entity → Prop) → β → Prop}

/-- From a grounded graph that knows some entities an edit comes to one that still knows all it has
known, and gives, if anything, what meets a condition on the entities that are known then. -/
def Grounds (K : Entity → Prop) (e : Edit α) (Q : (Entity → Prop) → α → Prop) : Prop :=
  ∀ d : Draft, d.store.Grounded → K ≤ d.store.Knows →
    (ExceptT.run e d).2.store.Grounded ∧ d.store.Knows ≤ (ExceptT.run e d).2.store.Knows ∧
      ∀ a, (ExceptT.run e d).1 = .ok a → Q (ExceptT.run e d).2.store.Knows a

namespace Grounds

lemma pure {a : α} (h : ∀ K', K ≤ K' → Q K' a) : Grounds K (Pure.pure a) Q := by
  intro d hd hK
  refine ⟨hd, le_rfl, fun b hb => ?_⟩
  obtain rfl := Except.ok.inj hb
  exact h _ hK

lemma throw (x : Error) : Grounds K (MonadExcept.throw x : Edit α) Q :=
  fun _ hd _ => ⟨hd, le_rfl, nofun⟩

lemma bind {e : Edit α} {f : α → Edit β} (he : Grounds K e Q)
    (hf : ∀ K', K ≤ K' → ∀ a, Q K' a → Grounds K' (f a) S) : Grounds K (e >>= f) S := by
  intro d hd hK
  have hd' := he d hd hK
  rw [run_bind]
  rcases h : ExceptT.run e d with ⟨x | a, u⟩
  · rw [h] at hd'
    exact ⟨hd'.1, hd'.2.1, nofun⟩
  · rw [h] at hd'
    obtain ⟨hu, hle, ha⟩ := hd'
    have hu' := hf _ (hK.trans hle) a (ha a rfl) u hu le_rfl
    exact ⟨hu'.1, hle.trans hu'.2.1, hu'.2.2⟩

lemma map {e : Edit α} (he : Grounds K e Q) {f : α → β} (hf : ∀ K' a, Q K' a → S K' (f a))
    (hS : Monotone S) : Grounds K (f <$> e) S :=
  .bind he fun _ _ _ ha => .pure fun _ hK => hS hK _ (hf _ _ ha)

lemma reading {c : Context} {f : Env → Except Error α}
    (h : ∀ s : Store, s.Grounded → K ≤ s.Knows →
      PropertyGraph.Gives (Q s.Knows) (f (c.on s))) :
    Grounds K (Edit.reading c f) Q := by
  intro d hd hK
  rw [run_reading]
  exact ⟨hd, le_rfl, h d.store hd hK⟩

lemma store {op : Store.Operation α} (h : ∀ s : Store, s.Grounded → K ≤ s.Knows →
    (op s).2.Grounded ∧ s.Knows ≤ (op s).2.Knows ∧ ∀ a, (op s).1 = .ok a → Q (op s).2.Knows a) :
    Grounds K (Edit.store op) Q := by
  intro d hd hK
  obtain ⟨hs, hle, ha⟩ := h d.store hd hK
  rw [run_store]
  refine ⟨hs, hle, fun a hok => ha a ?_⟩
  cases hop : (op d.store).1 with
  | error e => rw [hop] at hok; cases hok
  | ok b => rw [hop] at hok; exact congrArg _ (Except.ok.inj hok)

/-- What modest calls cannot break, edits that make no other calls do not break. -/
lemma ofMaintains {e : Edit α} (h : ∀ I, Store.Tended I → Maintains I e) :
    Grounds K e fun _ _ => True := by
  intro d hd hK
  have hI : Store.Tended fun s => s.Grounded ∧ d.store.Knows ≤ s.Knows := fun s c hc hs =>
    ⟨hs.1.call hc, hs.2.trans (hs.1.lawful.knows_call c)⟩
  obtain ⟨⟨hg, hle⟩, -⟩ := h _ hI d ⟨hd, le_rfl⟩
  exact ⟨hg, hle, fun _ _ => trivial⟩

lemma count (t : Tally) : Grounds K (Edit.count t) fun _ _ => True :=
  .ofMaintains fun _ _ => .count t

lemma forM {xs : List β} {f : β → Edit PUnit}
    (h : ∀ K', K ≤ K' → ∀ x ∈ xs, Grounds K' (f x) fun _ _ => True) :
    Grounds K (xs.forM f) fun _ _ => True := by
  induction xs generalizing K with
  | nil => exact .pure fun _ _ => trivial
  | cons x xs ih =>
    exact .bind (h K le_rfl x (by simp)) fun K' hK _ _ =>
      ih fun K'' hK' y hy => h K'' (hK.trans hK') y (by simp [hy])

lemma foldlM {xs : List β} {f : α → β → Edit α} (hQ : Monotone Q)
    (h : ∀ K', K ≤ K' → ∀ a, Q K' a → ∀ x ∈ xs, Grounds K' (f a x) Q) {a : α} (ha : Q K a) :
    Grounds K (xs.foldlM f a) Q := by
  induction xs generalizing K a with
  | nil => exact .pure fun _ hK => hQ hK _ ha
  | cons x xs ih =>
    exact .bind (h K le_rfl a ha x (by simp)) fun K' hK b hb =>
      ih (fun K'' hK' a ha y hy => h K'' (hK.trans hK') a ha y (by simp [hy])) hb

lemma mapM {xs : List β} {f : β → Edit α} (hQ : Monotone Q)
    (h : ∀ K', K ≤ K' → ∀ x ∈ xs, Grounds K' (f x) Q) :
    Grounds K (xs.mapM f) fun K ys => ∀ y ∈ ys, Q K y := by
  induction xs generalizing K with
  | nil => exact .pure fun _ _ => by simp
  | cons x xs ih =>
    rw [List.mapM_cons]
    refine .bind (h K le_rfl x (by simp)) fun K' hK y hy => .bind
      (ih fun K'' hK' z hz => h K'' (hK.trans hK') z (by simp [hz])) fun K'' hK' ys hys =>
        .pure fun L hL => List.forall_mem_cons.2 ⟨?_, fun z hz => hQ hL _ (hys z hz)⟩
    exact hQ (hK'.trans hL) _ hy

end Grounds

end Edit

open Edit

namespace Query

open Cypher

variable {K : Entity → Prop}

/-! ### CREATE -/

section

variable {c : Context} (hc : c.Plain)
include hc

lemma grounds_newProperties {part : Option Meaning} (hp : ∀ x ∈ part, x.Closed) {row : Row}
    (hrow : Dict.Among K row) :
    Grounds K (newProperties c part row) fun K ps => Dict.Among K ps := by
  refine .bind (Q := fun K o => ∀ v ∈ o, Value.Among K v) (.reading fun s hs hK => ?_)
    fun K' hK o ho => ?_
  · exact Meaning.among_value? (hc.among hs) (by simp) (Dict.among_mono hK _ hrow) hp
  · split
    · exact .pure fun _ _ => .nil
    · exact .pure fun _ _ => .nil
    next ps => exact .pure fun L hL => Dict.among_mono hL _ (Value.among_map.1 (ho _ rfl))
    · exact .throw _

lemma grounds_createNode {p : NodePattern Meaning} (hp : ∀ x ∈ p.properties, x.Closed) {row : Row}
    (hrow : Dict.Among K row) :
    Grounds K (createNode c p row) fun K r => K (.node r.1) ∧ Dict.Among K r.2 := by
  unfold createNode
  split
  next i hi =>
    have hknown : (Value.node i).Among K := by
      obtain ⟨n, -, hn⟩ := Option.bind_eq_some_iff.1 hi
      exact Dict.Every.get? hrow hn
    split_ifs
    · exact .pure fun L hL => ⟨hL _ (Value.among_node.1 hknown), Dict.among_mono hL _ hrow⟩
    · exact .throw _
  · exact .throw _
  · refine .bind (grounds_newProperties hc hp hrow) fun K' hK ps hps =>
      .bind (Q := fun K i => K (.node i)) (.store fun s hs hK' => ?_) fun K'' hK' i hi =>
        .bind (.count _) fun L hL _ _ => .pure fun L' hL' => ?_
    · refine ⟨hs.createNode p.labels (Dict.among_mono hK' _ hps),
        hs.lawful.knows_call (.createNode p.labels ps), fun i hi => ?_⟩
      have hnew := Store.createNode_eq_ok hs.lawful.sound (Prod.ext hi rfl)
      exact hnew.sound.node_lt hnew.node?
    · have hle := (hL.trans hL')
      exact ⟨hle _ hi, Row.among_bind (Dict.among_mono ((hK.trans hK').trans hle) _ hrow) p.name
        (Value.among_node.2 (hle _ hi))⟩

lemma grounds_createHop {h : Hop Meaning} (hr : ∀ x ∈ h.rel.properties, x.Closed)
    (hn : ∀ x ∈ h.node.properties, x.Closed) (near : NodeId) {row : Row}
    (hrow : Dict.Among K row) :
    Grounds K (createHop c h near row) fun K r =>
      (K (.rel r.1.1) ∧ K (.node r.1.2)) ∧ Dict.Among K r.2 := by
  refine .bind (.ofMaintains fun _ _ => maintains_createType h.rel) fun K₁ h₁ type _ => ?_
  dsimp only
  split
  · exact .throw _
  · refine .bind (grounds_createNode hc hn (Dict.among_mono h₁ _ hrow)) fun K₂ h₂ far hfar =>
      .bind (.ofMaintains fun _ _ => maintains_createEnds _ _ _) fun K₃ h₃ e _ =>
        .bind (grounds_newProperties hc hr (Dict.among_mono h₃ _ hfar.2)) fun K₄ h₄ ps hps =>
          .bind (Q := fun K i => K (.rel i)) (.store fun s hs h₅ => ?_) fun K₅ h₅ i hi =>
            .bind (.count _) fun K₆ h₆ _ _ => .pure fun L hL => ?_
    · refine ⟨hs.createRel type e.1 e.2 (Dict.among_mono h₅ _ hps),
        hs.lawful.knows_call (.createRel type e.1 e.2 ps), fun i hi => ?_⟩
      have hnew := Store.createRel_eq_ok hs.lawful.sound (Prod.ext hi rfl)
      exact hnew.sound.rel_lt hnew.rel?
    · have hle := h₃.trans (h₄.trans (h₅.trans (h₆.trans hL)))
      have hrel := (h₆.trans hL) _ hi
      exact ⟨⟨hrel, hle _ hfar.1⟩, Row.among_bind (Dict.among_mono hle _ hfar.2) h.rel.name
        (Value.among_rel.2 hrel)⟩

lemma grounds_createHops {hs : List (Hop Meaning)}
    (hp : ∀ h ∈ hs, (∀ x ∈ h.rel.properties, x.Closed) ∧ ∀ x ∈ h.node.properties, x.Closed)
    (near : NodeId) {row : Row} (hrow : Dict.Among K row) :
    Grounds K (createHops c hs near row) fun K r => r.1.Among K ∧ Dict.Among K r.2 := by
  induction hs generalizing K near row with
  | nil => exact .pure fun L hL => ⟨by simp [Walk.Among], Dict.among_mono hL _ hrow⟩
  | cons h hs ih =>
    obtain ⟨hr, hn⟩ := hp h (by simp)
    refine .bind (grounds_createHop hc hr hn near hrow) fun K₁ h₁ step hstep =>
      .bind (ih (fun k hk => hp k (by simp [hk])) _ hstep.2) fun K₂ h₂ walk hwalk =>
        .pure fun L hL => ⟨List.forall_mem_cons.2 ⟨?_, fun e he => ?_⟩,
          Dict.among_mono hL _ hwalk.2⟩
    · exact ⟨(h₂.trans hL) _ hstep.1.1, (h₂.trans hL) _ hstep.1.2⟩
    · exact ⟨hL _ (hwalk.1 e he).1, hL _ (hwalk.1 e he).2⟩

lemma grounds_createPath {p : PathPattern Meaning} (hp : ∀ x ∈ p.properties, x.Closed) {row : Row}
    (hrow : Dict.Among K row) : Grounds K (createPath c p row) fun K row => Dict.Among K row := by
  simp only [PathPattern.properties, List.forall_mem_append, List.forall_mem_flatMap,
    Option.mem_toList] at hp
  obtain ⟨⟨hstart, hnodes⟩, hrels⟩ := hp
  refine .bind (grounds_createNode hc hstart hrow) fun K₁ h₁ start hs =>
    .bind (grounds_createHops hc (fun h hh => ⟨hrels h hh, hnodes h hh⟩) _ hs.2)
      fun K₂ h₂ walk hw => .pure fun L hL => Dict.among_mono hL _ (Row.among_bind hw.2 p.name ?_)
  exact Value.among_path.2 ((Path.among_single (h₂ _ hs.1)).extend hw.1)

lemma grounds_createPaths {ps : List (PathPattern Meaning)}
    (hp : ∀ x ∈ ps.flatMap PathPattern.properties, x.Closed) {row : Row}
    (hrow : Dict.Among K row) :
    Grounds K (createPaths c ps row) fun K row => Dict.Among K row :=
  .foldlM Dict.among_mono (fun _ _ _ hrow p h =>
    grounds_createPath hc (fun x hx => hp x (List.mem_flatMap.2 ⟨p, h, hx⟩)) hrow) hrow

/-! ### Clauses -/

omit hc in
lemma grounds_eachRow {f : Row → Edit Unit} {rows : List Row} (hrows : Row.AllAmong K rows)
    (h : ∀ K', K ≤ K' → ∀ row, Dict.Among K' row → Grounds K' (f row) fun _ _ => True) :
    Grounds K (eachRow f rows) Row.AllAmong :=
  .bind (.forM fun K' hK row hrow => h K' hK row (Dict.among_mono hK _ (hrows row hrow)))
    fun _ hK _ _ => .pure fun _ hK' => Row.allAmong_mono (hK.trans hK') _ hrows

lemma grounds_mergeRow {p : PathPattern Meaning} (hp : ∀ x ∈ p.properties, x.Closed)
    (onCreate onMatch : List (SetItem Meaning)) {row : Row} (hrow : Dict.Among K row) :
    Grounds K (mergeRow c p onCreate onMatch row) Row.AllAmong := by
  refine .bind (Q := Row.AllAmong) (.reading fun s hs hK => ?_) fun K₁ h₁ found hfound => ?_
  · exact Matcher.among_rows (by exact (hc.among hs).store) _ (Dict.among_mono hK _ hrow)
  have hset (is : List (SetItem Meaning)) (K : Entity → Prop) (row : Row) :
      Grounds K (setItems c is row) fun _ _ => True :=
    .ofMaintains fun _ hI => maintains_setItems hI c is row
  split_ifs
  · exact .bind (grounds_createPath hc hp (Dict.among_mono h₁ _ hrow)) fun K₂ h₂ row hrow =>
      .bind (hset onCreate K₂ row) fun K₃ h₃ _ _ => .pure fun L hL =>
        List.forall_mem_singleton.2 (Dict.among_mono (h₃.trans hL) _ hrow)
  · exact .bind (.count _) fun K₂ h₂ _ _ =>
      grounds_eachRow (Row.allAmong_mono h₂ _ hfound) fun K' _ row _ => hset onMatch K' row

end

variable {c : Context}

lemma among_foreachItems {v : Value} (hv : v.Among K) :
    Gives (fun vs => ∀ v ∈ vs, v.Among K) (foreachItems v) := by
  cases v with
  | null => exact .ok (by simp)
  | list xs => exact .ok (Value.among_list.1 hv)
  | _ => exact .error _

mutual

lemma grounds_writeClause (hc : c.Plain) {k : Clause Meaning} (hk : ∀ x ∈ k.parts, x.Closed)
    {K : Entity → Prop} {rows : List Row} (hrows : Row.AllAmong K rows) :
    Grounds K (writeClause c rows k) Row.AllAmong := by
  match k with
  | .create ps =>
    simp only [writeClause]
    exact .mapM Dict.among_mono fun K' hK row hrow =>
      grounds_createPaths hc hk (Dict.among_mono hK _ (hrows row hrow))
  | .merge p onCreate onMatch =>
    simp only [writeClause]
    simp only [Clause.parts, List.forall_mem_append] at hk
    exact .map (.mapM Row.allAmong_mono fun K' hK row hrow => grounds_mergeRow hc hk.1.1 onCreate
      onMatch (Dict.among_mono hK _ (hrows row hrow))) (fun _ _ h => List.forall_mem_flatten.2 h)
      Row.allAmong_mono
  | .set is =>
    simp only [writeClause]
    exact grounds_eachRow hrows fun _ _ row _ =>
      .ofMaintains fun _ hI => maintains_setItems hI c is row
  | .remove is =>
    simp only [writeClause]
    exact grounds_eachRow hrows fun _ _ row _ =>
      .ofMaintains fun _ hI => maintains_removeItems hI c is row
  | .delete detach xs =>
    simp only [writeClause]
    exact .bind (.ofMaintains fun _ hI => maintains_deleteRows hI c detach xs rows)
      fun _ hK _ _ => .pure fun _ hK' => Row.allAmong_mono (hK.trans hK') _ hrows
  | .foreach n x body =>
    simp only [writeClause]
    rw [Clause.parts, List.forall_mem_cons] at hk
    refine grounds_eachRow hrows fun K₁ h₁ row hrow => ?_
    refine .bind (Q := fun K vs => ∀ v ∈ vs, v.Among K) (.reading fun s hs hK => ?_)
      fun K₂ h₂ items hitems => .forM fun K₃ h₃ v hv => ?_
    · exact .bind (hk.1.value (hc.among hs) (Dict.among_mono hK _ hrow)) fun _ hv =>
        among_foreachItems hv
    · have hinner : Dict.Among K₃ (Dict.insert row n v) :=
        Dict.Every.insert (Dict.among_mono (h₂.trans h₃) _ hrow) n ((hitems v hv).mono h₃)
      exact .bind (grounds_writeClauses hc hk.2 (List.forall_mem_singleton.2 hinner))
        fun _ _ _ _ => .pure fun _ _ => trivial
  | .matching .. | .unwind .. | .withItems .. | .returnItems .. | .call .. | .subquery .. =>
    exact .throw _

lemma grounds_writeClauses (hc : c.Plain) {ks : List (Clause Meaning)}
    (hk : ∀ x ∈ Clause.allParts ks, x.Closed) {K : Entity → Prop} {rows : List Row}
    (hrows : Row.AllAmong K rows) : Grounds K (writeClauses c rows ks) Row.AllAmong := by
  match ks with
  | [] =>
    simp only [writeClauses]
    exact .pure fun _ hK => Row.allAmong_mono hK _ hrows
  | k :: ks =>
    rw [Clause.allParts, List.forall_mem_append] at hk
    simp only [writeClauses]
    exact .bind (grounds_writeClause hc hk.1 hrows) fun _ _ _ hrows =>
      grounds_writeClauses hc hk.2 hrows

end

/-! ### Queries -/

lemma grounds_join {f : Row → Edit Output} {t : Table} (ht : t.Among K)
    (h : ∀ K', K ≤ K' → ∀ row, Dict.Among K' row →
      Grounds K' (f row) fun K o => o.table.Among K) :
    Grounds K (t.join f) fun K t => t.Among K := by
  refine .bind (.mapM (Q := fun K e => Dict.Among K e.1 ∧ e.2.table.Among K) ?_ ?_)
    fun K' hK joined hjoined => .pure fun L hL row hrow => ?_
  · exact fun _ _ hK _ he => ⟨Dict.among_mono hK _ he.1, Row.allAmong_mono hK _ he.2⟩
  · intro K' hK row hrow
    have hrow := Dict.among_mono hK _ (ht row hrow)
    exact .bind (h K' hK row hrow) fun K'' hK' o ho => .pure fun L hL =>
      ⟨Dict.among_mono (hK'.trans hL) _ hrow, Row.allAmong_mono hL _ ho⟩
  · obtain ⟨e, he, hrow⟩ := List.mem_flatMap.1 hrow
    obtain ⟨houter, ho⟩ := hjoined e he
    exact Dict.among_mono hL _ (Output.among_joinRows houter ho row hrow)

lemma grounds_step (hc : c.Plain) {k : Clause Meaning} (hk : ∀ x ∈ k.parts, x.Closed) {t : Table}
    (ht : t.Among K) : Grounds K (do
      if k.isWrite then
        let rows ← writeClause c t.rows k
        return { t with rows }.declare (writtenNames k)
      else Edit.reading c fun env => readStep env k t : Edit Table) fun K t => t.Among K := by
  split_ifs
  · exact .bind (grounds_writeClause hc hk ht) fun _ _ _ hrows =>
      .pure fun _ hK => Row.allAmong_mono hK _ hrows
  · exact .reading fun s hs hK => among_readStep (hc.among hs) (Row.allAmong_mono hK _ ht) hk

mutual

lemma grounds_runClause (hc : c.Plain) {k : Clause Meaning} (hk : ∀ x ∈ k.parts, x.Closed)
    {K : Entity → Prop} {t : Table} (ht : t.Among K) :
    Grounds K (runClause c t k) fun K t => t.Among K := by
  match k with
  | .subquery ⟨first, unions⟩ =>
    rw [Clause.parts, List.forall_mem_append] at hk
    simp only [runClause]
    refine grounds_join ht fun K' _ row hrow => ?_
    have hseed : (Table.ofRow row).Among K' := List.forall_mem_singleton.2 hrow
    exact .bind (grounds_runClauses hc hk.1 hseed) fun K'' hK o ho =>
      grounds_runBranches hc hk.2 (Row.allAmong_mono hK _ hseed) ho
  | .create .. | .merge .. | .set .. | .remove .. | .delete .. | .foreach .. | .matching ..
  | .unwind .. | .withItems .. | .returnItems .. | .call .. =>
    simp only [runClause]
    exact grounds_step hc hk ht

lemma grounds_runClauses (hc : c.Plain) {ks : List (Clause Meaning)}
    (hk : ∀ x ∈ Clause.allParts ks, x.Closed) {K : Entity → Prop} {o : Output}
    (ho : o.table.Among K) : Grounds K (runClauses c o ks) fun K o => o.table.Among K := by
  match ks with
  | [] =>
    simp only [runClauses]
    exact .pure fun _ hK => Row.allAmong_mono hK _ ho
  | k :: ks =>
    rw [Clause.allParts, List.forall_mem_append] at hk
    simp only [runClauses]
    exact .bind (grounds_runClause hc hk.1 ho) fun _ _ _ ht => grounds_runClauses hc hk.2 ht

lemma grounds_runBranches (hc : c.Plain) {bs : List (Branch (Clause Meaning))}
    (hb : ∀ x ∈ Clause.branchParts bs, x.Closed) {K : Entity → Prop} {seed : Table}
    (hseed : seed.Among K) {o : Output} (ho : o.table.Among K) :
    Grounds K (runBranches c seed o bs) fun K o => o.table.Among K := by
  match bs with
  | [] =>
    simp only [runBranches]
    exact .pure fun _ hK => Row.allAmong_mono hK _ ho
  | ⟨all, ks⟩ :: bs =>
    rw [Clause.branchParts, List.forall_mem_append] at hb
    simp only [runBranches]
    exact .bind (grounds_runClauses hc hb.1 hseed) fun _ hK o' ho' => grounds_runBranches hc hb.2
      (Row.allAmong_mono hK _ hseed) (Output.among_union all (Row.allAmong_mono hK _ ho) ho')

end

/-- **A query leaves a grounded graph grounded.** -/
theorem grounds_reply (hc : c.Plain) {q : Query Meaning} (hq : ∀ x ∈ q.parts, x.Closed) :
    Grounds K (reply c q) fun _ _ => True := by
  rw [QueryOf.parts, List.forall_mem_append] at hq
  have hunit {K : Entity → Prop} : Table.unit.Among K := List.forall_mem_singleton.2 .nil
  have hrun : Grounds K (run c .unit q) fun K o => o.table.Among K :=
    .bind (grounds_runClauses hc hq.1 hunit) fun _ _ _ ho => grounds_runBranches hc hq.2 hunit ho
  refine .bind hrun fun _ _ o _ => .bind (.ofMaintains fun _ _ => .draft) fun _ _ d _ => ?_
  split_ifs
  · exact .pure fun _ _ => trivial
  · exact .pure fun _ _ => trivial

end Query

end PropertyGraph
