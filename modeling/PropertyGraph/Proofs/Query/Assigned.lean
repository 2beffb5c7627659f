import PropertyGraph.Proofs.Cypher.Map
import PropertyGraph.Proofs.Query.Made
import PropertyGraph.Proofs.Store.Assigned
import PropertyGraph.Query.Write

/-!
Setting the properties of an entity from a map.

An edit that may fail is described by when it succeeds and what it does then, and so is one edit
after another. Setting a key only fails because of the entry, and after it the same entries are
refused as before; so the entries of a map are set if none of them is refused in the first graph.
To replace all properties is to set the keys that the map has not to null, which is never refused,
and then the map.
-/

namespace PropertyGraph

namespace Store

variable {s : Store} {m : Properties} {v : Value}

/-! ### Sources -/

/-- The map that a value stands for where properties are set from it. -/
inductive StandsFor (s : Store) : Value → Properties → Prop
  | null : StandsFor s .null []
  | map {m : Properties} (hm : Dict.Ascending m) : StandsFor s (.map m) m
  | node (i : NodeId) : StandsFor s (.node i) (s.nodeProperties i)
  | rel (i : RelId) : StandsFor s (.rel i) (s.relProperties i)

lemma StandsFor.ascending (hs : Sound s) (h : s.StandsFor v m) : Dict.Ascending m := by
  cases h with
  | null => exact Dict.ascending_nil
  | map hm => exact hm
  | node i =>
    rw [nodeProperties]
    cases hn : s.node? i with
    | none => exact Dict.ascending_nil
    | some n => exact (hs.node hn).properties.ascending
  | rel i =>
    rw [relProperties]
    cases hr : s.rel? i with
    | none => exact Dict.ascending_nil
    | some r => exact (hs.rel hr).ascending

lemma StandsFor.propertySource (h : s.StandsFor v m) : Query.propertySource s v = .ok m := by
  cases h <;> rfl

end Store

namespace Edit

variable {α β : Type} {e : Edit α} {d : Draft} {p p' : Prop} {q q' : α → Draft → Prop}

/-! ### Edits that may fail -/

/-- An edit succeeds exactly under a condition, and then something holds of what it gives. -/
structure Exact (e : Edit α) (d : Draft) (p : Prop) (q : α → Draft → Prop) : Prop where
  succeeds_iff : (∃ a d', ExceptT.run e d = (.ok a, d')) ↔ p
  gives : ∀ {a d'}, ExceptT.run e d = (.ok a, d') → q a d'

namespace Exact

lemma of_ok {a : α} {d' : Draft} (h : ExceptT.run e d = (.ok a, d')) (hp : p) (hq : q a d') :
    Exact e d p q where
  succeeds_iff := iff_of_true ⟨a, d', h⟩ hp
  gives h' := by
    cases h.symm.trans h'
    exact hq

lemma of_error {x : Error} {d' : Draft} (h : ExceptT.run e d = (.error x, d')) (hp : ¬ p) :
    Exact e d p q where
  succeeds_iff := iff_of_false (fun ⟨_, _, h'⟩ => nomatch h.symm.trans h') hp
  gives h' := nomatch h.symm.trans h'

lemma of_run_eq {e' : Edit α} (h : Exact e d p q) (hrun : ExceptT.run e' d = ExceptT.run e d) :
    Exact e' d p q :=
  ⟨by rw [hrun, h.succeeds_iff], fun h' => h.gives (hrun ▸ h')⟩

lemma imp (h : Exact e d p q) (hp : p ↔ p') (hq : ∀ a d', q a d' → q' a d') : Exact e d p' q' :=
  ⟨h.succeeds_iff.trans hp, fun h' => hq _ _ (h.gives h')⟩

lemma bind {f : α → Edit β} {r : β → Draft → Prop} (h : Exact e d p q)
    (hf : ∀ a d', q a d' → Exact (f a) d' p' r) : Exact (e >>= f) d (p ∧ p') r where
  succeeds_iff := by
    constructor
    · rintro ⟨b, d₂, hrun⟩
      obtain ⟨a, d₁, ha, hb⟩ := run_bind_eq_ok.1 hrun
      exact ⟨h.succeeds_iff.1 ⟨a, d₁, ha⟩, (hf a d₁ (h.gives ha)).succeeds_iff.1 ⟨b, d₂, hb⟩⟩
    · rintro ⟨hp, hp'⟩
      obtain ⟨a, d₁, ha⟩ := h.succeeds_iff.2 hp
      obtain ⟨b, d₂, hb⟩ := (hf a d₁ (h.gives ha)).succeeds_iff.2 hp'
      exact ⟨b, d₂, run_bind_eq_ok.2 ⟨a, d₁, ha, hb⟩⟩
  gives hrun := by
    obtain ⟨a, d₁, ha, hb⟩ := run_bind_eq_ok.1 hrun
    exact (hf a d₁ (h.gives ha)).gives hb

end Exact

end Edit

namespace Query

open Cypher Edit

variable {c : Context} {d : Draft} {x : Entity} {ps m : Properties}

/-- The graph of a draft is sound, and differs from another one in the properties of an entity. -/
def Assigned (s : Store) (x : Entity) (ps : Properties) (d : Draft) : Prop :=
  d.store.Sound ∧ s.Assigns x ps d.store

lemma replaced_value (hx : d.store.propertiesOf? x = some ps) :
    replaced d.store x.value = .ok ps := by
  cases x with
  | node i =>
    obtain ⟨n, hn, rfl⟩ := Option.map_eq_some_iff.1 hx
    rw [Entity.value, replaced, Store.nodeProperties, hn]
    rfl
  | rel i =>
    obtain ⟨r, hr, rfl⟩ := Option.map_eq_some_iff.1 hx
    rw [Entity.value, replaced, Store.relProperties, hr]
    rfl

lemma setProperty_value {v : Value} (hv : v.mentionsEntity = false) (x : Entity) (k : String) :
    setProperty x.value k v =
      Edit.store (Store.setProperty x k v) >>= fun _ => Edit.count { propertiesSet := 1 } := by
  rw [setProperty, if_neg (by simp [hv])]
  cases x <;> rfl

/-- **Setting one key.** -/
lemma exact_setProperty (hs : d.store.Sound) (hx : d.store.propertiesOf? x = some ps) (k : String)
    (v : Value) : Exact (setProperty x.value k v) d (¬ d.store.Refuses x (k, v)) fun _ d' =>
      Assigned d.store x (Store.restore ps k (Store.stored? v)) d' := by
  rcases Bool.eq_false_or_eq_true v.mentionsEntity with hv | hv
  · have hrun : ExceptT.run (setProperty x.value k v) d =
        (.error (.type (.propertyValue v.typeName)), d) := by
      rw [setProperty, if_pos hv]
      rfl
    exact .of_error hrun (not_not_intro (.inl hv))
  rw [setProperty_value hv]
  by_cases hclash : d.store.Clashes x k v
  · obtain ⟨e, hset⟩ := Store.setProperty_eq_error hs hx hclash
    have hrun : ExceptT.run (Edit.store (Store.setProperty x k v)) d = (.error (.store e), d) := by
      rw [run_store, hset]
      rfl
    exact .of_error (by rw [run_bind, hrun]) (not_not_intro (.inr hclash))
  · obtain ⟨t, hset, ht⟩ := Store.setProperty_eq_ok hs hx hclash
    have hsound := hs.setProperty x k v
    rw [hset] at hsound
    have hrun : ExceptT.run (Edit.store (Store.setProperty x k v)) d =
        (.ok (), { d with store := t }) := by
      rw [run_store, hset]
      rfl
    have hfits : ¬ d.store.Refuses x (k, v) := by simp [Store.Refuses, hv, hclash]
    exact .of_ok (run_bind_ok hrun _) hfits ⟨hsound, ht⟩

/-- **Setting keys one after the other.** -/
lemma exact_setAll (hs : d.store.Sound) (hx : d.store.propertiesOf? x = some ps) (es : Properties) :
    Exact (setAll x.value es) d (∀ p ∈ es, ¬ d.store.Refuses x p) fun _ d' =>
      Assigned d.store x (Store.putAll ps es) d' := by
  induction es generalizing d ps with
  | nil => exact .of_ok rfl nofun ⟨hs, .refl hs hx⟩
  | cons p es ih =>
    have hboth : Exact (setAll x.value (p :: es)) d
        (¬ d.store.Refuses x p ∧ ∀ p ∈ es, ¬ d.store.Refuses x p) fun _ d' =>
          Assigned d.store x (Store.putAll ps (p :: es)) d' := by
      refine (exact_setProperty hs hx p.1 p.2).bind fun _ d₁ h₁ => ?_
      refine (ih h₁.1 (h₁.2.propertiesOf? hx)).imp (by simp only [h₁.2.refuses]) fun _ d₂ h₂ => ?_
      exact ⟨h₂.1, h₁.2.trans h₂.2⟩
    rwa [← List.forall_mem_cons (p := fun p => ¬ d.store.Refuses x p)] at hboth

/-- **Replacing all properties.** -/
lemma exact_replaceAll (hs : d.store.Sound) (hx : d.store.propertiesOf? x = some ps)
    (hm : Dict.Ascending m) : Exact (replaceAll c x.value m) d (∀ p ∈ m, ¬ d.store.Refuses x p)
      fun _ d' => Assigned d.store x (Store.present m) d' := by
  have hclear : Exact (setAll x.value (Store.cleared ps m)) d True fun _ d' =>
      Assigned d.store x (Store.putAll ps (Store.cleared ps m)) d' := by
    refine (exact_setAll hs hx _).imp (iff_true_intro fun p hp => ?_) fun _ _ h => h
    obtain ⟨k, -, rfl⟩ := List.mem_map.1 hp
    exact d.store.not_refuses_null x k
  have hboth : Exact (setAll x.value (Store.cleared ps m) >>= fun _ => setAll x.value m) d
      (True ∧ ∀ p ∈ m, ¬ d.store.Refuses x p) fun _ d' =>
        Assigned d.store x (Store.present m) d' := by
    refine hclear.bind fun _ d₁ h₁ => ?_
    refine (exact_setAll h₁.1 (h₁.2.propertiesOf? hx) m).imp (by simp only [h₁.2.refuses])
      fun _ d₂ h₂ => ?_
    rw [Store.putAll_cleared (hs.wellFormed hx) hm] at h₂
    exact ⟨h₂.1, h₁.2.trans h₂.2⟩
  have hread : ExceptT.run (Edit.reading c fun env => replaced env.store x.value) d =
      (.ok ps, d) := by
    rw [run_reading]
    exact congrArg (·, d) (replaced_value hx)
  rw [true_and] at hboth
  refine hboth.of_run_eq ?_
  have hnull : x.value.isNull = false := by cases x <;> rfl
  rw [replaceAll, if_neg (by simp [hnull]), run_bind_ok hread]
  simp only [setAll, Store.cleared, List.forM_eq_forM, List.forM_map]

/-! ### The clause -/

lemma exact_set {row : Row} {i : SetItem Meaning} {p : Prop} {q q' : Draft → Prop}
    (h : Exact (setItem c row i) d p fun _ => q) (hq : ∀ d', q d' → q' d') :
    Exact (writeClause c [row] (.set [i])) d p fun rows d' => rows = [row] ∧ q' d' := by
  have hclause : writeClause c [row] (.set [i]) = setItem c row i >>= fun _ => pure [row] := by
    rw [writeClause, eachRow]
    simp [setItems]
  have hboth : Exact (writeClause c [row] (.set [i])) d (p ∧ True)
      fun rows d' => rows = [row] ∧ q' d' := by
    rw [hclause]
    exact h.bind fun _ d₁ h₁ => .of_ok rfl trivial ⟨rfl, hq d₁ h₁⟩
  rwa [and_true] at hboth

/-- **SET with a map**, in every store of a run. It succeeds exactly if no entry of the map is
refused. Then the properties of the entity are the entries that are not null, or those it had
overridden by the entries; and nothing else changes. -/
theorem setMap_exact (calls : List Store.Call) (t : Tally) (c : Context) (row : Row) (name : String)
    (x : Entity) (old : Properties) (e : Expr) (w : Value) (m : Properties)
    (hrow : Dict.get? row name = some x.value)
    (hx : (Store.run calls {}).propertiesOf? x = some old)
    (he : e.meaning.value (c.on (Store.run calls {})) row = .ok w)
    (hw : (Store.run calls {}).StandsFor w m) :
    let s := Store.run calls {}
    let set (i : SetItem Expr) := writeClause c [row] ((Clause.set [i]).map Expr.meaning)
    Exact (set (.replace name e)) ⟨s, t⟩ (∀ p ∈ m, ¬ s.Refuses x p)
      (fun rows d => rows = [row] ∧ s.Assigns x (Store.present m) d.store) ∧
    Exact (set (.extend name e)) ⟨s, t⟩ (∀ p ∈ m, ¬ s.Refuses x p)
      (fun rows d => rows = [row] ∧ s.Assigns x (Store.overridden old m) d.store) := by
  intro s set
  have hs : s.Sound := (Store.lawful_empty.run calls).sound
  have hm := hw.ascending hs
  have htarget : Dict.getD row name .null = x.value := by rw [Dict.getD, hrow]; rfl
  have hsource : ExceptT.run (sourceOf c e.meaning row) ⟨s, t⟩ = (.ok m, ⟨s, t⟩) := by
    rw [sourceOf, run_reading, he]
    exact congrArg (·, _) hw.propertySource
  have hreplace : Exact (setItem c row (.replace name e.meaning)) ⟨s, t⟩
      (∀ p ∈ m, ¬ s.Refuses x p) fun _ d => Assigned s x (Store.present m) d := by
    refine (exact_replaceAll (c := c) hs hx hm).of_run_eq ?_
    rw [setItem, run_bind_ok hsource, htarget]
  have hextend : Exact (setItem c row (.extend name e.meaning)) ⟨s, t⟩
      (∀ p ∈ m, ¬ s.Refuses x p) fun _ d => Assigned s x (Store.overridden old m) d := by
    rw [← Store.putAll_eq_overridden (hs.wellFormed hx) hm]
    refine (exact_setAll hs hx m).of_run_eq ?_
    rw [setItem, run_bind_ok hsource, htarget]
  exact ⟨exact_set hreplace fun _ h => h.2, exact_set hextend fun _ h => h.2⟩

/-- Maps that are set at a node of a constrained label: one with a null, and one that is in the way
of the constraint. -/
theorem setMap_exact_constrained :
    let s := Store.run [.createRule .constraint ⟨"one", "K", "v"⟩,
      .createNode ["K"] [("a", .bool true), ("v", .str "x")],
      .createNode ["K"] [("v", .str "y")]] {}
    let c (m : Properties) : Context := ⟨[("m", .map m)], 8, .zero⟩
    let set (m : Properties) (i : SetItem Expr) :=
      ExceptT.run (writeClause (c m) [[("n", .node 0)]] ((Clause.set [i]).map Expr.meaning)) ⟨s, {}⟩
    let e := Expr.of (.parameter "m")
    let m : Properties := [("a", .null), ("b", .bool true)]
    (∃ d, set m (.replace "n" e) = (.ok [[("n", .node 0)]], d) ∧
      s.Assigns (.node 0) [("b", .bool true)] d.store) ∧
    (∃ d, set m (.extend "n" e) = (.ok [[("n", .node 0)]], d) ∧
      s.Assigns (.node 0) [("b", .bool true), ("v", .str "x")] d.store) ∧
    ¬ ∃ rows d, set [("v", .str "y")] (.extend "n" e) = (.ok rows, d) := by
  intro s c set e m
  have hset (m : Properties) (hm : Dict.Ascending m) := setMap_exact
    [.createRule .constraint ⟨"one", "K", "v"⟩,
      .createNode ["K"] [("a", .bool true), ("v", .str "x")],
      .createNode ["K"] [("v", .str "y")]] {} (c m) [("n", .node 0)] "n" (.node 0)
    [("a", .bool true), ("v", .str "x")] e (.map m) m rfl (by decide +kernel) rfl (.map hm)
  have hconstraints : s.constraints = [⟨"one", "K", "v"⟩] := by decide +kernel
  have hfits : ∀ p ∈ m, ¬ s.Refuses (.node 0) p := by
    have hb : ¬ s.Refuses (.node 0) ("b", .bool true) := by
      rintro (h | ⟨-, r, hr, hkey, -⟩)
      · cases h
      · rw [hconstraints, List.mem_singleton] at hr
        simp [hr] at hkey
    simpa [m, hb] using s.not_refuses_null (.node 0) "a"
  have htaken : s.Refuses (.node 0) ("v", .str "y") := by
    refine .inr ⟨rfl, ⟨"one", "K", "v"⟩, by simp [hconstraints], rfl, ?_⟩
    have hnode : s.node? 0 = some ⟨0, ["K"], [("a", .bool true), ("v", .str "x")]⟩ := by
      decide +kernel
    have hother : s.node? 1 = some ⟨1, ["K"], [("v", .str "y")]⟩ := by decide +kernel
    exact ⟨⟨_, hnode, by simp⟩, 1, .str "y", by simp, ⟨_, hother, by simp, rfl⟩, by decide⟩
  obtain ⟨hreplace, hextend⟩ := hset m (List.pairwise_pair.2 (by decide +kernel))
  refine ⟨?_, ?_, ?_⟩
  · obtain ⟨rows, d, hrun⟩ := hreplace.succeeds_iff.2 hfits
    obtain ⟨rfl, hd⟩ := hreplace.gives hrun
    exact ⟨d, hrun, hd⟩
  · obtain ⟨rows, d, hrun⟩ := hextend.succeeds_iff.2 hfits
    obtain ⟨rfl, hd⟩ := hextend.gives hrun
    exact ⟨d, hrun, hd⟩
  · rw [(hset [("v", .str "y")] (List.pairwise_singleton ..)).2.succeeds_iff]
    exact fun h => h _ (List.mem_singleton_self _) htaken

end Query

end PropertyGraph
