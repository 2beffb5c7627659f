import PropertyGraph.Proofs.Query.Stepped

/-!
Clauses that write, in rows that bind their scope.

A pattern is created from left to right, and the properties of an element are read in a row that
binds what was created before it. What SET and REMOVE change is bound, as the check has seen to it.
FOREACH goes through its clauses with rows that bind its name as well.
-/

namespace PropertyGraph

open Cypher

namespace Guarded

variable {c : Context} {s s' : Scope} {row : Row}

/-! ### Creating -/

lemma newProperties_alike {part : Option Guarded} (hpart : ∀ g ∈ part, g.Sound)
    (hfits : part.all (fits s)) (hrow : row.Covers s) :
    Query.newProperties c (part.map strict) row = Query.newProperties c (part.map plain) row := by
  have hvalue : (Edit.reading c fun env => Meaning.value? (part.map strict) env none row) =
      Edit.reading c fun env => Meaning.value? (part.map plain) env none row := by
    refine congrArg _ (funext fun env => Meaning.value?_congr fun g hg => ?_)
    exact (hpart g hg).fits ((Option.all_eq_true _ _).1 hfits g hg) hrow
  rw [Query.newProperties, Query.newProperties, hvalue]

lemma createNode_alike {p : NodePattern Guarded} (hp : ∀ g ∈ p.properties, g.Sound)
    (hfits : p.properties.all (fits s)) (hrow : row.Covers s) :
    Query.createNode c (p.map strict) row = Query.createNode c (p.map plain) row := by
  have hnew := newProperties_alike (c := c) hp hfits hrow
  simp only [Query.createNode, NodePattern.map, hnew, Option.isNone_map]

lemma createHop_alike {h : Hop Guarded} (hrel : ∀ g ∈ h.rel.properties, g.Sound)
    (hnode : ∀ g ∈ h.node.properties, g.Sound) (hfits : h.node.properties.all (fits s))
    (hrelfits : h.rel.properties.all (fits s')) (hs : s' ⊆ s.declare h.node.name.toList)
    (near : NodeId) (hrow : row.Covers s) :
    Query.createHop c (h.map strict) near row = Query.createHop c (h.map plain) near row := by
  rw [Query.createHop, Query.createHop]
  refine bind_congr fun type => ?_
  dsimp only [Hop.map, RelPattern.map]
  split
  · rfl
  · rw [createNode_alike hnode hfits hrow]
    refine (Query.createNode_extended (h.node.map plain) row).bind_congr fun r hr => ?_
    refine bind_congr fun ends => ?_
    rw [newProperties_alike hrel hrelfits ((hrow.extended hr).mono hs)]

lemma createHops_alike {created : Bool} {hs : List (Hop Guarded)}
    (hord : hopsInOrder fits created s hs)
    (hsound : ∀ h ∈ hs, (∀ g ∈ h.rel.properties, g.Sound) ∧ ∀ g ∈ h.node.properties, g.Sound)
    (near : NodeId) (hrow : row.Covers s) :
    Query.createHops c (hs.map (·.map strict)) near row =
      Query.createHops c (hs.map (·.map plain)) near row := by
  induction hs generalizing s near row with
  | nil => rfl
  | cons h hs ih =>
    rw [List.forall_mem_cons] at hsound
    rw [hopsInOrder, Bool.and_eq_true, Bool.and_eq_true] at hord
    obtain ⟨⟨hnode, hrel⟩, hrest⟩ := hord
    have hscope : (if created then s.declare h.node.name.toList else s) ⊆
        s.declare h.node.name.toList := by
      split_ifs
      · exact List.Subset.refl _
      · exact fun n hn => Scope.mem_declare.2 (.inl hn)
    rw [List.map_cons, List.map_cons, Query.createHops, Query.createHops,
      createHop_alike hsound.1.1 hsound.1.2 hnode hrel hscope near hrow]
    refine (Query.createHop_extended (h.map plain) near row).bind_congr fun r hr => ?_
    obtain ⟨step, row'⟩ := r
    have hhops := ih hrest hsound.2 step.2 (hrow.extended hr)
    simp only [hhops]

lemma createPath_alike {created : Bool} {p : PathPattern Guarded}
    (hp : ∀ g ∈ p.properties, g.Sound) (hord : p.inOrder fits created s) (hrow : row.Covers s) :
    Query.createPath c (p.map strict) row = Query.createPath c (p.map plain) row := by
  rw [PathPattern.inOrder, Bool.and_eq_true] at hord
  have hstart : ∀ g ∈ p.start.properties, g.Sound := fun g hg =>
    hp g (List.mem_append_left _ (List.mem_append_left _ (Option.mem_toList.2 hg)))
  rw [Query.createPath, Query.createPath]
  change (Query.createNode c (p.start.map strict) row >>= _) = _
  rw [createNode_alike hstart hord.1 hrow]
  refine (Query.createNode_extended (p.start.map plain) row).bind_congr fun a ha => ?_
  obtain ⟨start, row'⟩ := a
  have hhops : Query.createHops c (p.map strict).hops start row' =
      Query.createHops c (p.map plain).hops start row' :=
    createHops_alike hord.2 (fun h => forall_mem_hop hp) start (hrow.extended ha)
  simp only [hhops]
  rfl

lemma createPaths_alike {ps : List (PathPattern Guarded)}
    (hps : ∀ g ∈ ps.flatMap PathPattern.properties, g.Sound)
    (hord : patternsInOrder fits true s ps) (hrow : row.Covers s) :
    Query.createPaths c (ps.map (·.map strict)) row =
      Query.createPaths c (ps.map (·.map plain)) row := by
  induction ps generalizing s row with
  | nil => rfl
  | cons p ps ih =>
    rw [List.flatMap_cons, List.forall_mem_append] at hps
    rw [patternsInOrder, Bool.and_eq_true] at hord
    have hpath := createPath_alike (c := c) hps.1 hord.1 hrow
    change (Query.createPath c (p.map strict) row >>=
      Query.createPaths c (ps.map (·.map strict))) = Query.createPath c (p.map plain) row >>=
        Query.createPaths c (ps.map (·.map plain))
    rw [hpath]
    refine (Query.createPath_extended (p.map plain) row).bind_congr fun r hr => ?_
    have hrow' := hrow.extended hr
    rw [PathPattern.names_map] at hrow'
    exact ih hps.2 hord.2 hrow'

/-! ### Changing -/

lemma value_alike {g : Guarded} (hg : Column none s g) (env : Env) (hrow : row.Covers s) :
    g.strict.value env row = g.plain.value env row :=
  hg.alike (.alone hrow)

lemma sourceOf_alike {g : Guarded} (hg : Column none s g) (hrow : row.Covers s) :
    Query.sourceOf c g.strict row = Query.sourceOf c g.plain row := by
  rw [Query.sourceOf, Query.sourceOf]
  exact congrArg _ (funext fun env => by rw [value_alike hg env hrow])

lemma setItem_alike {i : SetItem Guarded} (hi : ∀ g ∈ i.parts, Column none s g)
    (hrow : row.Covers s) :
    Query.setItem c row (i.map strict) = Query.setItem c row (i.map plain) := by
  cases i with
  | property e k v =>
    have he := hi e (by simp [SetItem.parts])
    have hv := hi v (by simp [SetItem.parts])
    simp only [SetItem.map, Query.setItem, value_alike he _ hrow, value_alike hv _ hrow]
  | replace n v | extend n v =>
    simp only [SetItem.map, Query.setItem, sourceOf_alike (hi v (by simp [SetItem.parts])) hrow]
  | labels n ls => rfl

lemma removeItem_alike {i : RemoveItem Guarded} (hi : ∀ g ∈ i.parts, Column none s g)
    (hrow : row.Covers s) :
    Query.removeItem c row (i.map strict) = Query.removeItem c row (i.map plain) := by
  cases i with
  | property e k =>
    have he := hi e (by simp [RemoveItem.parts])
    simp only [RemoveItem.map, Query.removeItem, value_alike he _ hrow]
  | labels n ls => rfl

/-- The check of what SET does: its parts pass, and what it changes is in scope. -/
lemma checkSet_eq_ok {i : SetItem Guarded} (h : Scope.checkSet s (i.map check) = .ok ()) :
    (∀ g ∈ i.parts, g.check s = .ok ()) ∧ ∀ n ∈ i.target?, n ∈ s := by
  cases i with
  | property e k v =>
    have hall := checkAll_eq_ok.1 h
    exact ⟨by simpa [SetItem.parts] using hall, by simp [SetItem.target?]⟩
  | replace n v | extend n v =>
    have hall := checkAll_eq_ok.1 h
    rw [List.forall_mem_cons, List.forall_mem_singleton, require_eq_ok] at hall
    exact ⟨by simpa [SetItem.parts] using hall.2, by simpa [SetItem.target?] using hall.1⟩
  | labels n ls =>
    exact ⟨by simp [SetItem.parts], by simpa [SetItem.target?] using require_eq_ok.1 h⟩

lemma checkRemove_eq_ok {i : RemoveItem Guarded}
    (h : Scope.checkRemove s (i.map check) = .ok ()) :
    (∀ g ∈ i.parts, g.check s = .ok ()) ∧ ∀ n ∈ i.target?, n ∈ s := by
  cases i with
  | property e k => exact ⟨List.forall_mem_singleton.2 h, by simp [RemoveItem.target?]⟩
  | labels n ls =>
    exact ⟨by simp [RemoveItem.parts], by simpa [RemoveItem.target?] using require_eq_ok.1 h⟩

/-- What holds of the parts and the targets of each item holds of those of all. -/
lemma forall_items {ι : Type} {parts : ι → List Guarded} {target? : ι → Option String}
    {C : Guarded → Prop} {is : List ι}
    (h : ∀ i ∈ is, (∀ g ∈ parts i, C g) ∧ ∀ n ∈ target? i, n ∈ s) :
    (∀ g ∈ is.flatMap parts, C g) ∧ is.filterMap target? ⊆ s := by
  refine ⟨fun g hg => ?_, fun n hn => ?_⟩
  · obtain ⟨i, hi, hg⟩ := List.mem_flatMap.1 hg
    exact (h i hi).1 g hg
  · obtain ⟨i, hi, hn⟩ := List.mem_filterMap.1 hn
    exact (h i hi).2 n hn

lemma checkSets_eq_ok {is : List (SetItem Guarded)}
    (h : (is.map (·.map check)).forM (Scope.checkSet s) = .ok ()) :
    (∀ g ∈ is.flatMap SetItem.parts, g.check s = .ok ()) ∧ is.filterMap SetItem.target? ⊆ s := by
  rw [forM_eq_ok, List.forall_mem_map] at h
  exact forall_items fun i hi => checkSet_eq_ok (h i hi)

lemma checkRemoves_eq_ok {is : List (RemoveItem Guarded)}
    (h : (is.map (·.map check)).forM (Scope.checkRemove s) = .ok ()) :
    (∀ g ∈ is.flatMap RemoveItem.parts, g.check s = .ok ()) ∧
      is.filterMap RemoveItem.target? ⊆ s := by
  rw [forM_eq_ok, List.forall_mem_map] at h
  exact forall_items fun i hi => checkRemove_eq_ok (h i hi)

/-- A demand that is met changes nothing. -/
lemma demand_bind {α : Type} {names : List String} (hrow : row.Covers s) (h : names ⊆ s)
    (e : Edit α) : (Edit.reading c fun _ => row.demand names) >>= (fun _ => e) = e := by
  rw [demand_eq_ok hrow h, Edit.reading_pure, pure_bind]

lemma strictSet_eq {is : List (SetItem Guarded)}
    (hparts : ∀ g ∈ is.flatMap SetItem.parts, Column none s g)
    (htargets : is.filterMap SetItem.target? ⊆ s) (hrow : row.Covers s) :
    Query.strictSet c (is.map (·.map strict)) row =
      Query.setItems c (is.map (·.map plain)) row := by
  have htarget : SetItem.target? ∘ (·.map strict) = SetItem.target? :=
    funext fun i => by cases i <;> rfl
  rw [Query.strictSet, List.filterMap_map, htarget, demand_bind hrow htargets]
  exact forM_map_congr fun i hi =>
    setItem_alike (fun g hg => hparts g (List.mem_flatMap.2 ⟨i, hi, hg⟩)) hrow

lemma strictRemove_eq {is : List (RemoveItem Guarded)}
    (hparts : ∀ g ∈ is.flatMap RemoveItem.parts, Column none s g)
    (htargets : is.filterMap RemoveItem.target? ⊆ s) (hrow : row.Covers s) :
    Query.strictRemove c (is.map (·.map strict)) row =
      Query.removeItems c (is.map (·.map plain)) row := by
  have htarget : RemoveItem.target? ∘ (·.map strict) = RemoveItem.target? :=
    funext fun i => by cases i <;> rfl
  rw [Query.strictRemove, List.filterMap_map, htarget, demand_bind hrow htargets]
  exact forM_map_congr fun i hi =>
    removeItem_alike (fun g hg => hparts g (List.mem_flatMap.2 ⟨i, hi, hg⟩)) hrow

lemma deleteRows_alike {xs : List Guarded} (hxs : ∀ g ∈ xs, Column none s g) (detach : Bool)
    {rows : List Row} (hrows : ∀ row ∈ rows, row.Covers s) :
    Query.deleteRows c detach (xs.map strict) rows =
      Query.deleteRows c detach (xs.map plain) rows := by
  have hrow (row : Row) (hrow : row ∈ rows) (waiting : List NodeId) :
      Query.deleteRow c detach (xs.map strict) waiting row =
        Query.deleteRow c detach (xs.map plain) waiting row := by
    rw [Query.deleteRow, Query.deleteRow, List.foldlM_map, List.foldlM_map]
    exact foldlM_congr (fun g hg waiting => by
      simp only [value_alike (hxs g hg) _ (hrows row hrow)]) waiting
  rw [Query.deleteRows, Query.deleteRows, foldlM_congr hrow]

lemma eachRow_alike {f g : Row → Edit Unit} {rows : List Row} (h : ∀ row ∈ rows, f row = g row) :
    Query.eachRow f rows = Query.eachRow g rows := by
  rw [Query.eachRow, Query.eachRow, forM_congr h]

lemma strictMerge_eq {p : PathPattern Guarded} {onCreate onMatch : List (SetItem Guarded)}
    (hp : ∀ g ∈ p.properties, g.Sound) (hord : p.inOrder fits false s)
    (hcreate : ∀ g ∈ onCreate.flatMap SetItem.parts, Column none (s.declare p.names) g)
    (hmatch : ∀ g ∈ onMatch.flatMap SetItem.parts, Column none (s.declare p.names) g)
    (hctargets : onCreate.filterMap SetItem.target? ⊆ s.declare p.names)
    (hmtargets : onMatch.filterMap SetItem.target? ⊆ s.declare p.names) (hrow : row.Covers s) :
    Query.strictMerge c (p.map strict) (onCreate.map (·.map strict)) (onMatch.map (·.map strict))
        row =
      Query.mergeRow c (p.map plain) (onCreate.map (·.map plain)) (onMatch.map (·.map plain))
        row := by
  have hsound : ∀ g ∈ [p].flatMap PathPattern.properties, g.Sound := by simpa using hp
  have hords : patternsInOrder fits false s [p] := by simpa [patternsInOrder] using hord
  have hfound :
      (Edit.reading c fun env => env.matcher.rows [Meaning.parts (p.map strict) env] row) =
        Edit.reading c fun env => env.matcher.rows [Meaning.parts (p.map plain) env] row :=
    congrArg _ (funext fun env => rows_alike hsound hords hrow)
  have hmade : Edit.Gives
      (Edit.reading c fun env => env.matcher.rows [Meaning.parts (p.map plain) env] row)
      fun found => ∀ row' ∈ found, row'.Covers (s.declare p.names) := by
    refine .reading fun _ found _ h row' hrow' => ?_
    have hext := hrow.extended (Matcher.rows_extended h hrow')
    simpa [Meaning.parts] using hext
  rw [Query.strictMerge, Query.mergeRow, hfound]
  refine hmade.bind_congr fun found hcovers => ?_
  rw [createPath_alike hp hord hrow,
    eachRow_alike fun row' hrow' => strictSet_eq hmatch hmtargets (hcovers row' hrow')]
  split_ifs
  · refine (Query.createPath_extended (p.map plain) row).bind_congr fun row' hrow' => ?_
    have hrow' := hrow.extended hrow'
    rw [PathPattern.names_map] at hrow'
    rw [strictSet_eq hcreate hctargets hrow']
  · rfl

/-! ### Writing clauses -/

/-- The rows of a writing clause bind the scope after it. -/
lemma covers_writeClause {k : Clause Meaning} (hs : s' ⊆ s.declare (Query.writtenNames k))
    {rows : List Row} (hrows : ∀ row ∈ rows, row.Covers s) :
    Edit.Gives (Query.writeClause c rows k) fun rows' => ∀ row ∈ rows', row.Covers s' := by
  refine (Query.writeClause_extended k rows).imp fun rows' h row' hrow' => ?_
  obtain ⟨row, hmem, hext⟩ := h.2 row' hrow'
  exact ((hrows row hmem).extended hext).mono hs

mutual

/-- **A clause that writes does the same** whether or not names must be bound. -/
theorem strictWrite_same {s s' : Scope} {known : Bool} {k : Clause Guarded}
    (hk : ∀ g ∈ k.parts, g.Sound) (hcheck : Scope.after s (k.map check) = .ok s')
    (hord : clause s known k) {rows : List Row} (hrows : ∀ row ∈ rows, row.Covers s) :
    Edit.Same (Query.strictWrite c rows (k.map strict)) (Query.writeClause c rows (k.map plain))
      fun rows' => ∀ row ∈ rows', row.Covers s' := by
  match k with
  | .create ps =>
    obtain ⟨⟨⟩, -, h⟩ := bind_eq_ok.1 hcheck
    cases h
    refine ⟨mapM_congr fun row hrow => createPaths_alike hk hord (hrows row hrow),
      covers_writeClause ?_ hrows⟩
    rw [Scope.patternNames, names_map, Clause.map, Query.writtenNames, names_map]
    exact List.Subset.refl _
  | .merge p onCreate onMatch =>
    obtain ⟨⟨⟩, -, h⟩ := bind_eq_ok.1 hcheck
    obtain ⟨⟨⟩, hitems, h⟩ := bind_eq_ok.1 h
    cases h
    rw [PathPattern.names_map] at *
    rw [← List.map_append] at hitems
    obtain ⟨hchecks, htargets⟩ := checkSets_eq_ok hitems
    simp only [Clause.parts, List.append_assoc, List.forall_mem_append] at hk
    obtain ⟨hp, hcreate, hmatch⟩ := hk
    rw [clause, Bool.and_eq_true, List.all_eq_true] at hord
    rw [List.filterMap_append, List.append_subset] at htargets
    rw [List.flatMap_append] at hchecks hord
    refine ⟨?_, covers_writeClause ?_ hrows⟩
    · have hcolumn (g : Guarded) (hg : g.Sound)
          (hmem : g ∈ onCreate.flatMap SetItem.parts ++ onMatch.flatMap SetItem.parts) :
          Column none (s.declare p.names) g := ⟨hg, hchecks g hmem, hord.2 g hmem⟩
      exact congrArg (List.flatten <$> ·) (mapM_congr fun row hrow => strictMerge_eq hp hord.1
        (fun g hg => hcolumn g (hcreate g hg) (List.mem_append_left _ hg))
        (fun g hg => hcolumn g (hmatch g hg) (List.mem_append_right _ hg))
        htargets.1 htargets.2 (hrows row hrow))
    · rw [Clause.map, Query.writtenNames, PathPattern.names_map]
      exact List.Subset.refl _
  | .set is =>
    obtain ⟨⟨⟩, hitems, h⟩ := bind_eq_ok.1 hcheck
    cases h
    obtain ⟨hchecks, htargets⟩ := checkSets_eq_ok hitems
    refine ⟨eachRow_alike fun row hrow => strictSet_eq ?_ htargets (hrows row hrow),
      covers_writeClause (List.Subset.refl _) hrows⟩
    exact fun g hg => ⟨hk g hg, hchecks g hg, List.all_eq_true.1 hord g hg⟩
  | .remove is =>
    obtain ⟨⟨⟩, hitems, h⟩ := bind_eq_ok.1 hcheck
    cases h
    obtain ⟨hchecks, htargets⟩ := checkRemoves_eq_ok hitems
    refine ⟨eachRow_alike fun row hrow => strictRemove_eq ?_ htargets (hrows row hrow),
      covers_writeClause (List.Subset.refl _) hrows⟩
    exact fun g hg => ⟨hk g hg, hchecks g hg, List.all_eq_true.1 hord g hg⟩
  | .delete detach xs =>
    obtain ⟨⟨⟩, hchecks, h⟩ := bind_eq_ok.1 hcheck
    cases h
    have hxs : ∀ g ∈ xs, Column none s g := fun g hg =>
      ⟨hk g hg, checkAll_map hchecks g hg, List.all_eq_true.1 hord g hg⟩
    refine ⟨?_, covers_writeClause (List.Subset.refl _) hrows⟩
    exact congrArg (· >>= fun _ => pure rows) (deleteRows_alike hxs detach hrows)
  | .foreach n x body =>
    rw [Clause.map, Scope.after] at hcheck
    obtain ⟨⟨⟩, hcx, h⟩ := bind_eq_ok.1 hcheck
    obtain ⟨s₁, hbody, h⟩ := bind_eq_ok.1 h
    cases h
    rw [Clause.parts, List.forall_mem_cons] at hk
    rw [clause, Bool.and_eq_true] at hord
    refine ⟨eachRow_alike fun row hrow => ?_, covers_writeClause (List.Subset.refl _) hrows⟩
    have hvalue (env : Env) := value_alike ⟨hk.1, hcx, hord.1⟩ env (hrows row hrow)
    simp only [hvalue]
    refine bind_congr fun items => forM_congr fun v _ => ?_
    have hinserted := (hrows row hrow).extended (row.insert_extended n v)
    rw [strictWrites_eq hk.2 hbody hord.2 (List.forall_mem_singleton.2 hinserted)]
  | .matching optional ps w => cases optional <;> exact ⟨rfl, .throw _⟩
  | .unwind .. | .withItems .. | .returnItems .. | .call .. =>
    exact ⟨rfl, .throw _⟩
  | .subquery ⟨first, unions⟩ => exact ⟨rfl, .throw _⟩

theorem strictWrites_eq {s s' : Scope} {known : Bool} {ks : List (Clause Guarded)}
    (hk : ∀ g ∈ Clause.allParts ks, g.Sound)
    (hcheck : Scope.afterAll s (Clause.mapAll check ks) = .ok s') (hord : clauses s known ks)
    {rows : List Row} (hrows : ∀ row ∈ rows, row.Covers s) :
    Query.strictWrites c rows (Clause.mapAll strict ks) =
      Query.writeClauses c rows (Clause.mapAll plain ks) := by
  match ks with
  | [] => rfl
  | k :: ks =>
    rw [Clause.allParts, List.forall_mem_append] at hk
    rw [clauses, Bool.and_eq_true] at hord
    obtain ⟨s₁, hfirst, hrest⟩ := bind_eq_ok.1 hcheck
    rw [scopeAfter_eq hfirst] at hord
    have hsame := strictWrite_same hk.1 hfirst hord.1 hrows
    rw [Clause.mapAll, Clause.mapAll, Query.strictWrites, Query.writeClauses, hsame.eq]
    exact hsame.gives.bind_congr fun rows' hrows' =>
      strictWrites_eq hk.2 hrest hord.2 hrows'

end

end Guarded

end PropertyGraph
