import PropertyGraph.Proofs.Cypher.Parts

/-!
A layer with all its parts replaced, and folds that are images of other folds.

Patterns can be mapped already. With clauses and queries mapped as well, so can layers, and then a
fold to a structure gives in each field what the fold for that field alone gives.
-/

namespace PropertyGraph

namespace Cypher

variable {ε δ : Type} (g : ε → δ)

def ProjectionItem.map (i : ProjectionItem ε) : ProjectionItem δ := ⟨g i.expr, i.given, i.source⟩

def SortItem.map (i : SortItem ε) : SortItem δ := ⟨g i.expr, i.descending, i.nullsFirst⟩

def Projection.map (b : Projection ε) : Projection δ :=
  ⟨b.distinct, b.star, b.items.map (·.map g), b.order.map (·.map g), b.skip.map g, b.limit.map g⟩

def SetItem.map : SetItem ε → SetItem δ
  | property e k v => .property (g e) k (g v)
  | replace n v => .replace n (g v)
  | extend n v => .extend n (g v)
  | labels n ls => .labels n ls

def RemoveItem.map : RemoveItem ε → RemoveItem δ
  | property e k => .property (g e) k
  | labels n ls => .labels n ls

def ProcedureCall.map (c : ProcedureCall ε) : ProcedureCall δ :=
  ⟨c.name, c.args.map g, c.yields, c.filter.map g⟩

def MapItem.map : MapItem ε → MapItem δ
  | everything => .everything
  | property k => .property k
  | entry k x => .entry k (g x)
  | name n => .name n

namespace Clause

mutual

def map : Clause ε → Clause δ
  | matching o ps w => .matching o (ps.map (·.map g)) (w.map g)
  | unwind x n => .unwind (g x) n
  | withItems b w => .withItems (b.map g) (w.map g)
  | returnItems b => .returnItems (b.map g)
  | create ps => .create (ps.map (·.map g))
  | merge p c m => .merge (p.map g) (c.map (·.map g)) (m.map (·.map g))
  | set is => .set (is.map (·.map g))
  | remove is => .remove (is.map (·.map g))
  | delete d xs => .delete d (xs.map g)
  | foreach n x cs => .foreach n (g x) (mapAll cs)
  | call c => .call (c.map g)
  | subquery ⟨first, unions⟩ => .subquery ⟨mapAll first, mapBranches unions⟩

def mapAll : List (Clause ε) → List (Clause δ)
  | [] => []
  | c :: cs => c.map :: mapAll cs

def mapBranches : List (Branch (Clause ε)) → List (Branch (Clause δ))
  | [] => []
  | ⟨all, cs⟩ :: bs => ⟨all, mapAll cs⟩ :: mapBranches bs

end

end Clause

def QueryOf.map (q : Query ε) : Query δ :=
  ⟨Clause.mapAll g q.first, Clause.mapBranches g q.unions⟩

def Layer.mapParts : Layer ε → Layer δ
  | literal v => .literal v
  | parameter n => .parameter n
  | name n => .name n
  | property t k => .property (g t) k
  | index t i => .index (g t) (g i)
  | slice t a b => .slice (g t) (a.map g) (b.map g)
  | list xs => .list (xs.map g)
  | map es => .map (es.map fun e => (e.1, g e.2))
  | binary op x y => .binary op (g x) (g y)
  | unary op x => .unary op (g x)
  | isNull x n => .isNull (g x) n
  | hasLabels x ls => .hasLabels (g x) ls
  | call n d xs => .call n d (xs.map g)
  | countRows => .countRows
  | case s bs d => .case (s.map g) (bs.map fun b => (g b.1, g b.2)) (d.map g)
  | listOf n s w p => .listOf n (g s) (w.map g) (p.map g)
  | quantified q n s p => .quantified q n (g s) (g p)
  | reduce a i n s b => .reduce a (g i) n (g s) (g b)
  | matchesOf p w x => .matchesOf (p.map g) (w.map g) (g x)
  | matched p => .matched (p.map g)
  | mapOf n is => .mapOf n (is.map (·.map g))
  | existsValue x => .existsValue (g x)
  | existsQuery q => .existsQuery (q.map g)
  | paths p => .paths (p.map g)

/-! ### Folds -/

namespace Expr

lemma foldClauses_eq_map (f : Layer δ → δ) (ks : List (Clause Expr)) :
    foldClauses f ks = ks.map (foldClause f) := by
  induction ks with
  | nil => rfl
  | cons k ks ih => rw [foldClauses, List.map_cons, ih]

variable {g} {F : Layer ε → ε} {f : Layer δ → δ}

lemma map_foldList {xs : List Expr} (h : ∀ x ∈ xs, g (fold F x) = fold f x) :
    (foldList F xs).map g = foldList f xs := by
  rw [foldList_eq_map, foldList_eq_map, List.map_map]
  exact List.map_congr_left h

lemma map_foldOption {x : Option Expr} (h : ∀ y ∈ x, g (fold F y) = fold f y) :
    (foldOption F x).map g = foldOption f x := by
  rw [foldOption_eq_map, foldOption_eq_map, Option.map_map]
  exact Option.map_congr h

lemma map_foldPath {p : PathPattern Expr} (h : ∀ x ∈ p.properties, g (fold F x) = fold f x) :
    (foldPath F p).map g = foldPath f p := by
  rw [foldPath_eq_map, foldPath_eq_map, PathPattern.map_map]
  exact PathPattern.map_congr h

lemma map_foldPaths {ps : List (PathPattern Expr)}
    (h : ∀ x ∈ ps.flatMap PathPattern.properties, g (fold F x) = fold f x) :
    (foldPaths F ps).map (·.map g) = foldPaths f ps := by
  induction ps with
  | nil => rfl
  | cons p ps ih =>
    rw [List.flatMap_cons, List.forall_mem_append] at h
    rw [foldPaths, foldPaths, List.map_cons, map_foldPath h.1, ih h.2]

lemma map_foldProjection {b : Projection Expr} (h : ∀ x ∈ b.parts, g (fold F x) = fold f x) :
    (foldProjection F b).map g = foldProjection f b := by
  obtain ⟨d, s, is, os, sk, li⟩ := b
  simp only [Projection.parts, List.forall_mem_append, List.forall_mem_map, Option.mem_toList]
    at h
  obtain ⟨⟨⟨his, hos⟩, hsk⟩, hli⟩ := h
  have hitems : (foldItems F is).map (·.map g) = foldItems f is := by
    clear hos hsk hli
    induction is with
    | nil => rfl
    | cons i is ih =>
      rw [List.forall_mem_cons] at his
      rw [foldItems, foldItems, List.map_cons, ih his.2, ProjectionItem.map, his.1]
  have hsorts : (foldSorts F os).map (·.map g) = foldSorts f os := by
    clear his hitems hsk hli
    induction os with
    | nil => rfl
    | cons i os ih =>
      rw [List.forall_mem_cons] at hos
      rw [foldSorts, foldSorts, List.map_cons, ih hos.2, SortItem.map, hos.1]
  rw [foldProjection, foldProjection, Projection.map, hitems, hsorts, map_foldOption hsk,
    map_foldOption hli]

lemma map_foldSets {is : List (SetItem Expr)}
    (h : ∀ x ∈ is.flatMap SetItem.parts, g (fold F x) = fold f x) :
    (foldSets F is).map (·.map g) = foldSets f is := by
  induction is with
  | nil => rfl
  | cons i is ih =>
    rw [List.flatMap_cons, List.forall_mem_append] at h
    cases i with
    | property e k v =>
      rw [foldSets, foldSets, List.map_cons, ih h.2, SetItem.map, h.1 e (by simp [SetItem.parts]),
        h.1 v (by simp [SetItem.parts])]
    | replace n v | extend n v =>
      rw [foldSets, foldSets, List.map_cons, ih h.2, SetItem.map, h.1 v (by simp [SetItem.parts])]
    | labels n ls => rw [foldSets, foldSets, List.map_cons, ih h.2, SetItem.map]

lemma map_foldRemoves {is : List (RemoveItem Expr)}
    (h : ∀ x ∈ is.flatMap RemoveItem.parts, g (fold F x) = fold f x) :
    (foldRemoves F is).map (·.map g) = foldRemoves f is := by
  induction is with
  | nil => rfl
  | cons i is ih =>
    rw [List.flatMap_cons, List.forall_mem_append] at h
    cases i with
    | property e k =>
      rw [foldRemoves, foldRemoves, List.map_cons, ih h.2, RemoveItem.map,
        h.1 e (by simp [RemoveItem.parts])]
    | labels n ls => rw [foldRemoves, foldRemoves, List.map_cons, ih h.2, RemoveItem.map]

lemma map_foldMapItems {is : List (MapItem Expr)}
    (h : ∀ x ∈ is.flatMap MapItem.parts, g (fold F x) = fold f x) :
    (foldMapItems F is).map (·.map g) = foldMapItems f is := by
  induction is with
  | nil => rfl
  | cons i is ih =>
    rw [List.flatMap_cons, List.forall_mem_append] at h
    cases i with
    | entry k x =>
      rw [foldMapItems, foldMapItems, List.map_cons, ih h.2, MapItem.map,
        h.1 x (by simp [MapItem.parts])]
    | everything | property | name =>
      rw [foldMapItems, foldMapItems, List.map_cons, ih h.2, MapItem.map]

lemma map_foldCall {c : ProcedureCall Expr} (h : ∀ x ∈ c.parts, g (fold F x) = fold f x) :
    (foldCall F c).map g = foldCall f c := by
  obtain ⟨n, xs, ys, w⟩ := c
  simp only [ProcedureCall.parts, List.forall_mem_append, Option.mem_toList] at h
  rw [foldCall, foldCall, ProcedureCall.map, map_foldList h.1, map_foldOption h.2]

mutual

lemma map_foldClause {c : Clause Expr} (h : ∀ x ∈ c.parts, g (fold F x) = fold f x) :
    (foldClause F c).map g = foldClause f c := by
  match c with
  | .foreach n x cs =>
    rw [Clause.parts, List.forall_mem_cons] at h
    rw [foldClause, foldClause, Clause.map, h.1, map_foldClauses h.2]
  | .subquery ⟨first, unions⟩ =>
    rw [Clause.parts, List.forall_mem_append] at h
    rw [foldClause, foldClause, foldQuery, foldQuery, Clause.map, map_foldClauses h.1,
      map_foldBranchQueries h.2]
  | .matching o ps w =>
    simp only [Clause.parts, List.forall_mem_append, Option.mem_toList] at h
    rw [foldClause, foldClause, Clause.map, map_foldPaths h.1, map_foldOption h.2]
  | .unwind x n => rw [foldClause, foldClause, Clause.map, h x (by simp [Clause.parts])]
  | .withItems b w =>
    simp only [Clause.parts, List.forall_mem_append, Option.mem_toList] at h
    rw [foldClause, foldClause, Clause.map, map_foldProjection h.1, map_foldOption h.2]
  | .returnItems b => rw [foldClause, foldClause, Clause.map, map_foldProjection h]
  | .create ps => rw [foldClause, foldClause, Clause.map, map_foldPaths h]
  | .merge p c m =>
    simp only [Clause.parts, List.forall_mem_append] at h
    rw [foldClause, foldClause, Clause.map, map_foldPath h.1.1, map_foldSets h.1.2,
      map_foldSets h.2]
  | .set is => rw [foldClause, foldClause, Clause.map, map_foldSets h]
  | .remove is => rw [foldClause, foldClause, Clause.map, map_foldRemoves h]
  | .delete d xs =>
    rw [Clause.parts] at h
    rw [foldClause, foldClause, Clause.map, map_foldList h]
  | .call c => rw [foldClause, foldClause, Clause.map, map_foldCall h]

lemma map_foldClauses {cs : List (Clause Expr)}
    (h : ∀ x ∈ Clause.allParts cs, g (fold F x) = fold f x) :
    Clause.mapAll g (foldClauses F cs) = foldClauses f cs := by
  match cs with
  | [] => rfl
  | c :: cs =>
    rw [Clause.allParts, List.forall_mem_append] at h
    rw [foldClauses, foldClauses, Clause.mapAll, map_foldClause h.1, map_foldClauses h.2]

lemma map_foldBranchQueries {bs : List (Branch (Clause Expr))}
    (h : ∀ x ∈ Clause.branchParts bs, g (fold F x) = fold f x) :
    Clause.mapBranches g (foldBranchQueries F bs) = foldBranchQueries f bs := by
  match bs with
  | [] => rfl
  | ⟨all, cs⟩ :: bs =>
    rw [Clause.branchParts, List.forall_mem_append] at h
    rw [foldBranchQueries, foldBranchQueries, Clause.mapBranches, map_foldClauses h.1,
      map_foldBranchQueries h.2]

end

lemma map_foldQuery_of_parts {q : Query Expr} (h : ∀ x ∈ q.parts, g (fold F x) = fold f x) :
    (foldQuery F q).map g = foldQuery f q := by
  rw [QueryOf.parts, List.forall_mem_append] at h
  cases q
  rw [foldQuery, foldQuery, QueryOf.map, map_foldClauses h.1, map_foldBranchQueries h.2]

lemma map_foldLayer {l : Layer Expr} (h : ∀ x ∈ l.parts, g (fold F x) = fold f x) :
    (foldLayer F l).mapParts g = foldLayer f l := by
  cases l with
  | literal | parameter | name | countRows => rfl
  | property t k | unary op t | isNull t n | hasLabels t ls | existsValue t =>
    rw [foldLayer, foldLayer, Layer.mapParts, h t (by simp [Layer.parts])]
  | index t i | binary op t i | quantified q n t i =>
    rw [foldLayer, foldLayer, Layer.mapParts, h t (by simp [Layer.parts]),
      h i (by simp [Layer.parts])]
  | slice t a b =>
    simp only [Layer.parts, List.forall_mem_append, List.forall_mem_cons, Option.mem_toList] at h
    rw [foldLayer, foldLayer, Layer.mapParts, h.1.1, map_foldOption h.1.2, map_foldOption h.2]
  | list xs | call n d xs =>
    rw [Layer.parts] at h
    rw [foldLayer, foldLayer, Layer.mapParts, map_foldList h]
  | map es =>
    simp only [Layer.parts, List.forall_mem_map] at h
    rw [foldLayer, foldLayer, Layer.mapParts, foldEntries_eq_map, foldEntries_eq_map, List.map_map]
    exact congrArg _ (List.map_congr_left fun e he => congrArg (Prod.mk e.1) (h e he))
  | case s bs d =>
    simp only [Layer.parts, List.forall_mem_append, Option.mem_toList] at h
    obtain ⟨⟨hs, hbs⟩, hd⟩ := h
    have hbranches : (foldBranches F bs).map (fun b => (g b.1, g b.2)) = foldBranches f bs := by
      clear hs hd
      induction bs with
      | nil => rfl
      | cons b bs ih =>
        simp only [List.flatMap_cons, List.forall_mem_append, List.forall_mem_cons] at hbs
        rw [foldBranches, foldBranches, List.map_cons, ih hbs.2, hbs.1.1, hbs.1.2.1]
    rw [foldLayer, foldLayer, Layer.mapParts, map_foldOption hs, hbranches, map_foldOption hd]
  | listOf n s w p =>
    simp only [Layer.parts, List.forall_mem_append, List.forall_mem_cons, Option.mem_toList] at h
    rw [foldLayer, foldLayer, Layer.mapParts, h.1.1, map_foldOption h.1.2, map_foldOption h.2]
  | reduce a i n s b =>
    rw [foldLayer, foldLayer, Layer.mapParts, h i (by simp [Layer.parts]),
      h s (by simp [Layer.parts]), h b (by simp [Layer.parts])]
  | matchesOf p w x =>
    simp only [Layer.parts, List.forall_mem_append, List.forall_mem_cons, Option.mem_toList] at h
    rw [foldLayer, foldLayer, Layer.mapParts, map_foldPath h.1.2, map_foldOption h.2, h.1.1]
  | matched p | paths p => rw [foldLayer, foldLayer, Layer.mapParts, map_foldPath h]
  | mapOf n is => rw [foldLayer, foldLayer, Layer.mapParts, map_foldMapItems h]
  | existsQuery q => rw [foldLayer, foldLayer, Layer.mapParts, map_foldQuery_of_parts h]

/-- **An image of a fold is a fold**, if each step has as its image the step on the images. -/
theorem map_fold (h : ∀ l, g (F l) = f (l.mapParts g)) (x : Expr) : g (fold F x) = fold f x := by
  induction x using layerInduction with
  | h l ih => rw [fold, fold, h, map_foldLayer ih]

theorem map_foldQuery (h : ∀ l, g (F l) = f (l.mapParts g)) (q : Query Expr) :
    (foldQuery F q).map g = foldQuery f q :=
  map_foldQuery_of_parts fun x _ => map_fold h x

end Expr

end Cypher

end PropertyGraph
