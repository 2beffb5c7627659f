import PropertyGraph.Proofs.Query.Unseen

/-!
Projections with shortest path patterns are joins.

The rows are joined with the paths of such an item under a name of its own, which the column of the
item then reads. What comes of this is one row for each choice of a path for every such item, and
all other items have the values that they have in the row before; but only if nothing in the
projection uses the names under which paths are kept.
-/

namespace PropertyGraph

open Cypher

/-! ### Computations that give the same -/

/-- Two computations give the same, or nothing both. -/
def SameOk {ε α : Type} (x y : Except ε α) : Prop := ∀ a, x = .ok a ↔ y = .ok a

/-- The lists that are computed for some values, one after the other. -/
def gather {ε α β : Type} (f : α → Except ε (List β)) (xs : List α) : Except ε (List β) := do
  return (← xs.mapM f).flatten

section

variable {ε α β γ : Type}

lemma SameOk.refl (x : Except ε α) : SameOk x x := fun _ => Iff.rfl

lemma SameOk.trans {x y z : Except ε α} (h : SameOk x y) (h' : SameOk y z) : SameOk x z :=
  fun a => (h a).trans (h' a)

lemma SameOk.bind {x y : Except ε α} (h : SameOk x y) {f g : α → Except ε β}
    (hfg : ∀ a, SameOk (f a) (g a)) : SameOk (x >>= f) (y >>= g) := by
  intro b
  rw [bind_eq_ok, bind_eq_ok]
  exact exists_congr fun a => and_congr (h a) (hfg a b)

lemma SameOk.map {x y : Except ε α} (h : SameOk x y) (f : α → β) :
    SameOk (x.map f) (y.map f) := by
  have hmap (z : Except ε α) : z.map f = z >>= fun a => .ok (f a) := by cases z <;> rfl
  rw [hmap, hmap]
  exact h.bind fun a => .refl _

lemma mapM_map_eq (f : α → Except ε β) (g : β → γ) (xs : List α) :
    (xs.mapM fun x => do return g (← f x)) = do return (← xs.mapM f).map g := by
  induction xs with
  | nil => rfl
  | cons x xs ih =>
    rw [List.mapM_cons, List.mapM_cons, ih]
    cases f x with
    | error e => rfl
    | ok y => cases xs.mapM f <;> rfl

variable {f : α → Except ε (List β)}

lemma gather_cons (x : α) (xs : List α) :
    gather f (x :: xs) = (do
      let ys ← f x
      return ys ++ (← gather f xs)) := by
  rw [gather, gather, List.mapM_cons]
  cases f x with
  | error e => rfl
  | ok ys => cases xs.mapM f <;> rfl

lemma gather_eq_ok {g : α → List β} {xs : List α} (h : ∀ x ∈ xs, f x = .ok (g x)) :
    gather f xs = .ok (xs.flatMap g) := by
  rw [gather, mapM_eq_ok h]
  rfl

lemma gather_append (xs ys : List α) :
    gather f (xs ++ ys) = (do
      let us ← gather f xs
      return us ++ (← gather f ys)) := by
  rw [gather, gather, gather, List.mapM_append]
  cases xs.mapM f with
  | error e => rfl
  | ok us => cases ys.mapM f with
    | error e => rfl
    | ok vs => exact congrArg Except.ok List.flatten_append

/-- A second computation may go through what the first gives for all values, or for each of them. -/
lemma gather_bind {k : List β → Except ε (List γ)} (hnil : k [] = .ok [])
    (happend : ∀ xs ys, k (xs ++ ys) = do
      let us ← k xs
      return us ++ (← k ys))
    (xs : List α) : SameOk (gather f xs >>= k) (gather (fun x => f x >>= k) xs) := by
  induction xs with
  | nil =>
    intro zs
    change k [] = .ok zs ↔ _
    rw [hnil]
    rfl
  | cons x xs ih =>
    intro zs
    rw [gather_cons, gather_cons]
    constructor
    · intro h
      obtain ⟨_, h, hk⟩ := bind_eq_ok.1 h
      obtain ⟨ys, hys, h⟩ := bind_eq_ok.1 h
      obtain ⟨rest, hrest, h⟩ := bind_eq_ok.1 h
      cases h
      rw [happend] at hk
      obtain ⟨us, hus, hk⟩ := bind_eq_ok.1 hk
      obtain ⟨vs, hvs, hk⟩ := bind_eq_ok.1 hk
      have htail := (ih vs).1 (bind_eq_ok.2 ⟨rest, hrest, hvs⟩)
      exact bind_eq_ok.2 ⟨us, bind_eq_ok.2 ⟨ys, hys, hus⟩, bind_eq_ok.2 ⟨vs, htail, hk⟩⟩
    · intro h
      obtain ⟨us, h, hk⟩ := bind_eq_ok.1 h
      obtain ⟨ys, hys, hus⟩ := bind_eq_ok.1 h
      obtain ⟨vs, hvs, hk⟩ := bind_eq_ok.1 hk
      obtain ⟨rest, hrest, hvs⟩ := bind_eq_ok.1 ((ih vs).2 hvs)
      refine bind_eq_ok.2 ⟨_, bind_eq_ok.2 ⟨ys, hys, bind_eq_ok.2 ⟨rest, hrest, rfl⟩⟩, ?_⟩
      rw [happend]
      exact bind_eq_ok.2 ⟨us, hus, bind_eq_ok.2 ⟨vs, hvs, hk⟩⟩

end

/-! ### Joins -/

/-- The pattern of an expression that asks for shortest paths and nothing else. -/
def Cypher.Expr.pattern? : Expr → Option (PathPattern Expr)
  | .of (.paths p) => some p
  | _ => none

lemma Cypher.Expr.paths_meaning (x : Expr) :
    x.meaning.paths = x.pattern?.map fun p env row =>
      Meaning.joinedPaths env row (p.map Expr.meaning) := by
  obtain ⟨l⟩ := x
  cases l with
  | paths p =>
    have hp : Expr.foldPath Meaning.ofLayer p = p.map Expr.meaning :=
      Expr.foldPath_eq_map Meaning.ofLayer p
    exact congrArg (fun p => some fun env row => Meaning.joinedPaths env row p) hp
  | _ => rfl

/-- A projection that makes one row of each row, but for shortest paths. -/
structure Cypher.Projection.RowByRow (b : Projection Expr) : Prop where
  distinct : b.distinct = false
  order : b.order = []
  skip : b.skip = none
  limit : b.limit = none
  aggregates : ∀ i ∈ b.items, ¬ i.expr.aggregates

namespace Table

variable {env : Env} {row : Row}

/-- The choices of one path for each item that asks for shortest paths. -/
def pathChoices (env : Env) (row : Row) :
    List (ProjectionItem Expr) → Except Error (List (List (Option Value)))
  | [] => .ok [[]]
  | i :: is =>
    match i.expr.pattern? with
    | none => do return (← pathChoices env row is).map (none :: ·)
    | some p => do
      let paths ← Meaning.joinedPaths env row (p.map Expr.meaning)
      if paths.isEmpty then return []
      else
        let rest ← pathChoices env row is
        return paths.flatMap fun v => rest.map (some v :: ·)

/-- The row for a choice of paths. All else has its value in the row before. -/
def chosenRow (env : Env) (star : List String) (items : List (ProjectionItem Expr)) (row : Row)
    (choice : List (Option Value)) : Except Error Row := do
  let values ← (items.zip choice).mapM fun e => do
    return (e.1.column, ← e.2.elim (e.1.expr.meaning.value env row) .ok)
  return Dict.ofList (star.map (fun c => (c, Dict.getD row c .null)) ++ values)

/-- The columns that the star of a projection stands for. -/
def starOf (b : Projection Expr) (t : Table) : List String :=
  if b.star then starColumns t.columns (b.map Expr.meaning).items else []

/-- The rows of a table, each joined with all choices of paths for it. -/
def joined (env : Env) (b : Projection Expr) (t : Table) : Except Error Table := do
  let star := starOf b t
  let rows ← gather (fun row => do
    (← pathChoices env row b.items).mapM (chosenRow env star b.items row)) t.rows
  return ⟨star ++ b.items.map ProjectionItem.column, rows⟩

/-! ### Names of paths -/

lemma pathName_injective : Function.Injective pathName := by
  intro i j h
  have hdigits : Nat.toDigits 10 i = Nat.toDigits 10 j := by
    have h := congrArg String.toList h
    simp only [pathName, String.toList_append] at h
    simpa [toString, Nat.repr] using List.append_cancel_left h
  have hback (n : Nat) : Nat.ofDigitChars 10 (Nat.toDigits 10 n) 0 = n :=
    Nat.ofDigitChars_toDigits (by omega) (by omega)
  rw [← hback i, hdigits, hback]

/-- The names under which the paths of some items are kept. -/
def pathNames : Nat → List (ProjectionItem Expr) → List String
  | _, [] => []
  | i, item :: is =>
    if item.expr.pattern?.isSome then pathName i :: pathNames (i + 1) is else pathNames (i + 1) is

/-- A row with the paths of a choice kept in it. -/
def keep : Nat → List (Option Value) → Row → Row
  | _, [], row => row
  | i, none :: picks, row => keep (i + 1) picks row
  | i, some v :: picks, row => keep (i + 1) picks (Dict.insert row (pathName i) v)

/-- A choice has a path for those items that ask for one. -/
abbrev Fits : List (ProjectionItem Expr) → List (Option Value) → Prop :=
  List.Forall₂ fun item o => item.expr.pattern?.isSome = o.isSome

lemma get?_keep_of_lt {i j : Nat} (h : j < i) (picks : List (Option Value)) (row : Row) :
    Dict.get? (keep i picks row) (pathName j) = Dict.get? row (pathName j) := by
  induction picks generalizing i row with
  | nil => rfl
  | cons o picks ih =>
    cases o with
    | none => exact ih (by omega) row
    | some v =>
      have hne : pathName i ≠ pathName j := fun heq => h.ne (pathName_injective heq).symm
      rw [keep, ih (by omega), Dict.get?_insert, if_neg hne]

/-- The paths of a choice can be read from the row that keeps them. -/
lemma get?_keep {picks : List (Option Value)} {k : Nat} {v : Value} (h : picks[k]? = some (some v))
    (i : Nat) (row : Row) : Dict.get? (keep i picks row) (pathName (i + k)) = some v := by
  induction picks generalizing i k row with
  | nil => cases h
  | cons o picks ih =>
    cases k with
    | zero =>
      obtain rfl := Option.some.inj h
      rw [keep, get?_keep_of_lt (by omega), Dict.get?_insert, Nat.add_zero, if_pos rfl]
    | succ k =>
      have hrest (row : Row) := ih h (i + 1) row
      rw [Nat.add_right_comm, Nat.add_assoc] at hrest
      cases o with
      | none => exact hrest row
      | some w => exact hrest _

lemma fits_of_mem_pathChoices {is : List (ProjectionItem Expr)} {cs : List (List (Option Value))}
    (h : pathChoices env row is = .ok cs) {picks : List (Option Value)} (hc : picks ∈ cs) :
    Fits is picks := by
  induction is generalizing cs picks with
  | nil =>
    cases h
    obtain rfl := List.mem_singleton.1 hc
    exact .nil
  | cons i is ih =>
    rw [pathChoices] at h
    cases hp : i.expr.pattern? with
    | none =>
      rw [hp] at h
      obtain ⟨rest, hrest, h⟩ := bind_eq_ok.1 h
      cases h
      obtain ⟨d, hd, rfl⟩ := List.mem_map.1 hc
      exact .cons (by rw [hp]; rfl) (ih hrest hd)
    | some p =>
      rw [hp] at h
      obtain ⟨paths, -, h⟩ := bind_eq_ok.1 h
      split_ifs at h
      · cases h
        cases hc
      · obtain ⟨rest, hrest, h⟩ := bind_eq_ok.1 h
        cases h
        obtain ⟨v, -, hc⟩ := List.mem_flatMap.1 hc
        obtain ⟨d, hd, rfl⟩ := List.mem_map.1 hc
        exact .cons (by rw [hp]; rfl) (ih hrest hd)

section

variable {hidden : List String}

lemma keep_agree {is : List (ProjectionItem Expr)} {picks : List (Option Value)}
    (hc : Fits is picks) {i : Nat} (hnames : pathNames i is ⊆ hidden) {kept : Row}
    (h : kept.Agree hidden row) :
    (keep i picks kept).Agree hidden row := by
  induction hc generalizing i kept with
  | nil => exact h
  | @cons item o is picks ho _ ih =>
    rw [pathNames, ho] at hnames
    cases o with
    | none => exact ih hnames h
    | some v =>
      obtain ⟨hi, hnames⟩ := List.cons_subset.1 hnames
      exact ih hnames ((Row.Agree.insert_left hi kept v).trans h)

/-! ### Columns -/

/-- The columns of some items. Those of shortest paths are read from the rows. -/
def listedColumns : Nat → List (ProjectionItem Meaning) → List (String × Meaning)
  | _, [] => []
  | i, item :: is =>
    (item.column, if item.expr.paths.isSome then .ofName (pathName i) else item.expr) ::
      listedColumns (i + 1) is

/-- The columns have the values of the choice that a row keeps, and else those in the row before. -/
lemma values_of_keeps {is : List (ProjectionItem Expr)} (his : ∀ i ∈ is, i.expr.avoids hidden)
    {picks : List (Option Value)} (hc : Fits is picks) {kept : Row} (h : kept.Agree hidden row)
    {i : Nat}
    (hkept : ∀ k v, picks[k]? = some (some v) → Dict.get? kept (pathName (i + k)) = some v) :
    ((listedColumns i (is.map (·.map Expr.meaning))).mapM fun e => do
        return (e.1, ← e.2.eval env none kept)) =
      (is.zip picks).mapM fun e => do
        return (e.1.column, ← e.2.elim (e.1.expr.meaning.value env row) .ok) := by
  induction hc generalizing i with
  | nil => rfl
  | @cons item o is picks ho _ ih =>
    rw [List.forall_mem_cons] at his
    have hrest := ih his.2 (i := i + 1) fun k v hk => by
      rw [Nat.add_right_comm]
      exact hkept (k + 1) v hk
    have hpaths : (item.map Expr.meaning).expr.paths.isSome = o.isSome := by
      rw [← ho]
      exact (congrArg Option.isSome item.expr.paths_meaning).trans Option.isSome_map
    rw [List.map_cons, listedColumns, List.zip_cons_cons, List.mapM_cons, List.mapM_cons, hrest,
      hpaths]
    cases o with
    | none =>
      have hvalue : (item.map Expr.meaning).expr.eval env none kept =
          item.expr.meaning.value env row := (Expr.blind_meaning his.1).value h
      simp only [Option.isSome_none, Bool.false_eq_true, if_false, hvalue, Option.elim_none]
      rfl
    | some v =>
      have hfirst : Dict.get? kept (pathName i) = some v := hkept 0 v rfl
      have hvalue : (Meaning.ofName (pathName i)).eval env none kept = .ok v :=
        congrArg Except.ok (by rw [Dict.getD, hfirst, Option.getD_some])
      simp only [Option.isSome_some, if_true, hvalue, Option.elim_some]
      rfl

/-! ### Rows -/

/-- The rows that a row is joined to for one item. -/
def pathRows (env : Env) (name : String) (paths : Env → Row → Except Error (List Value))
    (row : Row) : Except Error (List Row) := do
  return (← paths env row).map fun p => Dict.insert row name p

/-- The rows that a row is joined to. -/
def joinedRows (env : Env) : Nat → List (ProjectionItem Meaning) → Row → Except Error (List Row)
  | _, [], row => .ok [row]
  | i, item :: is, row =>
    match item.expr.paths with
    | none => joinedRows env (i + 1) is row
    | some paths => pathRows env (pathName i) paths row >>= gather (joinedRows env (i + 1) is)

/-- A row is joined to the rows that keep the choices for it. -/
lemma joinedRows_eq {is : List (ProjectionItem Expr)} (his : ∀ i ∈ is, i.expr.avoids hidden)
    {i : Nat} (hnames : pathNames i is ⊆ hidden) {kept : Row} (h : kept.Agree hidden row) :
    joinedRows env i (is.map (·.map Expr.meaning)) kept =
      (do return (← pathChoices env row is).map (keep i · kept)) := by
  induction is generalizing i kept with
  | nil => rfl
  | cons item is ih =>
    rw [List.forall_mem_cons] at his
    have hpaths := item.expr.paths_meaning
    rw [List.map_cons, joinedRows, ProjectionItem.map, hpaths, pathChoices]
    rw [pathNames] at hnames
    cases hp : item.expr.pattern? with
    | none =>
      rw [hp] at hnames
      refine (ih his.2 hnames h).trans ?_
      dsimp only
      cases pathChoices env row is with
      | error e => rfl
      | ok cs => exact congrArg Except.ok (by rw [List.map_map]; rfl)
    | some p =>
      rw [hp] at hnames hpaths
      obtain ⟨hi, hnames⟩ := List.cons_subset.1 hnames
      have hfound : Meaning.joinedPaths env kept (p.map Expr.meaning) =
          Meaning.joinedPaths env row (p.map Expr.meaning) :=
        (Expr.blind_meaning his.1).paths
          (fun env row => Meaning.joinedPaths env row (p.map Expr.meaning)) hpaths h
      rw [Option.map_some]
      dsimp only
      rw [pathRows, hfound]
      cases Meaning.joinedPaths env row (p.map Expr.meaning) with
      | error e => rfl
      | ok vs =>
        have hrest (v : Value) := ih his.2 hnames ((Row.Agree.insert_left hi kept v).trans h)
        change gather _ (vs.map fun v => Dict.insert kept (pathName i) v) = _
        rw [gather, List.mapM_map, ← gather]
        cases vs with
        | nil => rfl
        | cons v vs =>
          cases hcs : pathChoices env row is with
          | error e =>
            rw [gather_cons, Function.comp, hrest, hcs]
            rfl
          | ok cs =>
            let made (v : Value) := cs.map (keep (i + 1) · (Dict.insert kept (pathName i) v))
            rw [gather_eq_ok (g := made) fun v _ => by rw [Function.comp, hrest, hcs]; rfl]
            refine congrArg Except.ok ?_
            rw [List.map_flatMap]
            simp only [List.map_map, made]
            rfl

end

/-- Joining all rows for one item after the other gives the same as joining each row for all. -/
lemma itemColumns_joinedRows (is : List (ProjectionItem Meaning)) (i : Nat) (rows : List Row) :
    SameOk (itemColumns env i is rows)
      ((gather (joinedRows env i is) rows).map fun rows => (listedColumns i is, rows)) := by
  have hmap (x : Except Error (List Row)) (item : ProjectionItem Meaning)
      (is : List (ProjectionItem Meaning)) (i : Nat) {m : Meaning}
      (hm : (if item.expr.paths.isSome then .ofName (pathName i) else item.expr) = m) :
      (x.map fun rows => (listedColumns (i + 1) is, rows)).map
        (fun r => ((item.column, m) :: r.1, r.2)) =
          x.map fun rows => (listedColumns i (item :: is), rows) := by
    rw [listedColumns, hm]
    cases x <;> rfl
  induction is generalizing i rows with
  | nil =>
    rw [gather_eq_ok (f := joinedRows env i []) (g := fun row => [row]) fun row _ => rfl,
      List.flatMap_singleton']
    exact .refl _
  | cons item is ih =>
    cases hpaths : item.expr.paths with
    | none =>
      have hrows : joinedRows env i (item :: is) = joinedRows env (i + 1) is := by
        funext row
        rw [joinedRows, hpaths]
      rw [Guarded.itemColumns_of_none hpaths, hrows, ← hmap _ item is i (if_neg (by simp [hpaths]))]
      exact (ih (i + 1) rows).map _
    | some paths =>
      have hrows : joinedRows env i (item :: is) = fun row =>
          pathRows env (pathName i) paths row >>= gather (joinedRows env (i + 1) is) := by
        funext row
        rw [joinedRows, hpaths]
      rw [Guarded.itemColumns_of_some hpaths, hrows, ← hmap _ item is i (if_pos (by simp [hpaths]))]
      have hjoin : joinPaths env (pathName i) paths rows =
          gather (pathRows env (pathName i) paths) rows := rfl
      have hstep := gather_bind (f := pathRows env (pathName i) paths)
        (k := gather (joinedRows env (i + 1) is)) rfl gather_append rows
      refine SameOk.trans ?_ ((hstep.map _).map _)
      rw [hjoin]
      cases gather (pathRows env (pathName i) paths) rows with
      | error e => exact .refl _
      | ok joined => exact (ih (i + 1) joined).map _

/-- What comes of a joined row. -/
def outRow (env : Env) (columns : List (String × Meaning)) (row : Row) : Except Error Row := do
  return (← projectRow env columns none row).out

lemma outRow_keep {hidden star : List String} {is : List (ProjectionItem Expr)}
    (his : ∀ i ∈ is, i.expr.avoids hidden) (hnames : pathNames 0 is ⊆ hidden)
    (hstar : ∀ n ∈ star, n ∉ hidden) {picks : List (Option Value)} (hc : Fits is picks) :
    outRow env (starred star (listedColumns 0 (is.map (·.map Expr.meaning)))) (keep 0 picks row) =
      chosenRow env star is row picks := by
  have hkept : (keep 0 picks row).Agree hidden row := keep_agree hc hnames (.refl row)
  have hpaths (k : Nat) (v : Value) (hk : picks[k]? = some (some v)) :
      Dict.get? (keep 0 picks row) (pathName (0 + k)) = some v := get?_keep hk 0 row
  have hjoin : Output.joinRow star [] (keep 0 picks row) = Output.joinRow star [] row := by
    rw [Output.joinRow, Output.joinRow, List.map_congr_left fun n hn => by
      rw [hkept.getD (hstar n hn)]]
  rw [outRow, projectRow_starred, values_of_keeps his hc hkept hpaths, hjoin, chosenRow]
  cases (is.zip picks).mapM fun e => do
      return (e.1.column, ← e.2.elim (e.1.expr.meaning.value env row) .ok) with
  | error e => rfl
  | ok values => exact congrArg Except.ok List.foldl_append.symm

lemma aggregates_listedColumns {is : List (ProjectionItem Meaning)}
    (his : ∀ i ∈ is, ¬ i.expr.aggregates) (i : Nat) :
    (listedColumns i is).any (·.2.aggregates) = false := by
  induction is generalizing i with
  | nil => rfl
  | cons item is ih =>
    rw [List.forall_mem_cons] at his
    rw [listedColumns, List.any_cons, ih his.2, Bool.or_false]
    dsimp only
    split_ifs
    · rfl
    · exact Bool.eq_false_of_not_eq_true his.1

lemma names_listedColumns (is : List (ProjectionItem Meaning)) (i : Nat) :
    (listedColumns i is).map Prod.fst = is.map ProjectionItem.column := by
  induction is generalizing i with
  | nil => rfl
  | cons item is ih => rw [listedColumns, List.map_cons, List.map_cons, ih]

/-- A projection that makes one row of each joined row. -/
lemma project_rowByRow (env : Env) {b : Projection Expr} (hb : b.RowByRow) (t : Table) :
    SameOk (project env (b.map Expr.meaning) t) (do
      let joined ← gather (joinedRows env 0 (b.map Expr.meaning).items) t.rows
      let rows ← joined.mapM <|
        outRow env (starred (starOf b t) (listedColumns 0 (b.map Expr.meaning).items))
      return ⟨starOf b t ++ b.items.map ProjectionItem.column, rows⟩) := by
  have hagg : ∀ i ∈ (b.map Expr.meaning).items, ¬ i.expr.aggregates := by
    refine List.forall_mem_map.2 fun i hi => ?_
    change ¬ i.expr.meaning.aggregates
    rw [Expr.aggregates_meaning]
    exact hb.aggregates i hi
  have hnames : ((starred (starOf b t) (listedColumns 0 (b.map Expr.meaning).items)).map Prod.fst) =
      starOf b t ++ b.items.map ProjectionItem.column := by
    rw [starred, List.map_append, names_listedColumns, List.map_map, Projection.map, List.map_map]
    exact congrArg (· ++ _) (List.map_id _)
  have hproject : project env (b.map Expr.meaning) t =
      itemColumns env 0 (b.map Expr.meaning).items t.rows >>= fun p =>
        projectRows env (starred (starOf b t) p.1) p.2 >>= fun ps =>
          .ok ⟨(starred (starOf b t) p.1).map Prod.fst, ps.map Projected.out⟩ := by
    obtain ⟨distinct, star, items, order, skip, limit⟩ := b
    obtain ⟨rfl, rfl, rfl, rfl, -⟩ := hb
    rfl
  rw [hproject]
  refine ((itemColumns_joinedRows _ 0 t.rows).bind fun p => .refl _).trans ?_
  cases gather (joinedRows env 0 (b.map Expr.meaning).items) t.rows with
  | error e => exact .refl _
  | ok joined =>
    let columns := starred (starOf b t) (listedColumns 0 (b.map Expr.meaning).items)
    have hout : joined.mapM (outRow env columns) =
        (joined.mapM (projectRow env columns none) >>= fun ps => .ok (ps.map Projected.out)) :=
      mapM_map_eq _ _ _
    change SameOk (projectRows env columns joined >>= _) (joined.mapM (outRow env columns) >>= _)
    rw [projectRows, any_starred, aggregates_listedColumns hagg, if_neg Bool.false_ne_true, hnames,
      hout]
    cases joined.mapM (projectRow env columns none) <;> exact .refl _

/-- **A projection with shortest paths is a join** that leaves all other columns alone. -/
theorem project_eq_joined (env : Env) {b : Projection Expr} (hb : b.RowByRow) (t : Table)
    (hitems : ∀ i ∈ b.items, i.expr.avoids (pathNames 0 b.items))
    (hstar : ∀ n ∈ starOf b t, n ∉ pathNames 0 b.items) (u : Table) :
    project env (b.map Expr.meaning) t = .ok u ↔ joined env b t = .ok u := by
  let out := outRow env (starred (starOf b t) (listedColumns 0 (b.map Expr.meaning).items))
  have hrow (row : Row) : (joinedRows env 0 (b.map Expr.meaning).items row >>= fun rows =>
      rows.mapM out) = pathChoices env row b.items >>= fun cs =>
        cs.mapM (chosenRow env (starOf b t) b.items row) := by
    have hjoined : joinedRows env 0 (b.map Expr.meaning).items row = _ :=
      joinedRows_eq hitems (List.Subset.refl _) (.refl row)
    rw [hjoined]
    cases hcs : pathChoices env row b.items with
    | error e => rfl
    | ok cs =>
      change (cs.map (keep 0 · row)).mapM out = cs.mapM _
      rw [List.mapM_map]
      exact mapM_congr fun c hc =>
        outRow_keep hitems (List.Subset.refl _) hstar (fits_of_mem_pathChoices hcs hc)
  have hall := gather_bind (f := joinedRows env 0 (b.map Expr.meaning).items)
    (k := fun rows => rows.mapM out) rfl (fun _ _ => List.mapM_append) t.rows
  rw [funext hrow] at hall
  refine (project_rowByRow env hb t).trans ?_ u
  refine .trans ?_ (hall.bind fun rows =>
    .refl (.ok (Table.mk (starOf b t ++ b.items.map ProjectionItem.column) rows)))
  cases gather (joinedRows env 0 (b.map Expr.meaning).items) t.rows <;> exact .refl _

/-- Two nodes with two relationships between them. -/
def parallel : Env :=
  ⟨⟨[], 8, .zero⟩, Store.run [.createNode [] [], .createNode [] [], .createRel "R" 0 1 [],
    .createRel "R" 0 1 []] {}⟩

/-- The two nodes, beside a number. -/
def ends : Table :=
  ⟨[" path1", "a", "b"], [[(" path1", .count 5), ("a", .node 0), ("b", .node 1)]]⟩

/-- The paths between the two nodes. -/
def between (s : Selector) : Expr :=
  .of (.paths ⟨none, s, ⟨some "a", [], none⟩,
    [⟨⟨none, ["R"], .outgoing, none, none⟩, ⟨some "b", [], none⟩⟩]⟩)

theorem project_eq_joined_parallel :
    let b : Projection Expr := ⟨false, false, [⟨between .allShortest, some "p", ""⟩,
      ⟨.of (.name " path1"), some "x", ""⟩, ⟨between .shortest, some "q", ""⟩], [], none, none⟩
    let row (p : RelId) : Row :=
      [("p", .path ⟨[0, 1], [p]⟩), ("q", .path ⟨[0, 1], [0]⟩), ("x", .count 5)]
    project parallel (b.map Expr.meaning) ends = .ok ⟨["p", "x", "q"], [row 0, row 1]⟩ := by
  intro b row
  refine (project_eq_joined parallel ⟨rfl, rfl, rfl, rfl, by decide +kernel⟩ ends
    (by decide +kernel) (by decide +kernel) _).2 ?_
  rfl

/-- A name under which paths are kept may be bound in the rows, and then the path hides what it is
bound to. -/
theorem not_project_eq_joined_of_bound : ¬ ∀ (env : Env) (b : Projection Expr) (t u : Table),
    b.RowByRow → (project env (b.map Expr.meaning) t = .ok u ↔ joined env b t = .ok u) := by
  intro hall
  let b : Projection Expr := ⟨false, false, [⟨.of (.name " path1"), some "x", ""⟩,
    ⟨between .shortest, some "p", ""⟩], [], none, none⟩
  let path : Value := .path ⟨[0, 1], [0]⟩
  have hjoined : joined parallel b ends =
      .ok ⟨["x", "p"], [[("p", path), ("x", .count 5)]]⟩ := rfl
  have hproject : project parallel (b.map Expr.meaning) ends =
      .ok ⟨["x", "p"], [[("p", path), ("x", path)]]⟩ := rfl
  have h := (hall _ b _ _ ⟨rfl, rfl, rfl, rfl, by decide +kernel⟩).2 hjoined
  have hrows := Except.ok.inj (hproject.symm.trans h)
  simp [path, Value.count] at hrows

end Table

end PropertyGraph
