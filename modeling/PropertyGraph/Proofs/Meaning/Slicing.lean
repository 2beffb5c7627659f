import PropertyGraph.Meaning.Layer
import PropertyGraph.Proofs.Value.Whole

/-!
What indexes and slices make of lists, for integers of any sign and size.

A place comes as a double, is cut to 64 bits and counted from the end if it is negative. Lists are
shorter than `2 ^ 63`, which is more than fits into memory. So what is cut off lies beyond both ends
of the list, and what is added does not leave 64 bits; from there on places are compared.
-/

namespace PropertyGraph

namespace Value

variable {length : Nat} {l : List Value} {i : Int}

/-! ### Places -/

/-- A place in a list: counted from the end if it is negative, and kept between both ends. -/
def placeIn (length : Nat) (i : Int) : Int :=
  max 0 (min length (if i < 0 then i + length else i))

lemma clampPosition_eq (length : Nat) (i : Int) :
    (clampPosition length i : Int) = placeIn length i := by
  rw [clampPosition, position, placeIn]
  split_ifs <;> omega

lemma clampPosition_saturated (hl : length < 2 ^ 63) (i : Int) :
    clampPosition length (Number.saturated i).toInt = clampPosition length i := by
  rw [clampPosition, clampPosition, position, position, Number.toInt_saturated]
  split_ifs <;> omega

lemma elim_clampPosition (length default : Nat) (i : Option Int) :
    ((i.elim default (clampPosition length) : Nat) : Int) =
      i.elim (default : Int) (placeIn length) := by
  cases i with
  | none => rfl
  | some i => exact clampPosition_eq length i

/-- A slice does not go on behind the list. -/
lemma stop_le (length : Nat) (i : Option Int) :
    i.elim length (clampPosition length) ≤ length := by
  cases i with
  | none => exact le_rfl
  | some i => exact Nat.min_le_right _ _

lemma itemAt_of_lt (h : 0 ≤ i ∧ i < l.length) : itemAt l i = l[i.toNat] := by
  rw [itemAt, position, if_neg (by omega : ¬ i < 0)]
  exact (if_neg (by omega)).trans (List.getD_eq_getElem _ _ (by omega))

/-- A negative place is as far from the end. -/
lemma itemAt_of_neg (h : -l.length ≤ i ∧ i < 0) : itemAt l i = itemAt l (i + l.length) := by
  have hp : position l.length i = position l.length (i + l.length) := by
    rw [position, position]
    split_ifs <;> omega
  rw [itemAt, itemAt, hp]

lemma itemAt_eq_null (h : i < -l.length ∨ l.length ≤ i) : itemAt l i = null := by
  by_cases hi : i < 0
  · rw [itemAt, position, if_pos hi]
    exact if_pos (by omega)
  · rw [itemAt, position, if_neg hi]
    exact (if_neg hi).trans (List.getD_eq_default _ _ (by omega))

lemma itemAt_saturated (hl : l.length < 2 ^ 63) (i : Int) :
    itemAt l (Number.saturated i).toInt = itemAt l i := by
  have hi := Number.toInt_saturated i
  generalize (Number.saturated i).toInt = j at hi ⊢
  by_cases h : -2 ^ 63 ≤ i ∧ i < 2 ^ 63
  · rw [hi, max_eq_right (by omega), min_eq_right (by omega)]
  · rw [itemAt_eq_null (by omega), itemAt_eq_null (by omega)]

lemma length_sliceItems {a b : Nat} (hb : b ≤ l.length) : (sliceItems l a b).length = b - a := by
  rw [sliceItems, List.length_drop, List.length_take, Nat.min_eq_left hb]

/-- The items of a slice are those of the list from its start on. -/
lemma getElem?_sliceItems {a b n : Nat} (h : n < (sliceItems l a b).length) :
    l[a + n]? = some (sliceItems l a b)[n] := by
  have hn : a + n < l.length := by
    rw [sliceItems, List.length_drop, List.length_take] at h
    omega
  simp only [sliceItems, List.getElem_drop, List.getElem_take, List.getElem?_eq_getElem hn]

/-- The items up to a place and those from there on are all. -/
lemma sliceItems_append (l : List Value) (n : Nat) :
    sliceItems l 0 n ++ sliceItems l n l.length = l := by
  rw [sliceItems, sliceItems, List.drop_zero, List.take_length, List.take_append_drop]

/-! ### Reads -/

/-- A place counted from the front, in integers of 64 bits. -/
def fromFront (length i : Int64) : Int64 := if i < 0 then length + i else i

/-- The item that is read for an index, if the list has the place where it is read. -/
def readItem? (l : List Value) (i : Int64) : Option Value :=
  let p := fromFront (.ofNat l.length) i
  if p < 0 ∨ .ofNat l.length ≤ p then some null
  else if p.toInt < 0 then none else l[p.toInt.toNat]?

/-- The place that is read for a bound of a slice. -/
def readBound (length i : Int64) : Int64 :=
  let p := fromFront length i
  if p < 0 then 0 else if length < p then length else p

/-- The items that are read for a slice, if the list has both of its ends. -/
def readSlice? (l : List Value) (start stop : Option Int64) : Option (List Value) :=
  let a := start.elim 0 (readBound (.ofNat l.length))
  let b := stop.elim (.ofNat l.length) (readBound (.ofNat l.length))
  if b ≤ a then some []
  else if a.toInt < 0 ∨ l.length < b.toInt then none
  else some (sliceItems l a.toInt.toNat b.toInt.toNat)

lemma toInt_ofLength (hl : length < 2 ^ 63) : (Int64.ofNat length).toInt = length :=
  Int64.toInt_ofNat_of_lt hl

lemma toInt_fromFront (hl : length < 2 ^ 63) (i : Int64) :
    (fromFront (.ofNat length) i).toInt = position length i.toInt := by
  have hmin := i.le_toInt
  rw [fromFront, position]
  simp only [Int64.lt_iff_toInt_lt, Int64.toInt_zero]
  split_ifs
  · rw [Int64.toInt_add, toInt_ofLength hl]
    exact Int.bmod_eq_of_le (by omega) (by omega)
  · rfl

lemma toInt_readBound (hl : length < 2 ^ 63) (i : Int64) :
    (readBound (.ofNat length) i).toInt = clampPosition length i.toInt := by
  rw [readBound, clampPosition]
  simp only [Int64.lt_iff_toInt_lt, toInt_fromFront hl, toInt_ofLength hl, Int64.toInt_zero]
  split_ifs
  · rw [Int64.toInt_zero]
    omega
  · rw [toInt_ofLength hl]
    omega
  · rw [toInt_fromFront hl]
    omega

/-- **The item that is read for an index** is always there. -/
lemma readItem?_eq (hl : l.length < 2 ^ 63) (i : Int64) :
    readItem? l i = some (itemAt l i.toInt) := by
  rw [readItem?, itemAt]
  simp only [Int64.lt_iff_toInt_lt, Int64.le_iff_toInt_le, toInt_fromFront hl, toInt_ofLength hl,
    Int64.toInt_zero]
  split_ifs with hout h h
  · rfl
  · rw [List.getD_eq_default _ _ (by omega)]
  · exact absurd (.inl h) hout
  · rw [List.getD_eq_getElem _ _ (by omega), List.getElem?_eq_getElem]

/-- **The items that are read for a slice** are always there. -/
lemma readSlice?_eq (hl : l.length < 2 ^ 63) (start stop : Option Int64) :
    readSlice? l start stop = some (sliceItems l
      ((start.map Int64.toInt).elim 0 (clampPosition l.length))
      ((stop.map Int64.toInt).elim l.length (clampPosition l.length))) := by
  have ha : (start.elim 0 (readBound (.ofNat l.length))).toInt =
      ((start.map Int64.toInt).elim 0 (clampPosition l.length) : Nat) := by
    cases start with
    | none => rfl
    | some i => exact toInt_readBound hl i
  have hb : (stop.elim (.ofNat l.length) (readBound (.ofNat l.length))).toInt =
      ((stop.map Int64.toInt).elim l.length (clampPosition l.length) : Nat) := by
    cases stop with
    | none => exact toInt_ofLength hl
    | some i => exact toInt_readBound hl i
  have hstop := stop_le l.length (stop.map Int64.toInt)
  rw [readSlice?]
  simp only [Int64.le_iff_toInt_le, ha, hb]
  split_ifs with hle hout
  · rw [sliceItems, List.drop_eq_nil_of_le]
    rw [List.length_take]
    omega
  · omega
  · rfl

end Value

namespace Cypher.Expr

open Value

/-! ### Expressions on lists -/

/-- The expression `x[i]`. -/
def item (x i : Expr) : Expr := of (.index x i)

/-- The expression `x[a..b]`, where both bounds may be left out. -/
def slice (x : Expr) (a b : Option Expr) : Expr := of (.slice x a b)

/-- The expression `x + y`. -/
def sum (x y : Expr) : Expr := of (.binary .add x y)

variable (env : Env) (group : Option (List Row)) (row : Row)

/-- An expression is an integer in a row. -/
def Is (x : Expr) (i : Int) : Prop :=
  ∃ n : Number, n.Is i ∧ x.meaning.eval env group row = .ok (.num n)

variable {env group row} {x y : Expr} {l : List Value} {i : Int}

lemma eval_sum {xs ys : List Value} (hx : x.meaning.eval env group row = .ok (.list xs))
    (hy : y.meaning.eval env group row = .ok (.list ys)) :
    (sum x y).meaning.eval env group row = .ok (.list (xs ++ ys)) := by
  change (do (← x.meaning.eval env group row).binary .add fun _ => y.meaning.eval env group row) = _
  rw [hx]
  change (do Value.add (.list xs) (← y.meaning.eval env group row)) = _
  rw [hy]
  rfl

/-- **An indexed list** has the item at the place as its value. -/
lemma eval_item (hx : x.meaning.eval env group row = .ok (.list l)) (hl : l.length < 2 ^ 63)
    {k : Expr} (hk : k.Is env group row i) :
    (item x k).meaning.eval env group row = .ok (itemAt l i) := by
  obtain ⟨n, hn, hk⟩ := hk
  change (do
    let v ← x.meaning.eval env group row
    v.index env.store (← k.meaning.eval env group row)) = _
  rw [hx, hk]
  change (if n.isIntegral then Except.ok (itemAt l n.toInt64) else _) = _
  rw [if_pos (Number.is_iff.1 hn).1, hn.toInt64, itemAt_saturated hl]

/-- What a bound comes to that may be left out. -/
lemma eval_bound (hl : l.length < 2 ^ 63) {a : Option Expr} {i : Option Int}
    (ha : Option.Rel (Is env group row) a i) (default : Nat) :
    ∃ v, Meaning.value? (a.map meaning) env group row = .ok v ∧ v.any isNull = false ∧
      sliceBound l.length default v = .ok (i.elim default (clampPosition l.length)) := by
  cases ha with
  | none => exact ⟨none, rfl, rfl, rfl⟩
  | @some a i h =>
    obtain ⟨n, hn, ha⟩ := h
    refine ⟨some (.num n), ?_, rfl, ?_⟩
    · change some <$> a.meaning.eval env group row = _
      rw [ha]
      rfl
    · rw [sliceBound, if_pos (Number.is_iff.1 hn).1, hn.toInt64, clampPosition_saturated hl]
      rfl

/-- **A sliced list** has the items between the places as its value. -/
lemma eval_slice (hx : x.meaning.eval env group row = .ok (.list l)) (hl : l.length < 2 ^ 63)
    {a b : Option Expr} {i j : Option Int} (ha : Option.Rel (Is env group row) a i)
    (hb : Option.Rel (Is env group row) b j) :
    (slice x a b).meaning.eval env group row =
      .ok (.list (sliceItems l (i.elim 0 (clampPosition l.length))
        (j.elim l.length (clampPosition l.length)))) := by
  obtain ⟨u, hu, hun, hu'⟩ := eval_bound hl ha 0
  obtain ⟨v, hv, hvn, hv'⟩ := eval_bound hl hb l.length
  have hmap (o : Option Expr) : foldOption Meaning.ofLayer o = o.map meaning := by
    cases o <;> rfl
  change (do
    let t ← x.meaning.eval env group row
    let a ← Meaning.value? (foldOption Meaning.ofLayer a) env group row
    t.slice a (← Meaning.value? (foldOption Meaning.ofLayer b) env group row)) = _
  rw [hmap, hmap, hx, hu, hv]
  change Value.slice (.list l) u v = _
  rw [Value.slice, hun, hvn]
  change (do
    let a ← sliceBound l.length 0 u
    let b ← sliceBound l.length l.length v
    return Value.list (sliceItems l a b)) = _
  rw [hu', hv']
  rfl

/-! ### Laws -/

/-- What is in front of a place and what is behind it are the list. -/
lemma eval_sum_slices (hx : x.meaning.eval env group row = .ok (.list l)) (hl : l.length < 2 ^ 63)
    {k : Expr} (hk : k.Is env group row i) :
    (sum (slice x none (some k)) (slice x (some k) none)).meaning.eval env group row =
      .ok (.list l) := by
  rw [eval_sum (eval_slice hx hl .none (.some hk)) (eval_slice hx hl (.some hk) .none)]
  exact congrArg (fun xs => Except.ok (Value.list xs)) (sliceItems_append l _)

/-- **Slices and indexes are exact**, for integers of any sign and size. A list is what is in front
of a place and what is behind it; a slice has the items from its start up to its end; and an index
is that of an item, or so far from the end, or gives null. All that is read is in the list. -/
theorem slicing_exact (hx : x.meaning.eval env group row = .ok (.list l)) (hl : l.length < 2 ^ 63)
    {k : Expr} {m : Int} (hk : k.Is env group row m) {a b : Option Expr} {i j : Option Int}
    (ha : Option.Rel (Is env group row) a i) (hb : Option.Rel (Is env group row) b j) :
    let value (e : Expr) := e.meaning.eval env group row
    let start := i.elim 0 (placeIn l.length)
    let stop := j.elim (l.length : Int) (placeIn l.length)
    value (sum (slice x none (some k)) (slice x (some k) none)) = .ok (.list l) ∧
    (∃ xs : List Value, value (slice x a b) = .ok (.list xs) ∧
      readSlice? l (i.map Number.saturated) (j.map Number.saturated) = some xs ∧
      (xs.length : Int) = max 0 (stop - start) ∧
      ∀ (n : Nat) (h : n < xs.length), l[start.toNat + n]? = some xs[n] ∧
        ∀ p q, p.Is env group row n → q.Is env group row (start + n) →
          value (item (slice x a b) p) = .ok xs[n] ∧ value (item x q) = .ok xs[n]) ∧
    ∃ v, value (item x k) = .ok v ∧ readItem? l (Number.saturated m) = some v ∧
      (∀ h : 0 ≤ m ∧ m < l.length, v = l[m.toNat]) ∧
      (∀ h : -l.length ≤ m ∧ m < 0, v = l[(m + l.length).toNat] ∧
        ∀ q, q.Is env group row (m + l.length) → value (item x q) = .ok v) ∧
      (m < -l.length ∨ l.length ≤ m → v = .null) := by
  intro value start stop
  have hstart : ((i.elim 0 (clampPosition l.length) : Nat) : Int) = start :=
    elim_clampPosition l.length 0 i
  have hstop : ((j.elim l.length (clampPosition l.length) : Nat) : Int) = stop :=
    elim_clampPosition l.length l.length j
  have hle := stop_le l.length j
  refine ⟨eval_sum_slices hx hl hk, ⟨_, eval_slice hx hl ha hb, ?_, ?_, fun n hn => ?_⟩,
    _, eval_item hx hl hk, ?_, itemAt_of_lt, fun h => ?_, itemAt_eq_null⟩
  · rw [readSlice?_eq hl]
    simp only [Option.map_map, Option.elim_map, Function.comp_def, clampPosition_saturated hl]
  · rw [length_sliceItems hle]
    omega
  · have hitem := getElem?_sliceItems hn
    obtain ⟨hlt, hget⟩ := List.getElem?_eq_some_iff.1 hitem
    rw [← hstart, Int.toNat_natCast]
    refine ⟨hitem, fun p q hp hq => ⟨?_, ?_⟩⟩
    · have hshort : (sliceItems l (i.elim 0 (clampPosition l.length))
          (j.elim l.length (clampPosition l.length))).length < 2 ^ 63 := by
        rw [length_sliceItems hle]
        omega
      refine (eval_item (eval_slice hx hl ha hb) hshort hp).trans (congrArg Except.ok ?_)
      exact itemAt_of_lt ⟨by omega, by omega⟩
    · refine (eval_item hx hl hq).trans (congrArg Except.ok ?_)
      rw [← hget]
      exact itemAt_of_lt ⟨by omega, by omega⟩
  · rw [readItem?_eq hl, itemAt_saturated hl]
  · rw [itemAt_of_neg h]
    exact ⟨itemAt_of_lt (by omega), fun q hq => eval_item hx hl hq⟩

/-- The last two of three items, up to a place far behind them, and the last one alone. -/
theorem slicing_exact_far :
    let l : List Value := [.bool true, .null, .str "c"]
    let x : Expr := of (.literal (.list l))
    let num (n : Number) : Expr := of (.literal (.num n))
    let value (e : Expr) := e.meaning.eval ((Context.mk [] 8 .zero).on {}) none []
    let last := num (.ofInt (-1))
    let far := num ⟨0x4450000000000000⟩
    value (sum (slice x none (some last)) (slice x (some last) none)) = .ok (.list l) ∧
    value (slice x (some (num (.ofInt (-2)))) (some far)) = .ok (.list [.null, .str "c"]) ∧
    value (item (slice x (some (num (.ofInt (-2)))) (some far)) (num (.ofInt 1))) =
      value (item x (num (.ofInt 2))) ∧
    value (item x last) = .ok (.str "c") := by
  intro l x num value last far
  have his (n : Number) (i : Int) (h : n.isIntegral ∧
      i = if n.isNegative then -(n.wholePart : Int) else n.wholePart) :
      (num n).Is ((Context.mk [] 8 .zero).on {}) none [] i := ⟨n, Number.is_iff.2 h, rfl⟩
  obtain ⟨hsum, ⟨xs, hxs, hread, hlength, hitems⟩, v, hv, hreadv, -⟩ :=
    slicing_exact (x := x) (l := l) rfl (by decide)
      (his (.ofInt (-1)) (-1) (by decide +kernel))
      (.some (his (.ofInt (-2)) (-2) (by decide +kernel)))
      (.some (his ⟨0x4450000000000000⟩ (2 ^ 70) (by decide +kernel)))
  obtain rfl : [.null, .str "c"] = xs := Option.some.inj (hread ▸ by decide +kernel)
  obtain rfl : .str "c" = v := Option.some.inj (hreadv ▸ by decide +kernel)
  obtain ⟨hfirst, hsecond⟩ := (hitems 1 (by decide)).2 (num (.ofInt 1)) (num (.ofInt 2))
    (his (.ofInt 1) 1 (by decide +kernel)) (his (.ofInt 2) 2 (by decide +kernel))
  exact ⟨hsum, hxs, hfirst.trans hsecond.symm, hv⟩

end Cypher.Expr

end PropertyGraph
