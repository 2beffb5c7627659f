import Mathlib.Data.Bool.Basic
import PropertyGraph.Operator
import PropertyGraph.Proofs.Value.Equality

/-!
What equality says of values with nulls in them, and what membership in a list says, holds
whatever the nulls turn out to be. The connectives of three-valued logic keep a definite answer
when more becomes known about their operands, and equality is built from these, along the lists
and maps of both sides.
-/

namespace PropertyGraph

namespace Kleene

variable {r r' s s' : Option Bool}

lemma and_eq_false : and r s = some false ↔ r = some false ∨ s = some false := by
  rcases r with _ | _ | _ <;> rcases s with _ | _ | _ <;> simp [and]

lemma or_eq_true : or r s = some true ↔ r = some true ∨ s = some true := by
  rcases r with _ | _ | _ <;> rcases s with _ | _ | _ <;> simp [or]

lemma or_eq_false : or r s = some false ↔ r = some false ∧ s = some false := by
  rcases r with _ | _ | _ <;> rcases s with _ | _ | _ <;> simp [or]

/-- What a truth value becomes when more is known: a definite one stays as it is. -/
def Settles (r s : Option Bool) : Prop :=
  ∀ b, r = some b → s = some b

lemma Settles.refl (r : Option Bool) : Settles r r :=
  fun _ h => h

lemma Settles.and (hr : Settles r r') (hs : Settles s s') :
    Settles (Kleene.and r s) (Kleene.and r' s') := by
  intro b h
  cases b with
  | false => exact and_eq_false.2 ((and_eq_false.1 h).imp (hr false) (hs false))
  | true => exact and_eq_true.2 ((and_eq_true.1 h).imp (hr true) (hs true))

lemma Settles.or (hr : Settles r r') (hs : Settles s s') :
    Settles (Kleene.or r s) (Kleene.or r' s') := by
  intro b h
  cases b with
  | false => exact or_eq_false.2 ((or_eq_false.1 h).imp (hr false) (hs false))
  | true => exact or_eq_true.2 ((or_eq_true.1 h).imp (hr true) (hs true))

end Kleene

lemma Number.equals_comm (m n : Number) : m.equals n = n.equals m := by
  rw [Bool.eq_iff_iff, equals_iff, equals_iff]
  tauto

namespace Value

mutual

/-- That a value comes from another one by putting values in the place of nulls: of the value
itself, or of any that lie in it at some depth. -/
def Filled : Value → Value → Prop
  | null, _ => True
  | list xs, list ys => FilledItems xs ys
  | map ds, map es => FilledEntries ds es
  | v, w => v = w

def FilledItems : List Value → List Value → Prop
  | [], [] => True
  | x :: xs, y :: ys => Filled x y ∧ FilledItems xs ys
  | _, _ => False

def FilledEntries : List (String × Value) → List (String × Value) → Prop
  | [], [] => True
  | (j, x) :: ds, (k, y) :: es => j = k ∧ Filled x y ∧ FilledEntries ds es
  | _, _ => False

end

variable {xs ys : List Value} {ds es : List (String × Value)} {x y v w : Value} {j : String}

lemma filled_list : Filled (list xs) w ↔ ∃ ys, w = list ys ∧ FilledItems xs ys := by
  cases w <;> simp [Filled]

lemma filled_map : Filled (map ds) w ↔ ∃ es, w = map es ∧ FilledEntries ds es := by
  cases w <;> simp [Filled]

lemma filledItems_nil : FilledItems [] ys ↔ ys = [] := by
  cases ys <;> simp [FilledItems]

lemma filledItems_cons :
    FilledItems (x :: xs) ys ↔ ∃ y zs, ys = y :: zs ∧ Filled x y ∧ FilledItems xs zs := by
  cases ys <;> simp [FilledItems]

lemma filledEntries_nil : FilledEntries [] es ↔ es = [] := by
  cases es <;> simp [FilledEntries]

lemma filledEntries_cons : FilledEntries ((j, x) :: ds) es ↔
    ∃ y fs, es = (j, y) :: fs ∧ Filled x y ∧ FilledEntries ds fs := by
  cases es with
  | nil => simp [FilledEntries]
  | cons e es =>
    obtain ⟨k, y⟩ := e
    simp only [FilledEntries, List.cons.injEq, Prod.mk.injEq]
    grind

open Kleene (Settles)

mutual

lemma equals_settles {a a' b b' : Value} (ha : Filled a a') (hb : Filled b b') :
    Settles (a.equals b) (a'.equals b') := by
  cases a <;> cases b
  case list.list xs ys =>
    obtain ⟨xs', rfl, hx⟩ := filled_list.1 ha
    obtain ⟨ys', rfl, hy⟩ := filled_list.1 hb
    exact itemsEqual_settles hx hy
  case map.map ds es =>
    obtain ⟨ds', rfl, hd⟩ := filled_map.1 ha
    obtain ⟨es', rfl, he⟩ := filled_map.1 hb
    exact entriesEqual_settles hd he
  all_goals grind [Filled, equals, Kleene.Settles, filled_list, filled_map]

lemma itemsEqual_settles {xs xs' ys ys' : List Value} (hx : FilledItems xs xs')
    (hy : FilledItems ys ys') : Settles (itemsEqual xs ys) (itemsEqual xs' ys') := by
  match xs, ys with
  | [], [] =>
    rw [filledItems_nil.1 hx, filledItems_nil.1 hy]
    exact .refl _
  | [], y :: ys =>
    obtain ⟨y', ys', rfl, -⟩ := filledItems_cons.1 hy
    rw [filledItems_nil.1 hx]
    exact .refl _
  | x :: xs, [] =>
    obtain ⟨x', xs', rfl, -⟩ := filledItems_cons.1 hx
    rw [filledItems_nil.1 hy]
    exact .refl _
  | x :: xs, y :: ys =>
    obtain ⟨x', xs', rfl, hx, hxs⟩ := filledItems_cons.1 hx
    obtain ⟨y', ys', rfl, hy, hys⟩ := filledItems_cons.1 hy
    exact (equals_settles hx hy).and (itemsEqual_settles hxs hys)

lemma entriesEqual_settles {ds ds' es es' : List (String × Value)} (hd : FilledEntries ds ds')
    (he : FilledEntries es es') : Settles (entriesEqual ds es) (entriesEqual ds' es') := by
  match ds, es with
  | [], [] =>
    rw [filledEntries_nil.1 hd, filledEntries_nil.1 he]
    exact .refl _
  | [], (k, y) :: es =>
    obtain ⟨y', es', rfl, -⟩ := filledEntries_cons.1 he
    rw [filledEntries_nil.1 hd]
    exact .refl _
  | (j, x) :: ds, [] =>
    obtain ⟨x', ds', rfl, -⟩ := filledEntries_cons.1 hd
    rw [filledEntries_nil.1 he]
    exact .refl _
  | (j, x) :: ds, (k, y) :: es =>
    obtain ⟨x', ds', rfl, hx, hds⟩ := filledEntries_cons.1 hd
    obtain ⟨y', es', rfl, hy, hes⟩ := filledEntries_cons.1 he
    rw [entriesEqual, entriesEqual]
    split_ifs
    · exact (equals_settles hx hy).and (entriesEqual_settles hds hes)
    · exact .refl _

end

mutual

lemma equals_comm (v w : Value) : v.equals w = w.equals v := by
  cases v <;> cases w
  case list.list xs ys => exact itemsEqual_comm xs ys
  case map.map ds es => exact entriesEqual_comm ds es
  case num.num m n => rw [equals, equals, Number.equals_comm]
  all_goals grind [equals]

lemma itemsEqual_comm (xs ys : List Value) : itemsEqual xs ys = itemsEqual ys xs := by
  match xs, ys with
  | [], [] | [], _ :: _ | _ :: _, [] => rfl
  | x :: xs, y :: ys =>
    rw [itemsEqual, itemsEqual, equals_comm x y, itemsEqual_comm xs ys]

lemma entriesEqual_comm (ds es : List (String × Value)) :
    entriesEqual ds es = entriesEqual es ds := by
  match ds, es with
  | [], [] | [], _ :: _ | _ :: _, [] => rfl
  | (j, x) :: ds, (k, y) :: es =>
    rw [entriesEqual, entriesEqual, equals_comm x y, entriesEqual_comm ds es]
    simp only [eq_comm (a := j)]

end

/-- What membership says of a list is said item by item, so it settles as the items do. -/
lemma memberOf_settles {x x' : Value} (hx : Filled x x') :
    ∀ {xs xs' : List Value}, FilledItems xs xs' → Settles (x.memberOf xs) (x'.memberOf xs')
  | [], _, h => by
    rw [filledItems_nil.1 h]
    exact .refl _
  | y :: ys, _, h => by
    obtain ⟨y', ys', rfl, hy, hys⟩ := filledItems_cons.1 h
    exact (equals_settles hx hy).or (memberOf_settles hx hys)

lemma isIn_eq_bool {x xs : Value} {b : Bool} :
    x.isIn xs = .ok (bool b) ↔ ∃ items, xs = list items ∧ x.memberOf items = some b := by
  cases xs with
  | list items =>
    rcases h : x.memberOf items with _ | c <;> simp [isIn, h, ofTruth]
  | _ => simp [isIn]

/-- **A definite answer does not depend on what is unknown.** Where equality of two values is
true or false, it remains so when values take the place of nulls in them, at any depth; where
membership in a list is true or false, it remains so when they do in the value or in the list.
And it makes no difference which of two values is compared with the other. -/
theorem equality_settled :
    (∀ {a a' b b' : Value} {r : Bool}, Filled a a' → Filled b b' → a.equals b = some r →
      a'.equals b' = some r) ∧
    (∀ {x x' xs xs' : Value} {r : Bool}, Filled x x' → Filled xs xs' →
      x.isIn xs = .ok (bool r) → x'.isIn xs' = .ok (bool r)) ∧
    ∀ a b : Value, a.equals b = b.equals a := by
  refine ⟨fun ha hb h => equals_settles ha hb _ h, ?_, equals_comm⟩
  intro x x' xs xs' r hx hxs h
  obtain ⟨items, rfl, hm⟩ := isIn_eq_bool.1 h
  obtain ⟨items', rfl, hi⟩ := filled_list.1 hxs
  exact isIn_eq_bool.2 ⟨items', rfl, memberOf_settles hx hi _ hm⟩

/-- Two lists that differ in one item stay different when an item of the one becomes known, and
what is in a list stays in it when a list inside another of its items does. -/
theorem equality_settled_lists :
    (list [str "a", str "b"]).equals (list [bool true, null]) = some false ∧
      (str "a").isIn (list [list [str "b"], str "a"]) = .ok (bool true) ∧
      (list [str "a", null]).equals null = null.equals (list [str "a", null]) := by
  obtain ⟨hequals, hisIn, hcomm⟩ := equality_settled
  have hdiffers := @hequals (list [str "a", null]) (list [str "a", str "b"])
    (list [bool true, null]) (list [bool true, null]) false
  have hmember := @hisIn (str "a") (str "a") (list [list [null], str "a"])
    (list [list [str "b"], str "a"]) true
  refine ⟨hdiffers ?_ ?_ rfl, hmember ?_ ?_ rfl, hcomm _ _⟩
  all_goals simp [Filled, FilledItems]

end Value

end PropertyGraph
