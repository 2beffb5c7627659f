import PropertyGraph.Meaning.Layer
import PropertyGraph.Proofs.Meaning.Groupless
import PropertyGraph.Proofs.Value.Equality

/-!
Conditions that are joined by AND.

A conjunction stops at the first condition that is false, but goes on from one that is unknown. So
it can have a value where one of its conditions has none; but where it has a value other than true,
one of its conditions has a value other than true as well. That is what it takes for a filter by a
conjunction to let through the rows in which all conditions are true.
-/

namespace PropertyGraph

open Cypher

/-! ### Conditions in a row -/

lemma Value.ofTruth_eq_true {b : Option Bool} : Value.ofTruth b = .bool true ↔ b = some true := by
  rcases b with _ | _ | _ <;> simp [Value.ofTruth]

namespace Cypher.Expr

/-- A condition has a truth value in a row, which may be unknown. -/
def Truthful (env : Env) (row : Row) (x : Expr) : Prop :=
  ∃ b, x.meaning.value env row = .ok (.ofTruth b)

/-- Whether a condition is true in a row, and not unknown or without any value. -/
def isTrue (env : Env) (row : Row) (x : Expr) : Bool :=
  match x.meaning.value env row with
  | .ok v => v = .bool true
  | .error _ => false

variable {env : Env} {row : Row} {w x y : Expr} {xs ys : List Expr}

lemma isTrue_iff : x.isTrue env row ↔ x.meaning.value env row = .ok (.bool true) := by
  rw [isTrue]
  rcases x.meaning.value env row with e | v <;> simp

lemma holds_eq {v : Value} (h : x.meaning.value env row = .ok v) :
    x.meaning.holds env none row = .ok (x.isTrue env row) := by
  change (x.meaning.value env row >>= fun v => .ok (decide (v = .bool true))) = _
  rw [isTrue, h]
  rfl

/-- The conjunction of some conditions, in any order. -/
inductive Joins : Expr → List Expr → Prop
  | one (x : Expr) : Joins x [x]
  | and {x y : Expr} {xs ys : List Expr} (hx : Joins x xs) (hy : Joins y ys) :
      Joins (of (.binary .and x y)) (xs ++ ys)
  | perm {x : Expr} {xs ys : List Expr} (h : Joins x xs) (hp : xs.Perm ys) : Joins x ys

lemma value_and : (of (.binary .and x y)).meaning.value env row =
    x.meaning.value env row >>= fun v => v.binary .and fun _ => y.meaning.value env row := rfl

/-- What AND comes to: it is false at a left operand that is false, and otherwise as true as both
operands. -/
lemma and_cases {v : Value} (h : (of (.binary .and x y)).meaning.value env row = .ok v) :
    x.meaning.value env row = .ok (.bool false) ∧ v = .bool false ∨
      ∃ a b, x.meaning.value env row = .ok (.ofTruth a) ∧
        y.meaning.value env row = .ok (.ofTruth b) ∧ v = .ofTruth (Kleene.and a b) := by
  have htruth {u : Value} {a : Option Bool} (h : u.truth "AND" = .ok a) : u = .ofTruth a := by
    cases u <;> cases h <;> rfl
  rw [value_and] at h
  obtain ⟨u, hu, h⟩ := bind_eq_ok.1 h
  obtain ⟨a, ha, hright⟩ := bind_eq_ok.1 h
  obtain rfl := htruth ha
  split at hright
  · cases hright
    exact .inl ⟨hu, rfl⟩
  · obtain ⟨u', hu', hboth⟩ := bind_eq_ok.1 hright
    obtain ⟨b, hb, hand⟩ := bind_eq_ok.1 hboth
    obtain rfl := htruth hb
    exact .inr ⟨a, b, hu, hu', (Except.ok.inj hand).symm⟩

lemma Truthful.and (hx : x.Truthful env row) (hy : y.Truthful env row) :
    (of (.binary .and x y)).Truthful env row := by
  obtain ⟨a, ha⟩ := hx
  obtain ⟨b, hb⟩ := hy
  have hvalue : (of (.binary .and x y)).meaning.value env row =
      (Value.ofTruth a).binary .and fun _ => .ok (.ofTruth b) := by
    rw [value_and, ha, hb]
    rfl
  rw [Truthful, hvalue]
  rcases a with _ | _ | _
  · exact ⟨Kleene.and none b, by cases b <;> rfl⟩
  · exact ⟨some false, rfl⟩
  · exact ⟨Kleene.and (some true) b, by cases b <;> rfl⟩

/-- A conjunction of what has truth values has one. -/
lemma Joins.truthful (h : Joins w xs) (hxs : ∀ x ∈ xs, x.Truthful env row) :
    w.Truthful env row := by
  induction h with
  | one x => exact hxs x (by simp)
  | and _ _ ihx ihy =>
    rw [List.forall_mem_append] at hxs
    exact (ihx hxs.1).and (ihy hxs.2)
  | perm _ hp ih => exact ih fun x hx => hxs x (hp.subset hx)

/-- **The value of a conjunction** is true and so are all conditions, or neither it nor some
condition that has a value is. -/
theorem Joins.value_cases (h : Joins w xs) {v : Value} (hv : w.meaning.value env row = .ok v) :
    (v = .bool true ∧ ∀ x ∈ xs, x.isTrue env row) ∨
      v ≠ .bool true ∧ ∃ x ∈ xs, ∃ u, x.meaning.value env row = .ok u ∧ u ≠ .bool true := by
  induction h generalizing v with
  | one x =>
    by_cases htrue : v = .bool true
    · exact .inl ⟨htrue, by simpa [isTrue_iff, ← htrue] using hv⟩
    · exact .inr ⟨htrue, x, by simp, v, hv, htrue⟩
  | @and x y xs ys _ _ ihx ihy =>
    have hleft {u : Value} (hu : x.meaning.value env row = .ok u) (hne : u ≠ .bool true) :
        ∃ z ∈ xs ++ ys, ∃ u, z.meaning.value env row = .ok u ∧ u ≠ .bool true := by
      obtain ⟨rfl, -⟩ | ⟨-, z, hz, hvalue⟩ := ihx hu
      · exact absurd rfl hne
      · exact ⟨z, List.mem_append_left _ hz, hvalue⟩
    obtain ⟨hx, rfl⟩ | ⟨a, b, ha, hb, rfl⟩ := and_cases hv
    · exact .inr ⟨by simp, hleft hx (by simp)⟩
    rw [Value.ofTruth_eq_true, Ne, Value.ofTruth_eq_true, Kleene.and_eq_true]
    by_cases hat : a = some true
    · obtain ⟨-, hxs⟩ | ⟨hne, -⟩ := ihx ha
      · obtain ⟨hbt, hys⟩ | ⟨hne, z, hz, hvalue⟩ := ihy hb
        · exact .inl ⟨⟨hat, Value.ofTruth_eq_true.1 hbt⟩, List.forall_mem_append.2 ⟨hxs, hys⟩⟩
        · refine .inr ⟨fun h => hne (Value.ofTruth_eq_true.2 h.2), z, ?_, hvalue⟩
          exact List.mem_append_right _ hz
      · exact absurd (Value.ofTruth_eq_true.2 hat) hne
    · exact .inr ⟨fun h => hat h.1, hleft ha (mt Value.ofTruth_eq_true.1 hat)⟩
  | perm _ hp ih =>
    obtain ⟨htrue, hxs⟩ | ⟨hne, x, hx, hvalue⟩ := ih hv
    · exact .inl ⟨htrue, fun x hx => hxs x (hp.symm.subset hx)⟩
    · exact .inr ⟨hne, x, hp.subset hx, hvalue⟩

/-! ### Conjunctions as filters -/

/-- Whether all of some conditions are true in a row. -/
def allTrue (env : Env) (xs : List Expr) (row : Row) : Bool := xs.all (·.isTrue env row)

lemma allTrue_iff : allTrue env xs row ↔ ∀ x ∈ xs, x.isTrue env row := List.all_eq_true

lemma allTrue_append :
    allTrue env (xs ++ ys) row = (allTrue env xs row && allTrue env ys row) := List.all_append

/-- What filters by some conditions: their conjunction, or nothing if there are none. -/
def Filters : Option Expr → List Expr → Prop
  | none, xs => xs = []
  | some w, xs => Joins w xs

lemma Joins.holds (h : Joins w xs) {b : Bool} (hb : w.meaning.holds env none row = .ok b) :
    b = allTrue env xs row := by
  obtain ⟨v, hv, hb⟩ := bind_eq_ok.1 hb
  cases hb
  obtain ⟨rfl, hxs⟩ | ⟨hne, x, hx, u, hu, hut⟩ := h.value_cases hv
  · exact (decide_eq_true rfl).trans (allTrue_iff.2 hxs).symm
  · rw [decide_eq_false hne, eq_comm, ← Bool.not_eq_true, allTrue_iff]
    intro hxs
    exact hut (Except.ok.inj (hu.symm.trans (isTrue_iff.1 (hxs x hx))))

/-- A filter by conditions that have truth values lets through the rows where all are true. -/
theorem Filters.filterRows_eq {f : Option Expr} (h : Filters f xs) {rows : List Row}
    (hxs : ∀ row ∈ rows, ∀ x ∈ xs, x.Truthful env row) :
    Meaning.filterRows (f.map meaning) env rows = .ok (rows.filter (allTrue env xs)) := by
  cases f with
  | none =>
    obtain rfl : xs = [] := h
    exact congrArg _ (List.filter_eq_self.2 fun _ _ => rfl).symm
  | some w =>
    refine filterM_eq_ok fun row hrow => ?_
    obtain ⟨b, hb⟩ := Joins.truthful h (hxs row hrow)
    have hholds := holds_eq hb
    rwa [Joins.holds h hholds] at hholds

/-- **What a filter by more conditions gives**, one without them gives of the rows where they are
true. -/
theorem Filters.refines {f f' : Option Expr} (h : Filters f' (f.toList ++ xs)) (rows : List Row) :
    Refines (Meaning.filterRows (f'.map meaning) env rows)
      (Meaning.filterRows (f.map meaning) env (rows.filter (allTrue env xs))) := by
  intro kept hkept
  cases f' with
  | none =>
    obtain ⟨hf, rfl⟩ := List.append_eq_nil_iff.1 h
    obtain rfl : f = none := Option.toList_eq_nil_iff.1 hf
    obtain rfl : rows = kept := Except.ok.inj hkept
    exact congrArg _ (List.filter_eq_self.2 fun _ _ => rfl)
  | some w =>
    have hholds := exists_of_filterM hkept
    have hkept' : rows.filterM (fun row => w.meaning.holds env none row) =
        .ok (rows.filter (allTrue env (f.toList ++ xs))) := by
      refine filterM_eq_ok fun row hrow => ?_
      obtain ⟨b, hb⟩ := hholds row hrow
      rwa [Joins.holds h hb] at hb
    obtain rfl := Except.ok.inj (hkept.symm.trans hkept')
    have hsplit : rows.filter (allTrue env (f.toList ++ xs)) =
        (rows.filter (allTrue env xs)).filter (allTrue env f.toList) := by
      rw [List.filter_filter]
      exact List.filter_congr fun row _ => allTrue_append
    rw [hsplit]
    cases f with
    | none => exact congrArg _ (List.filter_eq_self.2 fun _ _ => rfl).symm
    | some z =>
      refine filterM_eq_ok fun row hrow => ?_
      obtain ⟨hrow, hxs⟩ := List.mem_filter.1 hrow
      obtain ⟨b, hb⟩ := hholds row hrow
      obtain ⟨v, hv, -⟩ := bind_eq_ok.1 hb
      -- a condition that has a value other than true is not among those that are true
      have hz : ∃ u, z.meaning.value env row = .ok u := by
        obtain ⟨-, hall⟩ | ⟨-, x, hx, u, hu, hne⟩ := Joins.value_cases h hv
        · exact ⟨_, isTrue_iff.1 (hall z (by simp))⟩
        · rcases List.mem_cons.1 hx with rfl | hx
          · exact ⟨u, hu⟩
          · have htrue := isTrue_iff.1 (allTrue_iff.1 hxs x hx)
            exact absurd (Except.ok.inj (hu.symm.trans htrue)) hne
      obtain ⟨u, hu⟩ := hz
      have hrefl := holds_eq hu
      rwa [Joins.holds (.one z) hrefl] at hrefl

end Cypher.Expr

end PropertyGraph
