import PropertyGraph.Operator
import PropertyGraph.Proofs.Value.Order

/-!
The order of the comparison operators is a partial order, and it agrees with equality.

Numbers other than NaN, strings and Booleans are ordered each among themselves. A list is compared
from the front, up to the first place that tells it from the other list, so it can be compared if
that place can, whatever stands behind it. Such a place also makes lists unequal, and without one
lists of one length are equal. So what can be compared is never unknown to equality.
-/

namespace PropertyGraph

open Std Cypher

/-- Where an order goes up twice, both steps together go as the first one that is strict. -/
lemma compare_then {α : Type} {cmp : α → α → Ordering} [TransCmp cmp] {a b c : α}
    (hab : (cmp a b).isLE) (hbc : (cmp b c).isLE) : cmp a c = (cmp a b).then (cmp b c) := by
  cases h : cmp a b with
  | lt => exact TransCmp.lt_of_lt_of_isLE h hbc
  | eq => exact TransCmp.congr_left h
  | gt =>
    rw [h] at hab
    cases hab

namespace Number

variable {a b c : Number} {o p : Ordering}

lemma compare?_eq_some :
    a.compare? b = some o ↔ (a.isNaN = false ∧ b.isNaN = false) ∧ compare a.rank b.rank = o := by
  rw [compare?]
  cases a.isNaN <;> cases b.isNaN <;> simp

lemma compare?_swap (a b : Number) : b.compare? a = (a.compare? b).map Ordering.swap := by
  rw [compare?, compare?, Bool.or_comm]
  split_ifs
  · rfl
  · exact congrArg some OrientedCmp.eq_swap

lemma compare?_trans (hab : a.compare? b = some o) (hbc : b.compare? c = some p) (ho : o.isLE)
    (hp : p.isLE) : a.compare? c = some (o.then p) := by
  obtain ⟨⟨ha, -⟩, rfl⟩ := compare?_eq_some.1 hab
  obtain ⟨⟨-, hc⟩, rfl⟩ := compare?_eq_some.1 hbc
  exact compare?_eq_some.2 ⟨⟨ha, hc⟩, compare_then ho hp⟩

lemma equals_of_compare? (h : a.compare? b = some o) : a.equals b = (o == .eq) := by
  rw [equals, h]
  cases o <;> rfl

end Number

namespace Value

variable {a b c x y : Value} {xs ys : List Value} {o p : Ordering}

/-- The first items decide, unless they are level. -/
lemma compareItems?_cons_eq_some :
    compareItems? (x :: xs) (y :: ys) = some o ↔
      x.compare? y = some .eq ∧ compareItems? xs ys = some o ∨
        x.compare? y = some o ∧ o ≠ .eq := by
  rw [compareItems?]
  rcases x.compare? y with _ | _ | _ | _ <;> simp <;> rintro rfl <;> simp

/-! ### The other side -/

mutual

/-- **From the other side the order is the reverse**, and unknown if it is unknown. -/
theorem compare?_swap (a b : Value) : b.compare? a = (a.compare? b).map Ordering.swap := by
  cases a <;> cases b <;> simp only [compare?, Option.map_none]
  case bool.bool a b => exact congrArg some (@OrientedCmp.eq_swap Bool compare _ b a)
  case num.num a b => exact Number.compare?_swap a b
  case str.str a b => exact congrArg some (@OrientedCmp.eq_swap String compare _ b a)
  case list.list a b => exact compareItems?_swap a b

lemma compareItems?_swap (xs ys : List Value) :
    compareItems? ys xs = (compareItems? xs ys).map Ordering.swap := by
  match xs, ys with
  | [], [] | [], _ :: _ | _ :: _, [] => rfl
  | x :: xs, y :: ys =>
    rw [compareItems?, compareItems?, compare?_swap x y, compareItems?_swap xs ys]
    rcases x.compare? y with _ | _ | _ | _ <;> rfl

end

/-! ### Steps up -/

mutual

/-- **Steps up can be put together**, and the whole is strict if one of them is. -/
theorem compare?_trans {a b c : Value} {o p : Ordering} (hab : a.compare? b = some o)
    (hbc : b.compare? c = some p) (ho : o.isLE) (hp : p.isLE) :
    a.compare? c = some (o.then p) := by
  cases a <;> cases b <;> simp only [compare?, reduceCtorEq] at hab <;>
    cases c <;> simp only [compare?, reduceCtorEq] at hbc
  case bool.bool.bool =>
    obtain rfl := Option.some.inj hab
    obtain rfl := Option.some.inj hbc
    exact congrArg some (@compare_then Bool compare _ _ _ _ ho hp)
  case num.num.num => exact Number.compare?_trans hab hbc ho hp
  case str.str.str =>
    obtain rfl := Option.some.inj hab
    obtain rfl := Option.some.inj hbc
    exact congrArg some (@compare_then String compare _ _ _ _ ho hp)
  case list.list.list => exact compareItems?_trans hab hbc ho hp

lemma compareItems?_trans {xs ys zs : List Value} {o p : Ordering}
    (hxy : compareItems? xs ys = some o) (hyz : compareItems? ys zs = some p) (ho : o.isLE)
    (hp : p.isLE) : compareItems? xs zs = some (o.then p) := by
  match xs, ys, zs with
  | [], [], _ =>
    obtain rfl := Option.some.inj hxy
    exact hyz
  | [], _ :: _, _ :: _ =>
    obtain rfl := Option.some.inj hxy
    rfl
  | _ :: _, [], _ =>
    obtain rfl := Option.some.inj hxy
    cases ho
  | _, _ :: _, [] =>
    obtain rfl := Option.some.inj hyz
    cases hp
  | x :: xs, y :: ys, z :: zs =>
    rw [compareItems?_cons_eq_some] at hxy hyz ⊢
    have strict {q : Ordering} (hq : q.isLE) (hne : q ≠ .eq) : q = .lt := by
      cases q <;> first | rfl | contradiction
    rcases hxy with ⟨hxy, hxys⟩ | ⟨hxy, hne⟩ <;> rcases hyz with ⟨hyz, hyzs⟩ | ⟨hyz, hne'⟩
    · exact .inl ⟨compare?_trans hxy hyz rfl rfl, compareItems?_trans hxys hyzs ho hp⟩
    · -- the second step goes up in front, so it does not matter where the first one goes up
      obtain rfl := strict hp hne'
      have hlt : o.then .lt = .lt := by cases o <;> first | rfl | contradiction
      rw [hlt]
      exact .inr ⟨compare?_trans hxy hyz rfl rfl, by simp⟩
    · obtain rfl := strict ho hne
      have hlt := compare?_trans hxy hyz rfl rfl
      exact .inr ⟨hlt, by simp⟩
    · obtain rfl := strict ho hne
      exact .inr ⟨compare?_trans hxy hyz rfl hp, by simp⟩

end

/-! ### Equality -/

mutual

/-- **What can be compared is equal exactly if it is level**, and known to be or not to be. -/
theorem equals_of_compare? {a b : Value} {o : Ordering} (h : a.compare? b = some o) :
    a.equals b = some (o == .eq) := by
  cases a <;> cases b <;> simp only [compare?, reduceCtorEq] at h <;> rw [equals]
  case bool.bool a b =>
    obtain rfl := Option.some.inj h
    cases a <;> cases b <;> rfl
  case num.num => rw [Number.equals_of_compare? h]
  case str.str a b =>
    obtain rfl := Option.some.inj h
    refine congrArg some ?_
    rw [Bool.eq_iff_iff, beq_iff_eq, beq_iff_eq, LawfulEqCmp.compare_eq_iff_eq]
  case list.list => exact itemsEqual_of_compareItems? h

lemma itemsEqual_of_compareItems? {xs ys : List Value} {o : Ordering}
    (h : compareItems? xs ys = some o) : itemsEqual xs ys = some (o == .eq) := by
  match xs, ys with
  | [], [] | [], _ :: _ | _ :: _, [] =>
    obtain rfl := Option.some.inj h
    rfl
  | x :: xs, y :: ys =>
    rw [itemsEqual]
    obtain ⟨hxy, h⟩ | ⟨hxy, hne⟩ := compareItems?_cons_eq_some.1 h
    · rw [equals_of_compare? hxy, itemsEqual_of_compareItems? h]
      cases o <;> rfl
    · -- one pair of items that is not equal decides, whatever the others are
      have hfalse : (o == .eq) = false := beq_eq_false_iff_ne.2 hne
      rw [equals_of_compare? hxy, hfalse]
      rcases itemsEqual xs ys with _ | _ | _ <;> rfl

end

/-! ### Operators -/

lemma ordered_of_compare? (h : a.compare? b = some o) (test : Ordering → Bool) :
    ordered test a b = bool (test o) := by
  have hnull : (a.isNull || b.isNull) = false := by
    cases a <;> cases b <;> first | rfl | exact absurd h (by simp [compare?])
  rw [ordered, hnull, h]
  rfl

/-- The operator that tells how two values stand to each other. -/
def relationOf : Ordering → BinaryOp
  | .lt => .lt
  | .eq => .eq
  | .gt => .gt

/-- **Comparison is a partial order that agrees with equality.** From the other side the order is
the reverse. Two steps, of which none goes down, make one that does not go down either, and that is
strict if one of them is. Values that can be compared are equal if they are level and unequal if
they are not, so that exactly one of `<`, `=` and `>` is true of them. -/
theorem comparison_agrees :
    (∀ a b : Value, b.compare? a = (a.compare? b).map Ordering.swap) ∧
    (∀ (a b c : Value) (o p : Ordering), a.compare? b = some o → b.compare? c = some p →
      o ≠ .gt → p ≠ .gt →
        ∃ q, a.compare? c = some q ∧ q ≠ .gt ∧ (o = .lt ∨ p = .lt → q = .lt)) ∧
    ∀ (a b : Value) (o : Ordering), a.compare? b = some o →
      a.equals b = some (o == .eq) ∧
      ∃! op : BinaryOp, op ∈ [BinaryOp.lt, .eq, .gt] ∧
        a.binary op (fun _ => .ok b) = .ok (bool true) := by
  refine ⟨compare?_swap, fun a b c o p hab hbc ho hp => ?_, fun a b o h => ?_⟩
  · have isLE {q : Ordering} (hq : q ≠ .gt) : q.isLE := by
      cases q <;> first | rfl | contradiction
    refine ⟨o.then p, compare?_trans hab hbc (isLE ho) (isLE hp), ?_, ?_⟩
    · cases o <;> cases p <;> first | contradiction | simp
    · cases o <;> cases p <;> first | contradiction | simp
  · have hequals := equals_of_compare? h
    have hlt : a.binary .lt (fun _ => .ok b) = .ok (bool (o == .lt)) :=
      congrArg Except.ok (ordered_of_compare? h _)
    have hgt : a.binary .gt (fun _ => .ok b) = .ok (bool (o == .gt)) :=
      congrArg Except.ok (ordered_of_compare? h _)
    have heq : a.binary .eq (fun _ => .ok b) = .ok (bool (o == .eq)) :=
      congrArg (fun e => Except.ok (ofTruth e)) hequals
    refine ⟨hequals, relationOf o, ?_, ?_⟩
    · cases o <;> simp [relationOf, hlt, heq, hgt]
    · rintro op ⟨hop, htrue⟩
      simp only [List.mem_cons, List.not_mem_nil, or_false] at hop
      rcases hop with rfl | rfl | rfl
      · rw [hlt] at htrue
        cases o <;> first | rfl | simp at htrue
      · rw [heq] at htrue
        cases o <;> first | rfl | simp at htrue
      · rw [hgt] at htrue
        cases o <;> first | rfl | simp at htrue

/-- Lists of different lengths, in which a null and NaN stand behind the places that decide. -/
theorem comparison_agrees_lists :
    let a := list [num (.neg .zero), list [str "x"]]
    let b := list [num .zero, list [str "x", null]]
    let c := list [num .zero, list [str "y"], num .nan]
    b.compare? a = some .gt ∧ a.compare? c = some .lt ∧ a.equals b = some false ∧
      ∃! op : BinaryOp, op ∈ [BinaryOp.lt, .eq, .gt] ∧
        a.binary op (fun _ => .ok b) = .ok (bool true) := by
  intro a b c
  obtain ⟨hswap, htrans, hequals⟩ := comparison_agrees
  have hab : a.compare? b = some .lt := by decide +kernel
  have hbc : b.compare? c = some .lt := by decide +kernel
  refine ⟨by rw [hswap a b, hab]; rfl, ?_, hequals a b .lt hab⟩
  obtain ⟨q, hac, -, hlt⟩ := htrans a b c .lt .lt hab hbc (by decide) (by decide)
  rw [hac, hlt (.inl rfl)]

end Value

end PropertyGraph
