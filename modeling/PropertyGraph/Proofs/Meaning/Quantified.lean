import Mathlib.Data.List.Forall2
import PropertyGraph.Meaning.Layer
import PropertyGraph.Proofs.Except
import PropertyGraph.Proofs.Value.Filled

/-!
Quantifiers over lists, and membership in them.

A quantifier looks at no more than how many of its verdicts are true, and at how many there are.
When the unknown ones become known, the number of true ones can be anything from the number that is
known to be true up to that number and that of the unknown ones, so what a quantifier says for sure
is arithmetic on these bounds. Membership is the quantifier `any` over the comparisons with the
items.
-/

namespace PropertyGraph

open Cypher

/-- What a quantifier says of verdicts that are all known. -/
def Cypher.Quantifier.holds (q : Quantifier) (bs : List Bool) : Bool :=
  match q with
  | .all => bs.all id
  | .any => bs.any id
  | .none => !bs.any id
  | .single => bs.count true = 1

namespace Kleene

variable {vs : List (Option Bool)} {bs : List Bool}

/-! ### Completions -/

/-- Known verdicts come from verdicts of which some are unknown: these are replaced by any Booleans,
and all others stay. -/
def Completes (vs : List (Option Bool)) (bs : List Bool) : Prop :=
  List.Forall₂ (fun v b => Settles v (some b)) vs bs

lemma settles_some {a b : Bool} : Settles (some a) (some b) ↔ a = b := by
  simp [Settles, eq_comm]

lemma settles_none (b : Bool) : Settles none (some b) := nofun

lemma Completes.length_eq (h : Completes vs bs) : bs.length = vs.length :=
  (List.Forall₂.length_eq h).symm

lemma Completes.count_le (h : Completes vs bs) :
    vs.count (some true) ≤ bs.count true ∧
      bs.count true ≤ vs.count (some true) + vs.count none := by
  induction h with
  | nil => simp
  | @cons v b vs bs hv _ ih =>
    simp only [List.count_cons]
    cases v with
    | none => cases b <;> simp <;> omega
    | some a =>
      obtain rfl := settles_some.1 hv
      cases a <;> simp <;> omega

lemma exists_completes {k : Nat} (hlow : vs.count (some true) ≤ k)
    (hhigh : k ≤ vs.count (some true) + vs.count none) :
    ∃ bs, Completes vs bs ∧ bs.count true = k := by
  induction vs generalizing k with
  | nil =>
    simp only [List.count_nil, Nat.add_zero, Nat.le_zero] at hhigh
    exact ⟨[], .nil, hhigh.symm⟩
  | cons v vs ih =>
    simp only [List.count_cons] at hlow hhigh
    -- an unknown verdict becomes true as long as there are not enough true ones in the rest
    obtain ⟨b, hv, hlow, hhigh, hle⟩ : ∃ b : Bool, Settles v (some b) ∧
        vs.count (some true) ≤ k - b.toNat ∧
        k - b.toNat ≤ vs.count (some true) + vs.count none ∧ b.toNat ≤ k := by
      cases v with
      | some a =>
        refine ⟨a, settles_some.2 rfl, ?_⟩
        cases a <;> simp at hlow hhigh ⊢ <;> omega
      | none =>
        by_cases hk : k = vs.count (some true)
        · exact ⟨false, settles_none _, by simp [hk]⟩
        · refine ⟨true, settles_none _, ?_⟩
          simp at hlow hhigh ⊢
          omega
    obtain ⟨bs, hbs, hcount⟩ := ih hlow hhigh
    refine ⟨b :: bs, .cons hv hbs, ?_⟩
    rw [List.count_cons, hcount]
    cases b <;> simp at hle ⊢
    omega

/-- **The numbers of true verdicts** that are possible. -/
theorem exists_completes_iff {k : Nat} : (∃ bs, Completes vs bs ∧ bs.count true = k) ↔
    vs.count (some true) ≤ k ∧ k ≤ vs.count (some true) + vs.count none := by
  refine ⟨?_, fun h => exists_completes h.1 h.2⟩
  rintro ⟨bs, h, rfl⟩
  exact h.count_le

/-! ### Quantifiers -/

/-- What a quantifier says of the number of verdicts that are true, among all of them. -/
def ofCount (q : Quantifier) (length trues : Nat) : Bool :=
  match q with
  | .all => trues = length
  | .any => trues ≠ 0
  | .none => trues = 0
  | .single => trues = 1

lemma any_eq_count (bs : List Bool) : bs.any id = decide (bs.count true ≠ 0) := by
  rw [Bool.eq_iff_iff, decide_eq_true_eq, Ne, List.count_eq_zero, not_not]
  simp

lemma holds_eq (q : Quantifier) (bs : List Bool) :
    q.holds bs = ofCount q bs.length (bs.count true) := by
  cases q with
  | all =>
    rw [Quantifier.holds, ofCount, Bool.eq_iff_iff, decide_eq_true_eq, List.all_eq_true,
      List.count_eq_length]
    exact forall₂_congr fun b _ => eq_comm
  | any => exact any_eq_count bs
  | none => simp [Quantifier.holds, ofCount, any_eq_count]
  | single => rfl

lemma length_eq_counts (vs : List (Option Bool)) :
    vs.length = vs.count (some true) + vs.count (some false) + vs.count none := by
  induction vs with
  | nil => rfl
  | cons v vs ih => rcases v with _ | _ | _ <;> simp [ih] <;> omega

lemma contains_eq_count (v : Option Bool) (vs : List (Option Bool)) :
    vs.contains v = decide (vs.count v ≠ 0) := by
  rw [Bool.eq_iff_iff, decide_eq_true_eq, List.contains_iff_mem, Ne, List.count_eq_zero, not_not]

/-- A quantifier gives a Boolean if and only if it would do so for all numbers of true verdicts that
are possible. -/
lemma quantify_eq_iff_count (q : Quantifier) (vs : List (Option Bool)) (b : Bool) :
    quantify q vs = some b ↔ ∀ k, vs.count (some true) ≤ k →
      k ≤ vs.count (some true) + vs.count none → ofCount q vs.length k = b := by
  rw [length_eq_counts]
  simp only [quantify, contains_eq_count]
  generalize vs.count (some true) = trues, vs.count (some false) = falses, vs.count none = unknown
  constructor
  · intro h k hlow hhigh
    have hknown (hu : unknown = 0) : k = trues := by omega
    cases q <;> simp only [ofCount] at h ⊢ <;> grind
  · intro h
    have hlow := h trues (Nat.le_refl _) (Nat.le_add_right _ _)
    have hhigh := h (trues + unknown) (Nat.le_add_right _ _) (Nat.le_refl _)
    have hnext (hu : unknown ≠ 0) := h (trues + 1) (by omega) (by omega)
    cases q <;> cases b <;>
      simp only [ofCount, decide_eq_true_eq, decide_eq_false_iff_not] at hlow hhigh hnext ⊢ <;>
      grind

/-- **A quantifier is exact**: it gives a Boolean if and only if it would do so whatever the unknown
verdicts turn out to be. -/
theorem quantify_eq_iff (q : Quantifier) (vs : List (Option Bool)) (b : Bool) :
    quantify q vs = some b ↔ ∀ bs, Completes vs bs → q.holds bs = b := by
  rw [quantify_eq_iff_count]
  constructor
  · intro h bs hbs
    obtain ⟨hlow, hhigh⟩ := exists_completes_iff.1 ⟨bs, hbs, rfl⟩
    rw [holds_eq, hbs.length_eq]
    exact h _ hlow hhigh
  · intro h k hlow hhigh
    obtain ⟨bs, hbs, rfl⟩ := exists_completes_iff.2 ⟨hlow, hhigh⟩
    rw [← h bs hbs, holds_eq, hbs.length_eq]

/-! ### Laws -/

/-- Negation in three-valued logic. -/
def not (v : Option Bool) : Option Bool := v.map Bool.not

lemma quantify_none (vs : List (Option Bool)) : quantify .none vs = not (quantify .any vs) := by
  simp only [quantify, not]
  split_ifs <;> rfl

lemma contains_map_not (vs : List (Option Bool)) (v : Option Bool) :
    (vs.map not).contains (not v) = vs.contains v := by
  rw [Bool.eq_iff_iff, List.contains_iff_mem, List.contains_iff_mem]
  refine List.mem_map_of_injective fun a b h => ?_
  rcases a with _ | _ | _ <;> rcases b with _ | _ | _ <;> simp_all [not]

lemma quantify_all (vs : List (Option Bool)) :
    quantify .all vs = not (quantify .any (vs.map not)) := by
  have hfalse := contains_map_not vs (some false)
  have hnone := contains_map_not vs none
  simp only [not, Option.map_some, Option.map_none, Bool.not_false] at hfalse hnone
  simp only [quantify, hfalse, hnone, not]
  split_ifs <;> rfl

lemma quantify_any_cons (v : Option Bool) (vs : List (Option Bool)) :
    quantify .any (v :: vs) = or v (quantify .any vs) := by
  simp only [quantify, List.contains_cons]
  rcases v with _ | _ | _ <;> simp [or] <;> split_ifs <;> simp_all

end Kleene

namespace Value

/-- **Membership in a list** is the quantifier `any` over the comparisons with its items. -/
theorem memberOf_eq_any (x : Value) (xs : List Value) :
    x.memberOf xs = Kleene.quantify .any (xs.map x.equals) := by
  induction xs with
  | nil => rfl
  | cons y ys ih => rw [List.map_cons, Kleene.quantify_any_cons, ← ih]; rfl

lemma truth_ofTruth (user : String) (r : Option Bool) : (ofTruth r).truth user = .ok r := by
  cases r <;> rfl

lemma unary_not_ofTruth (r : Option Bool) :
    (ofTruth r).unary .not = .ok (ofTruth (Kleene.not r)) := by
  cases r <;> rfl

/-- Whether a value has items to go through, or may have some. -/
def isListed : Value → Bool
  | null | list _ => true
  | _ => false

end Value

/-! ### Expressions -/

section

variable {ε α β γ : Type}

lemma toOption_bind (x : Except ε α) (f : α → Except ε β) :
    (x >>= f).toOption = x.toOption.bind fun a => (f a).toOption := by
  cases x <;> rfl

lemma toOption_mapM_map {f : α → Except ε β} {g : α → Except ε γ} {h : β → γ}
    (hfg : ∀ x, (g x).toOption = (f x).toOption.map h) (xs : List α) :
    (xs.mapM g).toOption = (xs.mapM f).toOption.map (List.map h) := by
  induction xs with
  | nil => rfl
  | cons x xs ih =>
    simp only [List.mapM_cons, toOption_bind, hfg, ih]
    cases (f x).toOption with
    | none => rfl
    | some b => cases (xs.mapM f).toOption <;> rfl

end

namespace Cypher.Expr

variable {env : Env} {group : Option (List Row)} {row : Row} {q : Quantifier} {n : String}
  {e s p : Expr} {xs : List Value} {vs : List (Option Bool)}

/-- The verdict of a condition on an item of a list. -/
def verdict (env : Env) (group : Option (List Row)) (row : Row) (n : String) (p : Expr)
    (x : Value) : Except Error (Option Bool) := do
  (← p.meaning.eval env group (Dict.insert row n x)).truth "list predicate"

/-- The verdicts of a condition on the items of a list are these. -/
def Judges (env : Env) (group : Option (List Row)) (row : Row) (n : String) (p : Expr) :
    List Value → List (Option Bool) → Prop :=
  List.Forall₂ fun x v => p.meaning.eval env group (Dict.insert row n x) = .ok (.ofTruth v)

lemma eval_not : (of (.unary .not p)).meaning.eval env group row =
    p.meaning.eval env group row >>= fun v => v.unary .not := rfl

lemma eval_binary {op : BinaryOp} : (of (.binary op e p)).meaning.eval env group row =
    e.meaning.eval env group row >>= fun v =>
      v.binary op fun _ => p.meaning.eval env group row := rfl

/-- What a quantifier does with the items of its list. -/
lemma eval_quantified : (of (.quantified q n s p)).meaning.eval env group row =
    Meaning.overItems env group row s.meaning fun xs => do
      return .ofTruth (Kleene.quantify q (← xs.mapM (verdict env group row n p))) := rfl

lemma overItems_list (hs : s.meaning.eval env group row = .ok (.list xs))
    (f : List Value → Except Error Value) :
    Meaning.overItems env group row s.meaning f = f xs := by
  rw [Meaning.overItems, Meaning.listItems?, hs]
  rfl

/-- Two computations that go through the items of one list are alike if they are so for each list,
and for null if there is none. -/
lemma overItems_rel {R : Except Error Value → Except Error Value → Prop}
    {f g : List Value → Except Error Value} (herror : ∀ e, R (.error e) (.error e))
    (hnull : R (.ok .null) (.ok .null)) (hfg : ∀ xs, R (f xs) (g xs)) :
    R (Meaning.overItems env group row s.meaning f)
      (Meaning.overItems env group row s.meaning g) := by
  rw [Meaning.overItems, Meaning.overItems]
  rcases Meaning.listItems? env group row s.meaning with err | _ | xs
  · exact herror err
  · exact hnull
  · exact hfg xs

/-- If the items of a list are judged, a quantifier gives what it says of the verdicts. -/
lemma Judges.eval_quantified (h : Judges env group row n p xs vs)
    (hs : s.meaning.eval env group row = .ok (.list xs)) :
    (of (.quantified q n s p)).meaning.eval env group row =
      .ok (.ofTruth (Kleene.quantify q vs)) := by
  have hverdicts : xs.mapM (verdict env group row n p) = .ok vs := by
    clear hs
    induction h with
    | nil => rfl
    | @cons x v xs vs hx _ ih =>
      have hv : verdict env group row n p x = .ok v := by
        rw [verdict, hx]
        exact Value.truth_ofTruth _ v
      rw [List.mapM_cons, hv, ih]
      rfl
  rw [Expr.eval_quantified, overItems_list hs, hverdicts]
  rfl

/-- The verdict of a negated condition is the negated verdict. -/
lemma toOption_verdict_not (x : Value) : (verdict env group row n (of (.unary .not p)) x).toOption =
    (verdict env group row n p x).toOption.map Kleene.not := by
  rw [verdict, verdict, eval_not]
  rcases p.meaning.eval env group (Dict.insert row n x) with err | v
  · rfl
  · cases v <;> rfl

lemma eval_none : (of (.quantified .none n s p)).meaning.eval env group row =
    (of (.unary .not (of (.quantified .any n s p)))).meaning.eval env group row := by
  rw [eval_not, eval_quantified, eval_quantified]
  refine overItems_rel (R := fun a b => a = b >>= fun v => v.unary .not) (fun _ => rfl) rfl
    fun xs => ?_
  rcases xs.mapM (verdict env group row n p) with err | vs
  · rfl
  · change Except.ok _ = (Value.ofTruth _).unary .not
    rw [Value.unary_not_ofTruth, Kleene.quantify_none]

lemma toOption_eval_all : ((of (.quantified .all n s p)).meaning.eval env group row).toOption =
    ((of (.unary .not (of (.quantified .any n s (of (.unary .not p)))))).meaning.eval
      env group row).toOption := by
  rw [eval_not, eval_quantified, eval_quantified]
  refine overItems_rel (R := fun a b => a.toOption = (b >>= fun v => v.unary .not).toOption)
    (fun _ => rfl) rfl fun xs => ?_
  have hverdicts : (xs.mapM (verdict env group row n (of (.unary .not p)))).toOption =
      (xs.mapM (verdict env group row n p)).toOption.map (List.map Kleene.not) :=
    toOption_mapM_map toOption_verdict_not xs
  simp only [toOption_bind, hverdicts]
  rcases (xs.mapM (verdict env group row n p)).toOption with _ | vs
  · rfl
  · change some _ = ((Value.ofTruth _).unary .not).toOption
    rw [Value.unary_not_ofTruth, Kleene.quantify_all]
    rfl

/-- Binding the name of a quantifier does not change the value of an expression. -/
structure Unbound (env : Env) (group : Option (List Row)) (row : Row) (n : String) (e : Expr)
    (x : Value) : Prop where
  value : e.meaning.eval env group row = .ok x
  inside : ∀ v, e.meaning.eval env group (Dict.insert row n v) = .ok x

/-- The comparisons of a value with the items of a list. -/
lemma judges_eq {x : Value} (he : Unbound env group row n e x) (xs : List Value) :
    Judges env group row n (of (.binary .eq e (of (.name n)))) xs (xs.map x.equals) := by
  refine List.forall₂_map_right_iff.2 (List.forall₂_same.2 fun y _ => ?_)
  have hname : (of (.name n)).meaning.eval env group (Dict.insert row n y) = .ok y := by
    change Except.ok (Dict.getD (Dict.insert row n y) n .null) = _
    rw [Dict.getD, Dict.get?_insert, if_pos rfl]
    rfl
  rw [eval_binary, he.inside, hname]
  rfl

/-- Membership of a value in what has items comes to the quantifier `any`, and both refuse what has
none. -/
lemma isIn_eq_any {x v : Value} (he : Unbound env group row n e x)
    (hs : s.meaning.eval env group row = .ok v) :
    let isIn := (of (.binary .isIn e s)).meaning.eval env group row
    let any := (of (.quantified .any n s (of (.binary .eq e (of (.name n)))))).meaning.eval
      env group row
    (v.isListed → ∃ r, isIn = .ok (.ofTruth r) ∧ any = .ok (.ofTruth r)) ∧
      (v.isListed = false → ∃ f g, isIn = .error (.type f) ∧ any = .error (.type g)) := by
  intro isIn any
  have hisIn : isIn = x.isIn v := by
    change (of (.binary .isIn e s)).meaning.eval env group row = _
    rw [eval_binary, he.value, hs]
    rfl
  have hany : any = Meaning.overItems env group row s.meaning fun xs => do
      return .ofTruth (Kleene.quantify .any (← xs.mapM (verdict env group row n _))) :=
    eval_quantified
  rw [Meaning.overItems, Meaning.listItems?, hs] at hany
  cases v with
  | null =>
    refine ⟨fun _ => ⟨none, hisIn, hany⟩, fun hv => ?_⟩
    cases hv
  | list xs =>
    refine ⟨fun _ => ⟨Kleene.quantify .any (xs.map x.equals), ?_, ?_⟩, fun hv => ?_⟩
    · rw [hisIn, Value.isIn, Value.memberOf_eq_any]
    · exact (judges_eq he xs).eval_quantified hs
    · cases hv
  | _ =>
    refine ⟨fun hv => ?_, fun _ => ⟨_, _, hisIn, hany⟩⟩
    cases hv

/-- **Quantifiers and membership are exact where something is unknown.** A quantifier over a list
gives the Boolean that it would give whatever the unknown verdicts turn out to be, and null if there
is no such Boolean. So `none` is the negation of `any` and `all` that of `any` for the negated
condition, where both give something or neither does. Membership in a list, or in null, is the
quantifier `any` for equality with the items, and both refuse all other values as of a wrong
type. -/
theorem quantifiers_exact (env : Env) (group : Option (List Row)) (row : Row) (n : String)
    (s p : Expr) :
    (∀ (q : Quantifier) (xs : List Value) (vs : List (Option Bool)),
      s.meaning.eval env group row = .ok (.list xs) → Judges env group row n p xs vs →
      ∃ r, (of (.quantified q n s p)).meaning.eval env group row = .ok (.ofTruth r) ∧
        ∀ b, r = some b ↔ ∀ bs, Kleene.Completes vs bs → q.holds bs = b) ∧
    (of (.quantified .none n s p)).meaning.eval env group row =
      (of (.unary .not (of (.quantified .any n s p)))).meaning.eval env group row ∧
    ((of (.quantified .all n s p)).meaning.eval env group row).toOption =
      ((of (.unary .not (of (.quantified .any n s (of (.unary .not p)))))).meaning.eval
        env group row).toOption ∧
    ∀ (e : Expr) (x v : Value), Unbound env group row n e x →
      s.meaning.eval env group row = .ok v →
      let isIn := (of (.binary .isIn e s)).meaning.eval env group row
      let any := (of (.quantified .any n s (of (.binary .eq e (of (.name n)))))).meaning.eval
        env group row
      (v.isListed → ∃ r, isIn = .ok (.ofTruth r) ∧ any = .ok (.ofTruth r)) ∧
        (v.isListed = false → ∃ f g, isIn = .error (.type f) ∧ any = .error (.type g)) := by
  refine ⟨fun q xs vs hs h => ?_, eval_none, toOption_eval_all,
    fun e x v he hs => isIn_eq_any he hs⟩
  exact ⟨Kleene.quantify q vs, h.eval_quantified hs, Kleene.quantify_eq_iff q vs⟩

/-- Two items for sure are not a single one, whatever a third one is; one for sure may be. -/
theorem quantifiers_exact_single :
    let env : Env := ⟨⟨[("x", .bool true), ("xs", .list [.bool true, .null, .bool true]),
      ("ys", .list [.bool true, .null])], 8, .ofNat 0⟩, {}⟩
    let isX : Expr := of (.binary .eq (of (.parameter "x")) (of (.name "y")))
    let single (xs : String) :=
      (of (.quantified .single "y" (of (.parameter xs)) isX)).meaning.eval env none []
    single "xs" = .ok (.bool false) ∧ single "ys" = .ok .null ∧
      ∃ f, (of (.binary .isIn (of (.parameter "xs")) (of (.parameter "x")))).meaning.eval
        env none [] = .error (.type f) := by
  intro env isX single
  have hx : Unbound env none [] "y" (of (.parameter "x")) (.bool true) := ⟨rfl, fun _ => rfl⟩
  have hxs : Unbound env none [] "y" (of (.parameter "xs"))
    (.list [.bool true, .null, .bool true]) := ⟨rfl, fun _ => rfl⟩
  refine ⟨?_, ?_, ?_⟩
  · obtain ⟨r, hr, hexact⟩ := (quantifiers_exact env none [] "y" (of (.parameter "xs")) isX).1
      .single _ _ rfl (judges_eq hx _)
    have hfalse : r = some false := by
      refine (hexact false).2 fun bs hbs => ?_
      have htrues : 2 ≤ bs.count true := hbs.count_le.1
      rw [Quantifier.holds, decide_eq_false_iff_not]
      omega
    rw [hfalse] at hr
    exact hr
  · obtain ⟨r, hr, hexact⟩ := (quantifiers_exact env none [] "y" (of (.parameter "ys")) isX).1
      .single _ _ rfl (judges_eq hx _)
    have hcompletes (b : Bool) : Kleene.Completes [some true, none] [true, b] :=
      .cons (Kleene.settles_some.2 rfl) (.cons (Kleene.settles_none b) .nil)
    cases r with
    | none => exact hr
    | some b =>
      have hone := (hexact b).1 rfl [true, false] (hcompletes false)
      have htwo := (hexact b).1 rfl [true, true] (hcompletes true)
      exact absurd (hone.trans htwo.symm) (by decide)
  · obtain ⟨-, -, -, hmember⟩ := quantifiers_exact env none [] "y" (of (.parameter "x")) isX
    obtain ⟨f, -, hf, -⟩ := (hmember _ _ _ hxs rfl).2 rfl
    exact ⟨f, hf⟩

end Cypher.Expr

end PropertyGraph
