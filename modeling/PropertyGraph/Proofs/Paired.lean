import Mathlib.Data.List.Forall2
import PropertyGraph.Proofs.Except

/-!
Computations that are run side by side: both fail in the same way, or what they give is related.
-/

namespace PropertyGraph

variable {ε α β γ δ : Type}

/-- Two computations fail alike, or the one gives what is related to what the other gives. -/
inductive Paired (R : α → β → Prop) : Except ε α → Except ε β → Prop
  | ok {a : α} {b : β} (h : R a b) : Paired R (.ok a) (.ok b)
  | error (e : ε) : Paired R (.error e) (.error e)

namespace Paired

variable {Q : α → β → Prop} {R : γ → δ → Prop} {xs : List α} {ys : List β}

lemma imp {Q' : α → β → Prop} {x : Except ε α} {y : Except ε β} (h : Paired Q x y)
    (hQ : ∀ a b, Q a b → Q' a b) : Paired Q' x y := by
  cases h with
  | ok h => exact .ok (hQ _ _ h)
  | error e => exact .error e

lemma bind {x : Except ε α} {y : Except ε β} {f : α → Except ε γ} {g : β → Except ε δ}
    (h : Paired Q x y) (hf : ∀ a b, Q a b → Paired R (f a) (g b)) :
    Paired R (x >>= f) (y >>= g) := by
  cases h with
  | ok h => exact hf _ _ h
  | error e => exact .error e

lemma bind_same (x : Except ε α) {f : α → Except ε γ} {g : α → Except ε δ}
    (hf : ∀ a, Paired R (f a) (g a)) : Paired R (x >>= f) (x >>= g) := by
  cases x with
  | ok a => exact hf a
  | error e => exact .error e

/-- What comes after may forget the difference. -/
lemma bind_eq {x : Except ε α} {y : Except ε β} {f : α → Except ε γ} {g : β → Except ε γ}
    (h : Paired Q x y) (hf : ∀ a b, Q a b → f a = g b) : x >>= f = y >>= g := by
  cases h with
  | ok h => exact hf _ _ h
  | error e => rfl

/-! ### Lists -/

lemma mapM {f : α → Except ε γ} {g : β → Except ε δ} (h : List.Forall₂ Q xs ys)
    (hf : ∀ x y, Q x y → Paired R (f x) (g y)) :
    Paired (List.Forall₂ R) (xs.mapM f) (ys.mapM g) := by
  induction h with
  | nil => exact .ok .nil
  | cons hxy _ ih =>
    rw [List.mapM_cons, List.mapM_cons]
    exact (hf _ _ hxy).bind fun _ _ hz => ih.bind fun _ _ hzs => .ok (.cons hz hzs)

lemma mapM_eq {f : α → Except ε γ} {g : β → Except ε γ} (h : List.Forall₂ Q xs ys)
    (hf : ∀ x y, Q x y → f x = g y) : xs.mapM f = ys.mapM g := by
  induction h with
  | nil => rfl
  | cons hxy _ ih => rw [List.mapM_cons, List.mapM_cons, hf _ _ hxy, ih]

lemma filterMapM_eq {f : α → Except ε (Option γ)} {g : β → Except ε (Option γ)}
    (h : List.Forall₂ Q xs ys) (hf : ∀ x y, Q x y → f x = g y) :
    xs.filterMapM f = ys.filterMapM g := by
  induction h with
  | nil => rfl
  | cons hxy _ ih => rw [List.filterMapM_cons, List.filterMapM_cons, hf _ _ hxy, ih]

lemma anyM_eq {f : α → Except ε Bool} {g : β → Except ε Bool} (h : List.Forall₂ Q xs ys)
    (hf : ∀ x y, Q x y → f x = g y) : xs.anyM f = ys.anyM g := by
  induction h with
  | nil => rfl
  | cons hxy _ ih => rw [List.anyM, List.anyM, hf _ _ hxy, ih]

lemma filterM {f : α → Except ε Bool} {g : β → Except ε Bool} (h : List.Forall₂ Q xs ys)
    (hf : ∀ x y, Q x y → f x = g y) :
    Paired (List.Forall₂ Q) (xs.filterM f) (ys.filterM g) := by
  have haux {as : List α} {bs : List β} (hacc : List.Forall₂ Q as bs) :
      Paired (List.Forall₂ Q) (xs.filterAuxM f as) (ys.filterAuxM g bs) := by
    induction h generalizing as bs with
    | nil => exact .ok hacc
    | cons hxy _ ih =>
      rw [List.filterAuxM, List.filterAuxM, hf _ _ hxy]
      refine bind_same _ fun b => ?_
      cases b with
      | false => exact ih hacc
      | true => exact ih (.cons hxy hacc)
  exact (haux .nil).bind fun _ _ h => .ok (List.rel_reverse h)

lemma foldlM {f : γ → α → Except ε γ} {g : δ → β → Except ε δ} (h : List.Forall₂ Q xs ys)
    (hf : ∀ c d x y, R c d → Q x y → Paired R (f c x) (g d y)) {c : γ} {d : δ} (hcd : R c d) :
    Paired R (xs.foldlM f c) (ys.foldlM g d) := by
  induction h generalizing c d with
  | nil => exact .ok hcd
  | cons hxy _ ih =>
    rw [List.foldlM_cons, List.foldlM_cons]
    exact (hf _ _ _ _ hcd hxy).bind fun _ _ => ih

end Paired

end PropertyGraph
