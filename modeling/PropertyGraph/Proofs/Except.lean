import Mathlib.Tactic.Common

/-!
Computations that may fail, and lists of them.
-/

namespace PropertyGraph

variable {ε α β : Type}

lemma bind_eq_ok {x : Except ε α} {f : α → Except ε β} {b : β} :
    (x >>= f) = .ok b ↔ ∃ a, x = .ok a ∧ f a = .ok b := by
  cases x with
  | error e => exact ⟨nofun, nofun⟩
  | ok a =>
    refine ⟨fun h => ⟨a, rfl, h⟩, fun h => ?_⟩
    obtain ⟨_, heq, h⟩ := h
    obtain rfl := Except.ok.inj heq
    exact h

/-- What comes after a computation only matters for what it gives. -/
lemma bind_congr_ok {x : Except ε α} {f g : α → Except ε β} (h : ∀ a, x = .ok a → f a = g a) :
    x >>= f = x >>= g := by
  cases x with
  | error e => rfl
  | ok a => exact h a rfl

lemma toOption_eq_some {x : Except ε α} {a : α} : x.toOption = some a ↔ x = .ok a := by
  cases x with
  | error e => exact ⟨nofun, nofun⟩
  | ok b => exact ⟨fun h => congrArg _ (Option.some.inj h), fun h => congrArg _ (Except.ok.inj h)⟩

lemma mapM_eq_ok {xs : List α} {f : α → Except ε β} {g : α → β}
    (h : ∀ x ∈ xs, f x = .ok (g x)) : xs.mapM f = .ok (xs.map g) := by
  induction xs with
  | nil => rfl
  | cons x xs ih =>
    rw [List.mapM_cons, h x (by simp), ih fun y hy => h y (by simp [hy])]
    rfl

lemma forall₂_mapM {f : α → Except ε β} {xs : List α} {ys : List β} (h : xs.mapM f = .ok ys) :
    List.Forall₂ (fun x y => f x = .ok y) xs ys := by
  induction xs generalizing ys with
  | nil =>
    cases h
    exact .nil
  | cons x xs ih =>
    rw [List.mapM_cons] at h
    obtain ⟨z, hz, h⟩ := bind_eq_ok.1 h
    obtain ⟨zs, hzs, h⟩ := bind_eq_ok.1 h
    cases h
    exact .cons hz (ih hzs)

lemma exists_of_forall₂ {R : α → β → Prop} {xs : List α} {ys : List β} (h : List.Forall₂ R xs ys)
    {y : β} (hy : y ∈ ys) : ∃ x ∈ xs, R x y := by
  induction h with
  | nil => cases hy
  | @cons x z xs zs hxz _ ih =>
    rcases List.mem_cons.1 hy with rfl | hy
    · exact ⟨x, by simp, hxz⟩
    · obtain ⟨w, hw, hR⟩ := ih hy
      exact ⟨w, by simp [hw], hR⟩

lemma mem_mapM {f : α → Except ε β} {xs : List α} {ys : List β} (h : xs.mapM f = .ok ys) {y : β}
    (hy : y ∈ ys) : ∃ x ∈ xs, f x = .ok y :=
  exists_of_forall₂ (forall₂_mapM h) hy

lemma foldlM_eq_ok {xs : List α} {f : β → α → Except ε β} {g : β → α → β}
    (h : ∀ x ∈ xs, ∀ b, f b x = .ok (g b x)) (b : β) : xs.foldlM f b = .ok (xs.foldl g b) := by
  induction xs generalizing b with
  | nil => rfl
  | cons x xs ih =>
    rw [List.forall_mem_cons] at h
    rw [List.foldlM_cons, h.1, List.foldl_cons]
    exact ih h.2 (g b x)

/-- A loop that comes to its end has taken each of its steps. -/
lemma exists_of_foldlM {xs : List α} {f : β → α → Except ε β} {b c : β}
    (h : xs.foldlM f b = .ok c) : ∀ x ∈ xs, ∃ b c, f b x = .ok c := by
  induction xs generalizing b with
  | nil => nofun
  | cons x xs ih =>
    rw [List.foldlM_cons] at h
    obtain ⟨d, hd, h⟩ := bind_eq_ok.1 h
    exact List.forall_mem_cons.2 ⟨⟨b, d, hd⟩, ih h⟩

lemma sublist_filterM {p : α → Except ε Bool} {xs ys : List α} (h : xs.filterM p = .ok ys) :
    ys.Sublist xs := by
  have haux (xs acc rs : List α) (h : xs.filterAuxM p acc = .ok rs) :
      ∃ zs : List α, rs = zs.reverse ++ acc ∧ zs.Sublist xs := by
    induction xs generalizing acc with
    | nil =>
      cases h
      exact ⟨[], rfl, .slnil⟩
    | cons x xs ih =>
      obtain ⟨b, -, h⟩ := bind_eq_ok.1 h
      obtain ⟨zs, rfl, hzs⟩ := ih _ h
      cases b with
      | false => exact ⟨zs, rfl, hzs.cons x⟩
      | true => exact ⟨x :: zs, by simp, hzs.cons_cons x⟩
  obtain ⟨rs, hrs, h⟩ := bind_eq_ok.1 h
  obtain ⟨zs, rfl, hzs⟩ := haux xs [] rs hrs
  cases h
  simpa using hzs

lemma filterM_eq_ok {p : α → Except ε Bool} {q : α → Bool} {xs : List α}
    (h : ∀ x ∈ xs, p x = .ok (q x)) : xs.filterM p = .ok (xs.filter q) := by
  have haux (acc : List α) : xs.filterAuxM p acc = .ok ((xs.filter q).reverse ++ acc) := by
    induction xs generalizing acc with
    | nil => rfl
    | cons x xs ih =>
      rw [List.forall_mem_cons] at h
      rw [List.filterAuxM, h.1]
      refine (ih h.2 _).trans ?_
      cases hq : q x <;> simp [hq]
  rw [List.filterM, haux]
  change Except.ok _ = _
  simp

lemma exists_of_filterM {p : α → Except ε Bool} {xs ys : List α} (h : xs.filterM p = .ok ys) :
    ∀ x ∈ xs, ∃ b, p x = .ok b := by
  have haux (xs acc rs : List α) (h : xs.filterAuxM p acc = .ok rs) :
      ∀ x ∈ xs, ∃ b, p x = .ok b := by
    induction xs generalizing acc with
    | nil => nofun
    | cons x xs ih =>
      obtain ⟨b, hb, h⟩ := bind_eq_ok.1 h
      exact List.forall_mem_cons.2 ⟨⟨b, hb⟩, ih _ h⟩
  obtain ⟨rs, hrs, -⟩ := bind_eq_ok.1 h
  exact haux xs [] rs hrs

/-! ### Lists of computations that are the same -/

section

variable {m : Type → Type} [Monad m] {γ δ : Type}

lemma mapM_congr [LawfulMonad m] {xs : List γ} {f g : γ → m δ} (h : ∀ x ∈ xs, f x = g x) :
    xs.mapM f = xs.mapM g := by
  induction xs with
  | nil => rfl
  | cons x xs ih =>
    rw [List.mapM_cons, List.mapM_cons, h x (by simp), ih fun y hy => h y (by simp [hy])]

lemma forM_congr {xs : List γ} {f g : γ → m PUnit} (h : ∀ x ∈ xs, f x = g x) :
    xs.forM f = xs.forM g := by
  induction xs with
  | nil => rfl
  | cons x xs ih => rw [List.forM, List.forM, h x (by simp), ih fun y hy => h y (by simp [hy])]

lemma forM_map_congr {xs : List δ} {f g : δ → γ} {F : γ → m PUnit}
    (h : ∀ x ∈ xs, F (f x) = F (g x)) : (xs.map f).forM F = (xs.map g).forM F := by
  induction xs with
  | nil => rfl
  | cons x xs ih =>
    rw [List.map_cons, List.map_cons, List.forM, List.forM, h x (by simp),
      ih fun y hy => h y (by simp [hy])]

lemma foldlM_congr {xs : List γ} {f g : δ → γ → m δ} (h : ∀ x ∈ xs, ∀ b, f b x = g b x) (b : δ) :
    xs.foldlM f b = xs.foldlM g b := by
  induction xs generalizing b with
  | nil => rfl
  | cons x xs ih =>
    rw [List.forall_mem_cons] at h
    rw [List.foldlM_cons, List.foldlM_cons, h.1 b]
    exact bind_congr fun b => ih h.2 b

lemma anyM_congr {xs : List γ} {f g : γ → m Bool} (h : ∀ x ∈ xs, f x = g x) :
    xs.anyM f = xs.anyM g := by
  induction xs with
  | nil => rfl
  | cons x xs ih =>
    rw [List.anyM, List.anyM, h x (by simp), ih fun y hy => h y (by simp [hy])]

lemma filterM_congr {xs : List γ} {f g : γ → m Bool} (h : ∀ x ∈ xs, f x = g x) :
    xs.filterM f = xs.filterM g := by
  have haux (acc : List γ) : xs.filterAuxM f acc = xs.filterAuxM g acc := by
    induction xs generalizing acc with
    | nil => rfl
    | cons x xs ih =>
      rw [List.forall_mem_cons] at h
      rw [List.filterAuxM, List.filterAuxM, h.1]
      exact bind_congr fun b => ih h.2 _
  rw [List.filterM, List.filterM, haux]

lemma filterMapM_congr [LawfulMonad m] {xs : List γ} {f g : γ → m (Option δ)}
    (h : ∀ x ∈ xs, f x = g x) : xs.filterMapM f = xs.filterMapM g := by
  induction xs with
  | nil => rfl
  | cons x xs ih =>
    rw [List.forall_mem_cons] at h
    rw [List.filterMapM_cons, List.filterMapM_cons, h.1, ih h.2]

end

/-! ### What computations give -/

/-- What a computation gives, if anything, meets a condition. -/
def Gives (Q : α → Prop) (x : Except ε α) : Prop := ∀ a, x = .ok a → Q a

namespace Gives

variable {P Q : α → Prop} {R : β → Prop}

lemma ok {a : α} (h : Q a) : Gives Q (.ok a : Except ε α) := by
  rintro _ ⟨⟩
  exact h

lemma error (e : ε) : Gives Q (.error e : Except ε α) := nofun

lemma imp {x : Except ε α} (hx : Gives P x) (h : ∀ a, P a → Q a) : Gives Q x :=
  fun a ha => h a (hx a ha)

lemma bind {x : Except ε α} {f : α → Except ε β} (hx : Gives Q x)
    (hf : ∀ a, Q a → Gives R (f a)) : Gives R (x >>= f) := by
  intro b hb
  obtain ⟨a, ha, hb⟩ := bind_eq_ok.1 hb
  exact hf a (hx a ha) b hb

/-- A computation of which nothing is known comes first. -/
lemma after {x : Except ε α} {f : α → Except ε β} (hf : ∀ a, Gives R (f a)) :
    Gives R (x >>= f) :=
  .bind (fun _ _ => trivial : Gives (fun _ => True) x) fun a _ => hf a

lemma map {x : Except ε α} {f : α → β} (hx : Gives Q x) (hf : ∀ a, Q a → R (f a)) :
    Gives R (f <$> x) := by
  intro b hb
  cases x with
  | error e => cases hb
  | ok a =>
    obtain rfl := Except.ok.inj hb
    exact hf a (hx a rfl)

lemma mapError {δ : Type} {x : Except ε α} (hx : Gives Q x) (f : ε → δ) :
    Gives Q (x.mapError f) := by
  cases x with
  | error e => exact .error _
  | ok a => exact .ok (hx a rfl)

lemma mapM {xs : List α} {f : α → Except ε β} (h : ∀ x ∈ xs, Gives R (f x)) :
    Gives (fun ys => ∀ y ∈ ys, R y) (xs.mapM f) := by
  intro ys hys y hy
  obtain ⟨x, hx, hy⟩ := mem_mapM hys hy
  exact h x hx y hy

lemma filterMapM {xs : List α} {f : α → Except ε (Option β)}
    (h : ∀ x ∈ xs, Gives (fun o => ∀ y ∈ o, R y) (f x)) :
    Gives (fun ys => ∀ y ∈ ys, R y) (xs.filterMapM f) := by
  induction xs with
  | nil => exact .ok (by simp)
  | cons x xs ih =>
    rw [List.forall_mem_cons] at h
    rw [List.filterMapM_cons]
    refine .bind h.1 fun o ho => ?_
    cases o with
    | none => exact ih h.2
    | some y => exact .bind (ih h.2) fun ys hys => .ok (List.forall_mem_cons.2 ⟨ho y rfl, hys⟩)

lemma foldlM {xs : List β} {f : α → β → Except ε α} (h : ∀ a, Q a → ∀ x ∈ xs, Gives Q (f a x))
    {a : α} (ha : Q a) : Gives Q (xs.foldlM f a) := by
  induction xs generalizing a with
  | nil => exact .ok ha
  | cons x xs ih =>
    rw [List.foldlM_cons]
    exact .bind (h a ha x (by simp)) fun b hb => ih (fun a ha y hy => h a ha y (by simp [hy])) hb

end Gives

lemma forM_eq_ok {xs : List α} {f : α → Except ε Unit} :
    xs.forM f = .ok () ↔ ∀ x ∈ xs, f x = .ok () := by
  induction xs with
  | nil => exact ⟨fun _ => by simp, fun _ => rfl⟩
  | cons x xs ih =>
    rw [List.forM, bind_eq_ok, List.forall_mem_cons, ← ih]
    exact ⟨fun h => h.elim fun _ h => h, fun h => ⟨(), h⟩⟩

end PropertyGraph
