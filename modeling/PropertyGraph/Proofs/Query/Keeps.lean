import PropertyGraph.Proofs.Except
import PropertyGraph.Proofs.Query.Made

/-!
What edits keep: a property of graphs that holds again when an edit is over, also when it failed.
An edit may rely on what the steps before it gave, so beside the property there is a condition on
what an edit gives if it succeeds.
-/

namespace PropertyGraph

namespace Edit

variable {α β : Type} {I : Store → Prop} {Q R : α → Prop} {S : β → Prop}

/-- From a graph with a property an edit comes to one with it, and gives, if anything, what meets
a condition. -/
def Keeps (I : Store → Prop) (e : Edit α) (Q : α → Prop) : Prop :=
  ∀ d : Draft, I d.store → I (ExceptT.run e d).2.store ∧ ∀ a, (ExceptT.run e d).1 = .ok a → Q a

namespace Keeps

lemma imp {e : Edit α} (he : Keeps I e Q) (h : ∀ a, Q a → R a) : Keeps I e R :=
  fun d hd => ⟨(he d hd).1, fun a ha => h a ((he d hd).2 a ha)⟩

lemma pure {a : α} (h : Q a) : Keeps I (Pure.pure a) Q := by
  intro d hd
  refine ⟨hd, fun b hb => ?_⟩
  obtain rfl := Except.ok.inj hb
  exact h

lemma throw (x : Error) : Keeps I (MonadExcept.throw x : Edit α) Q := fun _ hd => ⟨hd, nofun⟩

lemma bind {e : Edit α} {f : α → Edit β} (he : Keeps I e Q) (hf : ∀ a, Q a → Keeps I (f a) S) :
    Keeps I (e >>= f) S := by
  intro d hd
  have hd' := he d hd
  rw [run_bind]
  rcases h : ExceptT.run e d with ⟨x | a, u⟩
  · rw [h] at hd'
    exact ⟨hd'.1, nofun⟩
  · rw [h] at hd'
    exact hf a (hd'.2 a rfl) u hd'.1

/-- What would come after a refusal does not matter. -/
lemma throw_bind (x : Error) (f : α → Edit β) : Keeps I (MonadExcept.throw x >>= f) S :=
  .bind (throw x : Keeps I _ fun _ => False) fun _ h => h.elim

/-- What comes after an edit only matters for what the edit can give. -/
lemma bind_congr {e : Edit α} {f g : α → Edit β} (he : Keeps (fun _ => True) e Q)
    (h : ∀ a, Q a → f a = g a) : e >>= f = e >>= g := by
  refine funext fun d => ?_
  change ExceptT.run (e >>= f) d = ExceptT.run (e >>= g) d
  have hgives := (he d trivial).2
  rw [run_bind, run_bind]
  rcases hrun : ExceptT.run e d with ⟨x | a, u⟩
  · rfl
  · rw [hrun] at hgives
    exact congrFun (congrArg ExceptT.run (h a (hgives a rfl))) u

lemma reading {c : Context} {f : Env → Except Error α}
    (h : ∀ s a, I s → f (c.on s) = .ok a → Q a) : Keeps I (Edit.reading c f) Q := by
  intro d hd
  rw [run_reading]
  exact ⟨hd, fun a ha => h d.store a hd ha⟩

lemma store {op : Store.Operation α} (h : ∀ s, I s → I (op s).2) :
    Keeps I (Edit.store op) fun _ => True := by
  intro d hd
  rw [run_store]
  exact ⟨h d.store hd, fun _ _ => trivial⟩

lemma count (t : Tally) : Keeps I (Edit.count t) fun _ => True :=
  fun _ hd => ⟨hd, fun _ _ => trivial⟩

lemma draft : Keeps I (MonadState.get : Edit Draft) fun _ => True :=
  fun _ hd => ⟨hd, fun _ _ => trivial⟩

lemma map {e : Edit α} (he : Keeps I e Q) (f : α → β) : Keeps I (f <$> e) fun _ => True :=
  .bind he fun _ _ => .pure trivial

lemma forM {xs : List β} {f : β → Edit PUnit} (h : ∀ x ∈ xs, Keeps I (f x) fun _ => True) :
    Keeps I (xs.forM f) fun _ => True := by
  induction xs with
  | nil => exact .pure trivial
  | cons x xs ih =>
    rw [List.forall_mem_cons] at h
    exact .bind h.1 fun _ _ => ih h.2

lemma foldlM {xs : List β} {f : α → β → Edit α}
    (h : ∀ a, ∀ x ∈ xs, Keeps I (f a x) fun _ => True) (a : α) :
    Keeps I (xs.foldlM f a) fun _ => True := by
  induction xs generalizing a with
  | nil => exact .pure trivial
  | cons x xs ih =>
    exact .bind (h a x (by simp)) fun a _ => ih (fun a y hy => h a y (by simp [hy])) a

lemma mapM {xs : List β} {f : β → Edit α} (h : ∀ x, Keeps I (f x) fun _ => True) :
    Keeps I (xs.mapM f) fun _ => True := by
  induction xs with
  | nil => exact .pure trivial
  | cons x xs ih =>
    rw [List.mapM_cons]
    exact .bind (h x) fun _ _ => .bind ih fun _ _ => .pure trivial

lemma mapM_forall₂ {P : β → α → Prop} {xs : List β} {f : β → Edit α}
    (h : ∀ x ∈ xs, Keeps I (f x) (P x)) : Keeps I (xs.mapM f) fun ys => List.Forall₂ P xs ys := by
  induction xs with
  | nil => exact .pure .nil
  | cons x xs ih =>
    rw [List.forall_mem_cons] at h
    rw [List.mapM_cons]
    exact .bind h.1 fun _ hy => .bind (ih h.2) fun _ hys => .pure (.cons hy hys)

end Keeps

/-! ### Edits that do the same -/

/-- Two edits do the same, and what they give, if anything, meets a condition. -/
structure Same (e e' : Edit α) (Q : α → Prop) : Prop where
  eq : e = e'
  gives : Keeps (fun _ => True) e' Q

namespace Same

variable {e e' : Edit α} {f f' : α → Edit β}

lemma refl (h : Keeps (fun _ => True) e Q) : Same e e Q := ⟨rfl, h⟩

lemma imp (h : Same e e' Q) (hQ : ∀ a, Q a → R a) : Same e e' R := ⟨h.eq, h.gives.imp hQ⟩

/-- What comes after has to do the same for what can be given only. -/
lemma bind (h : Same e e' Q) (hf : ∀ a, Q a → Same (f a) (f' a) S) :
    Same (e >>= f) (e' >>= f') S where
  eq := by rw [h.eq, h.gives.bind_congr fun a ha => (hf a ha).eq]
  gives := h.gives.bind fun a ha => (hf a ha).gives

lemma reading {c : Context} {f f' : Env → Except Error α} (h : ∀ env, f env = f' env)
    (hf : ∀ env a, f' env = .ok a → Q a) : Same (Edit.reading c f) (Edit.reading c f') Q :=
  ⟨congrArg (Edit.reading c) (funext h), .reading fun _ a _ => hf _ a⟩

lemma mapM {P : β → α → Prop} {xs : List β} {f f' : β → Edit α}
    (h : ∀ x ∈ xs, Same (f x) (f' x) (P x)) :
    Same (xs.mapM f) (xs.mapM f') fun ys => List.Forall₂ P xs ys :=
  ⟨mapM_congr fun x hx => (h x hx).eq, .mapM_forall₂ fun x hx => (h x hx).gives⟩

end Same

end Edit

end PropertyGraph
