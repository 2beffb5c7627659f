import PropertyGraph.Proofs.Except

/-!
The faults that computations end with.

A condition on faults passes from the parts of a computation to the whole of it, whether it only
reads or also changes a state.
-/

namespace PropertyGraph

variable {ε α β : Type}

/-- The fault that a computation ends with, if it fails, meets a condition. -/
def Raises (P : ε → Prop) (x : Except ε α) : Prop := ∀ e, x = .error e → P e

namespace Raises

variable {P Q : ε → Prop} {xs : List α}

lemma ok (a : α) : Raises P (.ok a) := nofun

lemma error {e : ε} (h : P e) : Raises P (.error e : Except ε α) := by
  rintro _ ⟨⟩
  exact h

lemma imp {x : Except ε α} (hx : Raises P x) (h : ∀ e, P e → Q e) : Raises Q x :=
  fun e he => h e (hx e he)

/-- What comes after may rely on what the first part gives. -/
lemma bindOf {R : α → Prop} {x : Except ε α} {f : α → Except ε β} (hx : Raises P x)
    (hg : Gives R x) (hf : ∀ a, R a → Raises P (f a)) : Raises P (x >>= f) := by
  intro e he
  cases x with
  | error e' => exact hx e (congrArg _ (Except.error.inj he))
  | ok a => exact hf a (hg a rfl) e he

lemma bind {x : Except ε α} {f : α → Except ε β} (hx : Raises P x)
    (hf : ∀ a, Raises P (f a)) : Raises P (x >>= f) :=
  hx.bindOf (fun _ _ => trivial : Gives (fun _ => True) x) fun a _ => hf a

/-- What is only made of the outcome cannot fail. -/
lemma andThen {x : Except ε α} (hx : Raises P x) (f : α → β) :
    Raises P (x >>= fun a => pure (f a)) :=
  hx.bind fun _ => .ok _

lemma map {x : Except ε α} (hx : Raises P x) (f : α → β) : Raises P (f <$> x) := by
  cases x with
  | error e => exact .error (hx e rfl)
  | ok a => exact .ok _

lemma mapError {δ : Type} {f : δ → ε} (h : ∀ e, P (f e)) (x : Except δ α) :
    Raises P (x.mapError f) := by
  cases x with
  | error e => exact .error (h e)
  | ok a => exact .ok _

lemma mapM {f : α → Except ε β} (h : ∀ x ∈ xs, Raises P (f x)) : Raises P (xs.mapM f) := by
  induction xs with
  | nil => exact .ok _
  | cons x xs ih =>
    rw [List.forall_mem_cons] at h
    rw [List.mapM_cons]
    exact h.1.bind fun y => (ih h.2).andThen _

lemma filterMapM {f : α → Except ε (Option β)} (h : ∀ x, Raises P (f x)) :
    Raises P (xs.filterMapM f) := by
  induction xs with
  | nil => exact .ok _
  | cons x xs ih =>
    rw [List.filterMapM_cons]
    refine (h x).bind fun o => ?_
    cases o with
    | none => exact ih
    | some y => exact ih.andThen _

lemma filterM {f : α → Except ε Bool} (h : ∀ x, Raises P (f x)) : Raises P (xs.filterM f) := by
  have haux (acc : List α) : Raises P (xs.filterAuxM f acc) := by
    induction xs generalizing acc with
    | nil => exact .ok _
    | cons x xs ih => exact (h x).bind fun b => ih _
  exact (haux []).andThen _

lemma foldlM {f : β → α → Except ε β} (h : ∀ b, ∀ x ∈ xs, Raises P (f b x)) (b : β) :
    Raises P (xs.foldlM f b) := by
  induction xs generalizing b with
  | nil => exact .ok _
  | cons x xs ih =>
    rw [List.foldlM_cons]
    exact (h b x List.mem_cons_self).bind fun c => ih (fun d y hy => h d y (by simp [hy])) c

lemma anyM {f : α → Except ε Bool} (h : ∀ x, Raises P (f x)) : Raises P (xs.anyM f) := by
  induction xs with
  | nil => exact .ok _
  | cons x xs ih =>
    refine (h x).bind fun b => ?_
    cases b with
    | true => exact .ok _
    | false => exact ih

end Raises

end PropertyGraph
