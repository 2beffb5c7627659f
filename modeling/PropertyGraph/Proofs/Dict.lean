import Mathlib.Data.List.Sort
import Mathlib.Data.String.Basic
import Mathlib.Order.RelClasses
import Mathlib.Tactic.Common
import PropertyGraph.Store

/-!
Maps whose keys ascend, and maps that list ids under their keys.

The look-ups of an ascending map determine it. A map of lists that holds, in ascending order,
exactly the ids in a relation to each key is determined by the relation; so a structure that is
kept beside the entities can be compared by what it lists.
-/

namespace PropertyGraph

lemma eq_of_mem_iff {α : Type} {r : α → α → Prop} [Std.Irrefl r] [Std.Antisymm r] {xs ys : List α}
    (hx : xs.Pairwise r) (hy : ys.Pairwise r) (h : ∀ x, x ∈ xs ↔ x ∈ ys) : xs = ys := by
  have nodup {zs : List α} (hz : zs.Pairwise r) : zs.Nodup := hz.imp fun hab => ne_of_irrefl hab
  exact List.Perm.eq_of_pairwise' hx hy ((List.perm_ext_iff_of_nodup (nodup hx) (nodup hy)).2 h)

lemma mem_insertAscending {i j : Nat} {xs : List Nat} :
    j ∈ insertAscending i xs ↔ j = i ∨ j ∈ xs := by
  induction xs with
  | nil => simp [insertAscending]
  | cons x xs ih =>
    rw [insertAscending]
    split_ifs with h₁ h₂
    · simp
    · subst h₂; simp
    · simp only [List.mem_cons, ih]; tauto

lemma pairwise_insertAscending {i : Nat} {xs : List Nat} (h : xs.Pairwise (· < ·)) :
    (insertAscending i xs).Pairwise (· < ·) := by
  induction xs with
  | nil => simp [insertAscending]
  | cons x xs ih =>
    rw [insertAscending]
    have hx := List.pairwise_cons.1 h
    split_ifs with h₁ h₂
    · refine List.pairwise_cons.2 ⟨fun y hy => ?_, h⟩
      rcases List.mem_cons.1 hy with rfl | hy
      · exact h₁
      · exact h₁.trans (hx.1 y hy)
    · exact h
    · refine List.pairwise_cons.2 ⟨fun y hy => ?_, ih hx.2⟩
      rcases mem_insertAscending.1 hy with rfl | hy
      · omega
      · exact hx.1 y hy

namespace Dict

variable {κ α : Type} [DecidableEq κ]

/-- The keys of a map ascend. -/
def Ascending [LT κ] (d : Dict κ α) : Prop := d.Pairwise fun e f => e.1 < f.1

lemma mem_of_get? {d : Dict κ α} {k : κ} {v : α} (h : get? d k = some v) : (k, v) ∈ d := by
  induction d with
  | nil => simp at h
  | cons e d ih =>
    obtain ⟨j, w⟩ := e
    rw [get?_cons] at h
    split_ifs at h with hj
    · obtain rfl := Option.some.inj h
      simp [hj]
    · exact List.mem_cons_of_mem _ (ih h)

lemma mem_keys_iff {d : Dict κ α} {k : κ} : k ∈ keys d ↔ (get? d k).isSome := by
  induction d with
  | nil => simp [keys]
  | cons e d ih =>
    obtain ⟨j, v⟩ := e
    rw [get?_cons, keys, List.map_cons, List.mem_cons]
    split_ifs with h
    · simp [h]
    · exact (or_iff_right (Ne.symm h)).trans ih

lemma get?_filter_keys (d : Dict κ α) (f : κ → Bool) (k : κ) :
    get? (d.filter fun e => f e.1) k = if f k then get? d k else none := by
  induction d with
  | nil => simp
  | cons e d ih =>
    obtain ⟨j, v⟩ := e
    by_cases hj : j = k <;> by_cases hf : f j <;> simp_all [get?_cons]

lemma modify_id (d : Dict κ α) (k : κ) : modify d k id = d := by simp [modify]

lemma modify_modify (d : Dict κ α) (k : κ) (f g : α → α) :
    modify (modify d k f) k g = modify d k fun v => g (f v) := by
  rw [modify, modify, modify, List.map_map]
  refine List.map_congr_left fun e _ => ?_
  by_cases h : e.1 = k <;> simp [h]

/-- All values of a map meet a condition. -/
def Every (P : α → Prop) (d : Dict κ α) : Prop := ∀ e ∈ d, P e.2

namespace Every

variable {P Q : α → Prop} {d : Dict κ α}

lemma get? (hd : Every P d) {k : κ} {v : α} (h : Dict.get? d k = some v) : P v :=
  hd (k, v) (mem_of_get? h)

lemma getD (hd : Every P d) (k : κ) {v : α} (hv : P v) : P (Dict.getD d k v) := by
  rw [Dict.getD]
  cases h : Dict.get? d k with
  | none => exact hv
  | some w => exact hd.get? h

lemma erase (hd : Every P d) (k : κ) : Every P (Dict.erase d k) :=
  fun e he => hd e (List.mem_of_mem_filter he)

omit [DecidableEq κ]

lemma nil : Every P ([] : Dict κ α) := nofun

lemma imp (hd : Every P d) (h : ∀ v, P v → Q v) : Every Q d := fun e he => h e.2 (hd e he)

lemma filter (hd : Every P d) (f : κ × α → Bool) : Every P (List.filter f d) :=
  fun e he => hd e (List.mem_of_mem_filter he)

end Every

lemma get?_eq_getList {d : Dict κ (List α)} (hd : ∀ k, get? d k ≠ some []) (k : κ) :
    get? d k = if getList d k = [] then none else some (getList d k) := by
  rw [getList, getD]
  rcases h : get? d k with _ | xs
  · simp
  · have : xs ≠ [] := fun hx => hd k (hx ▸ h)
    simp [this]

lemma getList_erase (d : Dict κ (List α)) (j k : κ) :
    getList (erase d j) k = if j = k then [] else getList d k := by
  rw [getList, getD, get?_erase]
  split_ifs
  · rfl
  · rfl

variable [LT κ]

lemma get?_of_mem [Std.Irrefl (α := κ) (· < ·)] {d : Dict κ α} (hd : Ascending d) {k : κ} {v : α}
    (h : (k, v) ∈ d) : get? d k = some v := by
  induction d with
  | nil => simp at h
  | cons e d ih =>
    obtain ⟨j, w⟩ := e
    obtain ⟨hj, hd⟩ := List.pairwise_cons.1 hd
    rw [get?_cons]
    rcases List.mem_cons.1 h with h | h
    · obtain ⟨rfl, rfl⟩ := Prod.mk.inj h
      rw [if_pos rfl]
    · have hne : j ≠ k := fun hjk =>
        Std.Irrefl.irrefl (r := (· < ·)) k (by simpa [hjk] using hj _ h)
      rw [if_neg hne, ih hd h]

lemma get?_eq_some_iff [Std.Irrefl (α := κ) (· < ·)] {d : Dict κ α} (hd : Ascending d) {k : κ}
    {v : α} : get? d k = some v ↔ (k, v) ∈ d :=
  ⟨mem_of_get?, get?_of_mem hd⟩

lemma get?_filter_values [Std.Irrefl (α := κ) (· < ·)] {d : Dict κ α} (hd : Ascending d)
    (f : α → Bool) (k : κ) : get? (d.filter fun e => f e.2) k = (get? d k).filter f := by
  ext v
  rw [get?_eq_some_iff (hd.filter _), List.mem_filter, ← get?_eq_some_iff hd,
    Option.filter_eq_some_iff]

lemma modify_congr [Std.Irrefl (α := κ) (· < ·)] {d : Dict κ α} (hd : Ascending d) {k : κ} {v : α}
    {f g : α → α} (hk : get? d k = some v) (hf : f v = g v) : modify d k f = modify d k g := by
  refine List.map_congr_left fun e he => ?_
  split_ifs with h
  · obtain rfl : e.2 = v := Option.some.inj ((get?_of_mem hd (h ▸ he)).symm.trans hk)
    rw [hf]
  · rfl

/-- **The look-ups of an ascending map determine it.** -/
theorem ext_get? [IsStrictOrder κ (· < ·)] {d e : Dict κ α} (hd : Ascending d) (he : Ascending e)
    (h : ∀ k, get? d k = get? e k) : d = e := by
  have : Std.Irrefl fun a b : κ × α => a.1 < b.1 := ⟨fun a => Std.Irrefl.irrefl (r := (· < ·)) a.1⟩
  have : Std.Antisymm fun a b : κ × α => a.1 < b.1 :=
    ⟨fun a b hab hba => absurd (Trans.trans hab hba) (Std.Irrefl.irrefl (r := (· < ·)) a.1)⟩
  refine eq_of_mem_iff hd he fun ⟨k, v⟩ => ?_
  rw [← get?_eq_some_iff hd, ← get?_eq_some_iff he, h]

omit [DecidableEq κ] in
lemma ascending_nil : Ascending ([] : Dict κ α) := List.Pairwise.nil

omit [DecidableEq κ] in
lemma Ascending.nodup_keys [Std.Irrefl (α := κ) (· < ·)] {d : Dict κ α} (hd : Ascending d) :
    (keys d).Nodup :=
  List.Pairwise.map _ (fun _ _ h => ne_of_irrefl (r := (· < ·)) h) hd

lemma Ascending.erase {d : Dict κ α} (hd : Ascending d) (k : κ) : Ascending (erase d k) :=
  hd.filter _

lemma Ascending.modify {d : Dict κ α} (hd : Ascending d) (k : κ) (f : α → α) :
    Ascending (modify d k f) := by
  have hfst (e : κ × α) : (if e.1 = k then (e.1, f e.2) else e).1 = e.1 := by split <;> rfl
  refine List.pairwise_map.2 (hd.imp fun {a b} hab => ?_)
  rw [hfst, hfst]
  exact hab

variable [DecidableLT κ]

lemma mem_insert {d : Dict κ α} {k : κ} {v : α} {e : κ × α} (h : e ∈ insert d k v) :
    e = (k, v) ∨ e ∈ d := by
  induction d with
  | nil => simpa [insert] using h
  | cons f d ih =>
    obtain ⟨j, w⟩ := f
    rw [insert] at h
    split_ifs at h with h₁ h₂
    · simpa using h
    · rcases List.mem_cons.1 h with h | h
      · exact Or.inl h
      · exact Or.inr (List.mem_cons_of_mem _ h)
    · rcases List.mem_cons.1 h with h | h
      · exact Or.inr (by simp [h])
      · exact (ih h).imp_right (List.mem_cons_of_mem _)

lemma Ascending.insert [IsStrictTotalOrder κ (· < ·)] {d : Dict κ α} (hd : Ascending d) (k : κ)
    (v : α) : Ascending (insert d k v) := by
  induction d with
  | nil => simp [Ascending, Dict.insert]
  | cons f d ih =>
    obtain ⟨j, w⟩ := f
    obtain ⟨hj, hd'⟩ := List.pairwise_cons.1 hd
    rw [Dict.insert]
    split_ifs with h₁ h₂
    · refine List.pairwise_cons.2 ⟨fun e he => ?_, hd⟩
      rcases List.mem_cons.1 he with rfl | he
      · exact h₁
      · exact Trans.trans h₁ (hj e he)
    · subst h₂
      exact List.pairwise_cons.2 ⟨hj, hd'⟩
    · refine List.pairwise_cons.2 ⟨fun e he => ?_, ih hd'⟩
      rcases mem_insert he with rfl | he
      · exact ((trichotomous_of (· < ·) j k).resolve_right (by simp [h₁, h₂]))
      · exact hj e he

lemma Ascending.setList [IsStrictTotalOrder κ (· < ·)] {d : Dict κ (List α)} (hd : Ascending d)
    (k : κ) (xs : List α) : Ascending (setList d k xs) := by
  rw [Dict.setList]
  split_ifs
  · exact hd.erase k
  · exact hd.insert k xs

lemma merge_cons (d : Dict κ α) (f : κ × α) (es : Dict κ α) :
    merge d (f :: es) = merge (insert d f.1 f.2) es := rfl

lemma mem_merge {d es : Dict κ α} {e : κ × α} (h : e ∈ merge d es) : e ∈ d ∨ e ∈ es := by
  induction es generalizing d with
  | nil => exact Or.inl h
  | cons f es ih =>
    rw [merge_cons] at h
    rcases ih h with h | h
    · rcases mem_insert h with rfl | h
      · exact Or.inr (by simp)
      · exact Or.inl h
    · exact Or.inr (List.mem_cons_of_mem _ h)

lemma Ascending.merge [IsStrictTotalOrder κ (· < ·)] {d : Dict κ α} (hd : Ascending d)
    (es : Dict κ α) : Ascending (merge d es) := by
  induction es generalizing d with
  | nil => exact hd
  | cons f es ih => exact ih (hd.insert f.1 f.2)

lemma ascending_ofList [IsStrictTotalOrder κ (· < ·)] (es : List (κ × α)) :
    Ascending (ofList es) :=
  ascending_nil.merge es

lemma mem_ofList {es : List (κ × α)} {e : κ × α} (h : e ∈ ofList es) : e ∈ es :=
  (mem_merge h).resolve_left (by simp)

lemma get?_merge_of_notMem {d es : Dict κ α} {k : κ} (h : k ∉ es.map Prod.fst) :
    get? (merge d es) k = get? d k := by
  induction es generalizing d with
  | nil => rfl
  | cons e es ih =>
    rw [List.map_cons, List.mem_cons, not_or] at h
    rw [merge_cons, ih h.2, get?_insert, if_neg (Ne.symm h.1)]

lemma get?_merge_of_mem {d es : Dict κ α} {k : κ} {v : α} (hes : (es.map Prod.fst).Nodup)
    (h : (k, v) ∈ es) : get? (merge d es) k = some v := by
  induction es generalizing d with
  | nil => cases h
  | cons e es ih =>
    rw [List.map_cons, List.nodup_cons] at hes
    rw [merge_cons]
    rcases List.mem_cons.1 h with rfl | h
    · rw [get?_merge_of_notMem hes.1, get?_insert, if_pos rfl]
    · exact ih hes.2 h

lemma get?_merge (d : Dict κ α) {es : Dict κ α} (hes : (keys es).Nodup) (k : κ) :
    get? (merge d es) k = (get? es k).or (get? d k) := by
  cases h : get? es k with
  | none =>
    have hk : k ∉ keys es := fun hk => by simp [mem_keys_iff, h] at hk
    exact get?_merge_of_notMem hk
  | some v => exact get?_merge_of_mem hes (mem_of_get? h)

/-- A map has all entries that it is made of if their keys are distinct. -/
lemma mem_ofList_iff {es : List (κ × α)} (hes : (es.map Prod.fst).Nodup) {e : κ × α} :
    e ∈ ofList es ↔ e ∈ es :=
  ⟨mem_ofList, fun h => mem_of_get? (get?_merge_of_mem hes h)⟩

lemma insert_eq_append [IsStrictTotalOrder κ (· < ·)] {d : Dict κ α} {k : κ} (v : α)
    (h : ∀ e ∈ d, e.1 < k) : insert d k v = d ++ [(k, v)] := by
  induction d with
  | nil => rfl
  | cons f d ih =>
    obtain ⟨j, w⟩ := f
    have hj : j < k := h (j, w) (by simp)
    have hk : ¬ k < j := fun hk => irrefl_of (· < ·) k (Trans.trans hk hj)
    have hne : j ≠ k := fun he => irrefl_of (· < ·) k (he ▸ hj)
    rw [insert, if_neg hk, if_neg hne, ih fun e he => h e (by simp [he]), List.cons_append]

lemma merge_eq_append [IsStrictTotalOrder κ (· < ·)] {d es : Dict κ α}
    (h : Ascending (d ++ es)) : merge d es = d ++ es := by
  induction es generalizing d with
  | nil => rw [List.append_nil]; rfl
  | cons f es ih =>
    have hlt (e : κ × α) (he : e ∈ d) : e.1 < f.1 :=
      (List.pairwise_append.1 h).2.2 e he f (by simp)
    rw [List.append_cons] at h
    rw [merge_cons, insert_eq_append f.2 hlt, ih h, ← List.append_cons]

/-- The map of the entries of a map is that map. -/
lemma ofList_eq_self [IsStrictTotalOrder κ (· < ·)] {d : Dict κ α} (hd : Ascending d) :
    ofList d = d :=
  merge_eq_append (d := []) hd

namespace Every

variable {P : α → Prop} {d d' : Dict κ α}

lemma insert (hd : Every P d) (k : κ) {v : α} (hv : P v) : Every P (Dict.insert d k v) := by
  intro e he
  rcases mem_insert he with rfl | he
  · exact hv
  · exact hd e he

lemma merge (hd : Every P d) (hd' : Every P d') : Every P (Dict.merge d d') :=
  fun e he => (mem_merge he).elim (hd e) (hd' e)

lemma ofList (hd : Every P d) : Every P (Dict.ofList d) := fun e he => hd e (mem_ofList he)

end Every

/-! ### Maps of lists -/

/-- A map holds, in ascending order, the ids that stand in a relation to each key, and no key
without ids. -/
structure Lists (d : Dict κ (List Nat)) (R : Nat → κ → Prop) : Prop where
  ascending : Ascending d
  compact : ∀ k, get? d k ≠ some []
  sorted : ∀ k, (getList d k).Pairwise (· < ·)
  mem : ∀ {k i}, i ∈ getList d k ↔ R i k

lemma compact_setList {d : Dict κ (List α)} (hd : ∀ k, get? d k ≠ some []) (k : κ)
    (xs : List α) (j : κ) : get? (setList d k xs) j ≠ some [] := by
  rw [setList]
  split_ifs with hx
  · rw [get?_erase]
    split_ifs
    · simp
    · exact hd j
  · rw [get?_insert]
    split_ifs
    · simpa using hx
    · exact hd j

namespace Lists

variable {d e : Dict κ (List Nat)} {R S : Nat → κ → Prop}

omit [DecidableLT κ] in
lemma congr (hd : Lists d R) (h : ∀ i k, R i k ↔ S i k) : Lists d S :=
  ⟨hd.ascending, hd.compact, hd.sorted, hd.mem.trans (h _ _)⟩

omit [DecidableLT κ] in
lemma nil (h : ∀ i k, ¬ R i k) : Lists [] R :=
  ⟨ascending_nil, by simp, by simp [getList, getD], by simp [getList, getD, h]⟩

omit [DecidableLT κ] in
lemma erase (hd : Lists d R) (j : κ) : Lists (erase d j) fun i k => R i k ∧ j ≠ k where
  ascending := hd.ascending.erase j
  compact k := by
    rw [get?_erase]
    split_ifs
    · simp
    · exact hd.compact k
  sorted k := by
    rw [getList_erase]
    split_ifs
    · exact List.Pairwise.nil
    · exact hd.sorted k
  mem := by
    intro k i
    rw [getList_erase]
    split_ifs with h
    · simp [h]
    · simp [h, hd.mem]

variable [IsStrictTotalOrder κ (· < ·)]

omit [DecidableLT κ] in
/-- **A relation determines the map that lists it.** -/
theorem ext (hd : Lists d R) (he : Lists e R) : d = e := by
  refine ext_get? hd.ascending he.ascending fun k => ?_
  have : getList d k = getList e k :=
    eq_of_mem_iff (hd.sorted k) (he.sorted k) fun i => hd.mem.trans he.mem.symm
  rw [get?_eq_getList hd.compact, get?_eq_getList he.compact, this]

lemma setList (hd : Lists d R) (j : κ) {xs : List Nat} (hx : xs.Pairwise (· < ·)) :
    Lists (setList d j xs) fun i k => if j = k then i ∈ xs else R i k where
  ascending := hd.ascending.setList j xs
  compact := compact_setList hd.compact j xs
  sorted k := by
    rw [getList_setList]
    split_ifs
    · exact hx
    · exact hd.sorted k
  mem := by
    intro k i
    rw [getList_setList]
    split_ifs
    · rfl
    · exact hd.mem

/-- Lists an id under one more key. -/
lemma add (hd : Lists d R) (i : Nat) (j : κ) :
    Lists (Dict.setList d j (insertAscending i (getList d j)))
      fun i' k => R i' k ∨ i' = i ∧ j = k := by
  refine (hd.setList j (pairwise_insertAscending (hd.sorted j))).congr fun i' k => ?_
  split_ifs with hk
  · subst hk
    rw [mem_insertAscending, hd.mem]
    tauto
  · tauto

/-- Takes an id from the list of a key. -/
lemma remove (hd : Lists d R) (i : Nat) (j : κ) :
    Lists (Dict.setList d j ((getList d j).filter (· ≠ i)))
      fun i' k => R i' k ∧ ¬ (i' = i ∧ j = k) := by
  refine (hd.setList j ((hd.sorted j).filter _)).congr fun i' k => ?_
  split_ifs with hk
  · subst hk
    rw [List.mem_filter, hd.mem]
    simp
  · tauto

end Lists

/-- Lists an id under some keys. -/
def addUnder (d : Dict κ (List Nat)) (i : Nat) (ks : List κ) : Dict κ (List Nat) :=
  ks.foldl (fun d k => setList d k (insertAscending i (getList d k))) d

/-- Takes an id from the lists of some keys. -/
def removeUnder (d : Dict κ (List Nat)) (i : Nat) (ks : List κ) : Dict κ (List Nat) :=
  ks.foldl (fun d k => setList d k ((getList d k).filter (· ≠ i))) d

namespace Lists

variable [IsStrictTotalOrder κ (· < ·)] {d : Dict κ (List Nat)} {R : Nat → κ → Prop}

lemma addUnder (hd : Lists d R) (i : Nat) (ks : List κ) :
    Lists (addUnder d i ks) fun j k => R j k ∨ j = i ∧ k ∈ ks := by
  induction ks generalizing d R with
  | nil => exact hd.congr (by simp)
  | cons k ks ih =>
    refine (ih (hd.add i k)).congr fun j k' => ?_
    rw [List.mem_cons]
    tauto

lemma removeUnder (hd : Lists d R) (i : Nat) (ks : List κ) :
    Lists (removeUnder d i ks) fun j k => R j k ∧ ¬ (j = i ∧ k ∈ ks) := by
  induction ks generalizing d R with
  | nil => exact hd.congr (by simp)
  | cons k ks ih =>
    refine (ih (hd.remove i k)).congr fun j k' => ?_
    rw [List.mem_cons]
    tauto

end Lists

end Dict

end PropertyGraph
