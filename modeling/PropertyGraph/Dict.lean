/-!
# Finite maps

A map is the list of its entries with ascending keys. Look-up laws hold for any list of
entries; that two maps with the same look-ups are the same list needs the order.
-/

namespace PropertyGraph

/-- A finite map, written as its entries in ascending order of keys. -/
abbrev Dict (κ α : Type) := List (κ × α)

namespace Dict

variable {κ α β : Type} [DecidableEq κ]

/-- The value stored under a key. -/
def get? : Dict κ α → κ → Option α
  | [], _ => none
  | (j, v) :: d, k => if j = k then some v else get? d k

/-- The value stored under a key, or a default. -/
def getD (d : Dict κ α) (k : κ) (v : α) : α := (get? d k).getD v

def contains (d : Dict κ α) (k : κ) : Bool := (get? d k).isSome

def keys (d : Dict κ α) : List κ := d.map Prod.fst

def values (d : Dict κ α) : List α := d.map Prod.snd

/-- Removes a key; nothing happens to a map without it. -/
def erase (d : Dict κ α) (k : κ) : Dict κ α := d.filter (fun e => decide (e.1 ≠ k))

/-- Applies `f` to the value stored under a key, if there is one. -/
def modify (d : Dict κ α) (k : κ) (f : α → α) : Dict κ α :=
  d.map fun e => if e.1 = k then (e.1, f e.2) else e

section Insert

variable [LT κ] [DecidableLT κ]

/-- Stores a value under a key, in place of any value there. -/
def insert : Dict κ α → κ → α → Dict κ α
  | [], k, v => [(k, v)]
  | (j, w) :: d, k, v =>
    if k < j then (k, v) :: (j, w) :: d
    else if j = k then (k, v) :: d
    else (j, w) :: insert d k v

/-- Stores every entry of `e` into `d`, later entries last. -/
def merge (d e : Dict κ α) : Dict κ α := e.foldl (fun d p => insert d p.1 p.2) d

/-- The map of a list of entries; of two entries with one key the later counts. -/
def ofList (es : List (κ × α)) : Dict κ α := merge [] es

/-- The list stored under a key, empty if there is none. -/
def getList (d : Dict κ (List α)) (k : κ) : List α := getD d k []

/-- Stores a list under a key; an empty list is not kept. -/
def setList (d : Dict κ (List α)) (k : κ) (xs : List α) : Dict κ (List α) :=
  if xs.isEmpty then erase d k else insert d k xs

end Insert

/-! ### Look-ups -/

@[simp] theorem get?_nil (k : κ) : get? ([] : Dict κ α) k = none := rfl

theorem get?_cons (j k : κ) (v : α) (d : Dict κ α) :
    get? ((j, v) :: d) k = if j = k then some v else get? d k := rfl

theorem get?_erase (d : Dict κ α) (j k : κ) :
    get? (erase d j) k = if j = k then none else get? d k := by
  induction d with
  | nil => simp [erase]
  | cons e d ih =>
    obtain ⟨i, v⟩ := e
    simp only [erase] at ih
    by_cases hi : i = j <;> by_cases hj : j = k <;>
      simp_all [erase, get?_cons]

theorem get?_modify (d : Dict κ α) (j k : κ) (f : α → α) :
    get? (modify d j f) k = if j = k then (get? d k).map f else get? d k := by
  induction d with
  | nil => simp [modify]
  | cons e d ih =>
    obtain ⟨i, v⟩ := e
    simp only [modify] at ih
    by_cases hi : i = j <;> by_cases hj : j = k <;> by_cases hk : i = k <;>
      simp_all [modify, get?_cons]

theorem get?_insert [LT κ] [DecidableLT κ] (d : Dict κ α) (j k : κ) (v : α) :
    get? (insert d j v) k = if j = k then some v else get? d k := by
  induction d with
  | nil => simp [insert, get?_cons]
  | cons e d ih =>
    obtain ⟨i, w⟩ := e
    by_cases h₁ : j < i
    · simp [insert, h₁, get?_cons]
    · by_cases h₂ : i = j
      · subst h₂; rw [insert, if_neg h₁, if_pos rfl, get?_cons, get?_cons]; split <;> rfl
      · by_cases hj : j = k <;> by_cases hi : i = k <;> simp_all [insert, get?_cons]

theorem getList_setList [LT κ] [DecidableLT κ] (d : Dict κ (List α)) (j k : κ) (xs : List α) :
    getList (setList d j xs) k = if j = k then xs else getList d k := by
  unfold setList getList getD
  split
  · rename_i h
    rw [get?_erase]
    split <;> simp_all
  · rw [get?_insert]
    split <;> rfl

end Dict

end PropertyGraph
