import PropertyGraph.Cypher.Grammar.Statement
import PropertyGraph.Proofs.Meaning.Frame
import PropertyGraph.Proofs.Store.Run
import PropertyGraph.Schema

/-!
What edits are made of: steps that read, operations of the store, and counts.

Two things pass from these to every edit. What it does to its graph, however it ends, is done by
operations; and if its reading steps do not see a frame, neither does the edit. So only the places
where something is read or an operation is called have to be looked at, once for both.
-/

namespace PropertyGraph

/-- The query that a text holds, if it is all. -/
def Cypher.soleQuery? (text : String) : Option (Query Expr) :=
  match parse text with
  | .ok [.query q] => some q
  | _ => none

lemma Cypher.parse_of_soleQuery? {text : String} {q : Query Expr} (h : soleQuery? text = some q) :
    parse text = .ok [.query q] := by
  rw [soleQuery?] at h
  split at h
  · next hq => rw [hq, Option.some.inj h]
  · cases h

lemma run_bind {σ α β : Type} (x : ExceptT Error (StateM σ) α)
    (f : α → ExceptT Error (StateM σ) β) (s : σ) :
    ExceptT.run (x >>= f) s = match ExceptT.run x s with
      | (.ok a, t) => ExceptT.run (f a) t
      | (.error e, t) => (.error e, t) := by
  have h : ExceptT.run (x >>= f) s =
      (fun p : Except Error α × σ => (ExceptT.bindCont f p.1 : StateM σ _) p.2)
        (ExceptT.run x s) := rfl
  rw [h]
  rcases ExceptT.run x s with ⟨_ | _, _⟩ <;> rfl

lemma run_bind_ok {σ α β : Type} {x : ExceptT Error (StateM σ) α} {s t : σ} {a : α}
    (h : ExceptT.run x s = (.ok a, t)) (f : α → ExceptT Error (StateM σ) β) :
    ExceptT.run (x >>= f) s = ExceptT.run (f a) t := by
  rw [run_bind, h]

lemma run_bind_eq_ok {σ α β : Type} {x : ExceptT Error (StateM σ) α}
    {f : α → ExceptT Error (StateM σ) β} {s u : σ} {b : β} :
    ExceptT.run (x >>= f) s = (.ok b, u) ↔
      ∃ a t, ExceptT.run x s = (.ok a, t) ∧ ExceptT.run (f a) t = (.ok b, u) := by
  rw [run_bind]
  rcases ExceptT.run x s with ⟨e | a, t⟩
  · exact ⟨nofun, nofun⟩
  · refine ⟨fun h => ⟨a, t, rfl, h⟩, ?_⟩
    rintro ⟨_, _, ⟨⟩, h⟩
    exact h

def Draft.within (fr : Frame) (d : Draft) : Draft := { d with store := d.store.above fr.older }

namespace Edit

/-- What is made of reading steps that do not see a frame, of operations, and of counts. An edit
is given by what it is run with. -/
inductive Made (fr : Frame) : {α : Type} → (Context → Edit α) → Prop
  | pure {α : Type} (a : α) : Made fr fun _ => (Pure.pure a : Edit α)
  | throw {α : Type} (x : Error) : Made fr fun _ => (MonadExcept.throw x : Edit α)
  | bind {α β : Type} {e : Context → Edit α} {f : Context → α → Edit β} (he : Made fr e)
      (hf : ∀ a, Made fr fun c => f c a) : Made fr fun c => e c >>= f c
  | reading {α : Type} {f : Env → Except Error α} (hf : ∀ env, f (env.within fr) = f env) :
      Made fr fun c => Edit.reading c f
  | store {α : Type} {op : Store.Operation α} (hl : ∀ s : Store, s.Leads (op s).2)
      (hf : Store.Framed op) : Made fr fun _ => Edit.store op
  | count (t : Tally) : Made fr fun _ => Edit.count t
  -- the counters may be looked at, but not the graph
  | tally {α : Type} {f : Context → Tally → Edit α} (hf : ∀ t, Made fr fun c => f c t) :
      Made fr fun c => (MonadState.get : Edit Draft) >>= fun d => f c d.tally

variable {α β : Type} {fr : Frame}

lemma run_store (op : Store.Operation α) (d : Draft) :
    ExceptT.run (Edit.store op) d =
      ((op d.store).1.mapError .store, { d with store := (op d.store).2 }) := by
  rw [Edit.store, run_bind]
  change ExceptT.run (_ : Edit α) d = _
  rcases op d.store with ⟨_ | _, s⟩ <;> rfl

lemma run_store_eq_ok {op : Store.Operation α} {d d' : Draft} {a : α}
    (h : ExceptT.run (Edit.store op) d = (.ok a, d')) :
    op d.store = (.ok a, d'.store) ∧ d'.tally = d.tally := by
  rw [run_store] at h
  obtain ⟨ha, rfl⟩ := Prod.mk.inj h
  refine ⟨Prod.ext ?_ rfl, rfl⟩
  cases hop : (op d.store).1 with
  | error e => simp [hop, Except.mapError] at ha
  | ok b => simpa [hop, Except.mapError] using ha

lemma run_reading (c : Context) (f : Env → Except Error α) (d : Draft) :
    ExceptT.run (Edit.reading c f) d = (f (c.on d.store), d) := by
  rw [Edit.reading, run_bind]
  change ExceptT.run (reading.liftExcept (f (c.on d.store))) d = _
  cases f (c.on d.store) <;> rfl

/-! ### Graphs -/

def Moves (e : Edit α) : Prop := ∀ d : Draft, d.store.Leads (ExceptT.run e d).2.store

lemma Moves.bind {e : Edit α} (he : e.Moves) {f : α → Edit β} (hf : ∀ a, (f a).Moves) :
    (e >>= f).Moves := by
  intro d
  have hd := he d
  rw [run_bind]
  rcases h : ExceptT.run e d with ⟨x | a, u⟩
  · rwa [h] at hd
  · rw [h] at hd
    exact hd.trans (hf a u)

/-- **An edit moves its graph by operations**, however it ends. -/
theorem Made.moves {e : Context → Edit α} (h : Made fr e) (c : Context) : (e c).Moves := by
  induction h with
  | pure a => exact fun d => .refl _
  | throw x => exact fun d => .refl _
  | bind _ _ he hf => exact he.bind hf
  | reading hf =>
    intro d
    rw [run_reading]
    exact .refl _
  | store hl hf =>
    intro d
    rw [run_store]
    exact hl d.store
  | count t => exact fun d => .refl _
  | tally _ ih => exact Moves.bind (fun d => .refl _) fun d => ih d.tally

/-! ### Frames -/

/-- **An edit does the same in a frame.** -/
theorem Made.framed {e : Context → Edit α} (h : Made fr e) (c : Context) (d : Draft) :
    ExceptT.run (e (c.within fr)) (d.within fr) =
      ((ExceptT.run (e c) d).1, (ExceptT.run (e c) d).2.within fr) := by
  induction h generalizing d with
  | pure a => rfl
  | throw x => rfl
  | @bind _ _ e f _ _ he hf =>
    rw [run_bind, run_bind, he]
    rcases ExceptT.run (e c) d with ⟨x | a, u⟩
    · rfl
    · exact hf a u
  | @reading _ f hf =>
    rw [run_reading, run_reading]
    exact congrArg (·, d.within fr) (hf (c.on d.store))
  | @store _ op _ hf =>
    rw [run_store, run_store, Draft.within, hf]
    rfl
  | count t => rfl
  | tally _ ih =>
    rw [run_bind, run_bind]
    exact ih d.tally d

/-! ### Building edits -/

namespace Made

/-- What would come after a refusal does not matter. -/
lemma throw_bind (x : Error) (f : Context → α → Edit β) :
    Made fr fun c => (MonadExcept.throw x : Edit α) >>= f c := Made.throw (α := β) x

lemma map {e : Context → Edit α} (he : Made fr e) (f : α → β) : Made fr fun c => f <$> e c :=
  .bind he fun a => .pure (f a)

lemma call {op : Store.Operation α} {c : Store.Call} (hc : c.isChange)
    (h : ∀ s : Store, (op s).2 = c.run s) (hf : Store.Framed op) :
    Made fr fun _ => Edit.store op :=
  store (fun s => h s ▸ Store.leads_call hc s) hf

lemma forM {xs : List β} {f : Context → β → Edit PUnit} (h : ∀ x ∈ xs, Made fr fun c => f c x) :
    Made fr fun c => xs.forM (f c) := by
  induction xs with
  | nil => exact .pure _
  | cons x xs ih => exact .bind (h x (by simp)) fun _ => ih fun y hy => h y (by simp [hy])

lemma foldlM {xs : List β} {f : Context → α → β → Edit α}
    (h : ∀ a, ∀ x ∈ xs, Made fr fun c => f c a x) (a : α) : Made fr fun c => xs.foldlM (f c) a := by
  induction xs generalizing a with
  | nil => exact .pure _
  | cons x xs ih => exact .bind (h a x (by simp)) (ih fun a y hy => h a y (by simp [hy]))

lemma mapM {xs : List β} {f : Context → β → Edit α} (h : ∀ x, Made fr fun c => f c x) :
    Made fr fun c => xs.mapM (f c) := by
  induction xs with
  | nil => exact .pure _
  | cons x xs ih =>
    simp only [List.mapM_cons]
    exact .bind (h x) fun a => .bind ih fun as => .pure (a :: as)

end Made

end Edit

end PropertyGraph
