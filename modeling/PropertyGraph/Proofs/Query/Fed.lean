import PropertyGraph.Proofs.Query.Names
import PropertyGraph.Proofs.Query.Strict

/-!
Runs in which each subquery has a row to run on.

A subquery runs for each row that is there, and if there is none, nothing is known of what it would
have given. Here that is an error. A run that succeeds nonetheless is the run as it is.
-/

namespace PropertyGraph

open Cypher

namespace Edit

variable {α β : Type}

/-- What an edit gives, another one gives as well, and leaves the same graph. -/
def Refines (e e' : Edit α) : Prop :=
  ∀ d a d', ExceptT.run e d = (.ok a, d') → ExceptT.run e' d = (.ok a, d')

namespace Refines

lemma refl (e : Edit α) : Refines e e := fun _ _ _ h => h

lemma trans {e e' e'' : Edit α} (h : Refines e e') (h' : Refines e' e'') : Refines e e'' :=
  fun d a d' ha => h' d a d' (h d a d' ha)

lemma bind {e e' : Edit α} {f f' : α → Edit β} (he : Refines e e')
    (hf : ∀ a, Refines (f a) (f' a)) : Refines (e >>= f) (e' >>= f') := by
  intro d b d' h
  obtain ⟨a, u, ha, hb⟩ := run_bind_eq_ok.1 h
  exact run_bind_eq_ok.2 ⟨a, u, he d a u ha, hf a u b d' hb⟩

lemma mapM {xs : List β} {f f' : β → Edit α} (h : ∀ x, Refines (f x) (f' x)) :
    Refines (xs.mapM f) (xs.mapM f') := by
  induction xs with
  | nil => exact refl _
  | cons x xs ih =>
    rw [List.mapM_cons, List.mapM_cons]
    exact (h x).bind fun _ => ih.bind fun _ => refl _

end Refines

end Edit

namespace Query

section

variable (c : Context) (bare : Option Error)

/-- Fails if there is no row for a subquery to run on, and that is an error. -/
def feed (t : Table) : Edit PUnit :=
  match bare with
  | none => pure ()
  | some e => if t.rows.isEmpty then throw e else pure ()

mutual

/-- The table after a clause, in a run in which a subquery may fail that has no row to run on. -/
def fedClause (t : Table) : Clause Meaning → Edit Table
  | .subquery ⟨first, unions⟩ => do
    feed bare t
    t.join fun row => do
      let o ← fedClauses ⟨.ofRow row, false⟩ first
      fedBranches (.ofRow row) o unions
  | k => runLeaf c t k

def fedClauses (o : Output) : List (Clause Meaning) → Edit Output
  | [] => return o
  | k :: ks => do fedClauses ⟨← fedClause o.table k, k.makesResult⟩ ks

def fedBranches (seed : Table) (o : Output) : List (Branch (Clause Meaning)) → Edit Output
  | [] => return o
  | ⟨all, ks⟩ :: bs => do
    fedBranches seed (o.union all (← fedClauses ⟨seed, false⟩ ks)) bs

end

end

variable {c : Context} {bare : Option Error}

mutual

/-- If it is no error, the run is the run. -/
lemma fedClause_none (t : Table) (k : Clause Meaning) : fedClause c none t k = runClause c t k := by
  match k with
  | .subquery ⟨first, unions⟩ =>
    simp only [fedClause, runClause, feed, pure_bind, fedClauses_none, fedBranches_none]
  | .matching .. | .unwind .. | .withItems .. | .returnItems .. | .create .. | .merge .. | .set ..
  | .remove .. | .delete .. | .foreach .. | .call .. => rfl

lemma fedClauses_none (o : Output) (ks : List (Clause Meaning)) :
    fedClauses c none o ks = runClauses c o ks := by
  match ks with
  | [] => rfl
  | k :: ks => simp only [fedClauses, runClauses, fedClause_none, fedClauses_none]

lemma fedBranches_none (seed : Table) (o : Output) (bs : List (Branch (Clause Meaning))) :
    fedBranches c none seed o bs = runBranches c seed o bs := by
  match bs with
  | [] => rfl
  | ⟨all, ks⟩ :: bs => simp only [fedBranches, runBranches, fedClauses_none, fedBranches_none]

end

variable {t : Table}

lemma feed_gives : Edit.Gives (feed bare t) fun _ => bare.isSome → t.rows ≠ [] := by
  cases bare with
  | none => exact .pure nofun
  | some e =>
    simp only [feed]
    split_ifs with hempty
    · exact .throw e
    · exact .pure fun _ => by rwa [List.isEmpty_iff] at hempty

lemma feed_bind_refines (e : Edit Table) : Edit.Refines (feed bare t >>= fun _ => e) e := by
  cases bare with
  | none => exact .refl e
  | some x =>
    simp only [feed]
    split_ifs
    · exact fun _ _ _ => nofun
    · exact .refl e

mutual

/-- **A run that does not fail for want of a row** is the run as it is. -/
theorem fedClause_refines (t : Table) (k : Clause Meaning) :
    Edit.Refines (fedClause c bare t k) (runClause c t k) := by
  match k with
  | .subquery ⟨first, unions⟩ =>
    rw [fedClause, runClause]
    refine (feed_bind_refines _).trans (.bind (.mapM fun row => .bind ?_ fun _ => .refl _)
      fun _ => .refl _)
    exact .bind (fedClauses_refines _ first) fun o => fedBranches_refines _ o unions
  | .matching .. | .unwind .. | .withItems .. | .returnItems .. | .create .. | .merge .. | .set ..
  | .remove .. | .delete .. | .foreach .. | .call .. => exact .refl _

lemma fedClauses_refines (o : Output) (ks : List (Clause Meaning)) :
    Edit.Refines (fedClauses c bare o ks) (runClauses c o ks) := by
  match ks with
  | [] => exact .refl _
  | k :: ks =>
    rw [fedClauses, runClauses]
    exact .bind (fedClause_refines o.table k) fun t => fedClauses_refines _ ks

lemma fedBranches_refines (seed : Table) (o : Output) (bs : List (Branch (Clause Meaning))) :
    Edit.Refines (fedBranches c bare seed o bs) (runBranches c seed o bs) := by
  match bs with
  | [] => exact .refl _
  | ⟨all, ks⟩ :: bs =>
    rw [fedBranches, runBranches]
    exact .bind (fedClauses_refines _ ks) fun o' => fedBranches_refines seed _ bs

end

end Query

end PropertyGraph
