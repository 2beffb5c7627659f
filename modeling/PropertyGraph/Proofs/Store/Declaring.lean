import PropertyGraph.Proofs.Store.Run
import PropertyGraph.Schema

/-!
Commands that name no rule, but the label and the property that it is on.

Rules are found by name as well as by what they are on, and the name that a rule gets where none is
given does not tell all pairs apart: `A_B` and `c` give the name that `A` and `B_c` give. So a
command does what it says of its own pair, unless there is no rule on the pair and its name belongs
to a rule on another one.
-/

namespace PropertyGraph

open Cypher

/-- A rule is on this label and this property. -/
def Cypher.RuleTarget.covers (target : RuleTarget) (r : Rule) : Bool :=
  r.label = target.label && r.property = target.property

namespace Store

variable {s : Store} {k : RuleKind} {target : RuleTarget}

/-! ### Rules that are apart -/

section

variable {rules : List Rule} (ha : Apart rules)

include ha

lemma Apart.eq {r q : Rule} (hr : r ∈ rules) (hq : q ∈ rules)
    (h : r.name = q.name ∨ target.covers r = true ∧ target.covers q = true) : r = q := by
  by_contra hne
  have hsymm : Std.Symm fun r q : Rule =>
      r.name ≠ q.name ∧ ¬ (r.label = q.label ∧ r.property = q.property) :=
    ⟨fun r q h => ⟨h.1.symm, fun hp => h.2 ⟨hp.1.symm, hp.2.symm⟩⟩⟩
  obtain ⟨hname, hpair⟩ := ha.forall hr hq hne
  rcases h with h | ⟨h, h'⟩
  · exact hname h
  · simp only [RuleTarget.covers, Bool.and_eq_true, decide_eq_true_eq] at h h'
    exact hpair ⟨h.1.trans h'.1.symm, h.2.trans h'.2.symm⟩

/-- Taking out the rule of a name takes out nothing else. -/
lemma Apart.eraseIdx_name (name : String) :
    rules.eraseIdx (rules.findIdx (·.name = name)) =
      rules.filter fun r => !decide (r.name = name) := by
  induction rules with
  | nil => rfl
  | cons r rules ih =>
    obtain ⟨hr, ha⟩ := List.pairwise_cons.1 ha
    by_cases hname : r.name = name
    · have hall : (rules.filter fun r => !decide (r.name = name)) = rules :=
        List.filter_eq_self.2 fun q hq => by simpa [← hname] using (hr q hq).1.symm
      simp [List.findIdx_cons, hname, hall]
    · simp [List.findIdx_cons, hname, ih ha]

end

lemma rules_withRules_of_ne {k' : RuleKind} (s : Store) (rs : List Rule) (h : k' ≠ k) :
    (s.withRules k rs).rules k' = s.rules k' := by
  cases k <;> cases k' <;> first | exact absurd rfl h | rfl

lemma rules_record (s : Store) (c : Change) (k : RuleKind) : (s.record c).rules k = s.rules k := by
  cases k <;> rfl

/-! ### Declaring -/

/-- There is a rule on a pair, and all the rules from before. -/
structure Declared (s t : Store) (k : RuleKind) (target : RuleTarget) : Prop where
  found : ∃ r ∈ t.rules k, target.covers r = true
  kept : ∀ k, s.rules k <+: t.rules k

/-- There is no rule on a pair, and the name that it would get belongs to a rule on another one. -/
def Taken (s : Store) (k : RuleKind) (target : RuleTarget) : Prop :=
  (∀ r ∈ s.rules k, target.covers r = false) ∧ ∃ r ∈ s.rules k, r.name = target.ruleName k

lemma createRule_cases (k : RuleKind) (rule : Rule) (s : Store) :
    (∃ r ∈ s.rules k, inTheWay rule r = true ∧
      createRule k rule s = (.error (.ruleExists k r.name), s)) ∨
    (∃ e, (∀ k' name, e ≠ .ruleExists k' name) ∧ createRule k rule s = (.error e, s)) ∨
    createRule k rule s =
      (.ok (), (s.withRules k (s.rules k ++ [rule])).record (.createRule k rule.name)) := by
  unfold createRule
  dsimp only
  split
  next r h => exact .inl ⟨r, List.mem_of_find?_eq_some h, List.find?_some h, rfl⟩
  next =>
    split
    · exact .inr (.inl ⟨_, by simp, rfl⟩)
    · exact .inr (.inr rfl)

/-- A command that declares a rule adds it at the end, or there is one already. -/
lemma declareRule_cases (k : RuleKind) (rule : Rule) (tolerant : Bool) (s : Store) :
    match declareRule k rule tolerant s with
    | (.ok _, t) => t = (s.withRules k (s.rules k ++ [rule])).record (.createRule k rule.name) ∨
        tolerant = true ∧ t = s ∧ ∃ r ∈ s.rules k, inTheWay rule r = true
    | (.error _, t) => t = s := by
  rw [declareRule]
  rcases createRule_cases k rule s with ⟨r, hr, hway, h⟩ | ⟨e, he, h⟩ | h
  · rw [h]
    cases tolerant with
    | true => exact .inr ⟨rfl, rfl, r, hr, hway⟩
    | false => rfl
  · rw [h]
    cases e with
    | ruleExists k' name => exact absurd rfl (he k' name)
    | _ => rfl
  · rw [h]
    exact .inl rfl

lemma create_addressed (k : RuleKind) (tolerant : Bool) (target : RuleTarget) (s : Store) :
    match (SchemaCommand.create k none tolerant target).operation s with
    | (.ok _, t) => Declared s t k target ∨ tolerant = true ∧ t = s ∧ Taken s k target
    | (.error _, t) => t = s := by
  have hcases := declareRule_cases k ⟨target.ruleName k, target.label, target.property⟩ tolerant s
  rw [SchemaCommand.operation, Option.getD_none]
  rcases h : declareRule k ⟨target.ruleName k, target.label, target.property⟩ tolerant s with
    ⟨e | m, t⟩
  · rw [h] at hcases
    exact hcases
  rw [h] at hcases
  rcases hcases with rfl | ⟨ht, hs, r, hr, hway⟩
  · refine .inl ⟨?_, fun k' => ?_⟩
    · rw [rules_record, rules_withRules]
      exact ⟨_, List.mem_append_right _ (List.mem_singleton_self _), by simp [RuleTarget.covers]⟩
    · by_cases hk : k' = k
      · rw [hk, rules_record, rules_withRules]
        exact List.prefix_append ..
      · exact (rules_withRules_of_ne s (s.rules k ++ [_]) hk).symm ▸ List.prefix_rfl
  subst hs
  by_cases hfound : ∃ r ∈ t.rules k, target.covers r = true
  · exact .inl ⟨hfound, fun _ => List.prefix_rfl⟩
  · -- the rule in the way is on another pair, so it has the name
    simp only [not_exists, not_and, Bool.not_eq_true] at hfound
    have hname : r.name = target.ruleName k := by
      have hpair := hfound r hr
      simp only [inTheWay, RuleTarget.covers] at hway hpair
      simpa [hpair] using hway
    exact .inr ⟨ht, rfl, hfound, r, hr, hname⟩

/-! ### Dropping -/

/-- Some rules are gone, and there was one to go. -/
structure Withdrawn (s t : Store) (k : RuleKind) (gone : Rule → Bool) : Prop where
  found : ∃ r ∈ s.rules k, gone r = true
  left : t.rules k = (s.rules k).filter (!gone ·)
  others : ∀ k', k' ≠ k → t.rules k' = s.rules k'

lemma withdrawRule_cases (ha : Apart (s.rules k)) (name : String) :
    match withdrawRule k name false s with
    | (.ok _, t) => Withdrawn s t k (·.name = name)
    | (.error _, t) => t = s := by
  rw [withdrawRule, dropRule]
  cases h : (s.rules k).find? (·.name = name) with
  | none => rfl
  | some r =>
    have hname := List.find?_some h
    refine ⟨⟨r, List.mem_of_find?_eq_some h, hname⟩, ?_, fun k' hk => ?_⟩
    · rw [rules_record, rules_withRules, ha.eraseIdx_name]
    · rw [rules_record, rules_withRules_of_ne _ _ hk]

/-- The index that is found for a pair is the one on it, or the one that has its name. -/
lemma indexName_cases (ha : Apart s.indexes) (target : RuleTarget) :
    (∃ r ∈ s.indexes, target.covers r = true ∧
      ∀ q ∈ s.indexes, decide (q.name = s.indexName target) = target.covers q) ∨
    (∀ r ∈ s.indexes, target.covers r = false) ∧ s.indexName target = target.ruleName .index := by
  rw [indexName]
  cases h : s.indexes.find? fun r => r.label = target.label && r.property = target.property with
  | none => exact .inr ⟨fun r hr => Bool.eq_false_iff.2 (List.find?_eq_none.1 h r hr), rfl⟩
  | some r =>
    have hr := List.mem_of_find?_eq_some h
    have hcovers : target.covers r = true := List.find?_some h
    refine .inl ⟨r, hr, hcovers, fun q hq => ?_⟩
    rw [Bool.eq_iff_iff, decide_eq_true_iff]
    constructor
    · intro hname
      have hsame : q.name = r.name ∨ target.covers q = true ∧ target.covers r = true := .inl hname
      rwa [ha.eq hq hr hsame]
    · intro hq'
      rw [ha.eq hq hr (.inr ⟨hq', hcovers⟩)]

lemma dropIndexOn_addressed (ha : Apart s.indexes) (target : RuleTarget) :
    match (SchemaCommand.dropIndexOn target).operation s with
    | (.ok _, t) => Withdrawn s t .index target.covers ∨
        Withdrawn s t .index (·.name = target.ruleName .index) ∧ Taken s .index target
    | (.error _, t) => t = s := by
  have hcases := withdrawRule_cases (k := .index) ha (s.indexName target)
  have hop : (SchemaCommand.dropIndexOn target).operation s =
      withdrawRule .index (s.indexName target) false s := rfl
  rw [hop]
  rcases h : withdrawRule .index (s.indexName target) false s with ⟨e | m, t⟩
  · rw [h] at hcases
    exact hcases
  rw [h] at hcases
  obtain ⟨⟨r, hr, hname⟩, hleft, hothers⟩ := hcases
  rcases indexName_cases ha target with ⟨q, hq, hcovers, hsame⟩ | ⟨hnone, heq⟩
  · refine .inl ⟨⟨q, hq, hcovers⟩, ?_, hothers⟩
    rw [hleft]
    exact List.filter_congr fun q hq => congrArg (!·) (hsame q hq)
  · rw [heq] at hname hleft
    exact .inr ⟨⟨⟨r, hr, hname⟩, hleft, hothers⟩, hnone, r, hr, of_decide_eq_true hname⟩

/-! ### Runs -/

/-- **A command that is addressed by a label and a property acts on this pair**, and changes nothing
if it fails. It acts on a rule on another pair only if there is none on its own and the other one
has the name that a rule on the pair would get: then it takes that rule for one on the pair, and
declares nothing or drops it. -/
theorem run_addressed (calls : List Call) (target : RuleTarget) :
    (∀ k tolerant,
      match (SchemaCommand.create k none tolerant target).operation (run calls {}) with
      | (.ok _, t) => Declared (run calls {}) t k target ∨
          tolerant = true ∧ t = run calls {} ∧ Taken (run calls {}) k target
      | (.error _, t) => t = run calls {}) ∧
    match (SchemaCommand.dropIndexOn target).operation (run calls {}) with
    | (.ok _, t) => Withdrawn (run calls {}) t .index target.covers ∨
        Withdrawn (run calls {}) t .index (·.name = target.ruleName .index) ∧
          Taken (run calls {}) .index target
    | (.error _, t) => t = run calls {} :=
  ⟨fun k tolerant => create_addressed k tolerant target _,
    dropIndexOn_addressed ((lawful_empty.run calls).valid.apart .index) target⟩

/-- The name for `A` and `B_c` is that of the index on `A_B` and `c`: asked for an index on the
former, and to drop it, the store keeps the latter and then drops it. -/
theorem not_run_addressed_of_underscore :
    let s := run [.createRule .index ⟨"index_A_B_c", "A_B", "c"⟩] {}
    ((SchemaCommand.create .index none true ⟨"A", "B_c"⟩).operation s =
        (.ok "Index 'index_A_B_c' already exists, nothing created", s) ∧
      ∀ r ∈ s.indexes, (RuleTarget.mk "A" "B_c").covers r = false) ∧
    ((SchemaCommand.dropIndexOn ⟨"A", "B_c"⟩).operation s).1 =
        .ok "Index 'index_A_B_c' dropped" ∧
      ((SchemaCommand.dropIndexOn ⟨"A", "B_c"⟩).operation s).2.indexes = [] ∧
      ⟨"index_A_B_c", "A_B", "c"⟩ ∈ s.indexes := by
  decide +kernel

end Store

end PropertyGraph
