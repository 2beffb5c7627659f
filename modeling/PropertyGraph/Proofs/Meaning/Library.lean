import PropertyGraph.Function.Library
import PropertyGraph.Proofs.Matching.Mention

/-!
What functions mention: nothing but what their arguments and the graph do.
-/

namespace PropertyGraph

variable {K : Entity → Prop}

/-- The arguments of a call and the graph that it looks at are among some entities. -/
structure Call.Among (K : Entity → Prop) (c : Call) : Prop where
  args : ∀ v ∈ c.args, v.Among K
  store : c.store.Among K

lemma Call.Among.arg {c : Call} (hc : c.Among K) (i : Nat) : (c.arg i).Among K := by
  rw [Call.arg, List.getD_eq_getElem?_getD]
  cases hx : c.args[i]? with
  | none => exact Value.among_null
  | some x => exact hc.args x (List.mem_of_getElem? hx)

lemma Call.among_unlessNull {c : Call} {a : Answer} (h : Gives (Value.Among K) a) :
    Gives (Value.Among K) (c.unlessNull a) := by
  rw [Call.unlessNull]
  split_ifs
  · exact .ok Value.among_null
  · exact h

lemma Value.among_strings (ss : List String) : (list (ss.map .str)).Among K :=
  among_list.2 (List.forall_mem_map.2 fun _ _ => among_of_isScalar rfl)

namespace Function

/-- A body whose answers mention nothing new. -/
def Closed (body : Call → Answer) : Prop :=
  ∀ {K : Entity → Prop} {c : Call}, c.Among K → Gives (Value.Among K) (body c)

open Value (among_of_isScalar)

/-! ### Functions on the graph -/

lemma among_propertiesOf? {c : Call} (hc : c.Among K) {v : Value} (hv : v.Among K) :
    Gives (fun o => ∀ ps ∈ o, Dict.Among K ps) (propertiesOf? c v) := by
  cases v with
  | null => exact .ok nofun
  | node i =>
    refine .ok fun ps hps => ?_
    obtain ⟨n, hn, rfl⟩ := Option.map_eq_some_iff.1 hps
    exact (hc.store.node hn).2
  | rel i =>
    refine .ok fun ps hps => ?_
    obtain ⟨r, hr, rfl⟩ := Option.map_eq_some_iff.1 hps
    exact (hc.store.rel hr).2
  | map es =>
    refine .ok fun ps hps => ?_
    obtain rfl := Option.some.inj hps
    exact Value.among_map.1 hv
  | _ => exact .error _

lemma closed_properties : Closed properties := by
  intro K c hc
  refine .bind (among_propertiesOf? hc (hc.arg 0)) fun o ho => .ok ?_
  cases o with
  | none => exact Value.among_null
  | some ps => exact Value.among_map.2 (ho ps rfl)

lemma closed_keys : Closed keys := by
  intro K c hc
  refine .after fun o => .ok ?_
  cases o with
  | none => exact Value.among_null
  | some ps => exact Value.among_strings _

lemma closed_id : Closed id := by
  intro K c _
  rw [id]
  split
  · exact .ok Value.among_null
  · exact .ok (among_of_isScalar rfl)
  · exact .ok (among_of_isScalar rfl)
  · exact .error _

lemma closed_labels : Closed labels := by
  intro K c _
  rw [labels]
  split
  · exact .ok Value.among_null
  next i _ =>
    refine .ok ?_
    cases c.store.node? i with
    | none => exact Value.among_null
    | some n => exact Value.among_strings _
  · exact .error _

lemma closed_ofRel {f : Relationship → Value}
    (hf : ∀ {K : Entity → Prop} {s : Store}, s.Among K → ∀ {i r}, s.rel? i = some r →
      (f r).Among K) : Closed (ofRel f) := by
  intro K c hc
  rw [ofRel]
  split
  · exact .ok Value.among_null
  next i _ =>
    refine .ok ?_
    cases hr : c.store.rel? i with
    | none => exact Value.among_null
    | some r => exact hf hc.store hr
  · exact .error _

lemma closed_ofPath {f : Path → Value}
    (hf : ∀ {K : Entity → Prop} {p : Path}, p.Among K → (f p).Among K) : Closed (ofPath f) := by
  intro K c hc
  have harg := hc.arg 0
  rw [ofPath]
  split
  · exact .ok Value.among_null
  next p hp =>
    rw [hp] at harg
    exact .ok (hf (Value.among_path.1 harg))
  · exact .error _

lemma closed_length : Closed length := by
  intro K c _
  rw [length]
  split
  · exact .ok Value.among_null
  · exact .ok (among_of_isScalar rfl)
  · exact .ok (among_of_isScalar rfl)
  · exact .ok (among_of_isScalar rfl)
  · exact .error _

lemma closed_graphFunctions : ∀ f ∈ graphFunctions, Closed f.body := by
  have hstart {K : Entity → Prop} {s : Store} (hs : s.Among K) {i r} (hr : s.rel? i = some r) :
      K (.node r.source) := by
    obtain ⟨n, hn⟩ := Option.isSome_iff_exists.1 (hs.sound.source hr)
    exact (hs.node hn).1
  have hend {K : Entity → Prop} {s : Store} (hs : s.Among K) {i r} (hr : s.rel? i = some r) :
      K (.node r.target) := by
    obtain ⟨n, hn⟩ := Option.isSome_iff_exists.1 (hs.sound.target hr)
    exact (hs.node hn).1
  simp only [graphFunctions, List.forall_mem_cons, List.not_mem_nil, false_implies, implies_true,
    and_true]
  refine ⟨closed_id, closed_labels, ?_, closed_properties, closed_keys, ?_, ?_, closed_length,
    ?_, ?_⟩
  · exact closed_ofRel fun _ _ _ _ => among_of_isScalar rfl
  · exact closed_ofPath fun hp => Value.among_list.2 (by simpa using hp.1)
  · exact closed_ofPath fun hp => Value.among_list.2 (by simpa using hp.2)
  · exact closed_ofRel fun hs _ _ hr => Value.among_node.2 (hstart hs hr)
  · exact closed_ofRel fun hs _ _ hr => Value.among_node.2 (hend hs hr)

/-! ### Functions on lists -/

lemma closed_size : Closed size := by
  intro K c _
  rw [size]
  split
  · exact .ok Value.among_null
  · exact .ok (among_of_isScalar rfl)
  · exact .ok (among_of_isScalar rfl)
  · exact .ok (among_of_isScalar rfl)
  · exact .error _

lemma closed_coalesce : Closed coalesce := by
  intro K c hc
  refine .ok ?_
  cases h : c.args.find? fun v => !v.isNull with
  | none => exact Value.among_null
  | some v => exact hc.args v (List.mem_of_find?_eq_some h)

lemma among_rangeFrom? {step stop current : Int64} {room : Nat} {before xs : List Value}
    (hbefore : ∀ v ∈ before, v.Among K) (h : rangeFrom? step stop room current before = some xs) :
    ∀ v ∈ xs, v.Among K := by
  induction room generalizing current before with
  | zero =>
    rw [rangeFrom?] at h
    split_ifs at h
    obtain rfl := Option.some.inj h
    simpa using hbefore
  | succ room ih =>
    rw [rangeFrom?] at h
    split_ifs at h
    · obtain rfl := Option.some.inj h
      simpa using hbefore
    · exact ih (List.forall_mem_cons.2 ⟨among_of_isScalar rfl, hbefore⟩) h

lemma closed_range : Closed range := by
  intro K c _
  refine Call.among_unlessNull (.after fun start => .after fun stop => ?_)
  extract_lets finish
  have hfinish (step : Int) : Gives (Value.Among K) (finish step) := by
    simp only [finish]
    split_ifs
    · exact .error _
    · split
      next xs hxs => exact .ok (Value.among_list.2 (among_rangeFrom? (by simp) hxs))
      · exact .error _
  split_ifs
  · exact .after hfinish
  · exact .after hfinish

lemma closed_ofList {f : List Value → Value}
    (hf : ∀ {K : Entity → Prop} {xs : List Value}, (∀ x ∈ xs, x.Among K) → (f xs).Among K) :
    Closed (ofList f) := by
  intro K c hc
  have hlist : Gives (fun xs => ∀ x ∈ xs, x.Among K) (c.list 0) := by
    have harg := hc.arg 0
    rw [Call.list]
    split
    next xs hxs =>
      rw [hxs] at harg
      exact .ok (Value.among_list.1 harg)
    · exact .error _
  exact Call.among_unlessNull (hlist.map fun xs hxs => hf hxs)

lemma closed_sequenceFunctions : ∀ f ∈ sequenceFunctions, Closed f.body := by
  simp only [sequenceFunctions, List.forall_mem_cons, List.not_mem_nil, false_implies,
    implies_true, and_true]
  refine ⟨closed_size, closed_coalesce, closed_range, ?_, ?_, ?_⟩
  · refine closed_ofList fun {K xs} h => ?_
    cases xs with
    | nil => exact Value.among_null
    | cons x xs => exact h x (by simp)
  · refine closed_ofList fun {K xs} h => ?_
    cases hx : xs.getLast? with
    | none => exact Value.among_null
    | some x => exact h x (List.mem_of_getLast? hx)
  · exact closed_ofList fun h => Value.among_list.2 fun x hx => h x (List.mem_of_mem_tail hx)

/-! ### Functions on numbers and strings -/

lemma closed_ofNumber (f : Number → Number) : Closed (ofNumber f) := by
  intro K c _
  exact Call.among_unlessNull (.after fun n => .ok (among_of_isScalar rfl))

lemma closed_toInteger : Closed toInteger := by
  intro K c _
  rw [toInteger]
  split
  · exact .ok Value.among_null
  · exact .ok (among_of_isScalar rfl)
  · exact .ok (among_of_isScalar rfl)
  next s _ =>
    refine .ok ?_
    cases (numberIn? s).filter Number.isFinite with
    | none => exact Value.among_null
    | some n => exact among_of_isScalar rfl
  · exact .error _

lemma closed_toFloat : Closed toFloat := by
  intro K c _
  rw [toFloat]
  split
  · exact .ok Value.among_null
  · exact .ok (among_of_isScalar rfl)
  next s _ =>
    refine .ok ?_
    cases numberIn? s with
    | none => exact Value.among_null
    | some n => exact among_of_isScalar rfl
  · exact .error _

lemma closed_toBoolean : Closed toBoolean := by
  intro K c _
  rw [toBoolean]
  split
  · exact .ok Value.among_null
  · exact .ok (among_of_isScalar rfl)
  · exact .ok (among_of_isScalar rfl)
  · split <;> exact .ok (among_of_isScalar rfl)
  · exact .error _

lemma closed_timestamp : Closed timestamp := fun _ => .ok (among_of_isScalar rfl)

lemma closed_numericFunctions : ∀ f ∈ numericFunctions, Closed f.body := by
  simp only [numericFunctions, List.forall_mem_cons, List.not_mem_nil, false_implies,
    implies_true, and_true]
  exact ⟨closed_ofNumber _, closed_ofNumber _, closed_ofNumber _, closed_ofNumber _,
    closed_ofNumber _, closed_ofNumber _, closed_toInteger, closed_toFloat, closed_toBoolean,
    closed_timestamp⟩

lemma closed_ofString (f : String → String) : Closed (ofString f) := by
  intro K c _
  exact Call.among_unlessNull (.after fun s => .ok (among_of_isScalar rfl))

lemma closed_replace : Closed replace := by
  intro K c _
  exact Call.among_unlessNull
    (.after fun text => .after fun search => .after fun by' => .ok (among_of_isScalar rfl))

lemma closed_substring : Closed substring := by
  intro K c _
  refine Call.among_unlessNull (.after fun text => .after fun start => ?_)
  dsimp only
  split_ifs
  · exact .after fun count => .ok (among_of_isScalar rfl)
  · exact .ok (among_of_isScalar rfl)

lemma closed_left : Closed left := by
  intro K c _
  exact Call.among_unlessNull (.after fun text => .after fun count => .ok (among_of_isScalar rfl))

lemma closed_right : Closed right := by
  intro K c _
  exact Call.among_unlessNull (.after fun text => .after fun count => .ok (among_of_isScalar rfl))

lemma closed_split : Closed split := by
  intro K c _
  exact Call.among_unlessNull
    (.after fun text => .after fun delimiter => .ok (Value.among_strings _))

lemma closed_reverse : Closed reverse := by
  intro K c hc
  have harg := hc.arg 0
  rw [reverse]
  split
  · exact .ok Value.among_null
  · exact .ok (among_of_isScalar rfl)
  next xs hxs =>
    rw [hxs] at harg
    exact .ok (Value.among_list.2 fun x hx => Value.among_list.1 harg x (List.mem_reverse.1 hx))
  · exact .error _

lemma closed_toText : Closed toText := by
  intro K c _
  rw [toText]
  split
  · exact .ok Value.among_null
  · exact .ok (among_of_isScalar rfl)
  · exact .ok (among_of_isScalar rfl)
  · exact .ok (among_of_isScalar rfl)
  · exact .error _

lemma closed_textFunctions : ∀ f ∈ textFunctions, Closed f.body := by
  simp only [textFunctions, List.forall_mem_cons, List.not_mem_nil, false_implies,
    implies_true, and_true]
  exact ⟨closed_ofString _, closed_ofString _, closed_ofString _, closed_ofString _,
    closed_ofString _, closed_replace, closed_substring, closed_left, closed_right, closed_split,
    closed_reverse, closed_toText⟩

lemma closed_ofName {n : String} {f : Function} (hf : ofName? n = some f) : Closed f.body := by
  obtain ⟨g, hg, heq⟩ := List.mem_map.1 (Dict.mem_ofList (Dict.mem_of_get? hf))
  obtain ⟨-, rfl⟩ := Prod.mk.inj heq
  simp only [List.mem_append] at hg
  rcases hg with ((hg | hg) | hg) | hg
  · exact closed_graphFunctions g hg
  · exact closed_sequenceFunctions g hg
  · exact closed_numericFunctions g hg
  · exact closed_textFunctions g hg

end Function

/-- **Calls** mention nothing but what their arguments and the graph do. -/
theorem Call.Among.answer {c : Call} (hc : c.Among K) : Gives (Value.Among K) c.answer := by
  rw [Call.answer]
  cases hf : Function.ofName? c.name with
  | none => exact .error _
  | some f =>
    dsimp only
    split_ifs
    · exact Function.closed_ofName hf hc
    · exact .error _

end PropertyGraph
