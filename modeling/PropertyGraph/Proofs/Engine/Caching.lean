import PropertyGraph.Proofs.Engine.Transaction

/-!
The cache cannot be seen from outside. Two engines that differ in nothing but their caches answer
the same and go on to differ in nothing else, because what is in a cache is what the parser gives.
So which texts are looked up does not depend on the cache either, and the cache of an engine is what
looking up these texts makes of an empty one.
-/

namespace PropertyGraph

open Cypher

/-! ### Looking up texts -/

namespace Cache

variable {c : Cache} {text : String}

/-- Looks up one text after another. -/
def lookUp (texts : List String) (c : Cache) : Cache :=
  texts.foldl (fun c text => (c.parse text).2) c

/-- A cache gives what the parser gives, keeps a text once only, and not more texts than it may. -/
structure Tidy (c : Cache) : Prop where
  valid : c.Valid
  distinct : (c.entries.map Prod.fst).Nodup
  bounded : c.entries.length ≤ c.capacity

lemma not_mem_of_take? {es : List (String × List Statement)} (h : take? text es = none) :
    text ∉ es.map Prod.fst := by
  induction es with
  | nil => simp
  | cons e es ih =>
    rw [take?] at h
    split_ifs at h with he
    rw [List.map_cons, List.mem_cons, not_or]
    exact ⟨Ne.symm he, ih (Option.map_eq_none_iff.1 h)⟩

@[simp] lemma parse_capacity : (c.parse text).2.capacity = c.capacity := by
  rw [Cache.parse]
  split_ifs
  · rfl
  · split
    · rfl
    · cases Cypher.parse text <;> rfl

/-- Every lookup is a hit or a miss, if anything is kept at all. -/
lemma parse_counts : (c.parse text).2.hits + (c.parse text).2.misses =
    c.hits + c.misses + if c.capacity = 0 then 0 else 1 := by
  rw [Cache.parse]
  split_ifs
  · rfl
  · split
    · dsimp only
      omega
    · cases Cypher.parse text <;> rfl

lemma Tidy.parse (hc : c.Tidy) (text : String) : (c.parse text).2.Tidy := by
  refine ⟨hc.valid.parse text, ?_, ?_⟩ <;> rw [Cache.parse] <;> split_ifs
  · exact hc.distinct
  · split
    next ks rest ht =>
      exact ((perm_of_take? ht).map Prod.fst).nodup_iff.1 hc.distinct
    next ht =>
      cases Cypher.parse text with
      | error x => exact hc.distinct
      | ok ks =>
        have hd : (((text, ks) :: c.entries).map Prod.fst).Nodup :=
          List.nodup_cons.2 ⟨not_mem_of_take? ht, hc.distinct⟩
        exact hd.sublist ((List.take_sublist ..).map Prod.fst)
  · exact hc.bounded
  · split
    next ks rest ht => exact (perm_of_take? ht).length_eq ▸ hc.bounded
    next =>
      cases Cypher.parse text with
      | error x => exact hc.bounded
      | ok ks => exact List.length_take_le ..

lemma tidy_clear (c : Cache) : c.clear.Tidy :=
  ⟨fun _ _ h => absurd h List.not_mem_nil, List.nodup_nil, Nat.zero_le _⟩

lemma tidy_empty (n : Nat) : Tidy { capacity := n } :=
  ⟨fun _ _ h => absurd h List.not_mem_nil, List.nodup_nil, Nat.zero_le _⟩

variable (texts : List String)

lemma Tidy.lookUp (hc : c.Tidy) : (c.lookUp texts).Tidy := by
  induction texts generalizing c with
  | nil => exact hc
  | cons text texts ih => exact ih (hc.parse text)

@[simp] lemma lookUp_capacity : (c.lookUp texts).capacity = c.capacity := by
  induction texts generalizing c with
  | nil => rfl
  | cons text texts ih => exact ih.trans parse_capacity

lemma lookUp_counts : (c.lookUp texts).hits + (c.lookUp texts).misses =
    c.hits + c.misses + if c.capacity = 0 then 0 else texts.length := by
  induction texts generalizing c with
  | nil => simp [lookUp]
  | cons text texts ih =>
    have h := ih (c := (c.parse text).2)
    rw [parse_counts, parse_capacity] at h
    rw [List.length_cons]
    refine h.trans ?_
    split_ifs <;> omega

lemma lookUp_append (texts' : List String) :
    c.lookUp (texts ++ texts') = (c.lookUp texts).lookUp texts' := List.foldl_append ..

end Cache

/-! ### What is looked up -/

namespace Engine

/-- The texts that a request looks up: its own, once its parameters are read. -/
def Request.lookups (r : Request) : List String :=
  match r.bindings with
  | .ok _ => [r.text]
  | .error _ => []

end Engine

namespace Script

/-- The texts that are looked up to see whether a request ends with a line. -/
def probes (line waiting : String) : List String :=
  if endsInSemicolon line then [] else [waiting]

/-- The texts that the lines of a script and the requests made of them look up. -/
def lookups (request : String → Engine.Request) : List String → String → List String
  | [], waiting => if waiting.isEmpty then [] else (request waiting).lookups
  | line :: lines, waiting =>
    let waiting := join waiting line
    probes line waiting ++
      if ends line waiting then (request waiting).lookups ++ lookups request lines ""
      else lookups request lines waiting

end Script

namespace Engine

variable {e f : Engine}

lemma cache_execute (r : Request) : (e.execute r).2.cache = e.cache.lookUp r.lookups := by
  rw [execute, Request.lookups]
  cases r.bindings with
  | error x => rfl
  | ok bindings =>
    dsimp only
    cases checked (e.cache.parse r.text).1 <;> rfl

lemma cache_run (r : Request) : (e.run r).2.cache = e.cache.lookUp r.lookups := by
  rw [run_snd]
  exact cache_execute r

lemma completes_probes (he : e.cache.Valid) (line waiting : String) :
    e.completes line waiting = (Script.ends line waiting,
      { e with cache := e.cache.lookUp (Script.probes line waiting) }) := by
  rw [completes, Script.ends, Script.probes]
  cases Script.endsInSemicolon line with
  | true => rfl
  | false =>
    rw [← he.parse_fst waiting]
    rfl

lemma cache_runLines (he : e.cache.Tidy) (request : String → Request) (lines : List String)
    (waiting : String) : (runLines request lines waiting e).2.cache =
      e.cache.lookUp (Script.lookups request lines waiting) := by
  induction lines generalizing waiting e with
  | nil =>
    rw [runLines, Script.lookups]
    split_ifs
    · rfl
    · exact cache_run _
  | cons line lines ih =>
    rw [runLines, Script.lookups, completes_probes he.valid]
    dsimp only
    have hp := he.lookUp (Script.probes line (Script.join waiting line))
    rw [Cache.lookUp_append]
    cases Script.ends line (Script.join waiting line) with
    | true =>
      rw [if_pos rfl, Cache.lookUp_append, ← cache_run (e := { e with cache := _ })]
      refine ih (e := (run _ _).2) ?_ ""
      rw [cache_run]
      exact hp.lookUp _
    | false => exact ih hp _

/-! ### Sessions -/

/-- What can be asked of an engine. -/
inductive Order
  | action (a : Action)
  | reset

/-- What an engine answers. -/
inductive Answer
  | reply (r : Except Error Reply)
  | response (r : Response)
  | responses (rs : List Response)
  | done

namespace Order

def obey (e : Engine) : Order → Answer × Engine
  | action (.execute r) => (.reply (e.execute r).1, (e.execute r).2)
  | action (.run r) => (.response (e.run r).1, (e.run r).2)
  | action (.runScript r) => (.responses (e.runScript r).1, (e.runScript r).2)
  | reset => (.done, e.reset)

/-- The texts that are looked up. -/
def lookups : Order → List String
  | action (.execute r) | action (.run r) => r.lookups
  | action (.runScript r) => Script.lookups (fun text => { r with text }) (Script.lines r.text) ""
  | reset => []

end Order

/-- All answers of a session, and what it leaves. -/
def session : List Order → Engine → List Answer × Engine
  | [], e => ([], e)
  | o :: orders, e =>
    let (answer, e) := o.obey e
    let (answers, e) := session orders e
    (answer :: answers, e)

lemma session_append (orders orders' : List Order) (e : Engine) :
    (e.session (orders ++ orders')).2 = ((e.session orders).2.session orders').2 := by
  induction orders generalizing e with
  | nil => rfl
  | cons o orders ih => exact ih _

/-- **The engines that can be reached are those that sessions leave.** -/
theorem reachable_iff :
    e.Reachable ↔ ∃ (c : Config) (orders : List Order), e = ((ofConfig c).session orders).2 := by
  constructor
  · intro h
    have hnext {e : Engine} (o : Order)
        (h : ∃ (c : Config) (orders : List Order), e = ((ofConfig c).session orders).2) :
        ∃ (c : Config) (orders : List Order), (o.obey e).2 = ((ofConfig c).session orders).2 := by
      obtain ⟨c, orders, rfl⟩ := h
      exact ⟨c, orders ++ [o], (session_append orders [o] _).symm⟩
    induction h with
    | ofConfig c => exact ⟨c, [], rfl⟩
    | execute _ r ih => exact hnext (.action (.execute r)) ih
    | run _ r ih => exact hnext (.action (.run r)) ih
    | runScript _ r ih => exact hnext (.action (.runScript r)) ih
    | reset _ ih => exact hnext .reset ih
  · rintro ⟨c, orders, rfl⟩
    have hsession {e : Engine} (he : e.Reachable) : (e.session orders).2.Reachable := by
      induction orders generalizing e with
      | nil => exact he
      | cons o orders ih =>
        refine ih (e := (o.obey e).2) ?_
        match o with
        | .action (.execute r) => exact he.execute r
        | .action (.run r) => exact he.run r
        | .action (.runScript r) => exact he.runScript r
        | .reset => exact he.reset
    exact hsession (.ofConfig c)

/-! ### Engines that differ in their caches -/

/-- Two engines are the same but for their caches, which both give what the parser gives. -/
structure Twin (e f : Engine) : Prop where
  defaultDatabase : f.config.defaultDatabase = e.config.defaultDatabase
  maxHops : f.config.maxHops = e.config.maxHops
  server : f.server = e.server
  left : e.cache.Valid
  right : f.cache.Valid

namespace Twin

lemma execute (h : Twin e f) (r : Request) :
    (f.execute r).1 = (e.execute r).1 ∧ Twin (e.execute r).2 (f.execute r).2 := by
  obtain ⟨cache, hcache, he⟩ := execute_eq h.left r
  obtain ⟨cache', hcache', hf⟩ := execute_eq h.right r
  rw [he, hf]
  cases r.prepared with
  | error x => exact ⟨rfl, h.defaultDatabase, h.maxHops, h.server, hcache, hcache'⟩
  | ok p =>
    have hcontext : f.context r p.1 = e.context r p.1 := by rw [context, context, h.maxHops]
    dsimp only
    rw [hcontext, h.server]
    exact ⟨rfl, h.defaultDatabase, h.maxHops, rfl, hcache, hcache'⟩

lemma run (h : Twin e f) (r : Request) :
    (f.run r).1 = (e.run r).1 ∧ Twin (e.run r).2 (f.run r).2 := by
  obtain ⟨hreply, htwin⟩ := h.execute r
  rw [run_snd, run_snd]
  refine ⟨?_, htwin⟩
  rw [Engine.run, Engine.run]
  rcases he : e.execute r with ⟨x | reply, e'⟩ <;> rcases hf : f.execute r with ⟨y, f'⟩ <;>
    rw [he, hf] at hreply htwin <;> obtain rfl := hreply
  · rfl
  · dsimp only
    rw [htwin.server]
    cases e'.server.store <;> rfl

lemma runLines (h : Twin e f) (request : String → Request) (lines : List String)
    (waiting : String) :
    (f.runLines request lines waiting).1 = (e.runLines request lines waiting).1 ∧
      Twin (e.runLines request lines waiting).2 (f.runLines request lines waiting).2 := by
  induction lines generalizing waiting e f with
  | nil =>
    rw [Engine.runLines, Engine.runLines]
    split_ifs
    · exact ⟨rfl, h⟩
    · obtain ⟨hresponse, htwin⟩ := h.run (request waiting)
      exact ⟨congrArg (fun r => [r]) hresponse, htwin⟩
  | cons line lines ih =>
    obtain ⟨cache, hcache, he⟩ := completes_eq h.left line (Script.join waiting line)
    obtain ⟨cache', hcache', hf⟩ := completes_eq h.right line (Script.join waiting line)
    have hprobed : Twin { e with cache } { f with cache := cache' } :=
      ⟨h.defaultDatabase, h.maxHops, h.server, hcache, hcache'⟩
    rw [Engine.runLines, Engine.runLines, he, hf]
    cases Script.ends line (Script.join waiting line) with
    | true =>
      obtain ⟨hresponse, htwin⟩ := hprobed.run (request (Script.join waiting line))
      obtain ⟨hrest, htwin'⟩ := ih htwin ""
      exact ⟨congrArg₂ List.cons hresponse hrest, htwin'⟩
    | false => exact ih hprobed _

lemma obey (h : Twin e f) (o : Order) :
    (o.obey f).1 = (o.obey e).1 ∧ Twin (o.obey e).2 (o.obey f).2 := by
  match o with
  | .action (.execute r) => exact (h.execute r).imp (congrArg Answer.reply) id
  | .action (.run r) => exact (h.run r).imp (congrArg Answer.response) id
  | .action (.runScript r) =>
    exact (h.runLines _ (Script.lines r.text) "").imp (congrArg Answer.responses) id
  | .reset =>
    have hdefault := congrArg Server.ofDefault h.defaultDatabase
    exact ⟨rfl, h.defaultDatabase, h.maxHops, hdefault,
      fun _ _ h => absurd h List.not_mem_nil, fun _ _ h => absurd h List.not_mem_nil⟩

/-- **Engines that differ in their caches answer the same** all through a session. -/
theorem session (h : Twin e f) (orders : List Order) :
    (f.session orders).1 = (e.session orders).1 ∧
      Twin (e.session orders).2 (f.session orders).2 := by
  induction orders generalizing e f with
  | nil => exact ⟨rfl, h⟩
  | cons o orders ih =>
    obtain ⟨hanswer, htwin⟩ := h.obey o
    obtain ⟨hanswers, htwin'⟩ := ih htwin
    exact ⟨congrArg₂ List.cons hanswer hanswers, htwin'⟩

end Twin

/-! ### Caches of engines -/

/-- What an order does to a cache: the lookups it makes, or the end of all that was kept. -/
lemma Order.cache_obey (he : e.cache.Tidy) (o : Order) :
    (o.obey e).2.cache = e.cache.lookUp o.lookups ∨
      o.lookups = [] ∧ (o.obey e).2.cache = e.cache.clear := by
  match o with
  | .action (.execute r) => exact .inl (cache_execute r)
  | .action (.run r) => exact .inl (cache_run r)
  | .action (.runScript r) => exact .inl (cache_runLines he _ _ _)
  | .reset => exact .inr ⟨rfl, rfl⟩

/-- A cache is left tidy by some lookups, which its counts tell. -/
structure Counts (c : Cache) (lookups : List String) (d : Cache) : Prop where
  tidy : d.Tidy
  capacity : d.capacity = c.capacity
  counts : d.hits + d.misses = c.hits + c.misses + if c.capacity = 0 then 0 else lookups.length

lemma Order.counts (he : e.cache.Tidy) (o : Order) :
    Counts e.cache o.lookups (o.obey e).2.cache := by
  obtain h | ⟨hlookups, h⟩ := o.cache_obey he
  · rw [h]
    exact ⟨he.lookUp _, Cache.lookUp_capacity _, Cache.lookUp_counts _⟩
  · rw [h, hlookups]
    exact ⟨Cache.tidy_clear _, rfl, by simp [Cache.clear]⟩

lemma session_counts (he : e.cache.Tidy) (orders : List Order) :
    Counts e.cache (orders.flatMap Order.lookups) (e.session orders).2.cache := by
  induction orders generalizing e with
  | nil => exact ⟨he, rfl, by simp [session]⟩
  | cons o orders ih =>
    have ho := o.counts he
    obtain ⟨htidy, hcapacity, hcounts⟩ := ih ho.tidy
    refine ⟨htidy, hcapacity.trans ho.capacity, hcounts.trans ?_⟩
    rw [ho.counts, ho.capacity, List.flatMap_cons, List.length_append]
    split_ifs <;> omega

/-- **Caches cannot be seen from outside.** Whatever is asked of two engines that may keep
different numbers of texts, they give the same answers and come to the same server. What a cache
keeps are texts with what the parser gives for them, each one once and no more than it may; and if
it may keep any, each text that was looked up was a hit or a miss. -/
theorem cache_transparent (c : Config) (m n : Nat) (orders : List Order) :
    let left := (ofConfig { c with cacheCapacity := m }).session orders
    let right := (ofConfig { c with cacheCapacity := n }).session orders
    right.1 = left.1 ∧ right.2.server = left.2.server ∧
      (∀ text ks, (text, ks) ∈ left.2.cache.entries → Cypher.parse text = .ok ks) ∧
      (left.2.cache.entries.map Prod.fst).Nodup ∧ left.2.cache.entries.length ≤ m ∧
      left.2.cache.hits + left.2.cache.misses =
        if m = 0 then 0 else (orders.flatMap Order.lookups).length := by
  intro left right
  have htwin : Twin (ofConfig { c with cacheCapacity := m })
      (ofConfig { c with cacheCapacity := n }) :=
    ⟨rfl, rfl, rfl, (Cache.tidy_empty m).valid, (Cache.tidy_empty n).valid⟩
  obtain ⟨hanswers, htwin'⟩ := htwin.session orders
  obtain ⟨htidy, hcapacity, hcounts⟩ :=
    session_counts (e := ofConfig { c with cacheCapacity := m }) (Cache.tidy_empty m) orders
  exact ⟨hanswers, htwin'.server, htidy.valid, htidy.distinct, htidy.bounded.trans_eq hcapacity,
    hcounts.trans (Nat.zero_add _)⟩

/-- A cache of one text that has to make room for another one misses it the next time. -/
example : (Cache.lookUp ["RETURN 1", "RETURN 2", "RETURN 1", "RETURN 1"]
    { capacity := 1 }).misses = 3 := by decide +kernel

end Engine

end PropertyGraph
