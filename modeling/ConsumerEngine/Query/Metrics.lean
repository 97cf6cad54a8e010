import ConsumerEngine.Query.Answers

/-! What a metric query answers: the metric over the events of the survivors that its limit leaves.
-/

set_option autoImplicit false

namespace ConsumerEngine.Query

open ConsumerEngine.Core ConsumerEngine.Sql ConsumerEngine.Storage

/-! ### Limits -/

section
variable {V : Type} [DecidableEq V] (E : Engine V)

/-- The survivors that a limit leaves. -/
def Engine.spared (limit : Nat) (users : Finset Cell) : Finset Cell :=
  users.filter fun user => [E.cell user] ∈
    E.cut ["user_id"] none (toString limit) (users.val.map fun user => [E.cell user])

variable {E} {limit : Nat} {users : Finset Cell}

theorem cut_keys :
    E.cut ["user_id"] none (toString limit) (users.val.map fun user => [E.cell user]) =
      (E.spared limit users).val.map fun user => [E.cell user] := by
  have fewer := E.cut_le ["user_id"] none (toString limit) (users.val.map fun user => [E.cell user])
  have once := Multiset.nodup_of_le fewer (keys_nodup users)
  refine (Multiset.Nodup.ext once (keys_nodup _)).mpr fun values => ?_
  rw [mem_keys]
  constructor
  · intro member
    obtain ⟨user, among, rfl⟩ := mem_keys.mp (Multiset.mem_of_le fewer member)
    exact ⟨user, Finset.mem_filter.mpr ⟨among, member⟩, rfl⟩
  · rintro ⟨user, among, rfl⟩
    exact (Finset.mem_filter.mp among).2

theorem card_spared : (E.spared limit users).card = min limit users.card := by
  have counted := E.card_cut ["user_id"] none limit (users.val.map fun user => [E.cell user])
  rw [cut_keys, Multiset.card_map, Multiset.card_map] at counted
  exact counted

/-- A limit leaves all survivors exactly if they are no more. -/
theorem spared_eq_self : E.spared limit users = users ↔ users.card ≤ limit := by
  constructor
  · intro whole
    have counted := @card_spared _ _ E limit users
    rw [whole] at counted
    omega
  · intro few
    apply Finset.eq_of_subset_of_card_le (Finset.filter_subset _ _)
    have counted := @card_spared _ _ E limit users
    rw [Engine.spared] at counted
    omega

end

/-! ### Metrics -/

section
variable {V : Type} [DecidableEq V] {E : Engine V} {opts : CompileOptions} {catalog : Catalog}
  {env : Env V}

/-- The rows in scope of a metric: a survivor, and one of its events. -/
def metricFrame (E : Engine V) (columns : List String) (user : Cell) (row : RawRow) : Frame V :=
  [⟨"s", ["user_id"], E.listed [("user_id", E.cell user)]⟩, ⟨"e", columns, E.cells row⟩]

/-- The condition of the join: an event of the user, and of the tenant. -/
theorem metricJoin_eval (columns : List String) (user : Cell) (row : RawRow) :
    (conjunction (.compare .eq (columnTerm "e" "user_id") (columnTerm "s" "user_id"))
        [tenantTest "e" opts.tenant]).eval E.toScalars
          (env.enter (metricFrame E columns user row)) =
      (alike (row "user_id") user).both (alike row.tenant (some opts.tenant)) := by
  have events (name : String) :
      (env.enter (metricFrame E columns user row)).column E.null "e" name = E.cell (row name) := by
    simp [Env.column, Env.enter, metricFrame, Engine.cells]
  have survivors :
      (env.enter (metricFrame E columns user row)).column E.null "s" "user_id" = E.cell user := by
    simp [Env.column, Env.enter, metricFrame, Engine.listed]
  rw [conjunction_eval, List.map_cons, List.map_cons, List.map_nil, Truth.all_cons, Truth.all_cons,
    Truth.all_nil, Truth.both_yes, tenantTest_eval opts.tenant (events "tenant_id"), Ast.eval]
  simp only [columnTerm_eval, compared, events, survivors, E.compare_cell]
  rfl

omit [DecidableEq V] in
theorem both_alike_ne_failed (a b c d : Cell) : (alike a b).both (alike c d) ≠ .failed := by
  have first := alike_ne_failed a b
  have second := alike_ne_failed c d
  generalize alike a b = left at first ⊢
  generalize alike c d = right at second ⊢
  cases left <;> cases right <;> simp_all [Truth.both]

/-- The survivors joined with their events. -/
def metricPairs (E : Engine V) (columns : List String) (users : Finset Cell)
    (events : Multiset RawRow) : Multiset (Frame V × RawRow) :=
  users.val.bind fun user => (events.filter fun row => joins (row "user_id") user = true).map
    fun row => (metricFrame E columns user row, row)

theorem metricSource_eval {metric : JitMetric} {users : Finset Cell} {columns : List String}
    (named : env.named.lookup "survivor" = some (E.keyTable "user_id" users))
    (there : env.tables opts.catalog (rawName (metricEvent metric)) =
      some ⟨columns, (catalog.rowsOf (rawName (metricEvent metric))).map E.cells⟩) :
    (Ast.from (.named "survivor" (some "s"))
      (.join false (rawAliased (metricEvent metric) opts.catalogAlias "e").phrase
        (conjunction (.compare .eq (columnTerm "e" "user_id") (columnTerm "s" "user_id"))
          [tenantTest "e" opts.tenant]) .noJoin)).eval E.toScalars env =
      some ((metricPairs E columns users (ownRows catalog opts.tenant (metricEvent metric))).map
        fun pair => (pair.1, .yes)) := by
  have joined (user : Cell) :
      joinRows E.toScalars false "e"
          ⟨columns, (catalog.rowsOf (rawName (metricEvent metric))).map E.cells⟩
          (fun frame => (conjunction (.compare .eq (columnTerm "e" "user_id")
            (columnTerm "s" "user_id")) [tenantTest "e" opts.tenant]).eval E.toScalars
              (env.enter frame))
          ([⟨"s", ["user_id"], E.listed [("user_id", E.cell user)]⟩], .yes) =
        ((ownRows catalog opts.tenant (metricEvent metric)).filter
          fun row => joins (row "user_id") user = true).map
            fun row => (metricFrame E columns user row, .yes) := by
    rw [joinRows_inner fun row _ => by
      rw [List.singleton_append]
      exact (metricJoin_eval columns user row).trans_ne (both_alike_ne_failed _ _ _ _)]
    rw [ownRows, Multiset.filter_filter]
    refine congrArg _ (Multiset.filter_congr fun row _ => ?_)
    rw [List.singleton_append]
    refine (Eq.congr_left (metricJoin_eval columns user row)).trans ?_
    rw [Truth.both_eq_yes, alike_eq_yes, alike_owner]
  have there' : env.tables (rawAliased (metricEvent metric) opts.catalogAlias "e").catalog
      (rawAliased (metricEvent metric) opts.catalogAlias "e").table =
        some ⟨columns, (catalog.rowsOf (rawName (metricEvent metric))).map E.cells⟩ := there
  simp only [Ast.eval, named, Option.map_some, stored_keys, Aliased.phrase, there', Option.getD_some,
    Option.bind_eq_bind, Option.bind_some, Multiset.bind_map]
  refine congrArg some ?_
  rw [metricPairs, Multiset.map_bind]
  refine Multiset.bind_congr fun user _ => ?_
  rw [Multiset.map_map]
  exact joined user

/-- The metric over the events of the survivors. -/
theorem metricPhrase_eval {survivor : Ast Value .select} {metric : JitMetric} {users : Finset Cell}
    (tables : env.tables = E.tables opts.catalog catalog)
    (present : (catalog.raw (rawName (metricEvent metric))).isSome = true)
    (selected : survivor.eval E.toScalars env = some (E.keyTable "user_id" users)) (name : String) :
    (metricPhrase survivor name metric opts.catalogAlias opts.tenant).eval E.toScalars env =
      (E.metric metric (eventsOf users (ownRows catalog opts.tenant (metricEvent metric)))).map
        (E.metricTable name) := by
  obtain ⟨columns, there⟩ := @tables_raw _ E opts catalog (metricEvent metric) present
  have sums : (Ast.itemThen (boundTerm (.text name)) (some "name")
      (.item (aggregateTerm metric) (some "value"))).sums = true := by
    cases metric <;> rfl
  have source := @metricSource_eval _ _ E opts catalog
    (env.withNamed "survivor" (E.keyTable "user_id" users)) metric users columns
    (by simp [Env.withNamed]) (tables ▸ there)
  have shows : ∀ pair ∈ metricPairs E columns users
      (ownRows catalog opts.tenant (metricEvent metric)), ∀ env : Env V,
        Shows E (env.member pair.1) "e" pair.2 := by
    intro pair member env column
    obtain ⟨user, -, inside⟩ := Multiset.mem_bind.mp member
    obtain ⟨row, -, rfl⟩ := Multiset.mem_map.mp inside
    simp [Env.column, Env.member, metricFrame, Engine.cells]
  have events : (metricPairs E columns users (ownRows catalog opts.tenant (metricEvent metric))).map
      Prod.snd = eventsOf users (ownRows catalog opts.tenant (metricEvent metric)) := by
    rw [metricPairs, Multiset.map_bind, ← eventsOf_bind]
    refine Multiset.bind_congr fun user _ => ?_
    rw [Multiset.map_map]
    exact Multiset.map_id' _
  have value := @aggregateTerm_eval _ _ E (env.withNamed "survivor" (E.keyTable "user_id" users)) _ []
    shows metric
  refine (congrArg (fun result => Option.bind result _) selected).trans ?_
  refine (eval_select_summed sums source).trans ?_
  simp only [Ast.eval, keep_yes, boundTerm_eval, Option.bind_eq_bind, Option.bind_some]
  rw [value, events]
  cases E.metric metric (eventsOf users (ownRows catalog opts.tenant (metricEvent metric))) with
  | none => rfl
  | some value => rfl

/-- A query that ends in a metric answers with it, over the survivors that its limit leaves. -/
theorem phraseAt_derive_eval {isRfc3339 : String → Bool} {source : Dataset} {key name : String}
    {ops : List Op} {asOf : Option String} {metric : JitMetric} {limit : Nat} {scope : Scope}
    (narrowing : Narrowing isRfc3339 source key ops) (injected : opts.deriveLimit = some limit)
    (tables : env.tables = E.tables opts.catalog catalog)
    (present : Present E opts catalog
      ((phraseAt opts ⟨source, key, ops ++ [.derive name metric], asOf⟩).reads scope)) :
    (phraseAt opts ⟨source, key, ops ++ [.derive name metric], asOf⟩).eval E.toScalars env =
      ((E.population opts catalog).survivors E ⟨source, key, ops ++ [.derive name metric], asOf⟩).bind
        fun users => (E.metric metric (eventsOf (E.spared limit users)
          (ownRows catalog opts.tenant (metricEvent metric)))).map (E.metricTable name) := by
  rw [phraseAt_derive narrowing.narrows injected, metricPhrase_reads rfl,
    levelPhrase_reads narrowing.narrows] at present
  obtain ⟨level, events⟩ := present_append.mp present
  have selected := levelPhrase_eval narrowing.narrows tables level (some "user_id")
    (some (toString limit))
  rw [phraseAt_derive narrowing.narrows injected, survivors_derive narrowing.narrows]
  cases users : (E.population opts catalog).level E source key asOf ops with
  | none =>
    rw [users] at selected
    exact congrArg (fun result => Option.bind result _) selected
  | some users_ =>
    rw [users] at selected
    refine metricPhrase_eval tables (present_raw events) (selected.trans ?_) name
    exact congrArg (fun rows => some (Table.mk ["user_id"] rows)) cut_keys

/-- The survivors that an injected limit leaves. -/
def Engine.left (E : Engine V) (limit : Option Nat) (users : Finset Cell) : Finset Cell :=
  match limit with
  | some limit => E.spared limit users
  | none => users

/-- The answer to a query: a metric over the events of the survivors that the limit leaves, or the
survivors. -/
def Population.within (E : Engine V) (population : Population) (limit : Option Nat)
    (q : SegmentQuery) : Option (Table V) := do
  let users ← population.survivors E q
  match q.ops.getLast? with
  | some (.derive name metric) =>
      let value ← E.metric metric (eventsOf (E.left limit users) (population.rows (metricEvent metric)))
      return E.metricTable name value
  | _ => return E.keyTable (foldName q.key) users

/-- What a compiled query answers, where every name in it stands for something. -/
theorem execute_within {isRfc3339 : String → Bool} {q : SegmentQuery} {depth : Nat}
    {compiled : CompiledQuery} (valid : validate isRfc3339 q = .ok ())
    (returned : compileAt opts q depth = .ok compiled) :
    execute E.toScalars (E.tables opts.catalog catalog) compiled.sql compiled.params =
      if isScoped (E.tables opts.catalog catalog) (phraseAt opts q) then
        (E.population opts catalog).within E opts.deriveLimit q
      else none := by
  have shaped := compileAt_shaped q valid depth compiled returned
  generalize compiled.sources = sources at shaped
  by_cases derives : hasDerive q = true
  · rw [Sql.execute, compileAt_statement valid returned, Option.bind_some, run]
    refine ite_congr rfl (fun named => ?_) fun _ => rfl
    cases shaped with
    | level narrowing => rw [hasDerive_narrowing narrowing.narrows] at derives; cases derives
    | setOp narrowing branch => rw [hasDerive_append narrowing.narrows] at derives; cases derives
    | derive narrowing injected event column =>
      rw [phraseAt_derive_eval narrowing injected rfl (isScoped_iff.mp named), Population.within]
      refine Option.bind_congr fun users _ => ?_
      simp only [List.getLast?_concat, injected]
      rw [Option.map_eq_bind]
      rfl
  · rw [execute_rows valid returned (Bool.eq_false_iff.mpr derives)]
    refine ite_congr rfl (fun _ => ?_) fun _ => rfl
    rw [Population.within, Option.map_eq_bind]
    refine Option.bind_congr fun users _ => ?_
    split
    · next last =>
      exact absurd (List.any_eq_true.mpr ⟨_, List.mem_of_getLast? last, rfl⟩) derives
    · rfl

/-- Without a metric there is no limit; with one it leaves all survivors. -/
def Roomy (E : Engine V) (opts : CompileOptions) (catalog : Catalog) (q : SegmentQuery) : Prop :=
  hasDerive q = true → ∀ limit users, opts.deriveLimit = some limit →
    (E.population opts catalog).survivors E q = some users → users.card ≤ limit

/-- A limit that leaves all survivors does not show. -/
theorem within_eq_answer {population : Population} {limit : Option Nat} {q : SegmentQuery}
    (whole : hasDerive q = true → ∀ users, population.survivors E q = some users →
      E.left limit users = users) :
    population.within E limit q = population.answer E q := by
  rw [Population.within, Population.answer]
  refine Option.bind_congr fun users survive => ?_
  cases last : q.ops.getLast? with
  | none => rfl
  | some op =>
    cases op with
    | derive name metric =>
      have derives : hasDerive q = true :=
        List.any_eq_true.mpr ⟨_, List.mem_of_getLast? last, rfl⟩
      rw [whole derives users survive]
    | _ => rfl

theorem Roomy.within {q : SegmentQuery} (roomy : Roomy E opts catalog q) :
    (E.population opts catalog).within E opts.deriveLimit q = (E.population opts catalog).answer E q := by
  refine within_eq_answer fun derives users survive => ?_
  unfold Engine.left
  cases injected : opts.deriveLimit with
  | none => rfl
  | some limit => exact spared_eq_self.mpr (roomy derives limit users injected survive)

theorem execute_answer {isRfc3339 : String → Bool} {q : SegmentQuery} {depth : Nat}
    {compiled : CompiledQuery} (valid : validate isRfc3339 q = .ok ())
    (returned : compileAt opts q depth = .ok compiled) (roomy : Roomy E opts catalog q) :
    execute E.toScalars (E.tables opts.catalog catalog) compiled.sql compiled.params =
      if isScoped (E.tables opts.catalog catalog) (phraseAt opts q) then
        (E.population opts catalog).answer E q
      else none := by
  rw [execute_within valid returned, roomy.within]

end

end ConsumerEngine.Query
