import ConsumerEngine.Query.Conditions

/-! What a compiled query answers: the survivors of its levels, combined as its set operations say,
or the metric over their events.
-/

set_option autoImplicit false

namespace ConsumerEngine.Query

open ConsumerEngine.Core ConsumerEngine.Sql ConsumerEngine.Storage

/-! ### Presence -/

section
variable {V : Type} {E : Engine V} {opts : CompileOptions} {catalog : Catalog}

/-- All that is read is there. -/
def Present (E : Engine V) (opts : CompileOptions) (catalog : Catalog) (reads : Reads) : Prop :=
  ∀ read ∈ reads, read.present (E.tables opts.catalog catalog) = true

theorem present_append {first second : Reads} : Present E opts catalog (first ++ second) ↔
    Present E opts catalog first ∧ Present E opts catalog second := List.forall_mem_append

theorem present_flatMap {α : Type} {items : List α} {f : α → Reads} :
    Present E opts catalog (items.flatMap f) ↔ ∀ item ∈ items, Present E opts catalog (f item) := by
  simp only [Present, List.mem_flatMap]
  exact ⟨fun all item member read inside => all read ⟨item, member, inside⟩,
    fun all read ⟨item, member, inside⟩ => all item member read inside⟩

theorem present_raw {d : Dataset} {reads : Reads}
    (present : Present E opts catalog (rawRead opts d :: reads)) :
    (catalog.raw (rawName d)).isSome = true := by
  have there := present _ List.mem_cons_self
  rwa [rawRead, Read.present, Engine.tables, if_pos rfl, E.table_raw, Option.isSome_map] at there

theorem present_table {table : String} {reads : Reads}
    (present : Present E opts catalog (.table opts.catalog table :: reads)) :
    (E.table catalog table).isSome = true := by
  have there := present _ List.mem_cons_self
  rwa [Read.present, Engine.tables, if_pos rfl] at there

/-- Every name of a query stands for something exactly if all that it reads is there. -/
theorem isScoped_iff {query : Ast Value .query} :
    isScoped (E.tables opts.catalog catalog) query = true ↔
      Present E opts catalog (query.reads .empty) := List.all_eq_true

end

/-! ### Levels -/

section
variable {V : Type} [DecidableEq V] {E : Engine V} {opts : CompileOptions} {catalog : Catalog}
  {env : Env V} {row : RawRow} {source : Dataset} {key : String} {asOf : Option String}

/-- The conjuncts of an operation ask what the operation does. -/
theorem opTests_eval (stands : Stands E opts catalog env row) {op : Op} (narrows : op.narrows = true)
    (present : Present E opts catalog (opReads opts source key asOf op)) :
    Truth.all ((opTests opts key asOf op).map fun test => test.eval E.toScalars env) =
      (E.population opts catalog).meets E asOf row (row (foldName key)) op := by
  cases op with
  | filter predicate =>
    rw [opTests, List.map_cons, List.map_nil, predicateTest_eval stands.shows]
    exact Truth.both_yes _
  | recency event userKey tsColumn withinDays predicate =>
    have found_ := @windowProbe_found _ _ E opts catalog env row key stands event
      (present_raw present) userKey tsColumn .ge withinDays predicate
    simp only [opTests, List.map_cons, List.map_nil, Ast.eval, Bool.false_eq_true, ↓reduceIte, found_]
    exact Truth.both_yes _
  | lapsed event userKey tsColumn withinDays predicate =>
    have found_ (comparison : Comparison) := @windowProbe_found _ _ E opts catalog env row key stands
      event (present_raw present) userKey tsColumn comparison withinDays predicate
    simp only [opTests, List.map_cons, List.map_nil, Ast.eval, Bool.false_eq_true, ↓reduceIte, found_,
      Truth.all_cons, Truth.all_nil, Truth.both_yes]
    rfl
  | feature name op value =>
    cases asOf with
    | some cutoff =>
      have there : catalog.featureStore.isSome = true := by
        have table := present_table present
        rwa [E.table_featureStore, Option.isSome_map] at table
      rw [opTests, List.map_cons, List.map_nil, boundedTest_eval stands there]
      exact Truth.both_yes _
    | none =>
      have there : (catalog.wideView (featureParts name).1).isSome = true := by
        have table := present_table present
        rwa [E.table_wide, Option.isSome_map] at table
      rw [opTests, List.map_cons, List.map_nil, wideTest_eval stands _ _ _ there]
      exact Truth.both_yes _
  | exclude campaignId =>
    refine excludeTests_eval stands campaignId fun asked => ?_
    rw [opReads, excludeReads, present_append] at present
    have table : (E.table catalog "suppression").isSome = true := by
      rcases asked with repeats | capped
      · rw [if_pos repeats] at present
        exact present_table present.1
      · rw [if_pos capped] at present
        exact present_table present.2
    rwa [E.table_suppression, Option.isSome_map] at table
  | _ => cases narrows

theorem levelTests_eval (stands : Stands E opts catalog env row) {ops : List Op}
    (narrows : ∀ op ∈ ops, op.narrows = true)
    (present : Present E opts catalog (ops.flatMap (opReads opts source key asOf))) :
    Truth.all ((levelTests opts key asOf ops).map fun test => test.eval E.toScalars env) =
      Truth.all (ops.map ((E.population opts catalog).meets E asOf row (row (foldName key)))) := by
  have each := present_flatMap.mp present
  clear present
  induction ops with
  | nil => rfl
  | cons op rest ih =>
    obtain ⟨here, later⟩ := List.forall_mem_cons.mp narrows
    obtain ⟨mine, others⟩ := List.forall_mem_cons.mp each
    have tests : levelTests opts key asOf (op :: rest) =
        opTests opts key asOf op ++ levelTests opts key asOf rest := List.flatMap_cons
    rw [tests, List.map_append, Truth.all_append, opTests_eval stands here mine, List.map_cons,
      Truth.all_cons]
    exact congrArg _ (ih later others)

omit [DecidableEq V] in
theorem keyRow_injective : Function.Injective fun cell : Cell => [E.cell cell] := fun _ _ same =>
  E.cell_inj.mp (List.cons.inj same).1

/-- A level selects the keys of the tenant's rows that meet its operations. -/
theorem levelPhrase_eval {ops : List Op} (narrows : ∀ op ∈ ops, op.narrows = true)
    (tables : env.tables = E.tables opts.catalog catalog)
    (present : Present E opts catalog (levelReads opts source key asOf ops))
    (label limit : Option String) :
    (levelPhrase opts source key ops asOf label limit).eval E.toScalars env =
      ((E.population opts catalog).level E source key asOf ops).map fun users =>
        finish E.toScalars false [label.getD (foldName key)] none limit
          (users.val.map fun user => [E.cell user]) := by
  rw [levelReads] at present
  obtain ⟨columns, there⟩ := @tables_raw _ E opts catalog source (present_raw present)
  obtain ⟨-, present⟩ := List.forall_mem_cons.mp present
  obtain ⟨-, present⟩ := List.forall_mem_cons.mp present
  obtain ⟨-, asked⟩ := present_append.mp present
  let base : Stored V := ⟨columns, (catalog.rowsOf (rawName source)).map E.cells⟩
  let rows : Aliased := rawAliased source opts.catalogAlias "base"
  have stands (row : RawRow) :
      Stands E opts catalog (env.enter (base.frame rows.alias_ (E.cells row))) row :=
    ⟨tables, fun name => Env.column_enter_self base⟩
  have filter (row : RawRow) :
      (Ast.clause .WHERE (conjunction (tenantTest "base" opts.tenant)
        (levelTests opts key asOf ops))).eval E.toScalars (env.enter (base.frame rows.alias_ (E.cells row))) =
      (alike row.tenant (some opts.tenant)).both (Truth.all
        (ops.map ((E.population opts catalog).meets E asOf row (row (foldName key))))) := by
    rw [← levelTests_eval (stands row) narrows asked]
    simp only [Ast.eval, conjunction_eval, List.map_cons, Truth.all_cons,
      tenantTest_eval opts.tenant ((stands row).shows "tenant_id")]
    rfl
  have item (row : RawRow) :
      (Ast.item (columnTerm "base" (foldName key)) label).eval E.toScalars
        (env.enter (base.frame rows.alias_ (E.cells row))) = some [E.cell (row (foldName key))] := by
    simp only [Ast.eval, columnTerm_eval, (stands row).shows (foldName key), Option.map_some]
  have names : (Ast.item (columnTerm "base" (foldName key)) label).names =
      [label.getD (foldName key)] := by cases label <;> rfl
  have own : (catalog.rowsOf (rawName source)).filter
      (fun row => alike row.tenant (some opts.tenant) = .yes) =
        (E.population opts catalog).rows source :=
    Multiset.filter_congr fun row _ => alike_owner
  rw [levelPhrase, basePhrase, Aliased.phrase, eval_select (tables ▸ there : _ = some base) rfl,
    keep_map, Option.bind_map]
  simp only [show (rawAliased source opts.catalogAlias "base").alias_ = rows.alias_ from rfl, filter,
    Function.comp_def, mapAll_map, item, mapAll_some, names, Option.map_some]
  rw [keep_both fun row _ => alike_ne_failed _ _, own, Population.level]
  cases keep (fun row : RawRow => Truth.all
      (ops.map ((E.population opts catalog).meets E asOf row (row (foldName key)))))
      ((E.population opts catalog).rows source) with
  | none => rfl
  | some kept =>
    have once : (kept.map fun row => [E.cell (row (foldName key))]).dedup =
        (kept.map fun row => row (foldName key)).toFinset.val.map fun user => [E.cell user] := by
      rw [Multiset.toFinset_val, ← Multiset.dedup_map_of_injective keyRow_injective,
        Multiset.map_map]
      rfl
    simp only [Option.bind_some, Option.map_some, finish, ↓reduceIte, Bool.false_eq_true, once]

/-! ### Set operations -/

omit [DecidableEq V] in
theorem mem_keys {users : Finset Cell} {values : List V} :
    values ∈ users.val.map (fun user => [E.cell user]) ↔ ∃ user ∈ users, [E.cell user] = values :=
  Multiset.mem_map

omit [DecidableEq V] in
theorem key_mem_keys {users : Finset Cell} {user : Cell} :
    [E.cell user] ∈ users.val.map (fun user => [E.cell user]) ↔ user ∈ users :=
  Multiset.mem_map_of_injective keyRow_injective

omit [DecidableEq V] in
theorem keys_nodup (users : Finset Cell) : (users.val.map fun user => [E.cell user]).Nodup :=
  users.nodup.map keyRow_injective

omit [DecidableEq V] in
theorem keyTable_injective {column : String} :
    Function.Injective (E.keyTable column) := by
  intro first second same
  have rows := (Table.mk.inj same).2
  refine Finset.ext fun user => ?_
  rw [← key_mem_keys (E := E), rows, key_mem_keys]

/-- Set operations on keys are those on the survivors. -/
theorem combineRows_keys (kind : SetOpKind) (mine others : Finset Cell) :
    combineRows kind.combination (mine.val.map fun user => [E.cell user])
        (others.val.map fun user => [E.cell user]) =
      (Population.combined kind mine others).val.map fun user => [E.cell user] := by
  have once := (@keys_nodup _ E mine).dedup
  refine (Multiset.Nodup.ext ?_ (keys_nodup _)).mpr fun values => ?_
  · cases kind with
    | union => exact Multiset.nodup_dedup _
    | _ => exact (Multiset.nodup_dedup _).filter _
  · cases kind with
    | intersect =>
      simp only [SetOpKind.combination, combineRows, once, Multiset.mem_filter, mem_keys,
        Population.combined, Finset.mem_inter]
      constructor
      · rintro ⟨⟨user, member, rfl⟩, other, among, same⟩
        exact ⟨user, ⟨member, keyRow_injective same ▸ among⟩, rfl⟩
      · rintro ⟨user, ⟨member, among⟩, rfl⟩
        exact ⟨⟨user, member, rfl⟩, user, among, rfl⟩
    | union =>
      simp only [SetOpKind.combination, combineRows, Multiset.mem_dedup, Multiset.mem_add, mem_keys,
        Population.combined, Finset.mem_union, or_and_right, exists_or]
    | minus =>
      simp only [SetOpKind.combination, combineRows, once, Multiset.mem_filter, mem_keys,
        Population.combined, Finset.mem_sdiff]
      constructor
      · rintro ⟨⟨user, member, rfl⟩, none_⟩
        exact ⟨user, ⟨member, fun among => none_ ⟨user, among, rfl⟩⟩, rfl⟩
      · rintro ⟨user, ⟨member, absent⟩, rfl⟩
        exact ⟨⟨user, member, rfl⟩, fun ⟨other, among, same⟩ =>
          absent (keyRow_injective same ▸ among)⟩

omit [DecidableEq V] in
theorem present_required {met : Prop} [Decidable met]
    (present : Present E opts catalog (required met)) : met := by
  by_contra unmet
  rw [required, if_neg (by simpa using unmet)] at present
  exact Bool.false_ne_true (present .nothing List.mem_cons_self)

/-- A query that ends in no metric answers with its survivors. -/
theorem phraseAt_eval {isRfc3339 : String → Bool} {q : SegmentQuery} {sources : List Dataset}
    {scope : Scope} (shaped : Shaped isRfc3339 opts q sources) (keyed : hasDerive q = false)
    (tables : env.tables = E.tables opts.catalog catalog)
    (present : Present E opts catalog ((phraseAt opts q).reads scope)) :
    (phraseAt opts q).eval E.toScalars env =
      ((E.population opts catalog).survivors E q).map (E.keyTable (foldName q.key)) := by
  induction shaped with
  | level narrowing =>
    rw [phraseAt_level narrowing.narrows] at present ⊢
    rw [Ast.reads, levelPhrase_reads narrowing.narrows] at present
    rw [Ast.eval, levelPhrase_eval narrowing.narrows tables present, survivors_level narrowing.narrows]
    rfl
  | setOp narrowing branch ih =>
    next source key ops asOf kind other sources =>
    rw [phraseAt_setOp narrowing.narrows] at present ⊢
    rw [Ast.reads] at present
    obtain ⟨fits, both⟩ := present_append.mp present
    obtain ⟨left, right⟩ := present_append.mp both
    have width := present_required fits
    rw [phraseAt_columns branch] at width
    have inner : hasDerive other = false := by
      by_contra derives
      rw [if_pos (by simpa using derives)] at width
      exact absurd width (by decide : ¬ (1 = 2))
    rw [Ast.reads, levelPhrase_reads narrowing.narrows] at left
    have mine := levelPhrase_eval narrowing.narrows tables left none none
    rw [Ast.eval, survivors_setOp narrowing.narrows]
    simp only [ih inner right]
    rw [Ast.eval, mine]
    cases (E.population opts catalog).level E source key asOf ops with
    | none => rfl
    | some users =>
      cases (E.population opts catalog).survivors E other with
      | none => rfl
      | some others =>
        simp only [Option.map_some, Option.bind_some, Option.bind_eq_bind, Option.pure_def, finish,
          Engine.keyTable, Bool.false_eq_true, ↓reduceIte, Option.getD_none, combineRows_keys]
  | derive narrowing injected =>
    rw [hasDerive_append narrowing.narrows] at keyed
    cases keyed

/-- The text a query without a metric compiles to, run with its parameters: its survivors, where
every name in it stands for something. -/
theorem execute_rows {isRfc3339 : String → Bool} {q : SegmentQuery} {depth : Nat}
    {compiled : CompiledQuery} (valid : validate isRfc3339 q = .ok ())
    (returned : compileAt opts q depth = .ok compiled) (keyed : hasDerive q = false) :
    execute E.toScalars (E.tables opts.catalog catalog) compiled.sql compiled.params =
      if isScoped (E.tables opts.catalog catalog) (phraseAt opts q) then
        ((E.population opts catalog).survivors E q).map (E.keyTable (foldName q.key))
      else none := by
  rw [Sql.execute, compileAt_statement valid returned, Option.bind_some, run]
  by_cases named : isScoped (E.tables opts.catalog catalog) (phraseAt opts q) = true
  · rw [if_pos named, if_pos named]
    exact phraseAt_eval (compileAt_shaped q valid depth compiled returned) keyed rfl
      (isScoped_iff.mp named)
  · rw [if_neg named, if_neg named]

/-! ### Metrics -/

omit [DecidableEq V] in
/-- The rows of a named query of one column of keys. -/
theorem stored_keys {column : String} (users : Finset Cell) :
    (E.keyTable column users).stored E.null =
      ⟨[column], users.val.map fun user => E.listed [(column, E.cell user)]⟩ := by
  simp only [Table.stored, Engine.keyTable, Multiset.map_map]
  rfl

theorem joins_iff {left right : Cell} : joins left right = true ↔ left ≠ none ∧ left = right := by
  cases left <;> cases right <;> simp [joins]

/-- Every event of one of the users, by the user, is every event of theirs once. -/
theorem eventsOf_bind (users : Finset Cell) (events : Multiset RawRow) :
    (users.val.bind fun user => events.filter fun row => joins (row "user_id") user = true) =
      eventsOf users events := by
  induction users using Finset.induction_on with
  | empty =>
    refine (Multiset.zero_bind _).trans (Multiset.filter_eq_nil.mpr fun row _ both => ?_).symm
    exact absurd both.2 (Finset.notMem_empty _)
  | insert user users fresh ih =>
    have both : events.filter (fun row => joins (row "user_id") user = true ∧
        (row "user_id" ≠ none ∧ row "user_id" ∈ users)) = 0 :=
      Multiset.filter_eq_nil.mpr fun row _ held =>
        fresh ((joins_iff.mp held.1).2 ▸ held.2.2)
    rw [Finset.insert_val, Multiset.ndinsert_of_notMem fresh, Multiset.cons_bind, ih, eventsOf,
      eventsOf, Multiset.filter_add_filter, both, Multiset.add_zero]
    refine Multiset.filter_congr fun row _ => ?_
    rw [joins_iff, Finset.mem_insert, ← and_or_left]

/-- A metric over event rows comes from the rows alone, whatever they are joined with. -/
theorem aggregateTerm_eval {pairs : Multiset (Frame V × RawRow)} {frame : Frame V}
    (shows : ∀ pair ∈ pairs, ∀ env : Env V, Shows E (env.member pair.1) "e" pair.2)
    (metric : JitMetric) :
    (aggregateTerm metric).eval E.toScalars (env.enterGroup frame (pairs.map Prod.fst)) =
      E.metric metric (pairs.map Prod.snd) := by
  have summed (function column : String) (sums : isAggregate function = true) :
      (aggregateTerm.summedUp function column).eval E.toScalars
          (env.enterGroup frame (pairs.map Prod.fst)) =
        E.summedUp function column (pairs.map Prod.snd) := by
    have args (pair : Frame V × RawRow) (member : pair ∈ pairs) (env : Env V) :
        (Ast.given (.last (castTerm (columnTerm "e" (foldName column)) "double"))).eval E.toScalars
            (env.member pair.1) =
          (E.cast "double" (E.cell (pair.2 (foldName column)))).map ([·]) := by
      simp only [castTerm, Ast.eval, columnTerm_eval, shows pair member env (foldName column),
        Option.bind_some, Option.bind_eq_bind, Option.bind_fun_some]
    rw [aggregateTerm.summedUp, aggregate_eval sums, aggregated, Engine.summedUp]
    simp only [Env.enterGroup, mapAll_map]
    rw [mapAll_congr fun pair member => args pair member _]
    rfl
  cases metric with
  | count event =>
    have sums : isAggregate "count" = true := by decide
    rw [aggregateTerm, aggregate_eval sums, aggregated]
    simp only [Ast.eval, mapAll_some, Ast.isDistinct, Bool.false_eq_true, ↓reduceIte,
      Option.bind_eq_bind, Option.bind_some, Env.enterGroup, Multiset.map_map, Engine.metric]
    rfl
  | sum event column => exact summed "sum" column (by decide)
  | avg event column => exact summed "avg" column (by decide)
  | min event column => exact summed "min" column (by decide)
  | max event column => exact summed "max" column (by decide)

end

end ConsumerEngine.Query
