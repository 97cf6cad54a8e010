import ConsumerEngine.Query.PlainEngine
import ConsumerEngine.Query.Pivots
import ConsumerEngine.Query.SurvivorLimit
import ConsumerEngine.Storage.Snapshots

/-! Materialising a segment: what the engine sends to the writer, and the rows that the snapshot
then has.
-/

set_option autoImplicit false

namespace ConsumerEngine.Query

open ConsumerEngine.Core ConsumerEngine.Foundation ConsumerEngine.Sql ConsumerEngine.Storage FeatureBatch

/-! ### The engine -/

/-- `QueryEngine`, as far as its answers depend on it. -/
structure QueryEngine where
  guardrails : GuardrailConfig
  freshness : FreshnessRegistry
  suppression : SuppressionRules

/-- The options of the queries that are read. -/
def QueryEngine.readOptions (engine : QueryEngine) (tenant : String) : CompileOptions where
  catalogAlias := readOnlyCatalogAlias
  alias_ident := by decide
  suppression := engine.suppression
  deriveLimit := none
  tenant := tenant

/-- The options of the selections that the writer runs. -/
def QueryEngine.writeOptions (engine : QueryEngine) (tenant : String) : CompileOptions where
  catalogAlias := writeCatalogAlias
  alias_ident := by decide
  suppression := engine.suppression
  deriveLimit := none
  tenant := tenant

/-- One name more in the families. -/
def addName (families : SortedMap String (List String)) (name : String) :
    SortedMap String (List String) :=
  match splitFeatureName name with
  | .ok (family, short) =>
      families.insert family (insertShort ((families.get family).getD []) short)
  | .error _ => families

/-- `feature_families`: a store that cannot be read has none. -/
def featureFamilies (read : Except QueryError Catalog) (tenant : String) : Families :=
  match read.bind fun catalog => tableRows catalog.featureStore with
  | .ok rows => (((rows.filter fun row => row.tenantId = some tenant).map
      StoredFeature.featureName).foldl addName SortedMap.empty).entries
  | .error _ => []

/-- The clock, the identifier and the texts that a materialisation takes from outside. -/
structure Stamps where
  now : Int
  /-- `DateTime::from_timestamp(…, 0)`, as RFC 3339. -/
  rfc3339 : Int → Option String
  /-- `Utc::now()`, as RFC 3339. -/
  nowText : String
  uuid : String
  /-- `serde_json::to_string` of the operations. -/
  opsText : List Op → Except String String

/-- The chain of predicates that a snapshot records. -/
def Stamps.hitReason (stamps : Stamps) (q : SegmentQuery) : Except QueryError String :=
  match stamps.opsText q.ops with
  | .ok text => .ok text
  | .error message => .error (invalid ("serialize hit_reason: " ++ message))

/-- What the writer is sent. -/
structure MaterializeCall where
  wrapSql : String
  wrapParams : List Value
  key : String
  spec : SnapshotSpec

section
variable {V : Type} [DecidableEq V] (E : Engine V) (toJson : V → Json) (engine : QueryEngine)
  (q : SegmentQuery) (tenant : String)

/-- `compile_and_check`. -/
def QueryEngine.compileAndCheck (reads : DeriveReads) : Except QueryError CompiledQuery := do
  reads.checked
  let base := engine.readOptions tenant
  if hasDerive q then
    let limit ← deriveSurvivorLimit E toJson engine.guardrails base q reads
    compileWithOpts q { base with deriveLimit := some limit }
  else compileWithOpts q base

/-- `run_sync` of a query without a profile, the label of its freshness apart. -/
def QueryEngine.runSync (reads : DeriveReads) : Except QueryError (Table V) := do
  let compiled ← engine.compileAndCheck E toJson q tenant reads
  reads.planned
  let state ← reads.ran
  let table ← ranOn E (engine.readOptions tenant) reads state compiled
  if engine.guardrails.maxOutputRows < table.rows.card then
    throw (.guardrail "max_output_rows" (toString engine.guardrails.maxOutputRows))
  else return table

omit [DecidableEq V] in
/-- The epoch a snapshot is cut off at: the least one of its registered sources. -/
def QueryEngine.asOfEpoch (sources : List Dataset) (now : Int) : Int :=
  (((sources.filterMap fun d => engine.freshness.get d.system d.entity).map
    SourceMeta.lastEpochSecs).min?).getD now

/-- `materialize`, up to the call of the writer. -/
def QueryEngine.materialize (reads : DeriveReads) (featured : Except QueryError Catalog)
    (stamps : Stamps) (campaignId : String) : Except QueryError MaterializeCall := do
  if hasDerive q then
    throw (invalid "a JIT Derive returns a metric, not a segment; it cannot be materialised")
  if hasCharacterize q then
    throw (invalid "a Characterize returns a profile, not a segment; it cannot be materialised")
  let compiled ← engine.compileAndCheck E toJson q tenant reads
  let asOfTs := (stamps.rfc3339 (engine.asOfEpoch compiled.sources stamps.now)).getD stamps.nowText
  let hitReason ← stamps.hitReason q
  let families := featureFamilies featured tenant
  let write ← compileWithOpts q (engine.writeOptions tenant)
  return ⟨wrapSql q.key families write, wrapParams hitReason asOfTs tenant families write, q.key,
    ⟨stamps.uuid, campaignId, asOfTs⟩⟩

end

/-! ### What is sent -/

theorem addName_named {families : SortedMap String (List String)} (name : String)
    (named : Families.Named families.entries) : Families.Named (addName families name).entries := by
  unfold addName
  cases split : splitFeatureName name with
  | error failure => exact named
  | ok parts =>
    obtain ⟨family, short⟩ := parts
    have idents := splitFeatureName_ident split
    intro entry member
    rcases SortedMap.mem_insert.mp member with rfl | ⟨-, before⟩
    · refine ⟨idents.1, fun other among => ?_⟩
      rcases mem_insertShort.mp among with rfl | held
      · exact idents.2
      · cases found : families.get family with
        | none =>
          rw [found] at held
          cases held
        | some shorts =>
          rw [found] at held
          exact (named _ (SortedMap.get_eq_some.mp found)).2 other held
    · exact named entry before

/-- Every name that is frozen has passed the allowlist. -/
theorem featureFamilies_named (read : Except QueryError Catalog) (tenant : String) :
    (featureFamilies read tenant).Named := by
  have all (names : List String) (families : SortedMap String (List String))
      (named : Families.Named families.entries) :
      Families.Named (names.foldl addName families).entries := by
    induction names generalizing families with
    | nil => exact named
    | cons name rest ih => exact ih _ (addName_named name named)
  unfold featureFamilies
  split
  · exact all _ _ (List.forall_mem_nil _)
  · exact List.forall_mem_nil _

/-! ### The rows that are selected -/

/-- The row of a key in a snapshot. -/
def Engine.snapshotRow {V : Type} (E : Engine V) (key : String) (spec : SnapshotSpec)
    (hitReason tenant : String) (pivots : List Pivot) (user : Cell) : Option (List V) :=
  (E.wrappedRow hitReason tenant pivots user).bind (E.writtenRow key spec tenant)

section
variable {V : Type} {E : Engine V} {opts : CompileOptions} {catalog : Catalog} {key tenant : String}
  {asOfTs hitReason : String} {families : Families} {write : Ast Value .query}

/-- All that the segment reads is there where every name of the selection stands for something, and
so is the store that is pivoted. -/
theorem snapshot_present {spec : SnapshotSpec} (aliased : opts.catalog = writeCatalogAlias)
    (named : isScoped (E.tables opts.catalog catalog) (snapshotPhrase key spec tenant
      (wrapPhrase key families hitReason asOfTs tenant write)) = true) :
    Present E opts catalog (write.reads .empty) ∧
      (families ≠ [] → catalog.featureStore.isSome = true) := by
  have all := isScoped_iff.mp named
  simp only [snapshotPhrase, wrapPhrase, Ast.reads, present_append] at all
  obtain ⟨⟨⟨⟨segment, joins⟩, -⟩, -⟩, -⟩ := all
  refine ⟨segment, fun some_ => ?_⟩
  obtain ⟨⟨family, shorts⟩, rest, rfl⟩ := List.exists_cons_of_ne_nil some_
  simp only [pivotJoinsPhrase, pivotPhrase, Ast.reads, present_append] at joins
  obtain ⟨⟨⟨store, -⟩, -⟩, -⟩ := joins
  have there := present_table (aliased.symm ▸ store)
  rwa [E.table_featureStore, Option.isSome_map] at there

end

section
variable {V : Type} [DecidableEq V] {E : Engine V} {opts : CompileOptions} {catalog : Catalog}
  {isRfc3339 : String → Bool} {q : SegmentQuery} {depth : Nat} {write : CompiledQuery}
  {families : Families} {spec : SnapshotSpec} {hitReason tenant : String}

/-- The selection of a snapshot gives each survivor one row. -/
theorem snapshotSelect_eval (aliased : opts.catalog = writeCatalogAlias)
    (valid : validate isRfc3339 q = .ok ()) (returned : compileAt opts q depth = .ok write)
    (keyed : hasDerive q = false) (named : families.Named) :
    (Sql.execute E.toScalars (E.tables opts.catalog catalog)
        (snapshotSelect (wrapSql q.key families write) q.key)
        (snapshotParams spec tenant (wrapParams hitReason spec.asOfTs tenant families write))).map
          Table.rows =
      if isScoped (E.tables opts.catalog catalog) (snapshotPhrase q.key spec tenant
        (wrapPhrase q.key families hitReason spec.asOfTs tenant (phraseAt opts q))) then
        ((E.population opts catalog).survivors E q).bind fun users =>
          (families.mapM (E.pivot spec.asOfTs (stored catalog))).bind fun pivots =>
            mapAll (E.snapshotRow q.key spec hitReason tenant pivots) users.val
      else none := by
  rw [Sql.execute, snapshot_statement spec hitReason tenant valid returned named, Option.bind_some,
    run]
  split
  · next resolved =>
    obtain ⟨present, store⟩ := snapshot_present aliased resolved
    have segment := @phraseAt_eval _ _ E opts catalog (.of (E.tables opts.catalog catalog))
      isRfc3339 q _ .empty (compileAt_shaped q valid depth write returned) keyed rfl present
    -- A selection from a query that fails, fails.
    have failing {subquery : Ast Value .query}
        (failed : subquery.eval E.toScalars (.of (E.tables opts.catalog catalog)) = none) :
        (snapshotPhrase q.key spec tenant subquery).eval E.toScalars
          (.of (E.tables opts.catalog catalog)) = none := by
      simp only [snapshotPhrase, Ast.eval, failed, Option.map_none, Option.bind_eq_bind,
        Option.bind_none]
    cases survive : (E.population opts catalog).survivors E q with
    | none =>
      rw [survive, Option.map_none] at segment
      rw [failing (by simp only [wrapPhrase, Ast.eval, segment, Option.map_none,
        Option.bind_eq_bind, Option.bind_none])]
      rfl
    | some users =>
      rw [survive, Option.map_some] at segment
      have wrapped := @wrapPhrase_eval _ _ E catalog (.of (E.tables opts.catalog catalog)) q.key tenant
        spec.asOfTs hitReason families _ users segment (by rw [aliased]; rfl) store
      rw [Option.bind_some]
      cases frozen : families.mapM (E.pivot spec.asOfTs (stored catalog)) with
      | none =>
        rw [frozen, Option.bind_none] at wrapped
        rw [failing wrapped]
        rfl
      | some pivots =>
        rw [frozen, Option.bind_some] at wrapped
        have rows := mapAll_bind (E.wrappedRow hitReason tenant pivots) (E.writtenRow q.key spec tenant)
          users.val
        cases made : mapAll (E.wrappedRow hitReason tenant pivots) users.val with
        | none =>
          rw [made, Option.map_none] at wrapped
          rw [made, Option.bind_none] at rows
          rw [failing wrapped]
          exact rows
        | some inner =>
          rw [made, Option.map_some] at wrapped
          rw [made, Option.bind_some] at rows
          exact (snapshotPhrase_eval wrapped).trans rows
  · rfl

/-- What a selection that returns was made of. -/
theorem snapshotSelect_rows {table : Table V} (aliased : opts.catalog = writeCatalogAlias)
    (valid : validate isRfc3339 q = .ok ()) (returned : compileAt opts q depth = .ok write)
    (keyed : hasDerive q = false) (named : families.Named)
    (ran : Sql.execute E.toScalars (E.tables opts.catalog catalog)
      (snapshotSelect (wrapSql q.key families write) q.key)
      (snapshotParams spec tenant (wrapParams hitReason spec.asOfTs tenant families write)) =
        some table) :
    ∃ users pivots, (E.population opts catalog).survivors E q = some users ∧
      families.mapM (E.pivot spec.asOfTs (stored catalog)) = some pivots ∧
      mapAll (E.snapshotRow q.key spec hitReason tenant pivots) users.val = some table.rows := by
  have whole := @snapshotSelect_eval _ _ E opts catalog _ q depth write families spec hitReason tenant
    aliased valid returned keyed named
  rw [ran, Option.map_some] at whole
  split at whole
  · obtain ⟨users, survive, whole⟩ := Option.bind_eq_some_iff.mp whole.symm
    obtain ⟨pivots, frozen, made⟩ := Option.bind_eq_some_iff.mp whole
    exact ⟨users, pivots, survive, frozen, made⟩
  · cases whole

end

/-! ### The snapshot -/

/-- A VARCHAR cell, as it is stored. -/
def cellValue (cell : Cell) : Value := cell.elim .null .text

/-- What the writer's database inserts for a selection is what the grammar means by it. -/
structure Inserts {V : Type} [DecidableEq V] (E : Engine V) (shown : V → Value) (duck : DuckDb) :
    Prop where
  selected : ∀ catalog select params query rows, statement select params = some query →
    duck.select catalog (snapshotInsert ++ select) params = .ok rows →
      ∃ table, Sql.execute E.toScalars (E.tables writeCatalogAlias catalog) select params = some table ∧
        (rows : Multiset (List Value)) = table.rows.map (List.map shown)
  cell : ∀ cell, shown (E.cell cell) = cellValue cell

/-- The columns that a row of `audience_snapshot` is told apart by. -/
def snapshotKeyColumn : Nat := 3

section
variable {V : Type} [DecidableEq V] {E : Engine V} {toJson : V → Json} {engine : QueryEngine}
  {q : SegmentQuery} {tenant campaignId : String} {reads : DeriveReads} {stamps : Stamps}
  {featured : Except QueryError Catalog} {call : MaterializeCall} {isRfc3339 : String → Bool}

omit [DecidableEq V] in
theorem lookup_zip_cons {name first : String} {names : List String} {value : V} {values : List V} :
    ((first :: names).zip (value :: values)).lookup name =
      if first = name then some value else (names.zip values).lookup name := by
  rw [List.zip_cons_cons, List.lookup_cons]
  by_cases same : first = name
  · rw [if_pos same, beq_iff_eq.mpr same.symm]
  · rw [if_neg same, beq_eq_false_iff_ne.mpr (Ne.symm same)]

omit [DecidableEq V] in
theorem snapshotRow_eq_some {key : String} {spec : SnapshotSpec} {hitReason : String}
    {pivots : List Pivot} {user : Cell} {row : List V}
    (made : E.snapshotRow key spec hitReason tenant pivots user = some row) :
    ∃ id asOf features reason, E.cast "uuid" (E.text spec.snapshotId) = some id ∧
      E.cast "timestamptz" (E.text spec.asOfTs) = some asOf ∧
      E.call "json_object" (E.frozenPairs tenant user pivots) = some features ∧
      E.cast "json" (E.text hitReason) = some reason ∧
      row = [id, E.text spec.campaignId, asOf, E.cell user,
        if foldName key = "features" then E.cell user else features,
        if foldName key = "hit_reason" then E.cell user else reason, E.text tenant] := by
  obtain ⟨wrapped, inner, made⟩ := Option.bind_eq_some_iff.mp made
  obtain ⟨features, called, inner⟩ := Option.bind_eq_some_iff.mp inner
  obtain ⟨reason, cast_, inner⟩ := Option.bind_eq_some_iff.mp inner
  obtain rfl := Option.some.inj inner
  obtain ⟨id, uuid, made⟩ := Option.bind_eq_some_iff.mp made
  obtain ⟨asOf, dated, made⟩ := Option.bind_eq_some_iff.mp made
  obtain rfl := Option.some.inj made
  refine ⟨id, asOf, features, reason, uuid, dated, called, cast_, ?_⟩
  have lookup (name : String) : (((wrappedColumns key).zip [E.cell user, features, reason]).lookup
      name).getD E.null = if foldName key = name then E.cell user else if "features" = name then features
        else if "hit_reason" = name then reason else E.null := by
    simp only [wrappedColumns, lookup_zip_cons, apply_ite (Option.getD · E.null), Option.getD_some]
    rfl
  have distinct : ("features" : String) ≠ "hit_reason" := by decide
  simp only [lookup, ↓reduceIte, distinct]

/-- What is sent of a query that materialises. -/
theorem materialize_eq_ok
    (sent : engine.materialize E toJson q tenant reads featured stamps campaignId = .ok call) :
    hasDerive q = false ∧ hasCharacterize q = false ∧ ∃ compiled hitReason write asOfTs,
      engine.compileAndCheck E toJson q tenant reads = .ok compiled ∧
      asOfTs = (stamps.rfc3339 (engine.asOfEpoch compiled.sources stamps.now)).getD stamps.nowText ∧
      stamps.hitReason q = .ok hitReason ∧
      compileWithOpts q (engine.writeOptions tenant) = .ok write ∧
      call = ⟨wrapSql q.key (featureFamilies featured tenant) write,
        wrapParams hitReason asOfTs tenant (featureFamilies featured tenant) write, q.key,
        ⟨stamps.uuid, campaignId, asOfTs⟩⟩ := by
  unfold QueryEngine.materialize at sent
  cases derives : hasDerive q with
  | true =>
    rw [derives] at sent
    cases sent
  | false =>
    rw [derives] at sent
    cases profiles : hasCharacterize q with
    | true =>
      rw [profiles] at sent
      cases sent
    | false =>
      rw [profiles] at sent
      obtain ⟨compiled, checked, sent⟩ := except_bind_eq_ok.mp sent
      obtain ⟨hitReason, serialized, sent⟩ := except_bind_eq_ok.mp sent
      obtain ⟨write, returned, sent⟩ := except_bind_eq_ok.mp sent
      exact ⟨rfl, rfl, compiled, hitReason, write, _, checked, rfl, serialized, returned,
        (Except.ok.inj sent).symm⟩

omit [DecidableEq V] in
theorem writeOptions_catalog : (engine.writeOptions tenant).catalog = writeCatalogAlias := by
  change foldName writeCatalogAlias = writeCatalogAlias
  decide

/-- A snapshot that was written has a row for each survivor of the state it was written on. -/
theorem materialized_rows {shown : V → Value} {writer after : Writer} {n : Nat}
    (inserts : Inserts E shown writer.duck) (valid : validate isRfc3339 q = .ok ())
    (sent : engine.materialize E toJson q tenant reads featured stamps campaignId = .ok call)
    (own : writer.tenant = tenant)
    (wrote : materializeSnapshot call.wrapSql call.wrapParams call.key call.spec writer = (.ok n, after)) :
    ∃ users pivots made hitReason, ∃ rows : List (List Value),
      (E.population (engine.readOptions tenant) writer.durable.catalog).survivors E q = some users ∧
      (featureFamilies featured tenant).mapM
        (E.pivot call.spec.asOfTs (stored writer.durable.catalog)) = some pivots ∧
      stamps.hitReason q = .ok hitReason ∧
      mapAll (E.snapshotRow q.key call.spec hitReason tenant pivots) users.val = some made ∧
      (rows : Multiset (List Value)) = made.map (List.map shown) ∧
      rows.length = n ∧ after.durable.catalog = writer.durable.catalog.addSnapshot rows := by
  obtain ⟨keyed, -, compiled, hitReason, write, asOfTs, -, -, text, returned, rfl⟩ :=
    materialize_eq_ok sent
  obtain ⟨rows, answered, counted, left⟩ := materializeSnapshot_wrote wrote
  have named := featureFamilies_named featured tenant
  rw [Writer.snapshotRows, snapshotStatement_eq, own] at answered
  have reads_ := @snapshot_statement isRfc3339 (engine.writeOptions tenant) q 0 write _
    ⟨stamps.uuid, campaignId, asOfTs⟩ hitReason tenant valid returned named
  obtain ⟨table, ran, stored_⟩ := inserts.selected _ _ _ _ _ reads_ answered
  obtain ⟨users, pivots, survive, frozen, made⟩ := snapshotSelect_rows
    (@writeOptions_catalog engine tenant) valid returned keyed named
      (by rw [writeOptions_catalog]; exact ran)
  exact ⟨users, pivots, table.rows, hitReason, rows, survive, frozen, text, made, stored_,
    counted.symm, left⟩

/-- A query that returns rows returns its survivors. -/
theorem runSync_rows {catalog : Catalog} {answer : Table V} (valid : validate isRfc3339 q = .ok ())
    (keyed : hasDerive q = false) (attached : reads.ran = .ok catalog)
    (ran : engine.runSync E toJson q tenant reads = .ok answer) :
    ∃ users, (E.population (engine.readOptions tenant) catalog).survivors E q = some users ∧
      answer = E.keyTable (foldName q.key) users := by
  unfold QueryEngine.runSync QueryEngine.compileAndCheck at ran
  obtain ⟨compiled, checked, ran⟩ := except_bind_eq_ok.mp ran
  obtain ⟨⟨⟩, -, ran⟩ := except_bind_eq_ok.mp ran
  obtain ⟨state, same, ran⟩ := except_bind_eq_ok.mp ran
  obtain rfl := Except.ok.inj (attached.symm.trans same)
  obtain ⟨table, answered, ran⟩ := except_bind_eq_ok.mp ran
  obtain ⟨⟨⟩, -, checked⟩ := except_bind_eq_ok.mp checked
  rw [keyed, if_neg Bool.false_ne_true] at checked
  have whole := @execute_rows _ _ E (engine.readOptions tenant) catalog isRfc3339 q 0 compiled valid
    checked keyed
  rw [ranOn_ok.mp answered] at whole
  split at ran
  · cases ran
  · obtain rfl := Except.ok.inj ran
    split at whole
    · obtain ⟨users, survive, rfl⟩ := Option.map_eq_some_iff.mp whole.symm
      exact ⟨users, survive, rfl⟩
    · cases whole

omit [DecidableEq V] in
theorem cellValue_injective : Function.Injective cellValue := by
  intro first second same
  cases first with
  | none =>
    cases second with
    | none => rfl
    | some text => cases same
  | some text =>
    cases second with
    | none => cases same
    | some other => exact congrArg some (Value.text.inj same)

/-- A snapshot of the state that a run reads has the keys of the run, each once. -/
theorem materialize_agrees {shown : V → Value} {writer after : Writer} {answer : Table V} {n : Nat}
    {others : DeriveReads} (inserts : Inserts E shown writer.duck)
    (valid : validate isRfc3339 q = .ok ()) (attached : reads.ran = .ok writer.durable.catalog)
    (ran : engine.runSync E toJson q tenant reads = .ok answer)
    (sent : engine.materialize E toJson q tenant others featured stamps campaignId = .ok call)
    (own : writer.tenant = tenant)
    (wrote : materializeSnapshot call.wrapSql call.wrapParams call.key call.spec writer = (.ok n, after)) :
    ∃ rows : List (List Value), after.durable.catalog = writer.durable.catalog.addSnapshot rows ∧
      rows.length = answer.rows.card ∧ n = answer.rows.card ∧
      (rows.map (·[snapshotKeyColumn]?)).Nodup ∧
      ∀ key, key ∈ rows.map (·[snapshotKeyColumn]?) ↔
        ∃ user, [E.cell user] ∈ answer.rows ∧ key = some (cellValue user) := by
  obtain ⟨keyed, -⟩ := materialize_eq_ok sent
  obtain ⟨users, pivots, made, hitReason, rows, survive, -, -, each, stored_, counted, left⟩ :=
    materialized_rows inserts valid sent own wrote
  obtain ⟨found, alike_, rfl⟩ := runSync_rows valid keyed attached ran
  obtain rfl := Option.some.inj (survive.symm.trans alike_)
  have keys : ((rows : Multiset (List Value)).map fun row => row[snapshotKeyColumn]?) =
      users.val.map fun user => some (cellValue user) := by
    rw [stored_, Multiset.map_map]
    refine mapAll_read each fun user row made => ?_
    obtain ⟨id, asOf, features, reason, -, -, -, -, rfl⟩ := snapshotRow_eq_some made
    exact congrArg some (inserts.cell user)
  have size : rows.length = users.card := by
    have cards := congrArg Multiset.card keys
    rwa [Multiset.card_map, Multiset.card_map, Multiset.coe_card, Finset.card_val] at cards
  have once : Function.Injective fun user => some (cellValue user) :=
    (Option.some_injective _).comp cellValue_injective
  have whole : (E.keyTable (foldName q.key) users).rows.card = users.card :=
    (Multiset.card_map _ _).trans (Finset.card_val users)
  refine ⟨rows, left, size.trans whole.symm, counted.symm.trans (size.trans whole.symm), ?_,
    fun key => ?_⟩
  · rw [← Multiset.coe_nodup, ← Multiset.map_coe, keys]
    exact users.nodup.map once
  · rw [← Multiset.mem_coe, ← Multiset.map_coe, keys, Multiset.mem_map]
    exact exists_congr fun user => and_congr key_mem_keys.symm eq_comm

end

/-! ### One order -/

/-- An object of at most one number, as JSON text. -/
def jsonObject : List Datum → String
  | [] => "\x7b\x7d"
  | [.text name, .number q] =>
      "\x7b\"" ++ name ++ "\":" ++ toString (q.num / q.den) ++ "." ++
        toString (q.num * 10 / q.den % 10) ++ "\x7d"
  | _ => ""

/-- The plain engine with what a snapshot is made by, in which every cut-off is at 0. -/
noncomputable def jsonEngine : Engine Datum :=
  { plainEngine 0 fun _ => some 0 with
    cast := fun type value =>
      if type = "uuid" ∨ type = "json" then some value else Datum.cast (fun _ => some 0) type value
    call := fun function args =>
      if function = "json_object" then some (.text (jsonObject args))
      else match function, args with
        | "starts_with", [.text text, .text front] =>
            some (.flag (front.toList.isPrefixOf text.toList))
        | _, _ => Datum.call 0 function args
    cast_timestamptz := fun s => by
      rw [if_neg (by decide)]
      exact (plainEngine 0 fun _ => some 0).cast_timestamptz s
    aggregate_count := (plainEngine 0 fun _ => some 0).aggregate_count
    aggregate_newest := (plainEngine 0 fun _ => some 0).aggregate_newest }

/-- A value, as it is stored. -/
def Datum.value : Datum → Value
  | .text s => .text s
  | .number q => .double q
  | .flag b => .boolean b
  | _ => .null

open Classical in
/-- A database that inserts what the grammar means by a selection. -/
noncomputable def insertingDuck {V : Type} (E : Engine V) (shown : V → Value) : DuckDb where
  rejects _ := false
  castUuid := some
  castTimestamptz := E.castTimestamptz
  castJson := some
  select catalog sql params :=
    if selection : ∃ select, sql = snapshotInsert ++ select then
      match Sql.execute E.toScalars (E.tables writeCatalogAlias catalog) selection.choose params with
      | some table => .ok (table.rows.map (List.map shown)).toList
      | none => .error "invalid"
    else .error "invalid"

theorem insertingDuck_select {V : Type} [DecidableEq V] {E : Engine V} {shown : V → Value}
    (catalog : Catalog) (select : String) (params : List Value) :
    (insertingDuck E shown).select catalog (snapshotInsert ++ select) params =
      match Sql.execute E.toScalars (E.tables writeCatalogAlias catalog) select params with
      | some table => .ok (table.rows.map (List.map shown)).toList
      | none => .error "invalid" := by
  have selection : ∃ other, snapshotInsert ++ select = snapshotInsert ++ other := ⟨select, rfl⟩
  have same : selection.choose = select := by
    have chars := congrArg String.toList selection.choose_spec
    rw [String.toList_append, String.toList_append, List.append_cancel_left_eq] at chars
    exact (String.toList_injective chars).symm
  unfold insertingDuck
  simp only [selection, ↓reduceDIte, same]
  congr!

theorem insertingDuck_inserts {V : Type} [DecidableEq V] {E : Engine V} {shown : V → Value}
    (cell : ∀ cell, shown (E.cell cell) = cellValue cell) :
    Inserts E shown (insertingDuck E shown) where
  cell := cell
  selected catalog select params query rows _ answered := by
    rw [insertingDuck_select] at answered
    split at answered
    · next table ran =>
      refine ⟨table, ran, ?_⟩
      rw [← Except.ok.inj answered, Multiset.coe_toList]
    · cases answered

/-- Every user with an order. -/
def everyOrder : SegmentQuery := ⟨⟨"erp", "orders"⟩, "user_id", [], none⟩

/-- An order of a user. -/
def orderOnly : Catalog := withBase Catalog.empty (baseOf "u1" "acme")

def ruledEngine : QueryEngine where
  guardrails := ⟨1000, 1000, 1000, false⟩
  freshness := FreshnessRegistry.new
  suppression := ⟨true, none⟩

/-- Reads that all are on one state. -/
def readsOnly (state : Catalog) : DeriveReads := ⟨.ok (), .ok state, .ok (), .ok state, .survivorUnbounded⟩

def newYearStamps : Stamps where
  now := 1735689600
  rfc3339 _ := some "2025-01-01T00:00:00+00:00"
  nowText := "2025-01-01T00:00:00+00:00"
  uuid := "0194203e-0000-7000-8000-000000000000"
  opsText _ := .ok "[]"

def newYearSpec : SnapshotSpec := ⟨newYearStamps.uuid, "spring", "2025-01-01T00:00:00+00:00"⟩

/-- A writer for the tenant over a state. -/
noncomputable def jsonWriter (state : Catalog) : Writer :=
  { freshWriter with
    duck := insertingDuck jsonEngine Datum.value
    durable := ⟨state, []⟩ }

theorem everyOrder_survivors {opts : CompileOptions} (catalog : Catalog) (own : opts.tenant = "acme") :
    (jsonEngine.population opts (withBase catalog (baseOf "u1" "acme"))).survivors
      jsonEngine everyOrder = some {some "u1"} := by
  have only : (jsonEngine.population opts
      (withBase catalog (baseOf "u1" "acme"))).rows ⟨"erp", "orders"⟩ =
        {rowOf ["user_id", "tenant_id"] [some "u1", some "acme"]} := by
    rw [Engine.population, own]
    exact @ownRows_baseOf catalog "u1" "acme"
  have user : rowOf ["user_id", "tenant_id"] [some "u1", some "acme"] (foldName "user_id") =
      some "u1" := by decide
  rw [everyOrder, survivors_level (List.forall_mem_nil _), Population.level, only]
  simp only [List.map_nil, Truth.all_nil, keep_yes, Option.map_some, Multiset.map_singleton, user,
    Multiset.toFinset_singleton]

theorem everyOrder_runs (catalog : Catalog) : ∃ answer,
    ruledEngine.runSync jsonEngine Datum.toJson everyOrder "acme"
      (readsOnly (withBase catalog (baseOf "u1" "acme"))) = .ok answer := by
  obtain ⟨compiled, returned⟩ : ∃ compiled,
      compileWithOpts everyOrder (ruledEngine.readOptions "acme") = .ok compiled := ⟨_, rfl⟩
  have whole := @execute_rows _ _ jsonEngine (ruledEngine.readOptions "acme")
    (withBase catalog (baseOf "u1" "acme")) (fun _ => true) everyOrder 0 compiled rfl returned rfl
  have named : isScoped (jsonEngine.tables (ruledEngine.readOptions "acme").catalog
      (withBase catalog (baseOf "u1" "acme"))) (phraseAt (ruledEngine.readOptions "acme") everyOrder) =
        true := @base_isScoped _ jsonEngine catalog "u1" "acme"
  rw [if_pos named, everyOrder_survivors catalog rfl, Option.map_some] at whole
  have few : ¬ ruledEngine.guardrails.maxOutputRows <
      (jsonEngine.keyTable (foldName everyOrder.key) {some "u1"}).rows.card := by
    simp [Engine.keyTable, ruledEngine]
  exact ⟨_, except_bind_eq_ok.mpr ⟨compiled, returned, except_bind_eq_ok.mpr ⟨(), rfl,
    except_bind_eq_ok.mpr ⟨_, rfl, except_bind_eq_ok.mpr ⟨_, ranOn_ok.mpr whole, if_neg few⟩⟩⟩⟩⟩

/-- A snapshot of the orders is written. -/
theorem everyOrder_writes (catalog : Catalog) (featured : Except QueryError Catalog)
    (frozen : ((featureFamilies featured "acme").mapM (jsonEngine.pivot
      newYearSpec.asOfTs (stored (withBase catalog (baseOf "u1" "acme"))))).isSome = true)
    (named : ∀ spec hitReason, isScoped (jsonEngine.tables writeCatalogAlias
      (withBase catalog (baseOf "u1" "acme"))) (snapshotPhrase everyOrder.key spec "acme" (wrapPhrase
        everyOrder.key (featureFamilies featured "acme") hitReason spec.asOfTs "acme"
          (phraseAt (ruledEngine.writeOptions "acme") everyOrder))) = true) :
    ∃ call n after, ruledEngine.materialize jsonEngine Datum.toJson everyOrder "acme"
        (readsOnly (withBase catalog (baseOf "u1" "acme"))) featured newYearStamps "spring" = .ok call ∧
      materializeSnapshot call.wrapSql call.wrapParams call.key call.spec
        (jsonWriter (withBase catalog (baseOf "u1" "acme"))) = (.ok n, after) := by
  obtain ⟨compiled, returned⟩ : ∃ compiled,
      compileWithOpts everyOrder (ruledEngine.readOptions "acme") = .ok compiled := ⟨_, rfl⟩
  obtain ⟨write, written⟩ : ∃ write,
      compileWithOpts everyOrder (ruledEngine.writeOptions "acme") = .ok write := ⟨_, rfl⟩
  let call : MaterializeCall := ⟨wrapSql everyOrder.key (featureFamilies featured "acme") write,
    wrapParams "[]" newYearSpec.asOfTs "acme" (featureFamilies featured "acme") write, everyOrder.key,
    newYearSpec⟩
  have sent : ruledEngine.materialize jsonEngine Datum.toJson everyOrder "acme"
      (readsOnly (withBase catalog (baseOf "u1" "acme"))) featured newYearStamps "spring" = .ok call :=
    except_bind_eq_ok.mpr ⟨compiled, returned, except_bind_eq_ok.mpr ⟨"[]", rfl,
      except_bind_eq_ok.mpr ⟨write, written, rfl⟩⟩⟩
  obtain ⟨pivots, pivoted⟩ := Option.isSome_iff_exists.mp frozen
  have whole := @snapshotSelect_eval _ _ jsonEngine (ruledEngine.writeOptions "acme")
    (withBase catalog (baseOf "u1" "acme")) (fun _ => true) everyOrder 0 write
    (featureFamilies featured "acme")
    newYearSpec "[]" "acme" writeOptions_catalog rfl
    written rfl (featureFamilies_named featured "acme")
  have row : ∃ row, jsonEngine.snapshotRow everyOrder.key
      newYearSpec "[]" "acme" pivots (some "u1") =
        some row := ⟨_, rfl⟩
  obtain ⟨row, made⟩ := row
  rw [writeOptions_catalog, if_pos (named _ _), everyOrder_survivors catalog rfl, Option.bind_some,
    pivoted, Option.bind_some, Finset.singleton_val, mapAll_singleton, made, Option.map_some] at whole
  obtain ⟨table, ran, -⟩ := Option.map_eq_some_iff.mp whole
  have answered : (jsonWriter (withBase catalog (baseOf "u1" "acme"))).snapshotRows call.wrapSql
      call.wrapParams call.key call.spec (withBase catalog (baseOf "u1" "acme")) =
        .ok (table.rows.map (List.map Datum.value)).toList := by
    have opened : Sql.execute jsonEngine.toScalars (jsonEngine.tables writeCatalogAlias
        (withBase catalog (baseOf "u1" "acme")).openSnapshots) (snapshotSelect call.wrapSql call.key)
          (snapshotParams call.spec "acme" call.wrapParams) = some table := ran
    have own : (jsonWriter (withBase catalog (baseOf "u1" "acme"))).tenant = "acme" := rfl
    rw [Writer.snapshotRows, snapshotStatement_eq, own]
    refine (insertingDuck_select _ _ _).trans ?_
    rw [opened]
  have ident : isIdent everyOrder.key = true := by decide
  obtain ⟨n, after, wrote, -⟩ := materializeSnapshot_accepts ident answered fun _ => rfl
  exact ⟨call, n, after, sent, wrote⟩

theorem materialize_agrees_everyOrder : ∃ answer call n after, ∃ rows : List (List Value),
    ruledEngine.runSync jsonEngine Datum.toJson everyOrder "acme" (readsOnly orderOnly) = .ok answer ∧
    ruledEngine.materialize jsonEngine Datum.toJson everyOrder "acme" (readsOnly orderOnly)
      (.ok orderOnly) newYearStamps "spring" = .ok call ∧
    materializeSnapshot call.wrapSql call.wrapParams call.key call.spec (jsonWriter orderOnly) =
      (.ok n, after) ∧
    after.durable.catalog = orderOnly.addSnapshot rows ∧ rows.length = answer.rows.card ∧
    n = answer.rows.card ∧ (rows.map (·[snapshotKeyColumn]?)).Nodup ∧
    ∀ key, key ∈ rows.map (·[snapshotKeyColumn]?) ↔
      ∃ user, [jsonEngine.cell user] ∈ answer.rows ∧ key = some (cellValue user) := by
  obtain ⟨answer, ran⟩ := everyOrder_runs Catalog.empty
  obtain ⟨call, n, after, sent, wrote⟩ := everyOrder_writes Catalog.empty (.ok orderOnly) rfl
    fun spec hitReason => rfl
  have valid : validate (fun _ => true) everyOrder = .ok () := rfl
  obtain ⟨rows, agrees⟩ := materialize_agrees (insertingDuck_inserts fun cell => by cases cell <;> rfl)
    valid rfl ran sent rfl wrote
  exact ⟨answer, call, n, after, rows, ran, sent, wrote, agrees⟩

end ConsumerEngine.Query
