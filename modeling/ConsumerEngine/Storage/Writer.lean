import Mathlib.Data.String.Basic
import ConsumerEngine.Foundation.SortedMap
import ConsumerEngine.Storage.Statements

/-! The single writer: one connection, the tenant it stamps, the write generation.

Outside a transaction every accepted statement is committed at once. Inside one,
`rollbackTo` holds what was committed before it; a rejected COMMIT ends the
transaction without effect, and ROLLBACK always succeeds.
-/

set_option autoImplicit false

namespace ConsumerEngine.Storage

open ConsumerEngine.Core ConsumerEngine.Foundation

/-- A catalogue and the statements that brought it about, newest last. -/
structure Durable where
  catalog : Catalog
  history : List Statement

/-- `Writer`. `issued` counts the statements sent so far. -/
structure Writer where
  duck : DuckDb
  durable : Durable
  rollbackTo : Option Durable
  issued : Nat
  tenant : String
  writeGen : Nat
  maintenanceAvailable : Bool

/-- A writer over an empty catalogue whose statements are all taken. -/
def freshWriter : Writer where
  duck := ⟨fun _ => false, fun _ => none, fun _ => none, fun _ => none, fun _ _ _ => .ok []⟩
  durable := ⟨Catalog.empty, []⟩
  rollbackTo := none
  issued := 0
  tenant := "acme"
  writeGen := 0
  maintenanceAvailable := false

/-- What a fresh attach sees. -/
def Writer.committed (writer : Writer) : Durable := writer.rollbackTo.getD writer.durable

def Writer.setTenant (writer : Writer) (tenant : String) : Writer := { writer with tenant }

abbrev Session (α : Type) : Type := Effect Writer Error α

def ensure (condition : Bool) (failure : Error) : Session Unit :=
  if condition then pure () else Effect.throw failure

/-- Send one statement and return the rows it affected. -/
def execute (statement : Statement) : Session Nat := fun writer =>
  let sent := { writer with issued := writer.issued + 1 }
  if writer.duck.rejects writer.issued then (.error (.storage "statement failed"), sent)
  else
    match statement.apply writer.duck writer.durable.catalog with
    | .error message => (.error (.storage message), sent)
    | .ok (affected, catalog) =>
        (.ok affected, { sent with durable := ⟨catalog, writer.durable.history ++ [statement]⟩ })

/-- The loop of the chunked writes: send statements in order, stopping at the first
that fails, and add up the affected rows. -/
def executeFrom (affected : Nat) : List Statement → Session Nat
  | [] => pure affected
  | statement :: rest => do
      let n ← execute statement
      executeFrom (affected + n) rest

def executeAll (statements : List Statement) : Session Nat := executeFrom 0 statements

/-- Send a read-only statement. -/
def read {α : Type} (query : Catalog → Except String α) : Session α := fun writer =>
  let sent := { writer with issued := writer.issued + 1 }
  if writer.duck.rejects writer.issued then (.error (.storage "statement failed"), sent)
  else
    match query writer.durable.catalog with
    | .error message => (.error (.storage message), sent)
    | .ok value => (.ok value, sent)

def beginTransaction : Session Unit := fun writer =>
  let sent := { writer with issued := writer.issued + 1 }
  if writer.duck.rejects writer.issued then (.error (.storage "statement failed"), sent)
  else (.ok (), { sent with rollbackTo := some writer.durable })

def rollback : Session Unit := fun writer =>
  (.ok (), { writer with
    issued := writer.issued + 1
    durable := writer.committed
    rollbackTo := none })

def commit : Session Unit := fun writer =>
  if writer.duck.rejects writer.issued then
    (.error (.storage "statement failed"), { writer with
      issued := writer.issued + 1
      durable := writer.committed
      rollbackTo := none })
  else (.ok (), { writer with issued := writer.issued + 1, rollbackTo := none })

/-- `Writer::bump_write`: advance the generation the read pool watches. -/
def bumpWrite : Session Unit := Effect.modify fun writer =>
  { writer with writeGen := writer.writeGen + 1 }

/-- BEGIN, the body, then COMMIT and a bump; on any failure of the body, ROLLBACK. -/
def transaction {α : Type} (body : Session α) : Session α := do
  beginTransaction
  match ← Effect.attempt body with
  | .ok result => do
      commit
      bumpWrite
      return result
  | .error failure => do
      rollback
      Effect.throw failure

/-! ### Tables -/

/-- `raw_table_name`: a dataset whose table name is sound. -/
def rawTableName (system entity : String) : Except Error Dataset := do
  validateIdent system
  validateIdent entity
  return ⟨system, entity⟩

def ensureEngineTable (table : EngineTable) : Session Unit := do
  let _ ← execute (.createEngine table)
  let _ ← execute (.addEngineTenant table)

/-- The shared prologue of the raw writes: create the table, add the tenant column. -/
def ensureRawTable (table : Dataset) (columns : List String) : Session Unit := do
  let _ ← execute (.createRaw table (columns ++ ["tenant_id"]))
  let _ ← execute (.addTenantColumn table)

/-- DuckDB's maximum bound parameters per prepared statement. -/
def maxParams : Nat := 65535

/-- `insert_chunked`. `chunks(0)` panics, which a row wider than `maxParams` causes. -/
def insertChunked {ρ : Type} (cols : Nat) (rows : List ρ) (statement : List ρ → Statement) :
    Session Nat := do
  if rows.isEmpty then return 0
  let chunkRows := min 500 (maxParams / max cols 1)
  if chunkRows = 0 then Effect.throw (.panicked "chunk size must be non-zero")
  else executeAll ((chunks chunkRows rows).map statement)

/-- `Writer::ingest_raw`. -/
def ingestRaw (system entity : String) (columns : List String) (rows : List (List Cell)) :
    Session Nat := do
  ensure (!columns.isEmpty) (.invalidInput "columns must not be empty")
  Effect.lift (columns.forM validateIdent)
  let table ← Effect.lift (rawTableName system entity)
  ensureRawTable table columns
  if rows.isEmpty then return 0
  let writer ← Effect.get
  let n ← insertChunked (columns.length + 1) rows fun chunk =>
    .insertRaw table (columns ++ ["tenant_id"]) chunk.length
      (chunk.flatMap fun row => row ++ [some writer.tenant])
  bumpWrite
  return n

/-! ### Keyed writes -/

/-- The key cell of a row; a missing cell counts as NULL. -/
def keyCell (keyIndex : Nat) (row : List Cell) : Cell := (row[keyIndex]?).join

/-- One iteration of `dedup_by_key` over the kept rows: replace the row already
kept under the key, or append. The key's position in the list never moves. -/
def dedupStep (keyIndex : Nat) (kept : List (List Cell)) (row : List Cell) : List (List Cell) :=
  match keyCell keyIndex row with
  | none => kept
  | some key =>
      if kept.any (fun seen => keyCell keyIndex seen = some key) then
        kept.map fun seen => if keyCell keyIndex seen = some key then row else seen
      else kept ++ [row]

/-- `Writer::dedup_by_key`: last row per key wins, NULL-key rows are skipped. -/
def dedupByKey (rows : List (List Cell)) (keyIndex : Nat) : List (List Cell) :=
  rows.foldl (dedupStep keyIndex) []

/-- `MERGE_CHUNK_ROWS` and `MERGE_CHUNK_KEYS`. -/
def mergeChunk : Nat := 500

/-- `Writer::merge_upserts`. -/
def mergeUpserts (table : Dataset) (columns : List String) (key : String)
    (deduped : List (List Cell)) : Session Nat := do
  let writer ← Effect.get
  executeAll ((chunks mergeChunk deduped).map fun chunk =>
    .mergeUpsert table (columns ++ ["tenant_id"]) key chunk.length
      (chunk.flatMap fun row => row ++ [some writer.tenant]))

/-- `Writer::merge_deletes`. -/
def mergeDeletes (table : Dataset) (key : String) (keys : List String) : Session Nat := do
  let writer ← Effect.get
  executeAll ((chunks mergeChunk keys).map fun chunk => .mergeDelete table key chunk writer.tenant)

def notAColumn (key : String) : Error :=
  .invalidInput ("merge key " ++ debugQuoted key ++ " must be a column")

/-- `Writer::upsert_raw`. -/
def upsertRaw (system entity : String) (columns : List String) (key : String)
    (rows : List (List Cell)) : Session Nat := do
  ensure (!columns.isEmpty) (.invalidInput "columns must not be empty")
  Effect.lift (columns.forM validateIdent)
  Effect.lift (validateIdent key)
  ensure (columns.contains key) (notAColumn key)
  let table ← Effect.lift (rawTableName system entity)
  ensureRawTable table columns
  if rows.isEmpty then return 0
  let affected ← mergeUpserts table columns key (dedupByKey rows (columns.idxOf key))
  bumpWrite
  return affected

/-- `Writer::delete_raw`. -/
def deleteRaw (system entity key : String) (keys : List String) : Session Nat := do
  Effect.lift (validateIdent key)
  let table ← Effect.lift (rawTableName system entity)
  if keys.isEmpty then return 0
  let affected ← mergeDeletes table key keys
  bumpWrite
  return affected

/-- `Writer::apply_cdc_batch`: rows, deletes and offsets in one transaction. -/
def applyCdcBatch (system entity : String) (columns : List String) (key : String)
    (upserts : List (List Cell)) (deletes : List String) (offsets : List (Int × Int))
    (updatedAt : String) : Session Nat := do
  ensure (!columns.isEmpty) (.invalidInput "columns must not be empty")
  Effect.lift (columns.forM validateIdent)
  Effect.lift (validateIdent key)
  ensure (columns.contains key) (notAColumn key)
  let table ← Effect.lift (rawTableName system entity)
  transaction do
    ensureRawTable table columns
    let _ ← execute (.createEngine .cdcOffsets)
    let written ← mergeUpserts table columns key (dedupByKey upserts (columns.idxOf key))
    let _ ← mergeDeletes table key deletes
    let _ ← executeAll (offsets.map fun offset =>
      .mergeOffset ⟨system ++ "." ++ entity, offset.1, offset.2, updatedAt⟩)
    return written

/-- `Writer::read_cdc_offsets`. -/
def readCdcOffsets (source : String) : Session (List (Int × Int)) := do
  let _ ← execute (.createEngine .cdcOffsets)
  read fun catalog => do
    let rows ← presentIf catalog.cdcOffsets
    return (rows.filter (fun row => row.source = source)).map (fun row => (row.part, row.cdcOffset))

/-! ### Features, catalogue, suppression, snapshots, maintenance -/

/-- `Writer::write_feature_rows`. -/
def writeFeatureRows (rows : List FeatureRow) : Session Nat := do
  if rows.isEmpty then return 0
  Effect.lift (rows.forM fun row => do
    relabel "feature_name: " (validateFeatureName row.featureName)
    relabel "producer_id: " (validateFeatureName row.producerId))
  ensureEngineTable .featureStore
  let writer ← Effect.get
  insertChunked 6 rows fun chunk => .insertFeatures chunk writer.tenant
where
  relabel (label : String) : Except Error Unit → Except Error Unit
    | .error (.invalidInput message) => .error (.invalidInput (label ++ "invalid input: " ++ message))
    | other => other

/-- A `BTreeSet` of strings as its sorted list. -/
def insertShort (shorts : List String) (short : String) : List String :=
  if shorts.contains short then shorts
  else shorts.takeWhile (· < short) ++ short :: shorts.dropWhile (· < short)

/-- `Writer::feature_short_names`. -/
def featureShortNames (family : String) : Session (List String) := do
  Effect.lift (validateIdent family)
  ensureEngineTable .featureStore
  read fun catalog => do
    let rows ← presentIf catalog.featureStore
    let named := rows.filter (fun row => (family ++ ".").toList.isPrefixOf row.featureName.toList)
    return named.foldl (fun shorts row =>
      match splitOnce '.' row.featureName with
      | some (_, short) => insertShort shorts short
      | none => shorts) []

/-- `Writer::refresh_feature_wide_view`. -/
def refreshFeatureWideView (family : String) (shorts : List String) : Session Unit := do
  Effect.lift (validateIdent family)
  if shorts.isEmpty then return ()
  ensureEngineTable .featureStore
  Effect.lift (shorts.forM validateIdent)
  let _ ← execute (.createView family shorts)

/-- The short names of a batch, grouped by family. -/
def batchFamilies (rows : List FeatureRow) : Except Error (SortedMap String (List String)) :=
  rows.foldlM (fun families row => do
    let (family, short) ← splitFeatureName row.featureName
    return families.insert family (insertShort ((families.get family).getD []) short))
    SortedMap.empty

/-- `Writer::write_features_and_refresh`. -/
def writeFeaturesAndRefresh (rows : List FeatureRow) : Session Nat := do
  if rows.isEmpty then return 0
  transaction do
    let n ← writeFeatureRows rows
    let families ← Effect.lift (batchFamilies rows)
    families.entries.foldlM (fun _ entry => do
      let stored ← featureShortNames entry.1
      refreshFeatureWideView entry.1 (entry.2.foldl insertShort stored)) ()
    return n

/-- `Writer::write_catalog_rows`. -/
def writeCatalogRows (rows : List CatalogRow) : Session Nat := do
  if rows.isEmpty then return 0
  ensureEngineTable .semanticCatalog
  let dim := (rows.head?.map (fun row => row.embedding.length)).getD 0
  Effect.lift (rows.forM fun row =>
    if row.embedding.length = dim then .ok ()
    else .error (.invalidInput ("catalog embedding dimension mismatch: expected " ++ toString dim ++
      ", got " ++ toString row.embedding.length)))
  let writer ← Effect.get
  let written ← executeAll (rows.map fun row => .insertCatalogRow row writer.tenant)
  bumpWrite
  return written

/-- `Writer::write_suppression_idempotent`. -/
def writeSuppressionIdempotent (rows : List SuppressionRow) : Session Nat := do
  if rows.isEmpty then return 0
  ensureEngineTable .suppression
  let writer ← Effect.get
  let written ← executeAll (rows.map fun row => .insertSuppression row writer.tenant)
  bumpWrite
  return written

/-- The `INSERT … SELECT` of `materialize_snapshot` around a compiled selection. -/
def snapshotStatement (subquerySql keyColumn : String) : String :=
  "INSERT INTO " ++ writeCatalogAlias ++ ".audience_snapshot (snapshot_id, campaign_id, as_of_ts, " ++
  "user_id, features, hit_reason, tenant_id) SELECT CAST(? AS UUID), ?, CAST(? AS TIMESTAMPTZ), " ++
  "sub." ++ keyColumn ++ ", sub.features, sub.hit_reason, ? FROM (" ++ subquerySql ++ ") sub"

/-- The parameters bound to it: the snapshot's scalars, the tenant, the selection's own. -/
def snapshotParams (spec : SnapshotSpec) (tenant : String) (subqueryParams : List Value) :
    List Value :=
  [.text spec.snapshotId, .text spec.campaignId, .text spec.asOfTs, .text tenant] ++ subqueryParams

/-- `Writer::materialize_snapshot`. -/
def materializeSnapshot (subquerySql : String) (subqueryParams : List Value) (keyColumn : String)
    (spec : SnapshotSpec) : Session Nat := do
  Effect.lift (validateIdent keyColumn)
  ensureEngineTable .audienceSnapshot
  let writer ← Effect.get
  let n ← execute (.insertSnapshot (snapshotStatement subquerySql keyColumn)
    (snapshotParams spec writer.tenant subqueryParams))
  bumpWrite
  return n

/-- `Writer::export_snapshot_parquet`. -/
def exportSnapshotParquet (snapshotId dest : String) : Session Unit := do
  let _ ← execute (.maintenance ("COPY " ++ snapshotId ++ " TO " ++ dest))

/-- `Writer::compact`. -/
def compact (system entity : String) : Session Unit := do
  let table ← Effect.lift (rawTableName system entity)
  let _ ← execute (.maintenance ("CALL ducklake_merge_adjacent_files('" ++ writeCatalogAlias ++
    "', 'raw_" ++ table.system ++ "_" ++ table.entity ++ "');"))
  bumpWrite

/-- `Writer::probe_maintenance`: remember whether the build can bind the procedures. -/
def probeMaintenance : Session Unit := do
  let writer ← Effect.get
  if writer.maintenanceAvailable then return ()
  let outcome ← Effect.attempt (execute (.maintenance "CALL ducklake_expire_snapshots"))
  Effect.modify fun writer => { writer with maintenanceAvailable := outcome.isOk }

/-- `Writer::expire_snapshots` and `Writer::delete_orphaned_files`, by their procedure. -/
def maintain (procedure : String) (retentionDays : Nat) : Session Unit := do
  probeMaintenance
  let writer ← Effect.get
  if writer.maintenanceAvailable then do
    let _ ← execute (.maintenance ("CALL " ++ procedure ++ toString retentionDays))
    bumpWrite
  else return ()

def expireSnapshots (retentionDays : Nat) : Session Unit :=
  maintain "ducklake_expire_snapshots" retentionDays

def deleteOrphanedFiles (retentionDays : Nat) : Session Unit :=
  maintain "ducklake_delete_orphaned_files" retentionDays

end ConsumerEngine.Storage
