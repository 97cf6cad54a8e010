import ConsumerEngine.Foundation.Chunks
import ConsumerEngine.Foundation.Effect
import ConsumerEngine.Storage.Catalog

/-! The statements the writer prepares and what each does to a catalogue.

A statement either takes effect whole or fails and changes nothing. Names inside
a statement are matched as DuckDB matches unquoted identifiers: folded.
-/

set_option autoImplicit false

namespace ConsumerEngine.Storage

open ConsumerEngine.Core ConsumerEngine.Foundation

/-- The table a dataset is stored in, as DuckDB resolves its unquoted name. -/
def rawName (dataset : Dataset) : String :=
  foldName ("raw_" ++ dataset.system ++ "_" ++ dataset.entity)

/-- The engine's own tables. -/
inductive EngineTable where
  | featureStore | semanticCatalog | suppression | audienceSnapshot | cdcOffsets
  deriving DecidableEq, Repr

inductive Statement where
  /-- `CREATE TABLE IF NOT EXISTS` of a raw table, every column VARCHAR. -/
  | createRaw (into : Dataset) (columns : List String)
  /-- `ALTER TABLE … ADD COLUMN IF NOT EXISTS tenant_id VARCHAR` on a raw table. -/
  | addTenantColumn (into : Dataset)
  /-- `INSERT INTO … VALUES` of `count` rows bound by `params`. -/
  | insertRaw (into : Dataset) (columns : List String) (count : Nat) (params : List Cell)
  /-- The update-or-insert MERGE of `count` rows bound by `params`. -/
  | mergeUpsert (into : Dataset) (columns : List String) (key : String) (count : Nat)
      (params : List Cell)
  /-- The delete MERGE, scoped to one tenant. -/
  | mergeDelete (into : Dataset) (key : String) (keys : List String) (tenant : String)
  | createEngine (table : EngineTable)
  /-- The tenant-column migration of an engine table. -/
  | addEngineTenant (table : EngineTable)
  | mergeOffset (row : OffsetRow)
  | insertFeatures (rows : List FeatureRow) (tenant : String)
  | createView (family : String) (shorts : List String)
  | insertCatalogRow (row : CatalogRow) (tenant : String)
  | insertSuppression (row : SuppressionRow) (tenant : String)
  | insertSnapshot (sql : String) (params : List Value)
  /-- A `CALL` or `COPY` that leaves every table's contents alone. -/
  | maintenance (sql : String)

/-- Split bound parameters into the tuples of a `VALUES` list. -/
def bindTuples (width count : Nat) (params : List Cell) : Except String (List (List Cell)) :=
  if params.length = width * count then .ok (chunks width params)
  else .error "wrong number of bound parameters"

/-- The columns a statement lists resolve to distinct columns of the table. -/
def resolvesColumns (table : RawTable) (columns : List String) : Bool :=
  (columns.map foldName).all (table.columns.contains ·) && decide (columns.map foldName).Nodup

/-- The source row a target row is merged with. -/
def matching (key : String) (sources : List RawRow) (target : RawRow) : Option RawRow :=
  sources.find? (fun source => joins (target (foldName key)) (source (foldName key)))

/-- `WHEN MATCHED THEN UPDATE … WHEN NOT MATCHED THEN INSERT`. -/
def mergeRows (columns : List String) (key : String) (sources : List RawRow)
    (rows : Multiset RawRow) : Multiset RawRow :=
  rows.map (fun target =>
    match matching key sources target with
    | some source => overwrite columns source target
    | none => target) +
  ((sources.filter fun source =>
    decide (∀ target ∈ rows, joins (target (foldName key)) (source (foldName key)) = false)) :
      Multiset RawRow)

/-- A row the delete MERGE of `keys` for `tenant` matches. -/
def deletes (key : String) (keys : List String) (tenant : String) (row : RawRow) : Bool :=
  keys.any (fun k => joins (row (foldName key)) (some k)) && joins row.tenant (some tenant)

def existing (catalog : Catalog) (dataset : Dataset) : Except String RawTable :=
  match catalog.raw (rawName dataset) with
  | some found => .ok found
  | none => .error ("table " ++ rawName dataset ++ " does not exist")

def presentIf {α : Type} (stored : Option (List α)) : Except String (List α) :=
  match stored with
  | some rows => .ok rows
  | none => .error "table does not exist"

def cast {α : Type} (outcome : Option α) : Except String α :=
  match outcome with
  | some value => .ok value
  | none => .error "conversion error"

def storedFeature (duck : DuckDb) (tenant : String) (row : FeatureRow) :
    Except String StoredFeature := do
  let asOfTs ← cast (duck.castTimestamptz row.asOfTs)
  return ⟨row.userId, row.featureName, row.numValue, asOfTs, row.producerId, some tenant⟩

def storedSuppression (duck : DuckDb) (tenant : String) (row : SuppressionRow) :
    Except String StoredSuppression := do
  let id ← cast (duck.castUuid row.suppressionId)
  let occurredTs ← cast (duck.castTimestamptz row.occurredTs)
  let receivedTs ← cast (duck.castTimestamptz row.receivedTs)
  return ⟨id, row.campaignId, row.userId, row.channel.asStr, row.action.asStr, occurredTs,
    receivedTs, some tenant⟩

/-- The rows a statement affected and the catalogue it leaves. -/
def Statement.apply (duck : DuckDb) (catalog : Catalog) : Statement → Except String (Nat × Catalog)
  | .createRaw into columns =>
      match catalog.raw (rawName into) with
      | some _ => .ok (0, catalog)
      | none =>
          if columns.all isColumnName && decide (columns.map foldName).Nodup then
            .ok (0, catalog.setRaw (rawName into) ⟨columns.map foldName, 0⟩)
          else .error "invalid column list"
  | .addTenantColumn into => do
      let found ← existing catalog into
      if found.columns.contains "tenant_id" then return (0, catalog)
      else return (0, catalog.setRaw (rawName into)
        { found with columns := found.columns ++ ["tenant_id"] })
  | .insertRaw into columns count params => do
      let found ← existing catalog into
      if resolvesColumns found columns then
        let tuples ← bindTuples columns.length count params
        let inserted := tuples.map (rowOf columns)
        return (inserted.length, catalog.setRaw (rawName into)
          { found with rows := found.rows + (inserted : Multiset RawRow) })
      else throw "column does not exist or is listed twice"
  | .mergeUpsert into columns key count params => do
      let found ← existing catalog into
      if resolvesColumns found columns && found.columns.contains (foldName key) then
        let tuples ← bindTuples columns.length count params
        let sources := tuples.map (rowOf columns)
        let merged := mergeRows columns key sources found.rows
        let updated := found.rows.filter fun target => (matching key sources target).isSome
        return (updated.card + (merged.card - found.rows.card),
          catalog.setRaw (rawName into) { found with rows := merged })
      else throw "column does not exist or is listed twice"
  | .mergeDelete into key keys tenant => do
      let found ← existing catalog into
      if found.columns.contains (foldName key) && found.columns.contains "tenant_id" then
        let kept := found.rows.filter fun row => deletes key keys tenant row = false
        return (found.rows.card - kept.card,
          catalog.setRaw (rawName into) { found with rows := kept })
      else throw "column does not exist"
  | .createEngine .featureStore =>
      .ok (0, { catalog with featureStore := some (catalog.featureStore.getD []) })
  | .createEngine .semanticCatalog =>
      .ok (0, { catalog with semanticCatalog := some (catalog.semanticCatalog.getD []) })
  | .createEngine .suppression =>
      .ok (0, { catalog with suppression := some (catalog.suppression.getD []) })
  | .createEngine .audienceSnapshot =>
      .ok (0, { catalog with audienceSnapshot := some (catalog.audienceSnapshot.getD []) })
  | .createEngine .cdcOffsets =>
      .ok (0, { catalog with cdcOffsets := some (catalog.cdcOffsets.getD []) })
  | .addEngineTenant _ => .ok (0, catalog)
  | .mergeOffset row => do
      let rows ← presentIf catalog.cdcOffsets
      if rows.any (fun stored => stored.source = row.source ∧ stored.part = row.part) then
        return (1, { catalog with cdcOffsets := some (rows.map fun stored =>
          if stored.source = row.source ∧ stored.part = row.part then row else stored) })
      else return (1, { catalog with cdcOffsets := some (rows ++ [row]) })
  | .insertFeatures rows tenant => do
      let stored ← presentIf catalog.featureStore
      let added ← rows.mapM (storedFeature duck tenant)
      return (rows.length, { catalog with featureStore := some (stored ++ added) })
  | .createView family shorts => do
      let _ ← presentIf catalog.featureStore
      return (0, { catalog with featureViews :=
        (family, shorts) ::
          catalog.featureViews.filter (fun view => foldName view.1 ≠ foldName family) })
  | .insertCatalogRow row tenant => do
      let stored ← presentIf catalog.semanticCatalog
      return (1, { catalog with semanticCatalog := some (stored ++ [⟨row, some tenant⟩]) })
  | .insertSuppression row tenant => do
      let stored ← presentIf catalog.suppression
      let added ← storedSuppression duck tenant row
      if stored.any (fun seen => seen.suppressionId = added.suppressionId) then
        return (0, catalog)
      else return (1, { catalog with suppression := some (stored ++ [added]) })
  | .insertSnapshot sql params => do
      let stored ← presentIf catalog.audienceSnapshot
      let selected ← duck.select catalog sql params
      return (selected.length, { catalog with audienceSnapshot := some (stored ++ selected) })
  | .maintenance _ => .ok (0, catalog)

/-- A statement that can change the rows or columns of a raw table. -/
def Statement.touchesRaw : Statement → Bool
  | .createRaw .. | .addTenantColumn .. | .insertRaw .. | .mergeUpsert .. | .mergeDelete .. => true
  | _ => false

end ConsumerEngine.Storage
