import Mathlib.Data.Multiset.Filter
import Mathlib.Data.Multiset.MapFold
import ConsumerEngine.Core.Values

/-! The DuckLake catalogue: raw tables, the engine's own tables, and the parts of
DuckDB that decide what a statement does but are not part of this repository.

Raw tables carry no constraint and no order, so their rows are a multiset. A row
answers for every column name; a column the table does not have reads NULL.
-/

set_option autoImplicit false

namespace ConsumerEngine.Storage

open ConsumerEngine.Core

/-- A VARCHAR cell of a raw table. -/
abbrev Cell : Type := Option String

/-- The cells of a raw row, by folded column name. -/
abbrev RawRow : Type := String → Cell

/-- The tenant a row is stamped with. -/
def RawRow.tenant (row : RawRow) : Cell := row "tenant_id"

/-- `NULL = NULL` is not true: only two present, equal cells join. -/
def joins : Cell → Cell → Bool
  | some left, some right => decide (left = right)
  | _, _ => false

theorem joins_eq_true {left right : Cell} :
    joins left right = true ↔ ∃ key, left = some key ∧ right = some key := by
  cases left <;> cases right <;> simp [joins, eq_comm]

/-- The row a tuple of cells listed under column names stands for. -/
def rowOf (columns : List String) (cells : List Cell) : RawRow := fun name =>
  ((columns.zip cells).find? (fun binding => foldName binding.1 = name)).bind Prod.snd

/-- `UPDATE SET` of the listed columns; the other cells stay. -/
def overwrite (columns : List String) (source : RawRow) (target : RawRow) : RawRow := fun name =>
  if name ∈ columns.map foldName then source name else target name

/-- A raw table: its columns in creation order, folded, and its rows. -/
structure RawTable where
  columns : List String
  rows : Multiset RawRow

/-- One row of `cdc_offsets`. -/
structure OffsetRow where
  source : String
  part : Int
  cdcOffset : Int
  updatedAt : String
  deriving DecidableEq

/-- One row of `feature_store`. -/
structure StoredFeature where
  userId : String
  featureName : String
  numValue : F64
  asOfTs : Int
  producerId : String
  tenantId : Option String
  deriving DecidableEq

/-- One row of `suppression`. -/
structure StoredSuppression where
  suppressionId : String
  campaignId : String
  userId : String
  channel : String
  action : String
  occurredTs : Int
  receivedTs : Int
  tenantId : Option String
  deriving DecidableEq

/-- One row of `semantic_catalog`. -/
structure StoredCatalogRow where
  row : CatalogRow
  tenantId : Option String

/-- Everything a fresh attach would see. `none` is a table that does not exist. A wide view is
its family, as the statement that made it spells it, and its short names. -/
structure Catalog where
  raw : String → Option RawTable
  cdcOffsets : Option (List OffsetRow)
  featureStore : Option (List StoredFeature)
  featureViews : List (String × List String)
  semanticCatalog : Option (List StoredCatalogRow)
  suppression : Option (List StoredSuppression)
  audienceSnapshot : Option (List (List Value))

def Catalog.empty : Catalog where
  raw := fun _ => none
  cdcOffsets := none
  featureStore := none
  featureViews := []
  semanticCatalog := none
  suppression := none
  audienceSnapshot := none

def Catalog.setRaw (catalog : Catalog) (name : String) (table : RawTable) : Catalog :=
  { catalog with raw := Function.update catalog.raw name (some table) }

@[simp] theorem Catalog.setRaw_self (catalog : Catalog) (name : String) (table : RawTable) :
    (catalog.setRaw name table).raw name = some table := by simp [setRaw]

theorem Catalog.setRaw_of_ne (catalog : Catalog) {name other : String} (table : RawTable)
    (ne : other ≠ name) : (catalog.setRaw name table).raw other = catalog.raw other := by
  simp [setRaw, ne]

@[simp] theorem Catalog.setRaw_cdcOffsets (catalog : Catalog) (name : String) (table : RawTable) :
    (catalog.setRaw name table).cdcOffsets = catalog.cdcOffsets := rfl

/-- The rows stored under a table name; none while the table does not exist. -/
def Catalog.rowsOf (catalog : Catalog) (name : String) : Multiset RawRow :=
  match catalog.raw name with
  | some table => table.rows
  | none => 0

/-- The behaviour of DuckDB a statement depends on. `rejects n` says whether the
`n`-th statement of the connection fails for a reason of its own (disk, memory,
a lost catalogue), whatever the statement is. -/
structure DuckDb where
  rejects : Nat → Bool
  castUuid : String → Option String
  castTimestamptz : String → Option Int
  castJson : String → Option String
  select : Catalog → String → List Value → Except String (List (List Value))

/-- DuckDB's reserved words: not usable as an unquoted column name. -/
def reservedWords : List String :=
  ["all", "analyse", "analyze", "and", "any", "array", "as", "asc", "asymmetric", "both", "case",
   "cast", "check", "collate", "column", "constraint", "create", "default", "deferrable", "desc",
   "describe", "distinct", "do", "else", "end", "except", "false", "fetch", "for", "foreign",
   "from", "group", "having", "in", "initially", "intersect", "into", "lambda", "lateral",
   "leading", "limit", "not", "null", "offset", "on", "only", "or", "order", "pivot",
   "pivot_longer", "pivot_wider", "placing", "primary", "qualify", "references", "returning",
   "select", "show", "some", "summarize", "symmetric", "table", "then", "to", "trailing", "true",
   "union", "unique", "unpivot", "using", "variadic", "when", "where", "window", "with"]

/-- An unquoted name `CREATE TABLE` accepts for a column. -/
def isColumnName (name : String) : Bool :=
  match name.toList with
  | [] => false
  | first :: _ => !first.isDigit && !reservedWords.contains (foldName name)

end ConsumerEngine.Storage
