import ConsumerEngine.Foundation.Newest
import ConsumerEngine.Semantic.Cells
import ConsumerEngine.Storage.Catalog

/-! The versions of a catalogue entry, and which of them is read.

The catalogue is append-only: an entry is replaced by a newer one of its column. Where several
are newest, the database is free to return any of them.
-/

set_option autoImplicit false

namespace ConsumerEngine.Semantic

open ConsumerEngine.Core ConsumerEngine.Foundation ConsumerEngine.Storage

/-- What a catalogue entry is about; a table has an entry without a column. -/
structure ColumnKey where
  system : String
  tableName : String
  columnName : Option String
  deriving DecidableEq

def keyOf (row : CatalogRow) : ColumnKey := ⟨row.system, row.tableName, row.columnName⟩

/-- The version of a stored entry. -/
def epochOf (stored : StoredCatalogRow) : Int := stored.row.sourceEpoch

/-- The entries a tenant has stored. -/
def ownEntriesOf (tenant : String) (stored : List StoredCatalogRow) : List StoredCatalogRow :=
  stored.filter fun entry => entry.tenantId = some tenant

/-- The versions of one column's entry. -/
def versionsOf (tenant : String) (key : ColumnKey) (stored : List StoredCatalogRow) :
    List StoredCatalogRow :=
  (ownEntriesOf tenant stored).filter fun entry => keyOf entry.row = key

/-- The database's choice among the newest entries, for `ORDER BY source_epoch DESC`. -/
structure CatalogReader where
  newest : List StoredCatalogRow → Option StoredCatalogRow
  chooses : Chooses epochOf newest

/-- The database that takes the first of the newest entries. -/
def firstNewest : CatalogReader := ⟨_, argmax_chooses epochOf⟩

/-- The entries of the table, or the reader's error where there is none. -/
def catalogueRows (catalog : Catalog) : Except Error (List StoredCatalogRow) :=
  match catalog.semanticCatalog with
  | some stored => .ok stored
  | none => .error (.execution "table semantic_catalog does not exist")

/-- `IntentRag::catalogue_entry`; `display` renders a JSON value. -/
def catalogueEntry (reader : CatalogReader) (display : Json → String) (catalog : Catalog)
    (system entity column tenant : String) : Except Error (Option CatalogRow) := do
  let stored ← catalogueRows catalog
  match reader.newest (versionsOf tenant ⟨system, entity, some column⟩ stored) with
  | none => return none
  | some found => return some (← readBack display tenant found.row)

section
variable {tenant : String} {key : ColumnKey} {stored more : List StoredCatalogRow}
  {entry : StoredCatalogRow}

theorem mem_versionsOf : entry ∈ versionsOf tenant key stored ↔
    entry ∈ stored ∧ entry.tenantId = some tenant ∧ keyOf entry.row = key := by
  rw [versionsOf, ownEntriesOf, List.mem_filter, List.mem_filter, decide_eq_true_iff,
    decide_eq_true_iff, and_assoc]

theorem versionsOf_append : versionsOf tenant key (stored ++ more) =
    versionsOf tenant key stored ++ versionsOf tenant key more := by
  simp [versionsOf, ownEntriesOf]

theorem versionsOf_single {row : CatalogRow} (same : keyOf row = key) :
    versionsOf tenant key [⟨row, some tenant⟩] = [⟨row, some tenant⟩] := by
  simp [versionsOf, ownEntriesOf, same]

theorem versionsOf_other (other : entry ∉ versionsOf tenant key [entry]) :
    versionsOf tenant key [entry] = [] := by
  refine List.eq_nil_iff_forall_not_mem.mpr fun one member => ?_
  rw [List.mem_singleton.mp (mem_versionsOf.mp member).1] at member
  exact other member

theorem keyOf_readBack {display : Json → String} {row back : CatalogRow}
    (read : readBack display tenant row = .ok back) : keyOf back = keyOf row := by
  obtain ⟨system, table, column⟩ := readBack_names display tenant row read
  rw [keyOf, keyOf, system, table, column]

variable (reader : CatalogReader) (display : Json → String) {catalog : Catalog}
  {system entity column : String}

/-- A column with entries has an entry to read. -/
theorem catalogueEntry_found (present : catalog.semanticCatalog = some stored)
    (member : entry ∈ versionsOf tenant ⟨system, entity, some column⟩ stored) :
    ∃ found, IsNewest epochOf (versionsOf tenant ⟨system, entity, some column⟩ stored) found ∧
      catalogueEntry reader display catalog system entity column tenant =
        (readBack display tenant found.row).map some := by
  have rows : catalogueRows catalog = .ok stored := by rw [catalogueRows, present]
  cases chosen : reader.newest (versionsOf tenant ⟨system, entity, some column⟩ stored) with
  | none =>
    rw [reader.chooses.total chosen] at member
    cases member
  | some found =>
    refine ⟨found, reader.chooses.newest chosen, ?_⟩
    simp only [catalogueEntry, rows, bind, Except.bind, chosen]
    cases readBack display tenant found.row <;> rfl

end

end ConsumerEngine.Semantic
