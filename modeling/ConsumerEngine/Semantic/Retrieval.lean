import Mathlib.Data.List.Dedup
import ConsumerEngine.Foundation.TopK
import ConsumerEngine.Semantic.Profiler
import ConsumerEngine.Semantic.Versions

/-! Retrieval: the columns whose descriptions are nearest to an utterance.

The query collapses the versions of every column and reads at most `maxCatalogScan` of the
entries that are left, before any is scored. What is ranked is what it read.
-/

set_option autoImplicit false

namespace ConsumerEngine.Semantic

open ConsumerEngine.Core ConsumerEngine.Foundation ConsumerEngine.Storage

/-- `CatalogHit`, with scores of any order. -/
structure CatalogHit (σ : Type) where
  system : String
  tableName : String
  columnName : Option String
  semanticType : SemanticType
  description : String
  score : σ

/-- `MAX_CATALOG_SCAN`. -/
def maxCatalogScan : Nat := 10000

/-- `DEFAULT_K`. -/
def defaultK : Nat := 20

/-- The database's choices for a query without an order: the newest entry of a column where
several are newest, and the rows a limit keeps. -/
structure CatalogScan extends CatalogReader where
  limited : Nat → List StoredCatalogRow → List StoredCatalogRow
  subperm : ∀ n rows, (limited n rows).Subperm rows
  length : ∀ n rows, (limited n rows).length = min n rows.length

/-- The database that keeps the first rows. -/
def firstRows : CatalogScan where
  toCatalogReader := firstNewest
  limited := List.take
  subperm n rows := (List.take_sublist n rows).subperm
  length _ _ := List.length_take

/-- The columns, and tables, a tenant has entries of. -/
def columnsOf (tenant : String) (stored : List StoredCatalogRow) : List ColumnKey :=
  ((ownEntriesOf tenant stored).map fun entry => keyOf entry.row).dedup

/-- `QUALIFY row_number() OVER (PARTITION BY … ORDER BY source_epoch DESC) = 1`. -/
def newestEntries (reader : CatalogReader) (tenant : String) (stored : List StoredCatalogRow) :
    List StoredCatalogRow :=
  (columnsOf tenant stored).filterMap fun key => reader.newest (versionsOf tenant key stored)

section
variable {σ : Type} (cosine : List F64 → List F64 → σ) (display : Json → String) (tenant : String)

/-- The cells `retrieve` selects of an entry. -/
def selectedCells (row : CatalogRow) : List Json :=
  [1, 2, 3, 4, 6, 9].filterMap fun i => (storedCells display tenant row)[i]?.map valueToJson

/-- The hit `retrieve` makes of the cells it selects. -/
def hitOfCells (utterance : List F64) (cells : List Json) : CatalogHit σ where
  system := cellString cells[0]?
  tableName := cellString cells[1]?
  columnName := cellOptString cells[2]?
  semanticType := (parseSemanticType cells[3]?).getD .dimension
  description := cellString cells[4]?
  score := cosine utterance ((cells[5]?.map embeddingToVec).getD [])

/-- The hit of an entry. -/
def hitOf (utterance : List F64) (entry : StoredCatalogRow) : CatalogHit σ :=
  hitOfCells cosine utterance (selectedCells display tenant entry.row)

variable [LinearOrder σ]

/-- The comparison the hits are sorted by: highest score first, then by names. -/
def compareHits : CatalogHit σ → CatalogHit σ → Ordering :=
  compareLex (fun a b => compare b.score a.score) (compareLex (compareOn CatalogHit.system)
    (compareLex (compareOn CatalogHit.tableName) (compareOn CatalogHit.columnName)))

/-- `IntentRag::retrieve`, with its default for `k`. -/
def retrieve (scan : CatalogScan) (models : Models) (default : Nat) (catalog : Catalog)
    (utterance : String) (k : Nat) : Except Error (List (CatalogHit σ)) := do
  let k := if k = 0 then default else k
  let stored ← catalogueRows catalog
  let read := scan.limited maxCatalogScan (newestEntries scan.toCatalogReader tenant stored)
  match models.embed utterance with
  | .error _ => .error .catalogueUnavailable
  | .ok vector => return topK compareHits k (read.map (hitOf cosine display tenant vector))

end

/-! ### The order of hits -/

/-- The column a hit is about. -/
def CatalogHit.key {σ : Type} (hit : CatalogHit σ) : ColumnKey :=
  ⟨hit.system, hit.tableName, hit.columnName⟩

/-- Columns in the order of their names; the entry of a table comes before its columns. -/
def ColumnKey.Before (a b : ColumnKey) : Prop :=
  a.system < b.system ∨ a.system = b.system ∧
    (a.tableName < b.tableName ∨ a.tableName = b.tableName ∧
      match a.columnName, b.columnName with
      | none, some _ => True
      | some one, some other => one < other
      | _, none => False)

/-- A higher score, or the same one and a column that comes first. -/
def CatalogHit.Precedes {σ : Type} [LinearOrder σ] (a b : CatalogHit σ) : Prop :=
  b.score < a.score ∨ a.score = b.score ∧ a.key.Before b.key

section
variable {σ : Type} [LinearOrder σ] {a b : CatalogHit σ}

instance : Std.TransCmp (compareHits (σ := σ)) :=
  have : Std.TransCmp fun a b : CatalogHit σ => compare b.score a.score :=
    inferInstanceAs (Std.TransCmp (compareOn fun hit : CatalogHit σ => OrderDual.toDual hit.score))
  inferInstanceAs (Std.TransCmp (compareLex _ _))

theorem compareHits_eq_lt : compareHits a b = .lt ↔ a.Precedes b := by
  have columns : compare a.columnName b.columnName = .lt ↔
      match a.columnName, b.columnName with
      | none, some _ => True
      | some one, some other => one < other
      | _, none => False := by
    cases a.columnName with
    | none =>
      cases b.columnName with
      | none => exact ⟨fun lt => (nomatch lt), fun none_ => none_.elim⟩
      | some other => exact ⟨fun _ => trivial, fun _ => rfl⟩
    | some one =>
      cases b.columnName with
      | none => exact ⟨fun lt => (nomatch lt), fun none_ => none_.elim⟩
      | some other => exact compare_lt_iff_lt (a := one)
  simp only [compareHits, compareLex, compareOn, Ordering.then_eq_lt, compare_lt_iff_lt,
    compare_eq_iff_eq, columns]
  rw [CatalogHit.Precedes, eq_comm (a := a.score)]
  rfl

theorem compareHits_eq_eq (same : compareHits a b = .eq) : a.key = b.key := by
  simp only [compareHits, compareLex, compareOn, Ordering.then_eq_eq, Std.compare_eq_iff_eq] at same
  rw [CatalogHit.key, CatalogHit.key, same.2.1, same.2.2.1, same.2.2.2]

end

/-! ### What is read -/

section
variable {tenant : String} {stored : List StoredCatalogRow} {key : ColumnKey}
  {entry : StoredCatalogRow}

theorem mem_columnsOf : key ∈ columnsOf tenant stored ↔ ∃ entry, entry ∈ versionsOf tenant key stored := by
  rw [columnsOf, List.mem_dedup, List.mem_map]
  refine exists_congr fun entry => ?_
  rw [versionsOf, List.mem_filter, decide_eq_true_iff]

variable (reader : CatalogReader)

/-- Every column has a newest entry, and the query picks one. -/
theorem newest_found (member : key ∈ columnsOf tenant stored) :
    ∃ found, reader.newest (versionsOf tenant key stored) = some found ∧ keyOf found.row = key := by
  cases chosen : reader.newest (versionsOf tenant key stored) with
  | none =>
    obtain ⟨entry, listed⟩ := mem_columnsOf.mp member
    rw [reader.chooses.total chosen] at listed
    cases listed
  | some found =>
    exact ⟨found, rfl, (mem_versionsOf.mp (reader.chooses.newest chosen).mem).2.2⟩

theorem newestEntries_keys :
    (newestEntries reader tenant stored).map (fun entry => keyOf entry.row) =
      columnsOf tenant stored := by
  rw [newestEntries, List.map_filterMap]
  conv_rhs => rw [← List.filterMap_some (l := columnsOf tenant stored)]
  refine List.filterMap_congr fun key member => ?_
  obtain ⟨found, chosen, same⟩ := newest_found reader member
  rw [chosen, Option.map_some, same]

theorem newestEntries_newest (member : entry ∈ newestEntries reader tenant stored) :
    IsNewest epochOf (versionsOf tenant (keyOf entry.row) stored) entry := by
  obtain ⟨key, _, chosen⟩ := List.mem_filterMap.mp member
  have newest := reader.chooses.newest chosen
  rwa [(mem_versionsOf.mp newest.mem).2.2]

end

/-- What a query reads of a tenant's catalogue: the newest entries of its columns, of all of them
up to the bound on the scan. -/
structure Scanned (tenant : String) (stored read : List StoredCatalogRow) : Prop where
  size : read.length = min maxCatalogScan (columnsOf tenant stored).length
  once : (read.map fun entry => keyOf entry.row).Nodup
  newest : ∀ entry ∈ read, IsNewest epochOf (versionsOf tenant (keyOf entry.row) stored) entry
  whole : (columnsOf tenant stored).length ≤ maxCatalogScan →
    ∀ key ∈ columnsOf tenant stored, ∃ entry ∈ read, keyOf entry.row = key

theorem scanned (scan : CatalogScan) (tenant : String) (stored : List StoredCatalogRow) :
    Scanned tenant stored
      (scan.limited maxCatalogScan (newestEntries scan.toCatalogReader tenant stored)) := by
  have keys : (newestEntries scan.toCatalogReader tenant stored).map (fun entry =>
      keyOf entry.row) = columnsOf tenant stored := newestEntries_keys scan.toCatalogReader
  have all : (newestEntries scan.toCatalogReader tenant stored).length =
      (columnsOf tenant stored).length := by
    rw [← keys, List.length_map]
  have part := scan.subperm maxCatalogScan (newestEntries scan.toCatalogReader tenant stored)
  have size := scan.length maxCatalogScan (newestEntries scan.toCatalogReader tenant stored)
  rw [all] at size
  refine ⟨size, ?_, fun entry member => newestEntries_newest _ (part.subset member), ?_⟩
  · have distinct : ((newestEntries scan.toCatalogReader tenant stored).map
        fun entry => keyOf entry.row).Nodup := by
      rw [keys]
      exact List.nodup_dedup _
    obtain ⟨kept, perm, sublist⟩ := part
    exact ((perm.map _).nodup_iff).mp (distinct.sublist (sublist.map _))
  · intro small key member
    -- a part as large as the whole is the whole, in some order
    rw [min_eq_right small, ← all] at size
    rw [← keys] at member
    obtain ⟨entry, listed, same⟩ := List.mem_map.mp member
    exact ⟨entry, (part.perm_of_length_le size.ge).mem_iff.mpr listed, same⟩

/-! ### Retrieval -/

section
variable {σ : Type} {cosine : List F64 → List F64 → σ} {display : Json → String}
  {tenant : String} {utterance : List F64} {entry : StoredCatalogRow}

theorem hitOf_eq : hitOf cosine display tenant utterance entry =
    { system := entry.row.system
      tableName := entry.row.tableName
      columnName := entry.row.columnName
      semanticType := entry.row.semanticType
      description := entry.row.description
      score := cosine utterance
        (embeddingToVec (valueToJson (.list (entry.row.embedding.map Fetched.float)))) } := by
  have column : cellOptString (some (valueToJson
      (fetched ((entry.row.columnName.map Value.text).getD .null)))) = entry.row.columnName := by
    cases entry.row.columnName <;> rfl
  have label : parseSemanticType (some (valueToJson (.text entry.row.semanticType.asStr))) =
      some entry.row.semanticType := parseLabel_asStr entry.row.semanticType
  rw [hitOf, selectedCells, storedCells_eq]
  simp only [List.filterMap_cons, List.getElem?_cons_succ, List.getElem?_cons_zero,
    Option.map_some, List.filterMap_nil, hitOfCells, column, label, Option.getD_some]
  rfl

theorem hitOf_key : (hitOf cosine display tenant utterance entry).key = keyOf entry.row := by
  rw [hitOf_eq]
  rfl

/-- An embedding of single precision is what the utterance is compared with. -/
theorem hitOf_score (single : ∀ x ∈ entry.row.embedding, IsF32 x) :
    (hitOf cosine display tenant utterance entry).score =
      cosine utterance entry.row.embedding := by
  rw [hitOf_eq]
  exact congrArg (cosine utterance) (embeddingToVec_floats single)

end

/-- The best hits of some entries: as many as are asked for, one a column, best first, and better
than any that is left out. -/
structure TopHits {σ : Type} [LinearOrder σ] (hit : StoredCatalogRow → CatalogHit σ) (k : Nat)
    (entries : List StoredCatalogRow) (hits : List (CatalogHit σ)) : Prop where
  size : hits.length = min k entries.length
  found : ∀ one ∈ hits, ∃ entry ∈ entries, one = hit entry
  once : (hits.map CatalogHit.key).Nodup
  sorted : hits.Pairwise CatalogHit.Precedes
  best : ∀ entry ∈ entries, hit entry ∉ hits → ∀ one ∈ hits, one.Precedes (hit entry)

section
variable {σ : Type} [LinearOrder σ]

/-- The hits of entries of different columns, sorted and cut, are the best of them. -/
theorem topHits_of_nodup {hit : StoredCatalogRow → CatalogHit σ} (k : Nat)
    {entries : List StoredCatalogRow} (named : ∀ entry, (hit entry).key = keyOf entry.row)
    (once : (entries.map fun entry => keyOf entry.row).Nodup) :
    TopHits hit k entries (topK compareHits k (entries.map hit)) := by
  have keys : (entries.map hit).map CatalogHit.key = entries.map fun entry => keyOf entry.row := by
    rw [List.map_map]
    exact List.map_congr_left fun entry _ => named entry
  have distinct : (entries.map hit).Pairwise fun a b => a.key ≠ b.key := by
    rw [← keys] at once
    exact List.pairwise_map.mp once
  have best : IsTopK compareHits k (entries.map hit) (topK compareHits k (entries.map hit)) :=
    topK_isTopK k (entries.map hit)
  have strict := best.strict (distinct.imp fun apart same => apart (compareHits_eq_eq same))
  obtain ⟨rest, perm, -⟩ := best.split
  refine ⟨by rw [best.size, List.length_map], fun one member => ?_, ?_, ?_, ?_⟩
  · have among : one ∈ entries.map hit := perm.mem_iff.mp (List.mem_append_left _ member)
    obtain ⟨entry, listed, rfl⟩ := List.mem_map.mp among
    exact ⟨entry, listed, rfl⟩
  · have apart := (perm.pairwise_iff fun ne => Ne.symm ne).mpr distinct
    exact List.pairwise_map.mpr (List.pairwise_append.mp apart).1
  · exact strict.1.imp compareHits_eq_lt.mp
  · intro entry listed out one member
    exact compareHits_eq_lt.mp (strict.2 one member _ (List.mem_map_of_mem listed) out)

variable {cosine : List F64 → List F64 → σ} {display : Json → String} {tenant : String}
  {scan : CatalogScan} {models : Models} {default k : Nat} {catalog : Catalog}
  {utterance : String} {stored : List StoredCatalogRow} {vector : List F64}

theorem retrieve_eq (present : catalog.semanticCatalog = some stored)
    (embedded : models.embed utterance = .ok vector) :
    retrieve cosine display tenant scan models default catalog utterance k =
      .ok (topK compareHits (if k = 0 then default else k)
        ((scan.limited maxCatalogScan (newestEntries scan.toCatalogReader tenant stored)).map
          (hitOf cosine display tenant vector))) := by
  have rows : catalogueRows catalog = .ok stored := by rw [catalogueRows, present]
  simp only [retrieve, rows, embedded, bind, Except.bind]
  rfl

/-- Retrieval returns the best of the newest entries of a tenant's columns, as far as it reads
them: of all of them up to the bound on the scan. -/
theorem retrieve_top_hits (present : catalog.semanticCatalog = some stored)
    (embedded : models.embed utterance = .ok vector) :
    ∃ read hits, Scanned tenant stored read ∧
      retrieve cosine display tenant scan models default catalog utterance k = .ok hits ∧
      TopHits (hitOf cosine display tenant vector) (if k = 0 then default else k) read hits := by
  have read := scanned scan tenant stored
  exact ⟨_, _, read, retrieve_eq present embedded,
    topHits_of_nodup _ (fun _ => hitOf_key) read.once⟩

end

/-! ### A table of many columns -/

/-- The entry of a numbered column. -/
def numberedColumn (i : Nat) : StoredCatalogRow where
  row := ⟨"column", "erp", "orders", some ("c" ++ i.repr), .measure, "BIGINT", "a measure", false,
    .array [], [1], 1000⟩
  tenantId := some "acme"

/-- A catalogue of `n` columns. -/
def numberedColumns (n : Nat) : List StoredCatalogRow := (List.range n).map numberedColumn

def numberedCatalog (n : Nat) : Catalog :=
  { Catalog.empty with semanticCatalog := some (numberedColumns n) }

/-- A service that embeds every text alike. -/
def unitModels : Models := ⟨fun _ _ _ _ _ => .ok "", 1, fun _ => .ok [1]⟩

theorem numberedColumn_injective :
    Function.Injective fun i => keyOf (numberedColumn i).row := by
  intro i j same
  have names : "c" ++ i.repr = "c" ++ j.repr := Option.some.inj (congrArg ColumnKey.columnName same)
  have digits : i.repr.toList = j.repr.toList := by
    have lists := congrArg String.toList names
    rw [String.toList_append, String.toList_append] at lists
    exact List.append_cancel_left lists
  rw [Nat.toList_repr, Nat.toList_repr] at digits
  have numbers := congrArg (Nat.ofDigitChars 10 · 0) digits
  simpa using numbers

theorem columnsOf_numberedColumns (n : Nat) :
    (columnsOf "acme" (numberedColumns n)).length = n := by
  have own : ownEntriesOf "acme" (numberedColumns n) = numberedColumns n := by
    refine List.filter_eq_self.mpr fun entry member => ?_
    obtain ⟨i, _, rfl⟩ := List.mem_map.mp member
    rfl
  have once : ((numberedColumns n).map fun entry => keyOf entry.row).Nodup := by
    rw [numberedColumns, List.map_map]
    exact List.nodup_range.map numberedColumn_injective
  rw [columnsOf, own, once.dedup, List.length_map, numberedColumns, List.length_map,
    List.length_range]

theorem retrieve_top_hits_numbered :
    ∃ read hits, Scanned "acme" (numberedColumns 3) read ∧
      retrieve (fun _ _ => (0 : ℤ)) (fun _ => "") "acme" firstRows unitModels defaultK
        (numberedCatalog 3) "revenue" 2 =
          .ok hits ∧
      TopHits (hitOf (fun _ _ => (0 : ℤ)) (fun _ => "") "acme" [1]) 2 read hits :=
  retrieve_top_hits (k := 2) rfl rfl

/-- Of a catalogue larger than the scan, some columns are never returned. -/
theorem retrieve_capped :
    ¬ ∀ (σ : Type) [LinearOrder σ] (cosine : List F64 → List F64 → σ) (display : Json → String)
      (tenant : String) (scan : CatalogScan) (models : Models) (default k : Nat)
      (catalog : Catalog) (utterance : String) (stored : List StoredCatalogRow)
      (vector : List F64), catalog.semanticCatalog = some stored →
      models.embed utterance = .ok vector → 1 ≤ k →
      ∃ hits, retrieve cosine display tenant scan models default catalog utterance k = .ok hits ∧
        TopHits (hitOf cosine display tenant vector) k
          (newestEntries scan.toCatalogReader tenant stored) hits := by
  intro exact_
  obtain ⟨hits, ran, top⟩ := exact_ ℤ (fun _ _ => 0) (fun _ => "") "acme" firstRows unitModels
    defaultK (maxCatalogScan + 1) (numberedCatalog (maxCatalogScan + 1)) "revenue" _ [1] rfl rfl
    (Nat.succ_pos _)
  -- all the columns are asked for
  have all : (newestEntries firstRows.toCatalogReader "acme"
      (numberedColumns (maxCatalogScan + 1))).length = maxCatalogScan + 1 := by
    rw [← List.length_map fun entry : StoredCatalogRow => keyOf entry.row, newestEntries_keys,
      columnsOf_numberedColumns]
  have size := top.size
  rw [all, min_self] at size
  -- and no more than are read can be returned
  rw [retrieve_eq rfl rfl, Except.ok.injEq] at ran
  rw [← ran, (topK_isTopK _ _).size, List.length_map, firstRows.length] at size
  exact absurd size (by omega)

end ConsumerEngine.Semantic
