import Mathlib.Data.List.Infix
import Mathlib.Logic.Function.Basic
import ConsumerEngine.Storage.Writer

/-! The L0 profiler: a bounded sample of a raw table, a description of each column from
it, and the catalogue rows stored for the tenant that onboards.

The sample is the first rows of a table all tenants share. It is kept out of a column
only where the column's name marks personal data, so profiling is free of the other
tenants' rows exactly if every column is such a one.
-/

set_option autoImplicit false

namespace ConsumerEngine.Semantic

open ConsumerEngine.Core ConsumerEngine.Foundation ConsumerEngine.Storage

/-! ### Classification -/

/-- `str::contains`. -/
def contains (text key : String) : Bool := decide (key.toList <:+: text.toList)

/-- `str::ends_with`. -/
def endsWith (text key : String) : Bool := decide (key.toList <:+ text.toList)

/-- `is_pii`. -/
def isPii (name : String) : Bool :=
  ["email", "phone", "ssn", "address", "password", "token", "name"].any (contains name)

/-- `is_measure`. -/
def isMeasure (name : String) : Bool :=
  ["amount", "count", "total", "sum", "price", "qty", "quantity", "score", "value", "revenue",
    "cost"].any (contains name)

/-- `classify`, by the lower-case name. -/
def classify (name : String) : SemanticType :=
  let lower := foldName name
  if isPii lower then .pii
  else if lower == "id" || endsWith lower "_id" then .identifier
  else if lower == "ts" || endsWith lower "_at" || endsWith lower "_ts" ||
      contains lower "timestamp" || endsWith lower "date" then .eventTs
  else if isMeasure lower then .measure
  else .dimension

/-! ### Samples -/

/-- `MAX_SAMPLE_VALUES`. -/
def maxSampleValues : Nat := 20

/-- The longest beginning of at most `max` bytes that ends between two characters. -/
def truncateChars (max : Nat) : List Char → List Char
  | [] => []
  | c :: rest => if c.utf8Size ≤ max then c :: truncateChars (max - c.utf8Size) rest else []

/-- `truncate_bytes`. -/
def truncateBytes (text : String) (max : Nat) : String :=
  String.ofList (truncateChars max text.toList)

/-- One cell for the bucket of its column. -/
def addSample (valueBytes : Nat) (bucket : List String) (cell : Cell) : List String :=
  if maxSampleValues ≤ bucket.length then bucket
  else
    match cell with
    | none => bucket
    | some text =>
        let truncated := truncateBytes text valueBytes
        if bucket.contains truncated then bucket else bucket ++ [truncated]

/-- One row; cells past the last bucket are not looked at. -/
def addRow (valueBytes : Nat) : List (List String) → List Cell → List (List String)
  | bucket :: buckets, cell :: cells => addSample valueBytes bucket cell :: addRow valueBytes buckets cells
  | buckets, _ => buckets

/-- `sample_columns`. -/
def sampleColumns (rows : List (List Cell)) (columns : List String) (valueBytes : Nat) :
    List (List String) :=
  rows.foldl (addRow valueBytes) (columns.map fun _ => [])

/-- A row as the query returns it. -/
def cellsOf (columns : List String) (row : RawRow) : List Cell :=
  columns.map fun column => row (foldName column)

/-- Each column's samples come from its own cells. -/
theorem sampleColumns_eq (rows : List RawRow) (columns : List String) (valueBytes : Nat) :
    sampleColumns (rows.map (cellsOf columns)) columns valueBytes =
      columns.map fun column =>
        (rows.map fun row => row (foldName column)).foldl (addSample valueBytes) [] := by
  have added (buckets : String → List String) (row : RawRow) (columns : List String) :
      addRow valueBytes (columns.map buckets) (cellsOf columns row) =
        columns.map fun column => addSample valueBytes (buckets column) (row (foldName column)) := by
    induction columns with
    | nil => rfl
    | cons column columns ih => exact congrArg _ ih
  have folded (buckets : String → List String) :
      (rows.map (cellsOf columns)).foldl (addRow valueBytes) (columns.map buckets) =
        columns.map fun column =>
          (rows.map fun row => row (foldName column)).foldl (addSample valueBytes)
            (buckets column) := by
    induction rows generalizing buckets with
    | nil => rfl
    | cons row rows ih =>
      rw [List.map_cons, List.foldl_cons, added, ih]
      rfl
  exact folded fun _ => []

/-! ### The models and the profile -/

/-- `LlmClient` and `EmbeddingModel`, as deterministic clients. -/
structure Models where
  describeColumn : String → String → String → String → List String → Except Error String
  dim : Nat
  embed : String → Except Error (List F64)

/-- What a model is asked. -/
inductive ModelCall where
  | describeColumn (system table column dataType : String) (sample : List String)
  | embed (text : String)
  deriving DecidableEq, Repr

/-- A raw table in the order a scan finds it: its columns as they were created, and its rows. -/
structure SourceTable where
  columns : List String
  rows : List RawRow

/-- The raw tables a reader sees, by the name it looks up. -/
abbrev View : Type := String → Option SourceTable

/-- `Profiler`, by its bounds; the builder methods keep both positive. -/
structure Profiler where
  sampleRows : Nat
  sampleValueBytes : Nat
  sampleRows_pos : 0 < sampleRows
  sampleValueBytes_pos : 0 < sampleValueBytes

namespace Profiler

/-- `DEFAULT_SAMPLE_ROWS` and `DEFAULT_SAMPLE_VALUE_BYTES`. -/
def default : Profiler := ⟨1000, 64, by decide, by decide⟩

def withSampleRows (profiler : Profiler) (n : Nat) : Profiler :=
  { profiler with sampleRows := max n 1, sampleRows_pos := le_max_right n 1 }

def withSampleValueBytes (profiler : Profiler) (n : Nat) : Profiler :=
  { profiler with sampleValueBytes := max n 1, sampleValueBytes_pos := le_max_right n 1 }

variable (profiler : Profiler) (models : Models) (view : View) (system table : String) (now : Int)

/-- The columns of `SELECT * EXCLUDE (tenant_id)`. -/
def profiledColumns (source : SourceTable) : List String :=
  source.columns.filter fun column => foldName column ≠ "tenant_id"

/-- The columns and the cells of the bounded sample. Without a tenant column there is
nothing to exclude, and without another one nothing to select. -/
def sample : Except Error (List String × List (List Cell)) :=
  match view (rawName ⟨system, table⟩) with
  | none => .error (.execution "table does not exist")
  | some source =>
      if !(source.columns.map foldName).contains "tenant_id" then
        .error (.execution "column in EXCLUDE list not found")
      else if (profiledColumns source).isEmpty then .error (.execution "SELECT list is empty")
      else .ok (profiledColumns source,
        (source.rows.take profiler.sampleRows).map (cellsOf (profiledColumns source)))

/-- An embedding; a failed one degrades to the zero vector. -/
def embedding (text : String) : List F64 :=
  match models.embed text with
  | .ok vector => vector
  | .error _ => List.replicate models.dim 0

def tableDescription (columns : List String) : String :=
  "Table '" ++ table ++ "' of " ++ system ++ "." ++ table ++ " (" ++ toString columns.length ++
    " columns)"

def tableRow (columns : List String) : CatalogRow where
  entityType := "table"
  system := system
  tableName := table
  columnName := none
  semanticType := .table
  dataType := "TABLE"
  description := tableDescription system table columns
  piiFlag := false
  sampleValues := .array []
  embedding := embedding models (tableDescription system table columns)
  sourceEpoch := now

/-- A column of personal data. -/
def redacted (column : String) : Bool := classify column = .pii

/-- The samples that are stored. -/
def storedSamples (column : String) (samples : List String) : List String :=
  if redacted column then ["[redacted]"] else samples

/-- The samples a model gets to see. -/
def llmSamples (column : String) (samples : List String) : List String :=
  if redacted column then [] else samples

def columnDescription (column : String) (samples : List String) : String :=
  match models.describeColumn system table column "VARCHAR" (llmSamples column samples) with
  | .ok description => description
  | .error _ => "Column '" ++ column ++ "' of " ++ system ++ "." ++ table

def columnRow (column : String) (samples : List String) : CatalogRow where
  entityType := "column"
  system := system
  tableName := table
  columnName := some column
  semanticType := classify column
  dataType := "VARCHAR"
  description := columnDescription models system table column samples
  piiFlag := redacted column
  sampleValues := .array ((storedSamples column samples).map Json.string)
  embedding := embedding models (columnDescription models system table column samples)
  sourceEpoch := now

def columnCalls (column : String) (samples : List String) : List ModelCall :=
  [.describeColumn system table column "VARCHAR" (llmSamples column samples),
    .embed (columnDescription models system table column samples)]

/-- `Profiler::onboard`: the catalogue rows, and what the models were asked for them. -/
def onboard : Except Error (List CatalogRow × List ModelCall) := do
  validateIdent system
  validateIdent table
  let (columns, rows) ← profiler.sample view system table
  let samples := sampleColumns rows columns profiler.sampleValueBytes
  let profiled := columns.zipIdx.map fun entry => (entry.1, (samples[entry.2]?).getD [])
  return (tableRow models system table now columns ::
      profiled.map fun entry => columnRow models system table now entry.1 entry.2,
    .embed (tableDescription system table columns) ::
      profiled.flatMap fun entry => columnCalls models system table entry.1 entry.2)

end Profiler

/-! ### What an onboarding stores and asks -/

section
variable (profiler : Profiler) (models : Models) (system table : String) (now ingestEpoch : Int)
  (tenant : String)

/-- `POST /sources/onboard` after its rows were ingested: profile, stamp the rows with the
state of the source they were built from, write them for the tenant. A failure only means
that the source is not profiled. -/
def profileSource (view : View) : Session (Bool × List String) :=
  match profiler.onboard models view system table now with
  | .error _ => pure (false, [])
  | .ok (rows, _) => do
      Effect.modify fun writer => writer.setTenant tenant
      let written ← Effect.attempt
        (writeCatalogRows (rows.map fun row => { row with sourceEpoch := ingestEpoch }))
      match written with
      | .ok _ => return (true, rows.filterMap CatalogRow.columnName)
      | .error _ => return (false, [])

/-- What the models were asked. -/
def asked (view : View) : List ModelCall :=
  match profiler.onboard models view system table now with
  | .error _ => []
  | .ok (_, calls) => calls

/-- What an onboarding leaves behind for its tenant. -/
structure Footprint where
  response : Bool × List String
  stored : List CatalogRow
  asked : List ModelCall

def footprint (writer : Writer) (view : View) : Except Error Footprint :=
  match profileSource profiler models system table now ingestEpoch tenant view writer with
  | (.error failure, _) => .error failure
  | (.ok response, after) => .ok ⟨response,
      ((after.durable.catalog.semanticCatalog.getD []).filter fun stored =>
        stored.tenantId = some tenant).map StoredCatalogRow.row,
      asked profiler models system table now view⟩

/-- The rows of a tenant, in the order of the table. -/
def ownRows (tenant : String) (rows : List RawRow) : List RawRow :=
  rows.filter fun row => row.tenant = some tenant

def View.withRows (view : View) (name : String) (rows : List RawRow) : View :=
  Function.update view name ((view name).map fun source => { source with rows })

def View.rowsOf (view : View) (name : String) : List RawRow :=
  ((view name).map SourceTable.rows).getD []

/-- The footprint is the same whatever rows of other tenants are among the tenant's own. -/
def Confined (writer : Writer) (view : View) : Prop :=
  ∀ name rows, ownRows tenant rows = ownRows tenant (view.rowsOf name) →
    footprint profiler models system table now ingestEpoch tenant writer (view.withRows name rows) =
      footprint profiler models system table now ingestEpoch tenant writer view

/-- Nothing of the sample is used: there is none, or every profiled column is redacted. -/
def Unsampled (view : View) : Prop :=
  isIdent system = false ∨ isIdent table = false ∨
    ∀ source, view (rawName ⟨system, table⟩) = some source →
      "tenant_id" ∉ source.columns.map foldName ∨
        ∀ column ∈ Profiler.profiledColumns source, Profiler.redacted column = true

end

namespace Profiler

variable {profiler : Profiler} {models : Models} {view : View} {system table : String} {now : Int}

/-- The samples of one column. -/
def samplesOf (profiler : Profiler) (rows : List RawRow) (column : String) : List String :=
  ((rows.take profiler.sampleRows).map fun row => row (foldName column)).foldl
    (addSample profiler.sampleValueBytes) []

/-- The columns with their samples. -/
def profiled (profiler : Profiler) (source : SourceTable) : List (String × List String) :=
  (profiledColumns source).map fun column => (column, profiler.samplesOf source.rows column)

/-- The table can be profiled. -/
structure Profilable (view : View) (system table : String) (source : SourceTable) : Prop where
  systemIdent : isIdent system = true
  tableIdent : isIdent table = true
  found : view (rawName ⟨system, table⟩) = some source
  owned : "tenant_id" ∈ source.columns.map foldName
  wide : profiledColumns source ≠ []

theorem onboard_eq {source : SourceTable} (profilable : Profilable view system table source) :
    profiler.onboard models view system table now =
      .ok (tableRow models system table now (profiledColumns source) ::
          (profiler.profiled source).map fun entry =>
            columnRow models system table now entry.1 entry.2,
        .embed (tableDescription system table (profiledColumns source)) ::
          (profiler.profiled source).flatMap fun entry =>
            columnCalls models system table entry.1 entry.2) := by
  have sampled : profiler.sample view system table = .ok (profiledColumns source,
      (source.rows.take profiler.sampleRows).map (cellsOf (profiledColumns source))) := by
    have owned : (source.columns.map foldName).contains "tenant_id" = true := by
      simpa using profilable.owned
    have wide : (profiledColumns source).isEmpty = false := by simpa using profilable.wide
    simp only [sample, profilable.found, owned, wide, Bool.not_true, Bool.false_eq_true, if_false]
  have indexed (values : String → List String) (columns : List String) :
      columns.zipIdx.map (fun entry => (entry.1, ((columns.map values)[entry.2]?).getD [])) =
        columns.map fun column => (column, values column) := by
    refine List.ext_getElem? fun position => ?_
    rw [List.getElem?_map, List.getElem?_map, List.getElem?_zipIdx]
    cases at_ : columns[position]? with
    | none => rfl
    | some column => simp [at_]
  simp only [onboard, validateIdent_eq_ok.mpr profilable.systemIdent,
    validateIdent_eq_ok.mpr profilable.tableIdent, sampled, sampleColumns_eq, indexed, bind, Except.bind]
  rfl

/-- What was profiled can be. -/
theorem profilable_of_ok {result : List CatalogRow × List ModelCall}
    (ran : profiler.onboard models view system table now = .ok result) :
    ∃ source, Profilable view system table source := by
  unfold onboard at ran
  obtain ⟨⟨⟩, systemIdent, ran⟩ := except_bind_eq_ok.mp ran
  obtain ⟨⟨⟩, tableIdent, ran⟩ := except_bind_eq_ok.mp ran
  obtain ⟨sampled, sampling, -⟩ := except_bind_eq_ok.mp ran
  unfold sample at sampling
  cases found : view (rawName ⟨system, table⟩) with
  | none =>
    rw [found] at sampling
    cases sampling
  | some source =>
    simp only [found] at sampling
    split at sampling
    · cases sampling
    · next owned =>
      split at sampling
      · cases sampling
      · next wide =>
        refine ⟨source, validateIdent_eq_ok.mp systemIdent, validateIdent_eq_ok.mp tableIdent, found,
          ?_, ?_⟩
        · simpa using owned
        · simpa using wide

end Profiler

/-! ### The sample shows -/

theorem prefix_addSample (valueBytes : Nat) (bucket : List String) (cell : Cell) :
    bucket <+: addSample valueBytes bucket cell := by
  unfold addSample
  split
  · exact List.prefix_rfl
  · cases cell with
    | none => exact List.prefix_rfl
    | some text =>
      by_cases seen : bucket.contains (truncateBytes text valueBytes) = true
      · simp only [if_pos seen]
        exact List.prefix_rfl
      · simp only [if_neg seen]
        exact List.prefix_append _ _

theorem prefix_foldl_addSample (valueBytes : Nat) (bucket : List String) (cells : List Cell) :
    bucket <+: cells.foldl (addSample valueBytes) bucket := by
  induction cells generalizing bucket with
  | nil => exact List.prefix_rfl
  | cons cell cells ih => exact (prefix_addSample valueBytes bucket cell).trans (ih _)

/-- A short value in the first row is the first sample. -/
theorem foldl_addSample_first {valueBytes : Nat} {text : String}
    (short : truncateBytes text valueBytes = text) (cells : List Cell) :
    (((some text : Cell) :: cells).foldl (addSample valueBytes) []).head? = some text := by
  have first : addSample valueBytes [] (some text) = [text] := by
    simp [addSample, maxSampleValues, short]
  rw [List.foldl_cons, first]
  obtain ⟨rest, split⟩ := prefix_foldl_addSample valueBytes [text] cells
  rw [← split]
  rfl

/-- A digit that is not the first sample. -/
def otherDigit (samples : List String) : String := if samples.head? = some "0" then "1" else "0"

theorem otherDigit_ne (samples : List String) : samples.head? ≠ some (otherDigit samples) := by
  unfold otherDigit
  split
  · next zero => simp [zero]
  · next other => exact other

theorem truncateBytes_otherDigit {valueBytes : Nat} (positive : 0 < valueBytes)
    (samples : List String) :
    truncateBytes (otherDigit samples) valueBytes = otherDigit samples := by
  have fits : 1 ≤ valueBytes := positive
  have zero : truncateBytes "0" valueBytes = "0" := by
    simp [truncateBytes, truncateChars, show '0'.utf8Size = 1 by decide, fits]
  have one : truncateBytes "1" valueBytes = "1" := by
    simp [truncateBytes, truncateChars, show '1'.utf8Size = 1 by decide, fits]
  unfold otherDigit
  split
  · exact one
  · exact zero

section
variable {profiler : Profiler} {models : Models} {system table : String} {now ingestEpoch : Int}
  {tenant name : String} {writer : Writer} {view : View} {source : SourceTable}

/-- An onboarding is never failed by the profile. -/
theorem footprint_asked : ∃ response stored,
    footprint profiler models system table now ingestEpoch tenant writer view =
      .ok ⟨response, stored, asked profiler models system table now view⟩ := by
  have returns : ∃ response after, profileSource profiler models system table now ingestEpoch tenant
      view writer = (.ok response, after) := by
    unfold profileSource
    cases profiler.onboard models view system table now with
    | error failure => exact ⟨_, _, rfl⟩
    | ok result =>
      simp only [Effect.bind_apply, Effect.modify_apply, Effect.attempt_apply]
      rcases writeCatalogRows _ _ with ⟨failure | n, after⟩ <;> exact ⟨_, _, rfl⟩
  obtain ⟨response, after, ran⟩ := returns
  exact ⟨_, _, by rw [footprint, ran]⟩

/-- The samples a model was shown. -/
def ModelCall.shown : ModelCall → Option (List String)
  | .describeColumn _ _ _ _ sample => some sample
  | .embed _ => none

theorem asked_shown (profilable : Profiler.Profilable view system table source) :
    (asked profiler models system table now view).filterMap ModelCall.shown =
      (profiler.profiled source).map fun entry => Profiler.llmSamples entry.1 entry.2 := by
  have columns (entries : List (String × List String)) :
      (entries.flatMap fun entry => Profiler.columnCalls models system table entry.1 entry.2).filterMap
          ModelCall.shown =
        entries.map fun entry => Profiler.llmSamples entry.1 entry.2 := by
    induction entries with
    | nil => rfl
    | cons entry entries ih =>
      rw [List.flatMap_cons, List.filterMap_append, ih]
      rfl
  rw [asked, Profiler.onboard_eq profilable]
  exact columns _

theorem columnRow_redacted {column : String} (redacted : Profiler.redacted column = true)
    (first second : List String) :
    Profiler.columnRow models system table now column first =
      Profiler.columnRow models system table now column second := by
  simp only [Profiler.columnRow, Profiler.columnDescription, Profiler.llmSamples,
    Profiler.storedSamples, if_pos redacted]

theorem columnCalls_redacted {column : String} (redacted : Profiler.redacted column = true)
    (first second : List String) :
    Profiler.columnCalls models system table column first =
      Profiler.columnCalls models system table column second := by
  simp only [Profiler.columnCalls, Profiler.columnDescription, Profiler.llmSamples,
    if_pos redacted]

theorem View.withRows_self (found : view name = some source) (rows : List RawRow) :
    view.withRows name rows name = some { source with rows } := by
  simp [View.withRows, found]

theorem View.withRows_of_ne {other : String} (ne : other ≠ name) (rows : List RawRow) :
    view.withRows name rows other = view other := by
  simp [View.withRows, ne]

theorem onboard_congr {other : View} {after : SourceTable} (valid : isIdent system = true)
    (valid' : isIdent table = true) (found : view (rawName ⟨system, table⟩) = some source)
    (found' : other (rawName ⟨system, table⟩) = some after) (same : after.columns = source.columns)
    (alike : "tenant_id" ∉ source.columns.map foldName ∨
      ∀ column ∈ Profiler.profiledColumns source, Profiler.redacted column = true ∨
        profiler.samplesOf after.rows column = profiler.samplesOf source.rows column) :
    profiler.onboard models other system table now =
      profiler.onboard models view system table now := by
  have columns : Profiler.profiledColumns after = Profiler.profiledColumns source := by
    rw [Profiler.profiledColumns, same, Profiler.profiledColumns]
  by_cases profilable : Profiler.Profilable view system table source
  · have profilable' : Profiler.Profilable other system table after :=
      ⟨valid, valid', found', same ▸ profilable.owned, columns ▸ profilable.wide⟩
    have all := alike.resolve_left (not_not_intro profilable.owned)
    have rows : (profiler.profiled after).map (fun entry =>
        Profiler.columnRow models system table now entry.1 entry.2) =
          (profiler.profiled source).map fun entry =>
            Profiler.columnRow models system table now entry.1 entry.2 := by
      rw [Profiler.profiled, Profiler.profiled, columns, List.map_map, List.map_map]
      refine List.map_congr_left fun column member => ?_
      rcases all column member with redacted | same
      · exact columnRow_redacted redacted _ _
      · exact congrArg (Profiler.columnRow models system table now column) same
    have calls : (profiler.profiled after).flatMap (fun entry =>
        Profiler.columnCalls models system table entry.1 entry.2) =
          (profiler.profiled source).flatMap fun entry =>
            Profiler.columnCalls models system table entry.1 entry.2 := by
      rw [Profiler.profiled, Profiler.profiled, columns, List.flatMap_map, List.flatMap_map,
        List.flatMap_def, List.flatMap_def]
      refine congrArg _ (List.map_congr_left fun column member => ?_)
      rcases all column member with redacted | same
      · exact columnCalls_redacted redacted _ _
      · exact congrArg (Profiler.columnCalls models system table column) same
    rw [Profiler.onboard_eq profilable, Profiler.onboard_eq profilable', columns, rows, calls]
  · -- Neither table gets past the sample.
    have sampled : profiler.sample other system table = profiler.sample view system table := by
      simp only [Profiler.sample, found, found', same, columns]
      split
      · rfl
      · next owned =>
        split
        · rfl
        · next wide =>
          refine absurd ⟨valid, valid', found, ?_, ?_⟩ profilable
          · simpa using owned
          · simpa using wide
    simp only [Profiler.onboard, sampled]

/-- Without a sample in use, no row of the table is. -/
theorem onboard_unsampled (unsampled : Unsampled system table view) (name : String)
    (rows : List RawRow) :
    profiler.onboard models (view.withRows name rows) system table now =
      profiler.onboard models view system table now := by
  by_cases valid : isIdent system = true
  · by_cases valid' : isIdent table = true
    · by_cases here : rawName ⟨system, table⟩ = name
      · subst here
        cases found : view (rawName ⟨system, table⟩) with
        | none =>
          have missing : view.withRows (rawName ⟨system, table⟩) rows = view := by
            rw [View.withRows, found]
            exact Function.update_eq_self_iff.mpr found.symm
          rw [missing]
        | some source =>
          rcases unsampled with bad | bad | unused
          · rw [valid] at bad
            cases bad
          · rw [valid'] at bad
            cases bad
          · exact onboard_congr valid valid' found (View.withRows_self found rows) rfl
              ((unused source found).imp_right fun all column member => .inl (all column member))
      · simp only [Profiler.onboard, Profiler.sample, View.withRows_of_ne here]
    · cases checked : validateIdent table with
      | ok => exact absurd (validateIdent_eq_ok.mp checked) valid'
      | error failure => simp only [Profiler.onboard, checked, bind, Except.bind]
  · cases checked : validateIdent system with
    | ok => exact absurd (validateIdent_eq_ok.mp checked) valid
    | error failure => simp only [Profiler.onboard, checked, bind, Except.bind]

/-- A foreign row whose cell in one column is given. -/
def probe (tenant column value : String) : RawRow := fun name =>
  if name = "tenant_id" then some ("not " ++ tenant)
  else if name = foldName column then some value else none

theorem ownRows_probe (tenant column value : String) (rows : List RawRow) :
    ownRows tenant (probe tenant column value :: rows) = ownRows tenant rows := by
  have foreign : (probe tenant column value).tenant ≠ some tenant := by
    simp [probe, RawRow.tenant]
  rw [ownRows, List.filter_cons_of_neg (by simpa using foreign)]
  rfl

/-- The foreign row comes first, and its cell is a sample the own rows do not start with. -/
theorem samplesOf_probe {column : String} (profiled : foldName column ≠ "tenant_id")
    (rows : List RawRow) (samples : List String) :
    (profiler.samplesOf (probe tenant column (otherDigit samples) :: rows) column).head? =
      some (otherDigit samples) := by
  obtain ⟨n, positive⟩ := Nat.exists_eq_succ_of_ne_zero profiler.sampleRows_pos.ne'
  have cell : probe tenant column (otherDigit samples) (foldName column) =
      some (otherDigit samples) := by rw [probe, if_neg profiled, if_pos rfl]
  rw [Profiler.samplesOf, positive, List.take_succ_cons, List.map_cons, cell]
  exact foldl_addSample_first (truncateBytes_otherDigit profiler.sampleValueBytes_pos samples) _

/-- Equal questions about a column that is not redacted come from equal samples. -/
theorem samplesOf_eq_of_asked {other : View} {after : SourceTable}
    (profilable : Profiler.Profilable view system table source)
    (profilable' : Profiler.Profilable other system table after)
    (columns : after.columns = source.columns)
    (asks : asked profiler models system table now other =
      asked profiler models system table now view)
    {column : String} (member : column ∈ Profiler.profiledColumns source)
    (shown : ¬ Profiler.redacted column = true) :
    profiler.samplesOf after.rows column = profiler.samplesOf source.rows column := by
  have shows := congrArg (List.filterMap ModelCall.shown) asks
  rw [asked_shown profilable, asked_shown profilable', Profiler.profiled, Profiler.profiled,
    Profiler.profiledColumns, columns, ← Profiler.profiledColumns, List.map_map, List.map_map] at shows
  have same := List.map_inj_left.mp shows column member
  simpa only [Function.comp_apply, Profiler.llmSamples, if_neg shown] using same

theorem asked_of_confined {rows : List RawRow}
    (confined : Confined profiler models system table now ingestEpoch tenant writer view)
    (own : ownRows tenant rows = ownRows tenant (view.rowsOf name)) :
    asked profiler models system table now (view.withRows name rows) =
      asked profiler models system table now view := by
  have same := confined name rows own
  obtain ⟨_, _, left⟩ := @footprint_asked profiler models system table now ingestEpoch tenant
    writer (view.withRows name rows)
  obtain ⟨_, _, right⟩ := @footprint_asked profiler models system table now ingestEpoch tenant
    writer view
  rw [left, right, Except.ok.injEq, Footprint.mk.injEq] at same
  exact same.2.2

/-- A row of another tenant in front shows in the samples of an unredacted column. -/
theorem unsampled_of_confined
    (confined : Confined profiler models system table now ingestEpoch tenant writer view) :
    Unsampled system table view := by
  by_contra sampled
  simp only [Unsampled, not_or, not_forall, Bool.not_eq_false, not_not] at sampled
  obtain ⟨systemIdent, tableIdent, source, found, owned, column, member, shown⟩ := sampled
  obtain ⟨front, leads⟩ : ∃ front, front =
      probe tenant column (otherDigit (profiler.samplesOf source.rows column)) :: source.rows := ⟨_, rfl⟩
  have own : ownRows tenant front = ownRows tenant (view.rowsOf (rawName ⟨system, table⟩)) := by
    rw [leads, ownRows_probe, View.rowsOf, found]
    rfl
  have same := samplesOf_eq_of_asked
    ⟨systemIdent, tableIdent, found, owned, List.ne_nil_of_mem member⟩
    ⟨systemIdent, tableIdent, View.withRows_self found front, owned, List.ne_nil_of_mem member⟩ rfl
    (asked_of_confined confined own) member shown
  have profiled : foldName column ≠ "tenant_id" := by simpa using (List.mem_filter.mp member).2
  have first := congrArg List.head? same
  simp only [leads, samplesOf_probe profiled] at first
  exact otherDigit_ne _ first.symm

/-- An onboarding is free of the other tenants' rows exactly if the sample is not used. -/
theorem profile_confined_iff :
    Confined profiler models system table now ingestEpoch tenant writer view ↔
      Unsampled system table view := by
  refine ⟨unsampled_of_confined, fun unsampled name rows _ => ?_⟩
  simp only [footprint, profileSource, asked, onboard_unsampled unsampled]

end

/-! ### Two tenants -/

/-- `StubLlm`, next to an embedding service that cannot be reached. -/
def stubModels : Models where
  describeColumn system table column dataType sample :=
    .ok ("Column '" ++ column ++ "' (" ++ dataType ++ ") of " ++ system ++ "." ++ table ++
      "; e.g. '" ++ sample.headD "—" ++ "'.")
  dim := 64
  embed _ := .error .catalogueUnavailable

def ordersView (rows : List RawRow) : View := fun name =>
  if name = "raw_erp_orders" then some ⟨["sku", "tenant_id"], rows⟩ else none

def globexOrder : RawRow := rowOf ["sku", "tenant_id"] [some "A7", some "globex"]

/-- A value of another tenant is put to the model for the tenant that onboards. -/
theorem globex_value_asked :
    ¬ Confined Profiler.default stubModels "erp" "orders" 0 0 "acme" freshWriter (ordersView []) := by
  intro confined
  have own : ownRows "acme" [globexOrder] =
      ownRows "acme" ((ordersView []).rowsOf "raw_erp_orders") := by
    rw [ownRows, List.filter_cons_of_neg (by decide)]
    rfl
  have asks := congrArg (List.filterMap ModelCall.shown) (asked_of_confined confined own)
  revert asks
  decide

end ConsumerEngine.Semantic
