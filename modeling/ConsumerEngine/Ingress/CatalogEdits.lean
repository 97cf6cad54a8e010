import ConsumerEngine.Semantic.Profiler
import ConsumerEngine.Semantic.Versions
import ConsumerEngine.Storage.Atomicity

/-! `PUT /catalog`: a new version of a column's entry with another description.

The entry is read, its description and embedding are replaced and it is written again. What
was read is what is written, so what a row loses on its way in and out is lost for good.
-/

set_option autoImplicit false

namespace ConsumerEngine.Ingress

open ConsumerEngine.Core ConsumerEngine.Foundation ConsumerEngine.Storage ConsumerEngine.Semantic

/-! ### The request -/

/-- `EditCatalogRequest`. -/
structure EditCatalogRequest where
  system : String
  tableName : String
  columnName : String
  description : String

/-- `MAX_DESCRIPTION_BYTES`. -/
def maxDescriptionBytes : Nat := 2048

/-- What a request to the catalogue fails with. -/
inductive EditFailure where
  | core (failure : Error)
  | notFound
  deriving DecidableEq

abbrev Editing (α : Type) : Type := Effect Writer EditFailure α

/-- A failure of the core as one of the request. -/
def orCore {α : Type} : Except Error α → Except EditFailure α
  | .ok value => .ok value
  | .error failure => .error (.core failure)

/-- The checks `put_catalog` makes before it reads. -/
def EditCatalogRequest.check (request : EditCatalogRequest) : Except Error Unit := do
  validateIdent request.system
  validateIdent request.tableName
  validateIdent request.columnName
  if request.description.isEmpty || request.description.utf8ByteSize > maxDescriptionBytes then
    .error (.invalidInput
      ("description must be 1..=" ++ toString maxDescriptionBytes ++ " bytes"))
  else .ok ()

/-- The text of an error. -/
def errorText : Error → String
  | .storage source => "storage failure: " ++ source
  | .execution source => "execution failure: " ++ source
  | .ingestion source => "ingestion failure: " ++ source
  | .writerAlreadyHeld => "writer already held: a single IngestionActor owns the catalog"
  | .invalidInput message => "invalid input: " ++ message
  | .catalogueUnavailable => "semantic catalogue unavailable"
  | .panicked message => message

/-- The embedding of a new description. -/
def embedDescription (models : Models) (description : String) : Except Error (List F64) :=
  match models.embed description with
  | .ok vector => .ok vector
  | .error failure => .error (.execution ("embed: " ++ errorText failure))

/-- `i64` addition of one, wrapping. -/
def nextEpoch (epoch : Int) : Int := (epoch + 1).bmod (2 ^ 64)

/-- The version that replaces an entry. -/
def editedRow (description : String) (embedding : List F64) (now : Int) (row : CatalogRow) :
    CatalogRow :=
  { row with
    description := description
    embedding := embedding
    sourceEpoch := max now (nextEpoch row.sourceEpoch) }

/-- An operation of the writer thread for a tenant. -/
def writeAs {α : Type} (tenant : String) (act : Session α) : Editing α := fun writer =>
  match act (writer.setTenant tenant) with
  | (.ok value, reached) => (.ok value, reached)
  | (.error failure, reached) => (.error (.core failure), reached)

section
variable (reader : CatalogReader) (display : Json → String) (models : Models) (tenant : String)

/-- `put_catalog` at second `now`. -/
def putCatalog (now : Int) (request : EditCatalogRequest) : Editing Unit := do
  Effect.lift (orCore request.check)
  let writer ← Effect.get
  let found ← Effect.lift (orCore (catalogueEntry reader display writer.committed.catalog
    request.system request.tableName request.columnName tenant))
  match found with
  | none => Effect.throw .notFound
  | some row => do
      let embedding ← Effect.lift (orCore (embedDescription models request.description))
      let _ ← writeAs tenant (writeCatalogRows [editedRow request.description embedding now row])
      return ()

/-- Edits of one column's description, each at its second. -/
def putInTurn (system entity column : String) : List (Int × String) → Editing Unit
  | [] => pure ()
  | (now, description) :: rest => do
      putCatalog reader display models tenant now ⟨system, entity, column, description⟩
      putInTurn system entity column rest

end

/-! ### What a write stores -/

/-- Inserted rows come behind those that are stored. -/
theorem insertCatalogRows_applied {duck : DuckDb} {tenant : String} {rows : List CatalogRow}
    {catalog after : Catalog} {stored : List StoredCatalogRow}
    (present : catalog.semanticCatalog = some stored)
    (ran : applyAll duck catalog (rows.map (.insertCatalogRow · tenant)) = .ok after) :
    after.semanticCatalog = some (stored ++ rows.map fun row => ⟨row, some tenant⟩) := by
  induction rows generalizing catalog stored with
  | nil =>
    cases ran
    rw [List.map_nil, List.append_nil, present]
  | cons row rest ih =>
    obtain ⟨applied, one, more⟩ := except_bind_eq_ok.mp ran
    obtain ⟨rows, here, done⟩ := except_bind_eq_ok.mp one
    rw [present] at here
    cases here
    cases done
    rw [ih rfl more, List.append_assoc]
    rfl

/-- The entries of the table; none while it does not exist. -/
def entriesIn (writer : Writer) : List StoredCatalogRow :=
  writer.durable.catalog.semanticCatalog.getD []

/-- A write that succeeded stored its rows for its tenant, behind the others. -/
theorem writeCatalogRows_stored {rows : List CatalogRow} {writer after : Writer} {written : Nat}
    (filled : rows ≠ []) (ran : writeCatalogRows rows writer = (.ok written, after)) :
    after.durable.catalog.semanticCatalog =
        some (entriesIn writer ++ rows.map fun row => ⟨row, some writer.tenant⟩) ∧
      after.rollbackTo = writer.rollbackTo := by
  unfold writeCatalogRows at ran
  rw [if_neg (by simpa using filled)] at ran
  obtain ⟨⟨⟩, opened, opens, ran⟩ := Effect.bind_eq_ok.mp ran
  obtain ⟨⟨⟩, checked, checks, ran⟩ := Effect.bind_eq_ok.mp ran
  obtain ⟨-, rfl⟩ := Effect.lift_eq_ok checks
  obtain ⟨handle, same, got, ran⟩ := Effect.bind_eq_ok.mp ran
  cases got
  obtain ⟨count, inserted, inserts, ran⟩ := Effect.bind_eq_ok.mp ran
  obtain ⟨⟨⟩, bumped, bump, returned⟩ := Effect.bind_eq_ok.mp ran
  cases bump
  cases returned
  obtain ⟨_, created, create, rest⟩ := Effect.bind_eq_ok.mp opens
  obtain ⟨_, migrated, migrate, done⟩ := Effect.bind_eq_ok.mp rest
  cases done
  have opening := (execute_wrote create).trans (execute_wrote migrate)
  have present : opened.durable.catalog.semanticCatalog = some (entriesIn writer) := by
    have made : (.ok { writer.durable.catalog with semanticCatalog := some (entriesIn writer) } :
        Except String Catalog) = .ok opened.durable.catalog := opening.applied
    rw [← Except.ok.inj made]
  have wrote := executeFrom_wrote inserts
  have stored := insertCatalogRows_applied present wrote.applied
  rw [opening.handle.tenant] at stored
  exact ⟨stored, wrote.handle.rollbackTo.trans opening.handle.rollbackTo⟩

/-! ### Samples across edits -/

section
variable {reader : CatalogReader} {display : Json → String} {models : Models} {tenant : String}
  {profiled : CatalogRow} {column : String} {writer : Writer}

/-- Samples that are a string, longer than what was profiled where that is a string too. -/
def Overlong (profiled samples : Json) : Prop :=
  ∃ text, samples = .string text ∧ ∀ original, profiled = .string original →
    original.length < text.length

theorem Overlong.ne {profiled samples : Json} (overlong : Overlong profiled samples) :
    samples ≠ profiled := by
  obtain ⟨text, rfl, longer⟩ := overlong
  intro same
  exact absurd (longer text same.symm) (Nat.lt_irrefl _)

/-- The tenant's column has its profiled row, and nothing as new that still has its samples. -/
structure Profiled (tenant column : String) (profiled : CatalogRow) (writer : Writer) : Prop where
  idle : writer.rollbackTo = none
  present : writer.durable.catalog.semanticCatalog = some (entriesIn writer)
  listed : ⟨profiled, some tenant⟩ ∈
    versionsOf tenant ⟨profiled.system, profiled.tableName, some column⟩ (entriesIn writer)
  newer : ∀ entry ∈ versionsOf tenant ⟨profiled.system, profiled.tableName, some column⟩
    (entriesIn writer), profiled.sourceEpoch ≤ epochOf entry →
      entry.row.sampleValues = profiled.sampleValues ∨
        Overlong profiled.sampleValues entry.row.sampleValues

/-- What is read of the column has lost the samples. -/
theorem Profiled.read (reader : CatalogReader) (held : Profiled tenant column profiled writer)
    (quotes : ∀ text, text.length < (display (.string text)).length) :
    ∃ entry, catalogueEntry reader display writer.committed.catalog profiled.system
        profiled.tableName column tenant = .ok (some entry) ∧
      Overlong profiled.sampleValues entry.sampleValues := by
  have committed : writer.committed = writer.durable := by
    rw [Writer.committed, held.idle]
    rfl
  obtain ⟨found, newest, read⟩ := catalogueEntry_found reader display held.present held.listed
  obtain ⟨entry, back, samples⟩ := readBack_samples display tenant found.row
  refine ⟨entry, by rw [committed, read, back]; rfl, _, samples, fun original is => ?_⟩
  rcases held.newer found newest.mem (newest.most _ held.listed) with same | ⟨text, long, longer⟩
  · rw [same, is]
    exact quotes original
  · rw [long]
    exact (longer original is).trans (quotes text)

/-- An edit of the column stores the samples it read. -/
theorem Profiled.put (held : Profiled tenant column profiled writer)
    (quotes : ∀ text, text.length < (display (.string text)).length) {now : Int}
    {description : String} {after : Writer}
    (ran : putCatalog reader display models tenant now
      ⟨profiled.system, profiled.tableName, column, description⟩ writer = (.ok (), after)) :
    Profiled tenant column profiled after := by
  obtain ⟨entry, read, overlong⟩ := held.read reader quotes
  obtain ⟨⟨⟩, checked, checks, ran⟩ := Effect.bind_eq_ok.mp ran
  obtain ⟨-, rfl⟩ := Effect.lift_eq_ok checks
  obtain ⟨handle, same, got, ran⟩ := Effect.bind_eq_ok.mp ran
  cases got
  obtain ⟨found, same, looked, ran⟩ := Effect.bind_eq_ok.mp ran
  obtain ⟨is, rfl⟩ := Effect.lift_eq_ok looked
  rw [read] at is
  cases is
  obtain ⟨vector, same, embedded, ran⟩ := Effect.bind_eq_ok.mp ran
  obtain ⟨-, rfl⟩ := Effect.lift_eq_ok embedded
  obtain ⟨n, wrote, writes, returned⟩ := Effect.bind_eq_ok.mp ran
  cases returned
  have written : writeCatalogRows [editedRow description vector now entry]
      (writer.setTenant tenant) = (.ok n, after) := by
    unfold writeAs at writes
    split at writes <;> cases writes
    assumption
  obtain ⟨stored, idle⟩ := writeCatalogRows_stored (List.cons_ne_nil _ _) written
  have entries : entriesIn after = entriesIn writer ++
      [⟨editedRow description vector now entry, some tenant⟩] := by
    rw [entriesIn, stored]
    rfl
  refine ⟨idle.trans held.idle, by rw [stored, entries]; rfl, ?_, fun other member newer => ?_⟩
  · rw [entries, versionsOf_append]
    exact List.mem_append_left _ held.listed
  · rw [entries, versionsOf_append, List.mem_append] at member
    rcases member with old | new
    · exact held.newer other old newer
    · obtain rfl := List.mem_singleton.mp (mem_versionsOf.mp new).1
      exact .inr overlong

theorem Profiled.putInTurn (quotes : ∀ text, text.length < (display (.string text)).length)
    {edits : List (Int × String)} {after : Writer} (held : Profiled tenant column profiled writer)
    (ran : putInTurn reader display models tenant profiled.system profiled.tableName column edits
      writer = (.ok (), after)) : Profiled tenant column profiled after := by
  induction edits generalizing writer with
  | nil =>
    cases ran
    exact held
  | cons edit rest ih =>
    obtain ⟨⟨⟩, reached, one, more⟩ := Effect.bind_eq_ok.mp ran
    exact ih (held.put quotes one) more

end

/-- The samples a profile stored are read back as another value, at once and after any edits of
the column. `quotes` is the rendering of strings between quotes. -/
theorem samples_never_read_back {reader : CatalogReader} {display : Json → String}
    (quotes : ∀ text, text.length < (display (.string text)).length) {models : Models}
    {rows : List CatalogRow} {row : CatalogRow} {column : String} {writer written after : Writer}
    {n : Nat} (idle : writer.rollbackTo = none)
    (wrote : writeCatalogRows rows writer = (.ok n, written)) (member : row ∈ rows)
    (named : row.columnName = some column)
    (newest : newestOf epochOf (versionsOf writer.tenant (keyOf row) (entriesIn written)) =
      [⟨row, some writer.tenant⟩])
    {edits : List (Int × String)}
    (edited : putInTurn reader display models writer.tenant row.system row.tableName column edits
      written = (.ok (), after)) :
    ∃ entry, catalogueEntry reader display after.committed.catalog row.system row.tableName column
        writer.tenant = .ok (some entry) ∧ entry.sampleValues ≠ row.sampleValues := by
  obtain ⟨stored, closed⟩ := writeCatalogRows_stored (List.ne_nil_of_mem member) wrote
  have key : keyOf row = ⟨row.system, row.tableName, some column⟩ := by rw [keyOf, named]
  rw [key] at newest
  have sole : ∀ other, other ∈ newestOf epochOf (versionsOf writer.tenant
      ⟨row.system, row.tableName, some column⟩ (entriesIn written)) ↔
        other = ⟨row, some writer.tenant⟩ := by
    intro other
    rw [newest, List.mem_singleton]
  have here := List.mem_filter.mp ((sole _).mpr rfl)
  have most := of_decide_eq_true here.2
  have held : Profiled writer.tenant column row written := by
    refine ⟨closed.trans idle, by rw [entriesIn, stored]; rfl, here.1, fun other listed newer => ?_⟩
    have same := (sole other).mp (List.mem_filter.mpr ⟨listed, decide_eq_true fun one among =>
      (most one among).trans newer⟩)
    exact .inl (by rw [same])
  obtain ⟨entry, read, overlong⟩ := (held.putInTurn quotes edited).read reader quotes
  exact ⟨entry, read, overlong.ne⟩

/-- A rendering of strings and empty lists. -/
def plainText : Json → String
  | .string text => "\"" ++ text ++ "\""
  | _ => "[]"

theorem plainText_quotes (text : String) : text.length < (plainText (.string text)).length := by
  rw [plainText, String.length_append, String.length_append]
  exact Nat.lt_add_right 1 (Nat.lt_add_of_pos_left Nat.one_pos)

/-- A column profiled without samples. -/
def skuRow : CatalogRow :=
  ⟨"column", "erp", "orders", some "sku", .dimension, "VARCHAR", "the sku", false, .array [], [0, 1],
    1000⟩

theorem skuRow_single : ∀ x ∈ skuRow.embedding, IsF32 x := by
  intro x member
  rcases List.mem_cons.mp member with rfl | last
  · exact ⟨0, 0, by norm_num, by norm_num, by norm_num, by norm_num⟩
  · rw [List.mem_singleton.mp last]
    exact ⟨1, 0, by norm_num, by norm_num, by norm_num, by norm_num⟩

/-- A service that embeds every text alike. -/
def flatModels : Models := ⟨fun _ _ _ _ _ => .ok "", 2, fun _ => .ok [1, 0]⟩

/-- A writer that has the column profiled. -/
def profiledSku : Writer := (writeCatalogRows [skuRow] freshWriter).2

theorem samples_never_read_back_sku :
    ∃ (after : Writer) (entry : CatalogRow),
      putInTurn firstNewest plainText flatModels "acme" "erp" "orders" "sku"
        [(1000, "stock keeping unit")] profiledSku = (.ok (), after) ∧
      catalogueEntry firstNewest plainText after.committed.catalog "erp" "orders" "sku" "acme" =
        .ok (some entry) ∧ entry.sampleValues ≠ .array [] := by
  have wrote : writeCatalogRows [skuRow] freshWriter = (.ok 1, profiledSku) := rfl
  have newest : newestOf epochOf (versionsOf freshWriter.tenant (keyOf skuRow)
      (entriesIn profiledSku)) = [⟨skuRow, some freshWriter.tenant⟩] := rfl
  obtain ⟨after, edited⟩ : ∃ after, putInTurn firstNewest plainText flatModels freshWriter.tenant
      skuRow.system skuRow.tableName "sku" [(1000, "stock keeping unit")] profiledSku =
        (.ok (), after) := ⟨_, rfl⟩
  obtain ⟨entry, read, other⟩ := samples_never_read_back plainText_quotes rfl wrote
    (List.mem_singleton_self skuRow) rfl newest edited
  exact ⟨after, entry, edited, read, other⟩

/-- No samples are read back as the text of no samples. -/
theorem samples_read_as_text :
    ¬ ∀ (reader : CatalogReader) (display : Json → String),
      (∀ text, text.length < (display (.string text)).length) →
      ∀ (rows : List CatalogRow) (row : CatalogRow) (column : String) (writer written : Writer)
        (n : Nat), writer.rollbackTo = none → writeCatalogRows rows writer = (.ok n, written) →
        row ∈ rows → row.columnName = some column →
        newestOf epochOf (versionsOf writer.tenant (keyOf row) (entriesIn written)) =
          [⟨row, some writer.tenant⟩] →
        catalogueEntry reader display written.committed.catalog row.system row.tableName column
          writer.tenant = .ok (some row) := by
  intro returned
  have same := returned firstNewest plainText plainText_quotes [skuRow] skuRow "sku" freshWriter
    profiledSku 1 rfl rfl (List.mem_singleton_self skuRow) rfl rfl
  have read : catalogueEntry firstNewest plainText profiledSku.committed.catalog "erp" "orders"
      "sku" "acme" = (readBack plainText "acme" skuRow).map some := rfl
  rw [readBack_eq plainText "acme" skuRow skuRow_single (by decide) (by decide)] at read
  have samples := Option.some.inj (Except.ok.inj (same.symm.trans read))
  exact absurd (congrArg CatalogRow.sampleValues samples) (by simp [skuRow])

end ConsumerEngine.Ingress
