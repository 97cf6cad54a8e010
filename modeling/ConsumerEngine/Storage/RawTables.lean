import ConsumerEngine.Storage.Frames

/-! Raw tables: changing the rows of one, and making sure one is there. -/

set_option autoImplicit false

namespace ConsumerEngine.Storage

open ConsumerEngine.Core ConsumerEngine.Foundation

/-! ### Changing the rows of one table -/

/-- Change the rows of a table; its columns stay. -/
def Catalog.mapRows (catalog : Catalog) (name : String)
    (change : Multiset RawRow → Multiset RawRow) : Catalog :=
  match catalog.raw name with
  | some table => catalog.setRaw name { table with rows := change table.rows }
  | none => catalog

def Catalog.columnsOf (catalog : Catalog) (name : String) : Option (List String) :=
  (catalog.raw name).map RawTable.columns

theorem Catalog.columnsOf_eq_some {catalog : Catalog} {name : String} {known : List String} :
    catalog.columnsOf name = some known ↔ catalog.raw name = some ⟨known, catalog.rowsOf name⟩ := by
  unfold columnsOf rowsOf
  cases catalog.raw name with
  | none => simp
  | some table =>
    obtain ⟨columns, rows⟩ := table
    simp

@[simp] theorem Catalog.columnsOf_mapRows (catalog : Catalog) (name other : String)
    (change : Multiset RawRow → Multiset RawRow) :
    (catalog.mapRows name change).columnsOf other = catalog.columnsOf other := by
  unfold mapRows columnsOf
  cases found : catalog.raw name with
  | none => rfl
  | some table =>
    by_cases same : other = name
    · simp [same, found]
    · simp [catalog.setRaw_of_ne _ same]

@[simp] theorem Catalog.mapRows_cdcOffsets (catalog : Catalog) (name : String)
    (change : Multiset RawRow → Multiset RawRow) :
    (catalog.mapRows name change).cdcOffsets = catalog.cdcOffsets := by
  unfold mapRows
  split <;> rfl

theorem Catalog.rowsOf_mapRows_self {catalog : Catalog} {name : String} {known : List String}
    (present : catalog.columnsOf name = some known) (change : Multiset RawRow → Multiset RawRow) :
    (catalog.mapRows name change).rowsOf name = change (catalog.rowsOf name) := by
  have found := columnsOf_eq_some.mp present
  simp only [mapRows, found]
  simp [rowsOf]

theorem Catalog.rowsOf_mapRows_of_ne (catalog : Catalog) {name other : String} (ne : other ≠ name)
    (change : Multiset RawRow → Multiset RawRow) :
    (catalog.mapRows name change).rowsOf other = catalog.rowsOf other := by
  unfold mapRows
  cases catalog.raw name with
  | none => rfl
  | some table => simp [rowsOf, catalog.setRaw_of_ne _ ne]

theorem Catalog.mapRows_mapRows (catalog : Catalog) (name : String)
    (first second : Multiset RawRow → Multiset RawRow) :
    (catalog.mapRows name first).mapRows name second =
      catalog.mapRows name (fun rows => second (first rows)) := by
  unfold mapRows
  cases found : catalog.raw name with
  | none => simp [found]
  | some table => simp [setRaw]

theorem Catalog.mapRows_id (catalog : Catalog) (name : String) :
    catalog.mapRows name (fun rows => rows) = catalog := by
  unfold mapRows
  cases found : catalog.raw name with
  | none => rfl
  | some table =>
    have same : Function.update catalog.raw name (some table) = catalog.raw := by
      rw [← found, Function.update_eq_self]
    simp [setRaw, same]

/-- Changes of one table, made one after the other, are one change. -/
theorem Catalog.foldl_mapRows {ι : Type} (name : String)
    (change : ι → Multiset RawRow → Multiset RawRow) (items : List ι) (catalog : Catalog) :
    items.foldl (fun catalog item => catalog.mapRows name (change item)) catalog =
      catalog.mapRows name (fun rows => items.foldl (fun rows item => change item rows) rows) := by
  induction items generalizing catalog with
  | nil => simp [mapRows_id]
  | cons item items ih => simp only [List.foldl_cons, ih, mapRows_mapRows]

/-! ### Making sure of a table -/

/-- The columns of a raw table once it was created and given its tenant column. -/
def Catalog.ensured (catalog : Catalog) (dataset : Dataset) (columns : List String) :
    Option (List String) :=
  match catalog.columnsOf (rawName dataset) with
  | some known => some (if known.contains "tenant_id" then known else known ++ ["tenant_id"])
  | none =>
      let created := columns ++ ["tenant_id"]
      if created.all isColumnName && decide (created.map foldName).Nodup then
        some (created.map foldName)
      else none

theorem Catalog.ensured_tenant {catalog : Catalog} {dataset : Dataset} {columns known : List String}
    (ensured : catalog.ensured dataset columns = some known) : "tenant_id" ∈ known := by
  unfold Catalog.ensured at ensured
  cases present : catalog.columnsOf (rawName dataset) with
  | some stored =>
    simp only [present, Option.some.injEq] at ensured
    subst ensured
    split
    · next contained => simpa using contained
    · simp
  | none =>
    simp only [present] at ensured
    split at ensured
    · simp only [Option.some.injEq] at ensured
      subst ensured
      have folded : foldName "tenant_id" = "tenant_id" := by decide
      simp [folded]
    · cases ensured

/-- Making sure of a table a second time changes no column. -/
theorem Catalog.ensured_of_columnsOf {catalog : Catalog} {dataset : Dataset}
    {columns known : List String} (present : catalog.columnsOf (rawName dataset) = some known)
    (owned : "tenant_id" ∈ known) : catalog.ensured dataset columns = some known := by
  have contained : known.contains "tenant_id" = true := by simpa using owned
  simp only [Catalog.ensured, present, contained, if_true]

theorem Catalog.setRaw_eq_self {catalog : Catalog} {name : String} {table : RawTable}
    (found : catalog.raw name = some table) : catalog.setRaw name table = catalog := by
  have same : Function.update catalog.raw name (some table) = catalog.raw := by
    rw [← found, Function.update_eq_self]
  simp [setRaw, same]

/-- The catalogue with a table of the given columns and the rows stored before. -/
def Catalog.withColumns (catalog : Catalog) (name : String) (known : List String) : Catalog :=
  catalog.setRaw name ⟨known, catalog.rowsOf name⟩

@[simp] theorem Catalog.columnsOf_withColumns (catalog : Catalog) (name : String)
    (known : List String) : (catalog.withColumns name known).columnsOf name = some known := by
  simp [withColumns, columnsOf]

@[simp] theorem Catalog.rowsOf_withColumns (catalog : Catalog) (name other : String)
    (known : List String) : (catalog.withColumns name known).rowsOf other = catalog.rowsOf other := by
  by_cases same : other = name
  · subst same
    simp [withColumns, rowsOf]
  · simp [withColumns, rowsOf, catalog.setRaw_of_ne _ same]

/-- A table of the given columns with its rows changed. -/
def Catalog.rewrite (catalog : Catalog) (name : String) (known : List String)
    (change : Multiset RawRow → Multiset RawRow) : Catalog :=
  catalog.setRaw name ⟨known, change (catalog.rowsOf name)⟩

@[simp] theorem Catalog.columnsOf_rewrite (catalog : Catalog) (name : String) (known : List String)
    (change : Multiset RawRow → Multiset RawRow) :
    (catalog.rewrite name known change).columnsOf name = some known := by
  simp [rewrite, columnsOf]

theorem Catalog.columnsOf_rewrite_of_ne (catalog : Catalog) {name other : String}
    (known : List String) (change : Multiset RawRow → Multiset RawRow) (ne : other ≠ name) :
    (catalog.rewrite name known change).columnsOf other = catalog.columnsOf other := by
  rw [rewrite, columnsOf, catalog.setRaw_of_ne _ ne, columnsOf]

@[simp] theorem Catalog.rowsOf_rewrite (catalog : Catalog) (name : String) (known : List String)
    (change : Multiset RawRow → Multiset RawRow) :
    (catalog.rewrite name known change).rowsOf name = change (catalog.rowsOf name) := by
  simp [rewrite, rowsOf]

theorem Catalog.rowsOf_rewrite_of_ne (catalog : Catalog) {name other : String}
    (known : List String) (change : Multiset RawRow → Multiset RawRow) (ne : other ≠ name) :
    (catalog.rewrite name known change).rowsOf other = catalog.rowsOf other := by
  rw [rewrite, rowsOf, catalog.setRaw_of_ne _ ne, rowsOf]

theorem Catalog.mapRows_eq_rewrite {catalog : Catalog} {name : String} {known : List String}
    (present : catalog.columnsOf name = some known) (change : Multiset RawRow → Multiset RawRow) :
    catalog.mapRows name change = catalog.rewrite name known change := by
  have found := columnsOf_eq_some.mp present
  simp only [mapRows, found, rewrite]

theorem Catalog.rewrite_mapRows (catalog : Catalog) (name : String) (known : List String)
    (change : Multiset RawRow → Multiset RawRow) :
    (catalog.withColumns name known).mapRows name change = catalog.rewrite name known change := by
  rw [mapRows_eq_rewrite (catalog.columnsOf_withColumns name known), rewrite,
    catalog.rowsOf_withColumns]
  simp [rewrite, withColumns, setRaw]

/-- What the two statements of the prologue make of a catalogue. -/
theorem prologue_apply (duck : DuckDb) {catalog : Catalog} {dataset : Dataset}
    {columns known : List String} (ensured : catalog.ensured dataset columns = some known) :
    ∃ created, (Statement.createRaw dataset (columns ++ ["tenant_id"])).apply duck catalog =
        .ok (0, created) ∧
      (∀ name, created.rowsOf name = catalog.rowsOf name) ∧
      (Statement.addTenantColumn dataset).apply duck created =
        .ok (0, catalog.withColumns (rawName dataset) known) := by
  have owned : known.contains "tenant_id" = true := by
    simpa using Catalog.ensured_tenant ensured
  unfold Catalog.ensured Catalog.columnsOf at ensured
  cases found : catalog.raw (rawName dataset) with
  | none =>
    simp only [found, Option.map_none] at ensured
    split at ensured
    · next creatable =>
      cases ensured
      have empty : catalog.rowsOf (rawName dataset) = 0 := by simp [Catalog.rowsOf, found]
      refine ⟨catalog.withColumns (rawName dataset) ((columns ++ ["tenant_id"]).map foldName),
        by simp only [Statement.apply, found, if_pos creatable, Catalog.withColumns, empty],
        fun name => catalog.rowsOf_withColumns _ name _, ?_⟩
      simp only [Statement.apply, existing, Catalog.withColumns, Catalog.setRaw_self, bind,
        Except.bind]
      rw [if_pos owned]
      rfl
    · cases ensured
  | some stored =>
    simp only [found, Option.map_some, Option.some.injEq] at ensured
    refine ⟨catalog, by simp only [Statement.apply, found], fun _ => rfl, ?_⟩
    simp only [Statement.apply, existing, found, bind, Except.bind, Catalog.withColumns,
      Catalog.rowsOf]
    split at ensured
    · next contained =>
      subst ensured
      rw [if_pos contained, Catalog.setRaw_eq_self found]
      rfl
    · next missing =>
      subst ensured
      rw [if_neg missing]
      rfl

private theorem createRaw_fails (duck : DuckDb) {catalog : Catalog} {dataset : Dataset}
    {columns : List String} (missing : catalog.ensured dataset columns = none) :
    ∃ message, (Statement.createRaw dataset (columns ++ ["tenant_id"])).apply duck catalog =
      .error message := by
  unfold Catalog.ensured Catalog.columnsOf at missing
  cases found : catalog.raw (rawName dataset) with
  | some stored => simp [found] at missing
  | none =>
    simp only [found, Option.map_none] at missing
    split at missing
    · cases missing
    · next uncreatable =>
      simp only [Statement.apply, found, if_neg uncreatable]
      exact ⟨_, rfl⟩

/-- The statements that make sure of a table. -/
def prologue (dataset : Dataset) (columns : List String) : List Statement :=
  [.createRaw dataset (columns ++ ["tenant_id"]), .addTenantColumn dataset]

/-- A prologue whose statements are taken leaves a table with the ensured columns. -/
theorem ensureRawTable_sends {writer : Writer} {dataset : Dataset} {columns known : List String}
    (ensured : writer.durable.catalog.ensured dataset columns = some known) :
    Sends (ensureRawTable dataset columns) writer (prologue dataset columns)
      (writer.durable.catalog.withColumns (rawName dataset) known) := by
  obtain ⟨middle, create, -, migrate⟩ := prologue_apply writer.duck ensured
  exact (Sends.execute writer create).bind fun _ =>
    (Sends.execute (writer.advanced _ middle) migrate).andThen fun _ => Sends.pure _ ()

/-- The writer once the table is there. -/
theorem ensureRawTable_taken {writer : Writer} {dataset : Dataset} {columns known : List String}
    (ensured : writer.durable.catalog.ensured dataset columns = some known) (clear : writer.Clear 2) :
    ∃ reached, ensureRawTable dataset columns writer = (.ok (), reached) ∧
      reached.durable.catalog = writer.durable.catalog.withColumns (rawName dataset) known ∧
      writer.SameHandle reached ∧ reached.issued = writer.issued + 2 ∧
      appended reached.durable.history = appended writer.durable.history := by
  obtain ⟨_, ready⟩ := (ensureRawTable_sends ensured).taken clear
  refine ⟨_, ready, Writer.advanced_catalog .., writer.sameHandle_advanced .., by simp [prologue], ?_⟩
  simp only [Writer.advanced, appended_append]
  exact Multiset.add_zero _

theorem ensureRawTable_fails {writer : Writer} {dataset : Dataset} {columns : List String}
    (missing : writer.durable.catalog.ensured dataset columns = none) :
    Fails (ensureRawTable dataset columns) writer := by
  obtain ⟨message, create⟩ := createRaw_fails writer.duck missing
  exact (Fails.execute create).bind

/-- A prologue that is not taken stores no row and fails. -/
theorem ensureRawTable_refused {writer : Writer} {dataset : Dataset} {columns : List String}
    (refused : ¬ ((writer.durable.catalog.ensured dataset columns).isSome = true ∧
      writer.Clear 2)) :
    ∃ failure reached, ensureRawTable dataset columns writer = (.error failure, reached) ∧
      (∀ name, reached.durable.catalog.rowsOf name = writer.durable.catalog.rowsOf name) ∧
      writer.SameHandle reached ∧
      appended reached.durable.history = appended writer.durable.history := by
  cases created : writer.duck.rejects writer.issued with
  | true =>
    exact ⟨_, writer.sent, Effect.bind_of_error (execute_rejected created), fun _ => rfl,
      ⟨rfl, rfl, rfl, rfl, rfl⟩, rfl⟩
  | false =>
    cases ensured : writer.durable.catalog.ensured dataset columns with
    | none =>
      obtain ⟨message, create⟩ := createRaw_fails writer.duck ensured
      obtain ⟨failure, ran⟩ := execute_failed create
      exact ⟨_, writer.sent, Effect.bind_of_error ran, fun _ => rfl, ⟨rfl, rfl, rfl, rfl, rfl⟩, rfl⟩
    | some known =>
      obtain ⟨middle, create, kept, migrate⟩ := prologue_apply writer.duck ensured
      have migrated : writer.duck.rejects (writer.issued + 1) = true := by
        by_contra passed
        refine refused ⟨by simp [ensured], fun i below => ?_⟩
        rcases i with _ | _ | i
        · exact created
        · simpa using passed
        · omega
      have second : ∀ statement, execute statement (writer.accept (.createRaw dataset
          (columns ++ ["tenant_id"])) middle) = (.error (.storage "statement failed"),
            (writer.accept (.createRaw dataset (columns ++ ["tenant_id"])) middle).sent) :=
        fun _ => execute_rejected migrated
      refine ⟨_, _, (Effect.bind_of_ok (execute_accepted created create)).trans
        (Effect.bind_of_error (second _)), kept, ⟨rfl, rfl, rfl, rfl, rfl⟩, ?_⟩
      simp only [Writer.accept, Writer.sent, appended_append, appended_singleton,
        Statement.appended, Multiset.coe_nil, Multiset.add_zero]

/-- The parameters of aligned rows and their tenant split into the rows again. -/
theorem bindTuples_stamped {columns : List String} {chunk : List (List Cell)}
    (aligned : ∀ row ∈ chunk, row.length = columns.length) (tenant : String) :
    bindTuples (columns ++ ["tenant_id"]).length chunk.length
        (chunk.flatMap fun row => row ++ [some tenant]) =
      .ok (chunk.map fun row => row ++ [some tenant]) := by
  have width : ∀ tuple ∈ chunk.map (fun row => row ++ [some tenant]),
      tuple.length = (columns ++ ["tenant_id"]).length := by
    intro tuple member
    obtain ⟨row, inChunk, rfl⟩ := List.mem_map.mp member
    simp [aligned row inChunk]
  have total := length_flatten_of_width _ width
  rw [List.length_map] at total
  rw [bindTuples, List.flatMap_def, if_pos total, chunks_of_flatten (by simp) _ width]

end ConsumerEngine.Storage
