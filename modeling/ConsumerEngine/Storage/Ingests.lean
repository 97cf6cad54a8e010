import ConsumerEngine.Storage.KeyedCalls

/-! Appending rows to a raw table, chunk by chunk.

A refused statement leaves the chunks before it: an ingest that fails may have stored
some of its rows, and one that returns has stored all of them.
-/

set_option autoImplicit false

namespace ConsumerEngine.Storage

open ConsumerEngine.Core ConsumerEngine.Foundation

/-- A dataset with the columns of the rows appended to it. -/
structure IngestTable where
  system : String
  entity : String
  columns : List String

namespace IngestTable

def dataset (table : IngestTable) : Dataset := ⟨table.system, table.entity⟩

def name (table : IngestTable) : String := rawName table.dataset

/-- The checks of `ingest_raw`. -/
def sound (table : IngestTable) : Bool :=
  !table.columns.isEmpty && table.columns.all isIdent && isIdent table.system &&
    isIdent table.entity

/-- A table with these columns takes the rows. -/
def fits (table : IngestTable) (known : List String) : Bool :=
  resolvesColumns ⟨known, 0⟩ (table.columns ++ ["tenant_id"])

/-- A row with its tenant can be bound in one statement. -/
def bindable (table : IngestTable) : Bool := decide (table.columns.length < maxParams)

/-- The names are sound and the table exists, or can be created, with these columns. -/
def takes (table : IngestTable) (catalog : Catalog) : Bool :=
  table.sound && table.bindable && (catalog.ensured table.dataset table.columns).any table.fits

/-- A row as it is appended for a tenant. -/
def placed (table : IngestTable) (tenant : String) (row : List Cell) : Placed :=
  ⟨table.dataset, table.columns ++ ["tenant_id"], row ++ [some tenant]⟩

def insertStatement (table : IngestTable) (tenant : String) (chunk : List (List Cell)) : Statement :=
  .insertRaw table.dataset (table.columns ++ ["tenant_id"]) chunk.length
    (chunk.flatMap fun row => row ++ [some tenant])

/-- Rows stored on top of those already there. -/
def store (table : IngestTable) (tenant : String) (chunk : List (List Cell))
    (rows : Multiset RawRow) : Multiset RawRow :=
  rows + (chunk.map fun row => (table.placed tenant row).row : List RawRow)

def chunkRows (table : IngestTable) : Nat := min 500 (maxParams / max (table.columns.length + 1) 1)

theorem chunkRows_pos (table : IngestTable) : 0 < table.chunkRows ↔ table.bindable = true := by
  simp only [chunkRows, bindable, decide_eq_true_eq, lt_min_iff, Nat.div_pos_iff]
  omega

/-! ### The statements -/

section
variable {table : IngestTable} {known : List String} {catalog : Catalog} {duck : DuckDb}

theorem insertStatement_apply (present : catalog.columnsOf table.name = some known)
    (fits : table.fits known = true) (tenant : String) {chunk : List (List Cell)}
    (aligned : ∀ row ∈ chunk, row.length = table.columns.length) :
    ∃ affected, (table.insertStatement tenant chunk).apply duck catalog =
      .ok (affected, catalog.mapRows table.name (table.store tenant chunk)) := by
  have found : catalog.raw (rawName table.dataset) = some ⟨known, catalog.rowsOf table.name⟩ :=
    Catalog.columnsOf_eq_some.mp present
  have resolved : resolvesColumns ⟨known, catalog.rowsOf table.name⟩
      (table.columns ++ ["tenant_id"]) = true := fits
  simp only [insertStatement, Statement.apply, existing, found, bind, Except.bind, resolved,
    if_true, bindTuples_stamped aligned tenant, List.map_map, pure, Except.pure]
  simp only [name, Catalog.mapRows, found, store]
  exact ⟨_, rfl⟩

theorem insertStatement_misfit (duck : DuckDb) (present : catalog.columnsOf table.name = some known)
    (misfit : table.fits known = false) (tenant : String) (chunk : List (List Cell)) :
    ∃ message, (table.insertStatement tenant chunk).apply duck catalog = .error message := by
  have found : catalog.raw (rawName table.dataset) = some ⟨known, catalog.rowsOf table.name⟩ :=
    Catalog.columnsOf_eq_some.mp present
  have unresolved : resolvesColumns ⟨known, catalog.rowsOf table.name⟩
      (table.columns ++ ["tenant_id"]) = false := misfit
  simp only [insertStatement, Statement.apply, existing, found, bind, Except.bind, unresolved,
    Bool.false_eq_true, if_false]
  exact ⟨_, rfl⟩

theorem insertStatement_appended (tenant : String) {chunk : List (List Cell)}
    (aligned : ∀ row ∈ chunk, row.length = table.columns.length) :
    (table.insertStatement tenant chunk).appended = chunk.map (table.placed tenant) := by
  simp only [insertStatement, Statement.appended, bindTuples_stamped aligned tenant, List.map_map]
  rfl

theorem appended_insertStatements (tenant : String) {pieces : List (List (List Cell))}
    (aligned : ∀ piece ∈ pieces, ∀ row ∈ piece, row.length = table.columns.length) :
    appended (pieces.map (table.insertStatement tenant)) =
      (pieces.flatten.map (table.placed tenant) : List Placed) := by
  have each : (pieces.map (table.insertStatement tenant)).flatMap Statement.appended =
      pieces.flatMap fun piece => piece.map (table.placed tenant) := by
    rw [List.flatMap_map]
    exact List.flatMap_congr fun piece member => insertStatement_appended tenant (aligned piece member)
  rw [appended, each, List.flatMap_def, List.map_flatten]

theorem foldl_store (tenant : String) (pieces : List (List (List Cell))) (rows : Multiset RawRow) :
    pieces.foldl (fun rows piece => table.store tenant piece rows) rows =
      table.store tenant pieces.flatten rows := by
  induction pieces generalizing rows with
  | nil => exact (Multiset.add_zero rows).symm
  | cons piece pieces ih =>
    rw [List.foldl_cons, ih]
    simp only [store, List.flatten_cons, List.map_append, ← Multiset.coe_add]
    exact Multiset.add_assoc ..

end

/-! ### The ingest -/

/-- What an ingest leaves of its rows: a beginning of them is in the table and in the
history, and all of them if it returned. -/
structure Lands (table : IngestTable) (rows : List (List Cell)) (writer : Writer)
    (outcome : Except Error Nat × Writer) (stored : List (List Cell)) : Prop where
  duck : outcome.2.duck = writer.duck
  rollbackTo : outcome.2.rollbackTo = writer.rollbackTo
  initial : stored <+: rows
  history : appended outcome.2.durable.history =
    appended writer.durable.history + (stored.map (table.placed writer.tenant) : List Placed)
  catalog : Rewrites writer.durable.catalog outcome.2.durable.catalog table.name
    (table.store writer.tenant stored)
  whole : outcome.1.isOk = true → stored = rows

section
variable {table : IngestTable} {rows : List (List Cell)} {writer : Writer}

/-- An ingest past its checks. -/
def body (columns : List String) (rows : List (List Cell)) (dataset : Dataset) :
    Session Nat := do
  ensureRawTable dataset columns
  if rows.isEmpty then return 0
  let writer ← Effect.get
  let n ← insertChunked (columns.length + 1) rows fun chunk =>
    .insertRaw dataset (columns ++ ["tenant_id"]) chunk.length
      (chunk.flatMap fun row => row ++ [some writer.tenant])
  bumpWrite
  return n

theorem ingestRaw_of_sound (sound : table.sound = true) (writer : Writer) :
    ingestRaw table.system table.entity table.columns rows writer =
      body table.columns rows table.dataset writer := by
  simp only [IngestTable.sound, Bool.and_eq_true] at sound
  obtain ⟨⟨⟨present, idents⟩, system⟩, entity⟩ := sound
  rw [← forM_validateIdent_eq_ok] at idents
  have named : rawTableName table.system table.entity = .ok table.dataset :=
    rawTableName_eq_ok.mpr ⟨system, entity, rfl⟩
  exact (Effect.bind_of_ok (ensure_passed present _ _)).trans
    ((Effect.bind_of_ok (show Effect.lift _ writer = (.ok (), writer) by rw [Effect.lift_apply, idents])).trans
      (Effect.bind_of_ok (show Effect.lift _ writer = (.ok table.dataset, writer) by
        rw [Effect.lift_apply, named])))

theorem ingestRaw_of_unsound (rows : List (List Cell)) (unsound : table.sound = false) (writer : Writer) :
    ∃ failure, ingestRaw table.system table.entity table.columns rows writer =
      (.error failure, writer) := by
  unfold ingestRaw
  cases present : !table.columns.isEmpty with
  | false => exact ⟨_, Effect.bind_of_error (ensure_failed rfl _ _)⟩
  | true =>
    rw [Effect.bind_of_ok (ensure_passed rfl _ _)]
    cases idents : table.columns.forM validateIdent with
    | error failure => exact ⟨failure, Effect.bind_of_error rfl⟩
    | ok =>
      rw [Effect.bind_of_ok (Effect.lift_apply _ _)]
      cases named : rawTableName table.system table.entity with
      | error failure => exact ⟨failure, Effect.bind_of_error rfl⟩
      | ok dataset =>
        obtain ⟨system, entity, -⟩ := rawTableName_eq_ok.mp named
        rw [forM_validateIdent_eq_ok] at idents
        simp only [sound, present, idents, system, entity, Bool.and_self, Bool.true_eq_false]
          at unsound

/-- An ingest that stored nothing. -/
private theorem Lands.nothing {outcome : Except Error Nat × Writer}
    (same : writer.SameHandle outcome.2)
    (history : appended outcome.2.durable.history = appended writer.durable.history)
    (kept : ∀ name, outcome.2.durable.catalog.rowsOf name = writer.durable.catalog.rowsOf name)
    (whole : outcome.1.isOk = true → [] = rows) : Lands table rows writer outcome [] where
  duck := same.duck
  rollbackTo := same.rollbackTo
  initial := List.nil_prefix
  history := by rw [history]; exact (Multiset.add_zero _).symm
  catalog := ⟨by rw [kept]; exact (Multiset.add_zero _).symm, fun other _ => kept other⟩
  whole := whole

/-- Making sure of the table before the chunks stores no row. -/
private theorem Lands.opening {opened : Writer} {outcome : Except Error Nat × Writer}
    {stored : List (List Cell)} (lands : Lands table rows opened outcome stored)
    (same : writer.SameHandle opened)
    (history : appended opened.durable.history = appended writer.durable.history)
    (kept : ∀ name, opened.durable.catalog.rowsOf name = writer.durable.catalog.rowsOf name) :
    Lands table rows writer outcome stored where
  duck := lands.duck.trans same.duck
  rollbackTo := lands.rollbackTo.trans same.rollbackTo
  initial := lands.initial
  history := by rw [lands.history, history, same.tenant]
  catalog := ⟨by rw [lands.catalog.target, kept, same.tenant],
    fun other ne => (lands.catalog.others other ne).trans (kept other)⟩
  whole := lands.whole

/-- Bumping the generation after the chunks changes nothing stored. -/
private theorem Lands.bumped {act : Session Nat} {stored : List (List Cell)}
    (lands : Lands table rows writer (act writer) stored) :
    Lands table rows writer ((do let n ← act; bumpWrite; return n : Session Nat) writer) stored := by
  simp only [Effect.bind_apply]
  rcases ran : act writer with ⟨outcome, after⟩
  rw [ran] at lands
  cases outcome with
  | error failure => exact lands
  | ok n =>
    exact ⟨lands.duck, lands.rollbackTo, lands.initial, lands.history, lands.catalog, lands.whole⟩

/-- The chunks of an ingest, sent to a table that is there. -/
private theorem insertChunked_lands {known : List String} (opened : Writer)
    (present : opened.durable.catalog.columnsOf table.name = some known)
    (aligned : ∀ row ∈ rows, row.length = table.columns.length) (filled : rows ≠ []) :
    ∃ stored, Lands table rows opened (insertChunked (table.columns.length + 1) rows
      (table.insertStatement opened.tenant) opened) stored := by
  have refused {outcome : Except Error Nat × Writer} {failure : Error}
      (ran : outcome = (.error failure, opened) ∨ outcome = (.error failure, opened.sent)) :
      ∃ stored, Lands table rows opened outcome stored := by
    rcases ran with rfl | rfl <;>
      exact ⟨[], Lands.nothing ⟨rfl, rfl, rfl, rfl, rfl⟩ rfl (fun _ => rfl) fun none => by cases none⟩
  unfold insertChunked
  rw [if_neg (by simpa using filled)]
  simp only [← chunkRows.eq_1]
  by_cases positive : 0 < table.chunkRows
  · rw [if_neg positive.ne']
    cases fits : table.fits known with
    | true =>
      obtain ⟨outcome, ran, complete⟩ := executeAll_eq
        (fun catalog => catalog.columnsOf table.name = some known)
        (table.insertStatement opened.tenant)
        (fun piece catalog => catalog.mapRows table.name (table.store opened.tenant piece))
        (chunks table.chunkRows rows) opened
        (fun piece member catalog present =>
          ⟨insertStatement_apply present fits opened.tenant fun row inPiece =>
            aligned row (mem_of_mem_chunks positive member inPiece), by simpa using present⟩)
        present
      obtain ⟨rest, split⟩ := landed_begins opened.duck.rejects opened.issued
        (chunks table.chunkRows rows)
      have whole : (landed opened.duck.rejects opened.issued (chunks table.chunkRows rows)).flatten
          ++ rest.flatten = rows := by
        rw [← List.flatten_append, split, chunks_flatten positive]
      rw [Catalog.foldl_mapRows] at ran
      rw [ran]
      refine ⟨_, rfl, rfl, ⟨rest.flatten, whole⟩, ?_, ?_, fun returned => ?_⟩
      · simp only [Writer.ran, appended_append]
        rw [appended_insertStatements]
        intro piece member row inPiece
        refine aligned row (whole ▸ List.mem_append_left _ ?_)
        exact List.mem_flatten_of_mem member inPiece
      · rw [Writer.ran_catalog]
        simp only [foldl_store]
        exact Rewrites.mapRows present _
      · rw [complete.mp returned, chunks_flatten positive]
    | false =>
      obtain ⟨row, more, rfl⟩ := List.exists_cons_of_ne_nil filled
      obtain ⟨message, fails⟩ := insertStatement_misfit opened.duck present fits opened.tenant
        ((row :: more).take table.chunkRows)
      obtain ⟨failure, ran⟩ := executeAll_stuck
        ((chunksFrom table.chunkRows more.length ((row :: more).drop table.chunkRows)).map
          (table.insertStatement opened.tenant)) fails
      exact refused (Or.inr ran)
  · rw [if_pos (Nat.eq_zero_of_not_pos positive)]
    exact refused (Or.inl rfl)

/-- However an ingest ends, a beginning of its rows is stored, for the writer's tenant. -/
theorem lands (writer : Writer) (aligned : ∀ row ∈ rows, row.length = table.columns.length) :
    ∃ stored, Lands table rows writer
      (ingestRaw table.system table.entity table.columns rows writer) stored := by
  cases sound : table.sound with
  | false =>
    obtain ⟨failure, ran⟩ := ingestRaw_of_unsound rows sound writer
    rw [ran]
    exact ⟨[], Lands.nothing (Writer.SameHandle.refl writer) rfl (fun _ => rfl) fun none => by cases none⟩
  | true =>
    rw [ingestRaw_of_sound sound]
    by_cases opened : (writer.durable.catalog.ensured table.dataset table.columns).isSome = true ∧
        writer.Clear 2
    · obtain ⟨known, ensured⟩ := Option.isSome_iff_exists.mp opened.1
      obtain ⟨reached, ready, catalog, same, -, history⟩ := ensureRawTable_taken ensured opened.2
      have kept : ∀ name, reached.durable.catalog.rowsOf name = writer.durable.catalog.rowsOf name :=
        fun name => by rw [catalog, Catalog.rowsOf_withColumns]
      by_cases filled : rows = []
      · subst filled
        have stays : body table.columns [] table.dataset writer = (.ok 0, reached) :=
          Effect.bind_of_ok ready
        rw [stays]
        exact ⟨[], Lands.nothing same history kept fun _ => rfl⟩
      · have present : reached.durable.catalog.columnsOf table.name = some known := by
          rw [catalog, ← name, Catalog.columnsOf_withColumns]
        obtain ⟨stored, lands⟩ := insertChunked_lands reached present aligned filled
        have continues : body table.columns rows table.dataset writer =
            (do let n ← insertChunked (table.columns.length + 1) rows
                  (table.insertStatement reached.tenant)
                bumpWrite
                return n : Session Nat) reached := by
          rw [body, Effect.bind_of_ok ready, if_neg (by simpa using filled)]
          rfl
        rw [continues]
        exact ⟨stored, lands.bumped.opening same history kept⟩
    · obtain ⟨failure, reached, ran, kept, same, history⟩ := ensureRawTable_refused opened
      have stays : body table.columns rows table.dataset writer = (.error failure, reached) :=
        Effect.bind_of_error ran
      rw [stays]
      exact ⟨[], Lands.nothing same history kept fun none => by cases none⟩

/-- The chunks of an ingest all arrive at a table that takes them. -/
private theorem insertChunked_accepts {known : List String} (opened : Writer)
    (present : opened.durable.catalog.columnsOf table.name = some known)
    (aligned : ∀ row ∈ rows, row.length = table.columns.length) (filled : rows ≠ [])
    (bindable : table.bindable = true) (fits : table.fits known = true)
    (never : ∀ i, opened.duck.rejects i = false) :
    Accepts (insertChunked (table.columns.length + 1) rows (table.insertStatement opened.tenant))
      opened (opened.durable.catalog.mapRows table.name (table.store opened.tenant rows)) := by
  have positive := table.chunkRows_pos.mpr bindable
  have sends := Sends.executeAll (fun catalog => catalog.columnsOf table.name = some known)
    (table.insertStatement opened.tenant)
    (fun piece catalog => catalog.mapRows table.name (table.store opened.tenant piece))
    (chunks table.chunkRows rows) opened
    (fun piece member catalog present =>
      ⟨insertStatement_apply present fits opened.tenant fun row inPiece =>
        aligned row (mem_of_mem_chunks positive member inPiece), by simpa using present⟩)
    present
  have accepts := sends.accepts never
  rw [Catalog.foldl_mapRows] at accepts
  simp only [foldl_store, chunks_flatten positive] at accepts
  unfold insertChunked
  rw [if_neg (by simpa using filled)]
  simp only [← chunkRows.eq_1]
  rw [if_neg positive.ne']
  exact accepts

/-- A table with other columns than the rows gets none of them. -/
theorem misfit (writer : Writer) {known : List String} (sound : table.sound = true)
    (bindable : table.bindable = true)
    (ensured : writer.durable.catalog.ensured table.dataset table.columns = some known)
    (misfits : table.fits known = false) (filled : rows ≠ [])
    (never : ∀ i, writer.duck.rejects i = false) :
    ∃ message after, ingestRaw table.system table.entity table.columns rows writer =
        (.error (.storage message), after) ∧
      ∀ name, after.durable.catalog.rowsOf name = writer.durable.catalog.rowsOf name := by
  obtain ⟨reached, ready, catalog, same, -, -⟩ :=
    ensureRawTable_taken ensured fun _ _ => never _
  have present : reached.durable.catalog.columnsOf table.name = some known := by
    rw [catalog, ← name, Catalog.columnsOf_withColumns]
  have positive := table.chunkRows_pos.mpr bindable
  obtain ⟨row, more, rfl⟩ := List.exists_cons_of_ne_nil filled
  obtain ⟨message, fails⟩ := insertStatement_misfit reached.duck present misfits
    reached.tenant ((row :: more).take table.chunkRows)
  obtain ⟨failure, ran⟩ := executeAll_stuck
    ((chunksFrom table.chunkRows more.length ((row :: more).drop table.chunkRows)).map
      (table.insertStatement reached.tenant)) fails
  have stuck : insertChunked (table.columns.length + 1) (row :: more)
      (table.insertStatement reached.tenant) reached = (.error (.storage failure), reached.sent) := by
    unfold insertChunked
    rw [if_neg (by simp)]
    simp only [← chunkRows.eq_1]
    rw [if_neg positive.ne']
    exact ran
  refine ⟨failure, reached.sent, ?_, fun name => ?_⟩
  · rw [ingestRaw_of_sound sound, body, Effect.bind_of_ok ready, if_neg (by simp),
      Effect.bind_of_ok (Effect.get_apply _)]
    exact Effect.bind_of_error stuck
  · rw [show reached.sent.durable = reached.durable from rfl, catalog, Catalog.rowsOf_withColumns]

/-- A table that takes the rows gets all of them when no statement is refused. -/
theorem accepts (writer : Writer) {known : List String} (sound : table.sound = true)
    (bindable : table.bindable = true)
    (ensured : writer.durable.catalog.ensured table.dataset table.columns = some known)
    (fits : table.fits known = true) (never : ∀ i, writer.duck.rejects i = false)
    (aligned : ∀ row ∈ rows, row.length = table.columns.length) :
    Accepts (ingestRaw table.system table.entity table.columns rows) writer
      (writer.durable.catalog.rewrite table.name known (table.store writer.tenant rows)) := by
  rw [← Catalog.rewrite_mapRows]
  unfold Accepts
  rw [ingestRaw_of_sound sound]
  refine (ensureRawTable_sends ensured).acceptsThen never fun _ reached same catalog => ?_
  rw [← name] at catalog
  have present : reached.durable.catalog.columnsOf table.name = some known := by
    rw [catalog, Catalog.columnsOf_withColumns]
  by_cases filled : rows = []
  · subst filled
    have nothing : table.store writer.tenant [] = fun rows => rows :=
      funext fun rows => Multiset.add_zero rows
    rw [nothing, Catalog.mapRows_id, ← catalog]
    exact ⟨0, reached, rfl, rfl, rfl⟩
  · have stored := insertChunked_accepts reached present aligned filled bindable fits
      (by rw [same.duck]; exact never)
    rw [catalog, same.tenant] at stored
    have bumped := stored.bumped
    rw [if_neg (by simpa using filled), ← same.tenant]
    rw [← same.tenant] at bumped
    exact bumped

theorem taken (writer : Writer) (takes : table.takes writer.durable.catalog = true)
    (never : ∀ i, writer.duck.rejects i = false)
    (aligned : ∀ row ∈ rows, row.length = table.columns.length) :
    ∃ n after, ingestRaw table.system table.entity table.columns rows writer = (.ok n, after) := by
  simp only [IngestTable.takes, Bool.and_eq_true] at takes
  obtain ⟨⟨sound, bindable⟩, taken⟩ := takes
  obtain ⟨known, ensured, fits⟩ := (Option.any_eq_true _ _).mp taken
  obtain ⟨n, after, ran, -⟩ := accepts writer sound bindable ensured fits never aligned
  exact ⟨n, after, ran⟩

end

/-! ### Why an ingest fails -/

section
variable {allowed : Error → Prop} (stored : ∀ message, allowed (.storage message))

include stored

theorem execute_failsWith (statement : Statement) : Effect.FailsWith allowed (execute statement) := by
  intro writer failure after failed
  rcases execute_cases statement writer with ⟨message, same⟩ | ⟨affected, catalog, -, -, same⟩
  · cases same.symm.trans failed
    exact stored message
  · cases same.symm.trans failed

theorem executeFrom_failsWith (statements : List Statement) (affected : Nat) :
    Effect.FailsWith allowed (executeFrom affected statements) := by
  induction statements generalizing affected with
  | nil => exact Effect.FailsWith.pure affected
  | cons statement rest ih =>
    exact Effect.FailsWith.bind (execute_failsWith stored statement) fun n => ih (affected + n)

/-- An ingest fails on a statement, on a name that is not sound, or on rows too wide to bind. -/
theorem ingestRaw_failsWith {table : IngestTable}
    (checked : table.sound = false → ∀ message, allowed (.invalidInput message))
    (bound : table.bindable = false → ∀ message, allowed (.panicked message))
    (rows : List (List Cell)) :
    Effect.FailsWith allowed (ingestRaw table.system table.entity table.columns rows) := by
  have ident {name : String} {failure : Error} (refused : validateIdent name = .error failure)
      (unsound : isIdent name = false → table.sound = false) : allowed failure := by
    unfold validateIdent at refused
    split at refused
    · cases refused
    · next bad =>
      cases refused
      exact checked (unsound (Bool.eq_false_iff.mpr bad)) _
  unfold ingestRaw
  refine Effect.FailsWith.bind ?_ fun _ => Effect.FailsWith.bind ?_ fun _ =>
    Effect.FailsWith.bind ?_ fun dataset => Effect.FailsWith.bind ?_ fun _ => ?_
  · unfold ensure
    cases present : table.columns.isEmpty with
    | false => exact Effect.FailsWith.pure ()
    | true => exact Effect.FailsWith.throw (checked (by rw [IngestTable.sound, present]; rfl) _)
  · refine Effect.FailsWith.lift fun failure failed => ?_
    obtain ⟨name, member, refused⟩ := except_forM_error failed
    refine ident refused fun bad => ?_
    have some : table.columns.all isIdent = false :=
      List.all_eq_false.mpr ⟨name, member, by rw [bad]; exact Bool.false_ne_true⟩
    simp only [IngestTable.sound, some, Bool.and_false, Bool.false_and]
  · refine Effect.FailsWith.lift fun failure failed => ?_
    unfold rawTableName at failed
    cases system : validateIdent table.system with
    | error found =>
      rw [system] at failed
      cases failed
      exact ident system fun bad => by
        simp only [IngestTable.sound, bad, Bool.and_false, Bool.false_and]
    | ok =>
      cases entity : validateIdent table.entity with
      | error found =>
        rw [system, entity] at failed
        cases failed
        exact ident entity fun bad => by simp only [IngestTable.sound, bad, Bool.and_false]
      | ok =>
        rw [system, entity] at failed
        cases failed
  · exact Effect.FailsWith.bind (execute_failsWith stored _) fun _ =>
      Effect.FailsWith.bind (execute_failsWith stored _) fun _ => Effect.FailsWith.pure ()
  · split
    · exact Effect.FailsWith.pure 0
    · refine Effect.FailsWith.bind Effect.FailsWith.get fun writer =>
        Effect.FailsWith.bind ?_ fun _ =>
          Effect.FailsWith.bind (Effect.FailsWith.modify _) fun _ => Effect.FailsWith.pure _
      change Effect.FailsWith allowed (if rows.isEmpty then pure 0 else
        if table.chunkRows = 0 then Effect.throw (.panicked "chunk size must be non-zero")
        else executeFrom 0 _)
      split
      · exact Effect.FailsWith.pure 0
      · split
        · next zero =>
          refine Effect.FailsWith.throw (bound (Bool.eq_false_iff.mpr fun bindable => ?_) _)
          exact (table.chunkRows_pos.mpr bindable).ne' zero
        · exact executeFrom_failsWith stored _ 0

end

end IngestTable

end ConsumerEngine.Storage
