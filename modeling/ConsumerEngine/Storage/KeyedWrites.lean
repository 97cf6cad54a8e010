import ConsumerEngine.Storage.RawTables

/-! The statements of the keyed writes and what they leave in a raw table.

A keyed write checks its names, makes sure the table is there and sends MERGE
statements. Which of them the database takes depends on the names, on the table's
columns and on the statements refused, never on the rows stored.
-/

set_option autoImplicit false

namespace ConsumerEngine.Storage

open ConsumerEngine.Core ConsumerEngine.Foundation

/-! ### The table a keyed write addresses -/

/-- A dataset with the columns of a batch and the column its rows are keyed by. -/
structure KeyedTable where
  system : String
  entity : String
  columns : List String
  key : String

namespace KeyedTable

def dataset (table : KeyedTable) : Dataset := ⟨table.system, table.entity⟩

def name (table : KeyedTable) : String := rawName table.dataset

/-- The checks every keyed write begins with. -/
def sound (table : KeyedTable) : Bool :=
  !table.columns.isEmpty && table.columns.all isIdent && isIdent table.key &&
    table.columns.contains table.key && isIdent table.system && isIdent table.entity

/-- The checks of a keyed write as a session, ahead of what it does next. -/
def checked {α : Type} (table : KeyedTable) (next : Dataset → Session α) : Session α := do
  ensure (!table.columns.isEmpty) (.invalidInput "columns must not be empty")
  Effect.lift (table.columns.forM validateIdent)
  Effect.lift (validateIdent table.key)
  ensure (table.columns.contains table.key) (notAColumn table.key)
  let dataset ← Effect.lift (rawTableName table.system table.entity)
  next dataset

/-- A table with these columns takes the batch's rows. -/
def fits (table : KeyedTable) (known : List String) : Bool :=
  resolvesColumns ⟨known, 0⟩ (table.columns ++ ["tenant_id"]) && known.contains (foldName table.key)

/-- The raw table exists, or can be created, and takes the batch's rows. -/
def usable (table : KeyedTable) (catalog : Catalog) : Bool :=
  (catalog.ensured table.dataset table.columns).any table.fits

/-- The stored form of a row of the batch. -/
def stamped (table : KeyedTable) (tenant : String) (row : List Cell) : RawRow :=
  rowOf (table.columns ++ ["tenant_id"]) (row ++ [some tenant])

/-- What one update-or-insert MERGE does to the rows. -/
def merge (table : KeyedTable) (tenant : String) (chunk : List (List Cell))
    (rows : Multiset RawRow) : Multiset RawRow :=
  mergeRows (table.columns ++ ["tenant_id"]) table.key (chunk.map (table.stamped tenant)) rows

/-- What one delete MERGE does to the rows. -/
def erase (table : KeyedTable) (tenant : String) (keys : List String)
    (rows : Multiset RawRow) : Multiset RawRow :=
  rows.filter fun row => deletes table.key keys tenant row = false

def upsertStatement (table : KeyedTable) (tenant : String) (chunk : List (List Cell)) : Statement :=
  .mergeUpsert table.dataset (table.columns ++ ["tenant_id"]) table.key chunk.length
    (chunk.flatMap fun row => row ++ [some tenant])

def deleteStatement (table : KeyedTable) (tenant : String) (keys : List String) : Statement :=
  .mergeDelete table.dataset table.key keys tenant

/-- The position of the key among the columns. -/
def keyIndex (table : KeyedTable) : Nat := table.columns.idxOf table.key

end KeyedTable

/-! ### The checks -/

theorem ensure_passed {condition : Bool} (holds : condition = true) (failure : Error)
    (writer : Writer) : ensure condition failure writer = (.ok (), writer) := by
  simp [ensure, holds]

theorem ensure_failed {condition : Bool} (fails : condition = false) (failure : Error)
    (writer : Writer) : ensure condition failure writer = (.error failure, writer) := by
  simp [ensure, fails]

section
variable {table : KeyedTable} {α : Type}

theorem KeyedTable.sound_keyed (sound : table.sound = true) :
    table.columns.contains table.key = true := by
  simp only [KeyedTable.sound, Bool.and_eq_true] at sound
  exact sound.1.1.2

theorem KeyedTable.checked_of_sound (sound : table.sound = true) (next : Dataset → Session α)
    (writer : Writer) : table.checked next writer = next table.dataset writer := by
  simp only [KeyedTable.sound, Bool.and_eq_true] at sound
  obtain ⟨⟨⟨⟨⟨present, idents⟩, keyIdent⟩, keyed⟩, system⟩, entity⟩ := sound
  rw [← forM_validateIdent_eq_ok] at idents
  rw [← validateIdent_eq_ok] at keyIdent
  have named : rawTableName table.system table.entity = .ok table.dataset :=
    rawTableName_eq_ok.mpr ⟨system, entity, rfl⟩
  simp only [KeyedTable.checked, Effect.bind_apply, ensure_passed present, ensure_passed keyed,
    Effect.lift_apply, idents, keyIdent, named]

theorem KeyedTable.checked_of_unsound (unsound : table.sound = false) (next : Dataset → Session α)
    (writer : Writer) : ∃ failure, table.checked next writer = (.error failure, writer) := by
  unfold KeyedTable.checked
  cases present : !table.columns.isEmpty with
  | false => exact ⟨_, Effect.bind_of_error (ensure_failed rfl _ _)⟩
  | true =>
    rw [Effect.bind_of_ok (ensure_passed rfl _ _)]
    cases idents : table.columns.forM validateIdent with
    | error failure => exact ⟨failure, Effect.bind_of_error rfl⟩
    | ok =>
      rw [Effect.bind_of_ok (Effect.lift_apply _ _)]
      cases keyIdent : validateIdent table.key with
      | error failure => exact ⟨failure, Effect.bind_of_error rfl⟩
      | ok =>
        rw [Effect.bind_of_ok (Effect.lift_apply _ _)]
        cases keyed : table.columns.contains table.key with
        | false => exact ⟨_, Effect.bind_of_error (ensure_failed rfl _ _)⟩
        | true =>
          rw [Effect.bind_of_ok (ensure_passed rfl _ _)]
          cases named : rawTableName table.system table.entity with
          | error failure => exact ⟨failure, Effect.bind_of_error rfl⟩
          | ok dataset =>
            obtain ⟨system, entity, -⟩ := rawTableName_eq_ok.mp named
            rw [forM_validateIdent_eq_ok] at idents
            rw [validateIdent_eq_ok] at keyIdent
            simp only [KeyedTable.sound, present, idents, keyIdent, keyed, system, entity,
              Bool.and_self, Bool.true_eq_false] at unsound

end

/-! ### The statements -/

section
variable {table : KeyedTable} {known : List String} {catalog : Catalog} {duck : DuckDb}

theorem KeyedTable.upsertStatement_apply (present : catalog.columnsOf table.name = some known)
    (fits : table.fits known = true) (tenant : String) {chunk : List (List Cell)}
    (aligned : ∀ row ∈ chunk, row.length = table.columns.length) :
    ∃ affected, (table.upsertStatement tenant chunk).apply duck catalog =
      .ok (affected, catalog.mapRows table.name (table.merge tenant chunk)) := by
  have found : catalog.raw (rawName table.dataset) = some ⟨known, catalog.rowsOf table.name⟩ :=
    Catalog.columnsOf_eq_some.mp present
  simp only [KeyedTable.fits, Bool.and_eq_true] at fits
  have resolved : resolvesColumns ⟨known, catalog.rowsOf table.name⟩
      (table.columns ++ ["tenant_id"]) = true := fits.1
  simp only [KeyedTable.upsertStatement, Statement.apply, existing, found,
    bind, Except.bind, resolved, fits.2, Bool.and_true, if_true, bindTuples_stamped aligned tenant,
    List.map_map, pure,
    Except.pure]
  simp only [KeyedTable.name, Catalog.mapRows, found, KeyedTable.merge]
  exact ⟨_, rfl⟩

theorem KeyedTable.deleteStatement_apply (present : catalog.columnsOf table.name = some known)
    (keyed : known.contains (foldName table.key) = true)
    (owned : known.contains "tenant_id" = true) (tenant : String) (keys : List String) :
    ∃ affected, (table.deleteStatement tenant keys).apply duck catalog =
      .ok (affected, catalog.mapRows table.name (table.erase tenant keys)) := by
  have found : catalog.raw (rawName table.dataset) = some ⟨known, catalog.rowsOf table.name⟩ :=
    Catalog.columnsOf_eq_some.mp present
  simp only [KeyedTable.deleteStatement, Statement.apply, existing, found,
    bind, Except.bind, keyed, owned, Bool.and_true, if_true, pure, Except.pure]
  simp only [KeyedTable.name, Catalog.mapRows, found, KeyedTable.erase]
  exact ⟨_, rfl⟩

theorem KeyedTable.fits_key (fits : table.fits known = true) :
    known.contains (foldName table.key) = true := by
  simp only [KeyedTable.fits, Bool.and_eq_true] at fits
  exact fits.2

/-- The rows left by the update-or-insert MERGEs of some chunks, in order. -/
def KeyedTable.mergeAll (table : KeyedTable) (tenant : String) (pieces : List (List (List Cell)))
    (rows : Multiset RawRow) : Multiset RawRow :=
  pieces.foldl (fun rows piece => table.merge tenant piece rows) rows

/-- The rows left by the delete MERGEs of some chunks, in order. -/
def KeyedTable.eraseAll (table : KeyedTable) (tenant : String) (pieces : List (List String))
    (rows : Multiset RawRow) : Multiset RawRow :=
  pieces.foldl (fun rows piece => table.erase tenant piece rows) rows

end

/-! ### Reading a stored row -/

theorem rowOf_cons (column : String) (columns : List String) (cell : Cell) (cells : List Cell)
    (name : String) : rowOf (column :: columns) (cell :: cells) name =
      if foldName column = name then cell else rowOf columns cells name := by
  simp only [rowOf, List.zip_cons_cons, List.find?_cons]
  split <;> simp_all

/-- A column that is not listed reads NULL. -/
theorem rowOf_of_notMem {columns : List String} {name : String}
    (absent : name ∉ columns.map foldName) (cells : List Cell) : rowOf columns cells name = none := by
  have missing : (columns.zip cells).find? (fun binding => foldName binding.1 = name) = none := by
    rw [List.find?_eq_none]
    rintro ⟨column, cell⟩ member same
    exact absent (List.mem_map.mpr ⟨column, (List.of_mem_zip member).1, by simpa using same⟩)
  rw [rowOf, missing]
  rfl

/-- A column reads its own cell when no other column is named the same. -/
theorem rowOf_eq_getElem {columns : List String} {cells : List Cell}
    (distinct : (columns.map foldName).Nodup) {i : Nat} {column : String} {cell : Cell}
    (named : columns[i]? = some column) (stored : cells[i]? = some cell) :
    rowOf columns cells (foldName column) = cell := by
  induction columns generalizing cells i with
  | nil => simp at named
  | cons head rest ih =>
    cases cells with
    | nil => simp at stored
    | cons first cells =>
      rw [rowOf_cons]
      obtain ⟨fresh, distinctRest⟩ := List.nodup_cons.mp distinct
      cases i with
      | zero =>
        simp only [List.getElem?_cons_zero, Option.some.injEq] at named stored
        simp [named, stored]
      | succ i =>
        simp only [List.getElem?_cons_succ] at named stored
        have apart : foldName head ≠ foldName column := fun same =>
          fresh (same ▸ List.mem_map_of_mem (List.mem_of_getElem? named))
        rw [if_neg apart]
        exact ih distinctRest named stored

section
variable {table : KeyedTable} {known : List String} {row : List Cell}

theorem KeyedTable.fits_nodup (fits : table.fits known = true) :
    ((table.columns ++ ["tenant_id"]).map foldName).Nodup := by
  simp only [KeyedTable.fits, resolvesColumns, Bool.and_eq_true, decide_eq_true_eq] at fits
  exact fits.1.2

/-- The key of a stored row is the key cell of the row sent. -/
theorem KeyedTable.stamped_key (tenant : String) (fits : table.fits known = true)
    (keyed : table.columns.contains table.key = true)
    (aligned : row.length = table.columns.length) :
    table.stamped tenant row (foldName table.key) = keyCell table.keyIndex row := by
  have member : table.key ∈ table.columns := by simpa using keyed
  have below : table.keyIndex < table.columns.length := List.idxOf_lt_length_of_mem member
  have named : (table.columns ++ ["tenant_id"])[table.keyIndex]? = some table.key := by
    rw [List.getElem?_append_left below]
    exact List.getElem?_idxOf member
  have stored : (row ++ [some tenant])[table.keyIndex]? = some (keyCell table.keyIndex row) := by
    rw [List.getElem?_append_left (aligned ▸ below)]
    simp [keyCell, List.getElem?_eq_getElem (aligned ▸ below)]
  exact rowOf_eq_getElem (KeyedTable.fits_nodup fits) named stored

/-- A stored row carries the tenant it was stamped with. -/
theorem KeyedTable.stamped_tenant (tenant : String) (fits : table.fits known = true)
    (aligned : row.length = table.columns.length) :
    (table.stamped tenant row).tenant = some tenant := by
  have folded : foldName "tenant_id" = "tenant_id" := by decide
  have named : (table.columns ++ ["tenant_id"])[table.columns.length]? = some "tenant_id" := by simp
  have stored : (row ++ [some tenant])[table.columns.length]? = some (some tenant) := by
    simp [← aligned]
  have read := rowOf_eq_getElem (KeyedTable.fits_nodup fits) named stored
  rwa [folded] at read

end

/-! ### Deduplication -/

theorem mem_dedupStep {index : Nat} {kept : List (List Cell)} {row other : List Cell}
    (member : other ∈ dedupStep index kept row) : other = row ∨ other ∈ kept := by
  unfold dedupStep at member
  split at member
  · exact Or.inr member
  · split at member
    · obtain ⟨seen, inKept, rfl⟩ := List.mem_map.mp member
      split
      · exact Or.inl rfl
      · exact Or.inr inKept
    · rcases List.mem_append.mp member with inKept | last
      · exact Or.inr inKept
      · exact Or.inl (List.mem_singleton.mp last)

private theorem mem_foldl_dedupStep {index : Nat} {rows kept : List (List Cell)}
    {other : List Cell} (member : other ∈ rows.foldl (dedupStep index) kept) :
    other ∈ rows ∨ other ∈ kept := by
  induction rows generalizing kept with
  | nil => exact Or.inr member
  | cons row rows ih =>
    rcases ih member with later | stepped
    · exact Or.inl (List.mem_cons_of_mem _ later)
    · rcases mem_dedupStep stepped with same | inKept
      · exact Or.inl (by simp [same])
      · exact Or.inr inKept

/-- Deduplication invents no row. -/
theorem mem_of_mem_dedupByKey {index : Nat} {rows : List (List Cell)} {row : List Cell}
    (member : row ∈ dedupByKey rows index) : row ∈ rows := by
  rcases mem_foldl_dedupStep member with found | none
  · exact found
  · cases none

/-! ### Sessions of statements -/

section
variable {table : KeyedTable} {known : List String}

theorem mergeUpserts_eq (writer : Writer)
    (present : writer.durable.catalog.columnsOf table.name = some known)
    (fits : table.fits known = true) {deduped : List (List Cell)}
    (aligned : ∀ row ∈ deduped, row.length = table.columns.length) :
    ∃ outcome, mergeUpserts table.dataset table.columns table.key deduped writer =
      (outcome, writer.ran (chunks mergeChunk deduped).length
        ((landed writer.duck.rejects writer.issued (chunks mergeChunk deduped)).map
          (table.upsertStatement writer.tenant))
        (writer.durable.catalog.mapRows table.name (table.mergeAll writer.tenant
          (landed writer.duck.rejects writer.issued (chunks mergeChunk deduped))))) := by
  obtain ⟨outcome, ran, -⟩ := executeAll_eq
    (fun catalog => catalog.columnsOf table.name = some known)
    (table.upsertStatement writer.tenant)
    (fun piece catalog => catalog.mapRows table.name (table.merge writer.tenant piece))
    (chunks mergeChunk deduped) writer
    (fun piece member catalog present =>
      ⟨table.upsertStatement_apply present fits writer.tenant fun row inPiece =>
        aligned row (mem_of_mem_chunks (by decide) member inPiece), by simpa using present⟩)
    present
  rw [Catalog.foldl_mapRows] at ran
  exact ⟨outcome, ran⟩

theorem mergeUpserts_sends (writer : Writer)
    (present : writer.durable.catalog.columnsOf table.name = some known)
    {deduped : List (List Cell)} (fits : deduped ≠ [] → table.fits known = true)
    (aligned : ∀ row ∈ deduped, row.length = table.columns.length) :
    Sends (mergeUpserts table.dataset table.columns table.key deduped) writer
      ((chunks mergeChunk deduped).map (table.upsertStatement writer.tenant))
      (writer.durable.catalog.mapRows table.name
        (table.mergeAll writer.tenant (chunks mergeChunk deduped))) := by
  have sends := Sends.executeAll
    (fun catalog => catalog.columnsOf table.name = some known)
    (table.upsertStatement writer.tenant)
    (fun piece catalog => catalog.mapRows table.name (table.merge writer.tenant piece))
    (chunks mergeChunk deduped) writer
    (fun piece member catalog present =>
      ⟨table.upsertStatement_apply present (fits (ne_nil_of_mem_chunks member)) writer.tenant
        fun row inPiece => aligned row (mem_of_mem_chunks (by decide) member inPiece),
        by simpa using present⟩)
    present
  rw [Catalog.foldl_mapRows] at sends
  exact ⟨sends.taken, sends.refused⟩

theorem mergeDeletes_eq (writer : Writer)
    (present : writer.durable.catalog.columnsOf table.name = some known)
    (keyed : known.contains (foldName table.key) = true)
    (owned : known.contains "tenant_id" = true) (keys : List String) :
    ∃ outcome, mergeDeletes table.dataset table.key keys writer =
      (outcome, writer.ran (chunks mergeChunk keys).length
        ((landed writer.duck.rejects writer.issued (chunks mergeChunk keys)).map
          (table.deleteStatement writer.tenant))
        (writer.durable.catalog.mapRows table.name (table.eraseAll writer.tenant
          (landed writer.duck.rejects writer.issued (chunks mergeChunk keys))))) := by
  obtain ⟨outcome, ran, -⟩ := executeAll_eq
    (fun catalog => catalog.columnsOf table.name = some known)
    (table.deleteStatement writer.tenant)
    (fun piece catalog => catalog.mapRows table.name (table.erase writer.tenant piece))
    (chunks mergeChunk keys) writer
    (fun piece _ catalog present =>
      ⟨table.deleteStatement_apply present keyed owned writer.tenant piece,
        by simpa using present⟩)
    present
  rw [Catalog.foldl_mapRows] at ran
  exact ⟨outcome, ran⟩

theorem mergeDeletes_sends (writer : Writer)
    (present : writer.durable.catalog.columnsOf table.name = some known)
    {keys : List String} (keyed : keys ≠ [] → known.contains (foldName table.key) = true)
    (owned : known.contains "tenant_id" = true) :
    Sends (mergeDeletes table.dataset table.key keys) writer
      ((chunks mergeChunk keys).map (table.deleteStatement writer.tenant))
      (writer.durable.catalog.mapRows table.name
        (table.eraseAll writer.tenant (chunks mergeChunk keys))) := by
  have sends := Sends.executeAll
    (fun catalog => catalog.columnsOf table.name = some known)
    (table.deleteStatement writer.tenant)
    (fun piece catalog => catalog.mapRows table.name (table.erase writer.tenant piece))
    (chunks mergeChunk keys) writer
    (fun piece member catalog present =>
      ⟨table.deleteStatement_apply present (keyed (ne_nil_of_mem_chunks member)) owned
        writer.tenant piece, by simpa using present⟩)
    present
  rw [Catalog.foldl_mapRows] at sends
  exact ⟨sends.taken, sends.refused⟩

end

end ConsumerEngine.Storage
