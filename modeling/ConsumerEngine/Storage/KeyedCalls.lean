import ConsumerEngine.Storage.KeyedWrites

/-! The keyed writes as a whole: upserts, deletes and change batches.

Upserts and deletes commit chunk by chunk, so a refused statement leaves the chunks
before it. A change batch is one transaction and leaves all of itself or nothing.
-/

set_option autoImplicit false

namespace ConsumerEngine.Storage

open ConsumerEngine.Core ConsumerEngine.Foundation

/-- The rows of one table change and those of the others do not. -/
structure Rewrites (before after : Catalog) (name : String)
    (change : Multiset RawRow → Multiset RawRow) : Prop where
  target : after.rowsOf name = change (before.rowsOf name)
  others : ∀ other, other ≠ name → after.rowsOf other = before.rowsOf other

theorem Rewrites.of_rowsOf_eq {before after : Catalog} (name : String)
    (same : ∀ other, after.rowsOf other = before.rowsOf other) :
    Rewrites before after name id := ⟨same name, fun other _ => same other⟩

theorem Rewrites.mapRows {catalog : Catalog} {name : String} {known : List String}
    (present : catalog.columnsOf name = some known) (change : Multiset RawRow → Multiset RawRow) :
    Rewrites catalog (catalog.mapRows name change) name change :=
  ⟨Catalog.rowsOf_mapRows_self present change,
    fun _ ne => catalog.rowsOf_mapRows_of_ne ne change⟩

theorem Rewrites.trans {first second third : Catalog} {name : String}
    {one two : Multiset RawRow → Multiset RawRow} (head : Rewrites first second name one)
    (tail : Rewrites second third name two) : Rewrites first third name (two ∘ one) :=
  ⟨by rw [tail.target, head.target]; rfl,
    fun other ne => (tail.others other ne).trans (head.others other ne)⟩

/-! ### Upserts -/

section
variable (table : KeyedTable) (writer : Writer)

/-- The names are sound, the table takes the rows, and the statements that make
sure of it are not refused. -/
def KeyedTable.opens : Bool :=
  table.sound && table.usable writer.durable.catalog && decide (writer.Clear 2)

/-- The chunks of an upsert that reach the table. -/
def KeyedTable.upsertsReaching (rows : List (List Cell)) : List (List (List Cell)) :=
  if table.opens writer then
    landed writer.duck.rejects (writer.issued + 2)
      (chunks mergeChunk (dedupByKey rows table.keyIndex))
  else []

/-- The chunks of a delete that reach the table. -/
def KeyedTable.deletesReaching (keys : List String) : List (List String) :=
  if isIdent table.key && isIdent table.system && isIdent table.entity &&
      (writer.durable.catalog.columnsOf table.name).any (fun known =>
        known.contains (foldName table.key) && known.contains "tenant_id") then
    landed writer.duck.rejects writer.issued (chunks mergeChunk keys)
  else []

end

@[simp] theorem KeyedTable.mergeAll_nil (table : KeyedTable) (tenant : String) :
    table.mergeAll tenant [] = id := rfl

@[simp] theorem KeyedTable.eraseAll_nil (table : KeyedTable) (tenant : String) :
    table.eraseAll tenant [] = id := rfl

private theorem upsertStatement_misfit {table : KeyedTable} {known : List String}
    {catalog : Catalog} (duck : DuckDb) (tenant : String) (piece : List (List Cell))
    (present : catalog.columnsOf table.name = some known) (misfit : table.fits known = false) :
    ∃ message, (table.upsertStatement tenant piece).apply duck catalog = .error message := by
  have found : catalog.raw (rawName table.dataset) = some ⟨known, catalog.rowsOf table.name⟩ :=
    Catalog.columnsOf_eq_some.mp present
  have unresolved : (resolvesColumns ⟨known, catalog.rowsOf table.name⟩
      (table.columns ++ ["tenant_id"]) && known.contains (foldName table.key)) = false := misfit
  simp only [KeyedTable.upsertStatement, Statement.apply, existing, found, bind, Except.bind]
  rw [if_neg (Bool.eq_false_iff.mp unresolved)]
  exact ⟨_, rfl⟩

/-- An upsert past its checks. -/
private def upsertBody (table : KeyedTable) (rows : List (List Cell)) (dataset : Dataset) :
    Session Nat := do
  ensureRawTable dataset table.columns
  if rows.isEmpty then return 0
  let affected ← mergeUpserts dataset table.columns table.key
    (dedupByKey rows (table.columns.idxOf table.key))
  bumpWrite
  return affected

private theorem mergeUpserts_fails {table : KeyedTable} {known : List String} {writer : Writer}
    {deduped : List (List Cell)} (present : writer.durable.catalog.columnsOf table.name = some known)
    (misfit : table.fits known = false) (some : deduped ≠ []) :
    Fails (mergeUpserts table.dataset table.columns table.key deduped) writer := by
  obtain ⟨row, rest, rfl⟩ := List.exists_cons_of_ne_nil some
  obtain ⟨message, fails⟩ := upsertStatement_misfit writer.duck writer.tenant
    ((row :: rest).take mergeChunk) present misfit
  exact (Fails.execute fails).bind

private theorem mergeUpserts_misfit {table : KeyedTable} {known : List String} {writer : Writer}
    (present : writer.durable.catalog.columnsOf table.name = some known)
    (misfit : table.fits known = false) (deduped : List (List Cell)) :
    (mergeUpserts table.dataset table.columns table.key deduped writer).2.durable.catalog =
      writer.durable.catalog := by
  have unfolded : mergeUpserts table.dataset table.columns table.key deduped writer =
      executeAll ((chunks mergeChunk deduped).map (table.upsertStatement writer.tenant)) writer :=
    rfl
  rw [unfolded]
  cases chunks mergeChunk deduped with
  | nil => rfl
  | cons piece rest =>
    obtain ⟨message, fails⟩ := upsertStatement_misfit writer.duck writer.tenant piece
      present misfit
    obtain ⟨failure, ran⟩ := executeAll_stuck (rest.map _) fails
    rw [List.map_cons, ran]
    rfl

private theorem upsertBody_catalog {table : KeyedTable} {rows : List (List Cell)}
    {writer reached : Writer} (ready : ensureRawTable table.dataset table.columns writer =
      (.ok (), reached)) (some : rows.isEmpty = false) :
    (upsertBody table rows table.dataset writer).2.durable.catalog =
      (mergeUpserts table.dataset table.columns table.key (dedupByKey rows table.keyIndex)
        reached).2.durable.catalog := by
  simp only [upsertBody, Effect.bind_of_ok ready, some, Bool.false_eq_true, if_false,
    Effect.bind_apply, ← KeyedTable.keyIndex.eq_1]
  rcases mergeUpserts table.dataset table.columns table.key (dedupByKey rows table.keyIndex)
    reached with ⟨outcome, after⟩
  cases outcome <;> rfl

/-- An upsert changes one table, by the MERGEs of the chunks that reach it. -/
theorem upsertRaw_rewrites (table : KeyedTable) (writer : Writer) {rows : List (List Cell)}
    (aligned : ∀ row ∈ rows, row.length = table.columns.length) :
    Rewrites writer.durable.catalog
      (upsertRaw table.system table.entity table.columns table.key rows writer).2.durable.catalog
      table.name (table.mergeAll writer.tenant (table.upsertsReaching writer rows)) := by
  have shape : upsertRaw table.system table.entity table.columns table.key rows =
    table.checked (upsertBody table rows) := rfl
  rw [shape]
  cases sound : table.sound with
  | false =>
    obtain ⟨failure, ran⟩ := KeyedTable.checked_of_unsound sound (upsertBody table rows) writer
    rw [ran]
    simpa [KeyedTable.upsertsReaching, KeyedTable.opens, sound] using
      Rewrites.of_rowsOf_eq table.name fun _ => rfl
  | true =>
    rw [KeyedTable.checked_of_sound sound]
    by_cases opened : (writer.durable.catalog.ensured table.dataset table.columns).isSome = true ∧
        writer.Clear 2
    · obtain ⟨known, ensured⟩ := Option.isSome_iff_exists.mp opened.1
      obtain ⟨reached, ready, catalog, same, issued, -⟩ := ensureRawTable_taken ensured opened.2
      have kept : Rewrites writer.durable.catalog reached.durable.catalog table.name id :=
        Rewrites.of_rowsOf_eq table.name fun name => by rw [catalog, Catalog.rowsOf_withColumns]
      have present : reached.durable.catalog.columnsOf table.name = some known := by
        rw [catalog, ← KeyedTable.name, Catalog.columnsOf_withColumns]
      cases empty : rows.isEmpty with
      | true =>
        have none : rows = [] := by simpa using empty
        subst none
        have stays : upsertBody table [] table.dataset writer = (.ok 0, reached) :=
          Effect.bind_of_ok ready
        rw [stays]
        simpa [KeyedTable.upsertsReaching, dedupByKey, landed] using kept
      | false =>
        rw [upsertBody_catalog ready empty]
        cases fits : table.fits known with
        | false =>
          rw [mergeUpserts_misfit present fits]
          simpa [KeyedTable.upsertsReaching, KeyedTable.opens, KeyedTable.usable, ensured, fits]
            using kept
        | true =>
          obtain ⟨outcome, ran⟩ := mergeUpserts_eq reached present fits
            fun row member => aligned row (mem_of_mem_dedupByKey member)
          have reaching : table.upsertsReaching writer rows = landed writer.duck.rejects
              (writer.issued + 2) (chunks mergeChunk (dedupByKey rows table.keyIndex)) := by
            simp [KeyedTable.upsertsReaching, KeyedTable.opens, KeyedTable.usable, ensured, fits,
              sound, opened.2]
          rw [ran, reaching, ← same.duck, ← issued, ← same.tenant, Writer.ran_catalog]
          exact kept.trans (Rewrites.mapRows present _)
    · obtain ⟨failure, reached, ran, kept, -⟩ := ensureRawTable_refused opened
      have stays : upsertBody table rows table.dataset writer = (.error failure, reached) :=
        Effect.bind_of_error ran
      have closed : table.opens writer = false := by
        by_contra opens
        refine opened ?_
        simp only [KeyedTable.opens, KeyedTable.usable, Bool.not_eq_false, Bool.and_eq_true,
          decide_eq_true_eq] at opens
        exact ⟨Option.isSome_of_any opens.1.2, opens.2⟩
      rw [stays]
      simpa [KeyedTable.upsertsReaching, closed] using Rewrites.of_rowsOf_eq table.name kept

/-- An upsert that returns found a table that takes its rows. -/
theorem upsertRaw_eq_ok {table : KeyedTable} {writer after : Writer} {rows : List (List Cell)}
    {n : Nat} (ran : upsertRaw table.system table.entity table.columns table.key rows writer =
      (.ok n, after)) :
    table.sound = true ∧ ∃ known,
      writer.durable.catalog.ensured table.dataset table.columns = some known ∧
        (dedupByKey rows table.keyIndex ≠ [] → table.fits known = true) := by
  have shape : upsertRaw table.system table.entity table.columns table.key rows =
    table.checked (upsertBody table rows) := rfl
  rw [shape] at ran
  cases sound : table.sound with
  | false =>
    obtain ⟨failure, refused⟩ := KeyedTable.checked_of_unsound sound (upsertBody table rows) writer
    rw [refused] at ran
    cases ran
  | true =>
    rw [KeyedTable.checked_of_sound sound] at ran
    cases ensured : writer.durable.catalog.ensured table.dataset table.columns with
    | none => exact absurd ran (ensureRawTable_fails ensured).bind.not_ok
    | some known =>
      refine ⟨rfl, known, rfl, fun some => ?_⟩
      by_contra misfit
      refine Fails.not_ok ?_ ran
      refine (ensureRawTable_sends ensured).bindFails fun _ opened _ made => ?_
      have filled : rows.isEmpty = false := by
        cases rows with
        | nil => exact absurd rfl some
        | cons => rfl
      rw [filled]
      refine (mergeUpserts_fails ?_ (by simpa using misfit) some).bind
      rw [made, ← KeyedTable.name, Catalog.columnsOf_withColumns]

/-- An upsert the table takes sends all its MERGEs when no statement is refused. -/
theorem upsertRaw_accepts (table : KeyedTable) (writer : Writer) {rows : List (List Cell)}
    {known : List String} (sound : table.sound = true)
    (ensured : writer.durable.catalog.ensured table.dataset table.columns = some known)
    (fits : dedupByKey rows table.keyIndex ≠ [] → table.fits known = true)
    (never : ∀ i, writer.duck.rejects i = false)
    (aligned : ∀ row ∈ rows, row.length = table.columns.length) :
    Accepts (upsertRaw table.system table.entity table.columns table.key rows) writer
      (writer.durable.catalog.rewrite table.name known (table.mergeAll writer.tenant
        (chunks mergeChunk (dedupByKey rows table.keyIndex)))) := by
  have shape : upsertRaw table.system table.entity table.columns table.key rows =
    table.checked (upsertBody table rows) := rfl
  rw [shape, ← Catalog.rewrite_mapRows]
  unfold Accepts
  rw [KeyedTable.checked_of_sound sound]
  refine (ensureRawTable_sends ensured).acceptsThen never fun _ opened same made => ?_
  rw [← KeyedTable.name] at made
  cases rows with
  | nil =>
    rw [show table.mergeAll writer.tenant (chunks mergeChunk (dedupByKey [] table.keyIndex)) =
      fun rows => rows from rfl, Catalog.mapRows_id, ← made]
    exact ⟨0, opened, rfl, rfl, rfl⟩
  | cons row rows =>
    have merged := (mergeUpserts_sends opened (by rw [made, Catalog.columnsOf_withColumns]) fits
      fun row member => aligned row (mem_of_mem_dedupByKey member)).accepts
        (by rw [same.duck]; exact never)
    rw [made, same.tenant] at merged
    exact merged.bumped

/-! ### Deletes -/

private theorem deleteStatement_misfit {table : KeyedTable} {catalog : Catalog} (duck : DuckDb)
    (tenant : String) (piece : List String)
    (misfit : (catalog.columnsOf table.name).any (fun known =>
      known.contains (foldName table.key) && known.contains "tenant_id") = false) :
    ∃ message, (table.deleteStatement tenant piece).apply duck catalog = .error message := by
  cases found : catalog.raw (rawName table.dataset) with
  | none =>
    simp only [KeyedTable.deleteStatement, Statement.apply, existing, found, bind, Except.bind]
    exact ⟨_, rfl⟩
  | some stored =>
    have missing : (stored.columns.contains (foldName table.key) &&
        stored.columns.contains "tenant_id") = false := by
      have present : catalog.columnsOf table.name = some stored.columns := by
        simp only [Catalog.columnsOf, KeyedTable.name, found, Option.map_some]
      rw [present] at misfit
      exact misfit
    simp only [KeyedTable.deleteStatement, Statement.apply, existing, found, bind, Except.bind]
    rw [if_neg (Bool.eq_false_iff.mp missing)]
    exact ⟨_, rfl⟩

private theorem mergeDeletes_fails {table : KeyedTable} {writer : Writer} {keys : List String}
    (misfit : (writer.durable.catalog.columnsOf table.name).any (fun known =>
      known.contains (foldName table.key) && known.contains "tenant_id") = false)
    (some : keys ≠ []) : Fails (mergeDeletes table.dataset table.key keys) writer := by
  obtain ⟨key, rest, rfl⟩ := List.exists_cons_of_ne_nil some
  obtain ⟨message, fails⟩ := deleteStatement_misfit writer.duck writer.tenant
    ((key :: rest).take mergeChunk) misfit
  exact (Fails.execute fails).bind

private theorem mergeDeletes_misfit {table : KeyedTable} {writer : Writer}
    (misfit : (writer.durable.catalog.columnsOf table.name).any (fun known =>
      known.contains (foldName table.key) && known.contains "tenant_id") = false)
    (keys : List String) :
    (mergeDeletes table.dataset table.key keys writer).2.durable.catalog =
      writer.durable.catalog := by
  have unfolded : mergeDeletes table.dataset table.key keys writer =
      executeAll ((chunks mergeChunk keys).map (table.deleteStatement writer.tenant)) writer :=
    rfl
  rw [unfolded]
  cases chunks mergeChunk keys with
  | nil => rfl
  | cons piece rest =>
    obtain ⟨message, fails⟩ := deleteStatement_misfit writer.duck writer.tenant piece misfit
    obtain ⟨failure, ran⟩ := executeAll_stuck (rest.map _) fails
    rw [List.map_cons, ran]
    rfl

/-- A delete past its checks. -/
private def deleteBody (key : String) (keys : List String) (dataset : Dataset) : Session Nat := do
  if keys.isEmpty then return 0
  let affected ← mergeDeletes dataset key keys
  bumpWrite
  return affected

private theorem deleteBody_catalog (table : KeyedTable) (keys : List String) (writer : Writer) :
    (deleteBody table.key keys table.dataset writer).2.durable.catalog =
      (mergeDeletes table.dataset table.key keys writer).2.durable.catalog := by
  cases empty : keys.isEmpty with
  | true =>
    have none : keys = [] := by simpa using empty
    subst none
    rfl
  | false =>
    simp only [deleteBody, empty, Bool.false_eq_true, if_false, Effect.bind_apply]
    rcases mergeDeletes table.dataset table.key keys writer with ⟨outcome, after⟩
    cases outcome <;> rfl

/-- A delete changes one table, by the MERGEs of the chunks that reach it. -/
theorem deleteRaw_rewrites (table : KeyedTable) (writer : Writer) (keys : List String) :
    Rewrites writer.durable.catalog
      (deleteRaw table.system table.entity table.key keys writer).2.durable.catalog
      table.name (table.eraseAll writer.tenant (table.deletesReaching writer keys)) := by
  have shape : deleteRaw table.system table.entity table.key keys =
    (Effect.lift (validateIdent table.key) >>= fun _ =>
      Effect.lift (rawTableName table.system table.entity) >>= deleteBody table.key keys) := rfl
  rw [shape]
  have unchanged : Rewrites writer.durable.catalog writer.durable.catalog table.name id :=
    Rewrites.of_rowsOf_eq table.name fun _ => rfl
  cases keyIdent : validateIdent table.key with
  | error failure =>
    have invalid : isIdent table.key = false := by
      by_contra valid
      rw [validateIdent_eq_ok.mpr (by simpa using valid)] at keyIdent
      cases keyIdent
    simpa [Effect.bind_apply, KeyedTable.deletesReaching, invalid] using unchanged
  | ok =>
    cases named : rawTableName table.system table.entity with
    | error failure =>
      have invalid : (isIdent table.system && isIdent table.entity) = false := by
        by_contra valid
        simp only [Bool.not_eq_false, Bool.and_eq_true] at valid
        rw [rawTableName_eq_ok.mpr ⟨valid.1, valid.2, rfl⟩] at named
        cases named
      have closed : table.deletesReaching writer keys = [] := by
        rw [KeyedTable.deletesReaching, Bool.and_assoc (isIdent table.key), invalid]
        simp
      simpa [Effect.bind_apply, closed] using unchanged
    | ok dataset =>
      obtain ⟨system, entity, rfl⟩ := rawTableName_eq_ok.mp named
      rw [validateIdent_eq_ok] at keyIdent
      simp only [Effect.bind_apply, Effect.lift_apply]
      rw [← KeyedTable.dataset.eq_1, deleteBody_catalog]
      cases usable : (writer.durable.catalog.columnsOf table.name).any (fun known =>
          known.contains (foldName table.key) && known.contains "tenant_id") with
      | false =>
        have closed : table.deletesReaching writer keys = [] := by
          rw [KeyedTable.deletesReaching, usable]
          simp
        rw [mergeDeletes_misfit usable, closed]
        exact unchanged
      | true =>
        obtain ⟨known, present, fits⟩ := (Option.any_eq_true _ _).mp usable
        obtain ⟨keyed, owned⟩ := Bool.and_eq_true_iff.mp fits
        obtain ⟨outcome, ran⟩ := mergeDeletes_eq writer present keyed owned keys
        have reaching : table.deletesReaching writer keys =
            landed writer.duck.rejects writer.issued (chunks mergeChunk keys) := by
          rw [KeyedTable.deletesReaching, usable, keyIdent, system, entity]
          rfl
        rw [ran, reaching, Writer.ran_catalog]
        exact Rewrites.mapRows present _

/-- A delete that returns had nothing to delete or found a table that takes it. -/
theorem deleteRaw_eq_ok {table : KeyedTable} {writer after : Writer} {keys : List String}
    {n : Nat} (ran : deleteRaw table.system table.entity table.key keys writer = (.ok n, after)) :
    isIdent table.key = true ∧ isIdent table.system = true ∧ isIdent table.entity = true ∧
      (keys ≠ [] → ∃ known, writer.durable.catalog.columnsOf table.name = some known ∧
        known.contains (foldName table.key) = true ∧ known.contains "tenant_id" = true) := by
  obtain ⟨⟨⟩, reached, keyed, rest⟩ := Effect.bind_eq_ok.mp ran
  obtain ⟨dataset, reached', named, rest⟩ := Effect.bind_eq_ok.mp rest
  simp only [Effect.lift_apply, Prod.mk.injEq] at keyed named
  obtain ⟨valid, rfl⟩ := keyed
  obtain ⟨sound, rfl⟩ := named
  obtain ⟨system, entity, rfl⟩ := rawTableName_eq_ok.mp sound
  refine ⟨validateIdent_eq_ok.mp valid, system, entity, fun some => ?_⟩
  by_contra missing
  refine Fails.not_ok ?_ rest
  rw [if_neg (by simpa using some)]
  refine (@mergeDeletes_fails table writer keys ?_ some).bind
  cases present : writer.durable.catalog.columnsOf table.name with
  | none => rfl
  | some known =>
    by_contra usable
    simp only [Option.any_some, Bool.not_eq_false, Bool.and_eq_true] at usable
    exact missing ⟨known, present, usable⟩

theorem deleteRaw_accepts_nil (table : KeyedTable) (writer : Writer)
    (keyed : isIdent table.key = true) (system : isIdent table.system = true)
    (entity : isIdent table.entity = true) :
    Accepts (deleteRaw table.system table.entity table.key []) writer writer.durable.catalog := by
  have valid := validateIdent_eq_ok.mpr keyed
  have named : rawTableName table.system table.entity = .ok table.dataset :=
    rawTableName_eq_ok.mpr ⟨system, entity, rfl⟩
  refine ⟨0, writer, ?_, rfl, rfl⟩
  simp only [deleteRaw, Effect.bind_apply, Effect.lift_apply, valid, named]
  rfl

/-- A delete the table takes sends all its MERGEs when no statement is refused. -/
theorem deleteRaw_accepts (table : KeyedTable) (writer : Writer) {keys : List String}
    {known : List String} (keyed : isIdent table.key = true) (system : isIdent table.system = true)
    (entity : isIdent table.entity = true)
    (present : writer.durable.catalog.columnsOf table.name = some known)
    (listed : known.contains (foldName table.key) = true)
    (owned : known.contains "tenant_id" = true) (never : ∀ i, writer.duck.rejects i = false) :
    Accepts (deleteRaw table.system table.entity table.key keys) writer
      (writer.durable.catalog.rewrite table.name known
        (table.eraseAll writer.tenant (chunks mergeChunk keys))) := by
  have valid := validateIdent_eq_ok.mpr keyed
  have named : rawTableName table.system table.entity = .ok table.dataset :=
    rawTableName_eq_ok.mpr ⟨system, entity, rfl⟩
  rw [← Catalog.mapRows_eq_rewrite present]
  cases keys with
  | nil =>
    have stays := deleteRaw_accepts_nil table writer keyed system entity
    rwa [← writer.durable.catalog.mapRows_id table.name] at stays
  | cons key keys =>
    have erased := ((@mergeDeletes_sends table known writer present (key :: keys)
      (fun _ => listed) owned).accepts never).bumped
    unfold Accepts
    simp only [deleteRaw, Effect.bind_apply, Effect.lift_apply, valid, named]
    exact erased

/-! ### Change batches -/

/-- `cdc_offsets` with a position placed: one row per source and partition. -/
def placeOffset (row : OffsetRow) (rows : List OffsetRow) : List OffsetRow :=
  if rows.any (fun stored => stored.source = row.source ∧ stored.part = row.part) then
    rows.map fun stored =>
      if stored.source = row.source ∧ stored.part = row.part then row else stored
  else rows ++ [row]

def Catalog.mapOffsets (catalog : Catalog) (change : List OffsetRow → List OffsetRow) : Catalog :=
  { catalog with cdcOffsets := catalog.cdcOffsets.map change }

theorem Catalog.foldl_mapOffsets {ι : Type} (change : ι → List OffsetRow → List OffsetRow)
    (items : List ι) (catalog : Catalog) :
    items.foldl (fun catalog item => catalog.mapOffsets (change item)) catalog =
      catalog.mapOffsets (fun rows => items.foldl (fun rows item => change item rows) rows) := by
  induction items generalizing catalog with
  | nil => simp [mapOffsets]
  | cons item items ih =>
    rw [List.foldl_cons, ih]
    simp [mapOffsets, Function.comp_def]

/-- `CREATE TABLE IF NOT EXISTS` of the positions. -/
def Catalog.openOffsets (catalog : Catalog) : Catalog :=
  { catalog with cdcOffsets := some (catalog.cdcOffsets.getD []) }

@[simp] theorem Catalog.columnsOf_openOffsets (catalog : Catalog) (name : String) :
    catalog.openOffsets.columnsOf name = catalog.columnsOf name := rfl

@[simp] theorem Catalog.columnsOf_mapOffsets (catalog : Catalog) (name : String)
    (change : List OffsetRow → List OffsetRow) :
    (catalog.mapOffsets change).columnsOf name = catalog.columnsOf name := rfl

@[simp] theorem Catalog.rowsOf_openOffsets (catalog : Catalog) (name : String) :
    catalog.openOffsets.rowsOf name = catalog.rowsOf name := rfl

@[simp] theorem Catalog.rowsOf_mapOffsets (catalog : Catalog) (name : String)
    (change : List OffsetRow → List OffsetRow) :
    (catalog.mapOffsets change).rowsOf name = catalog.rowsOf name := rfl

@[simp] theorem Catalog.withColumns_cdcOffsets (catalog : Catalog) (name : String)
    (known : List String) : (catalog.withColumns name known).cdcOffsets = catalog.cdcOffsets := rfl

/-- The positions recorded for a source. -/
def Catalog.recorded (catalog : Catalog) (source : String) : List (Int × Int) :=
  ((catalog.cdcOffsets.getD []).filter fun row => row.source = source).map
    fun row => (row.part, row.cdcOffset)

theorem Catalog.mem_recorded {catalog : Catalog} {source : String} {part offset : Int} :
    (part, offset) ∈ catalog.recorded source ↔
      ∃ row ∈ catalog.cdcOffsets.getD [], row.source = source ∧ row.part = part ∧
        row.cdcOffset = offset := by
  simp [recorded, and_assoc]

theorem mem_placeOffset {row stored : OffsetRow} {rows : List OffsetRow}
    (member : stored ∈ placeOffset row rows) : stored = row ∨ stored ∈ rows := by
  unfold placeOffset at member
  split at member
  · obtain ⟨old, inRows, placed⟩ := List.mem_map.mp member
    split at placed
    · exact Or.inl placed.symm
    · exact Or.inr (placed ▸ inRows)
  · simpa [or_comm] using member

/-- What `readCdcOffsets` returns is what the catalogue records. -/
theorem readCdcOffsets_eq_ok {source : String} {writer after : Writer} {offsets : List (Int × Int)}
    (ran : readCdcOffsets source writer = (.ok offsets, after)) :
    offsets = writer.durable.catalog.recorded source ∧
      after.durable.catalog.recorded source = writer.durable.catalog.recorded source ∧
      after.rollbackTo = writer.rollbackTo := by
  obtain ⟨created, opened, made, rest⟩ := Effect.bind_eq_ok.mp ran
  have opens : opened = writer.accept (.createEngine .cdcOffsets)
      writer.durable.catalog.openOffsets := by
    rcases execute_cases (.createEngine .cdcOffsets) writer with
      ⟨failure, refused⟩ | ⟨affected, catalog, -, applied, accepted⟩
    · rw [refused] at made
      cases made
    · rw [accepted] at made
      cases applied
      cases made
      rfl
  obtain ⟨answer, rfl⟩ := read_eq_ok rest
  subst opens
  have present : (writer.accept (.createEngine .cdcOffsets)
      writer.durable.catalog.openOffsets).durable.catalog.cdcOffsets =
        some (writer.durable.catalog.cdcOffsets.getD []) := rfl
  rw [present] at answer
  cases answer
  exact ⟨rfl, rfl, rfl⟩

theorem mergeOffset_apply {duck : DuckDb} {catalog : Catalog} {rows : List OffsetRow}
    (present : catalog.cdcOffsets = some rows) (row : OffsetRow) :
    (Statement.mergeOffset row).apply duck catalog =
      .ok (1, catalog.mapOffsets (placeOffset row)) := by
  simp only [Statement.apply, presentIf, present, bind, Except.bind, pure, Except.pure,
    Option.map_some, placeOffset, Catalog.mapOffsets]
  split <;> rfl

theorem mergeOffsets_sends {ι : Type} (row : ι → OffsetRow) (items : List ι) (writer : Writer)
    {rows : List OffsetRow} (present : writer.durable.catalog.cdcOffsets = some rows) :
    Sends (executeAll (items.map fun item => .mergeOffset (row item))) writer
      (items.map fun item => .mergeOffset (row item))
      (writer.durable.catalog.mapOffsets fun rows =>
        items.foldl (fun rows item => placeOffset (row item) rows) rows) := by
  rw [← Catalog.foldl_mapOffsets fun item => placeOffset (row item)]
  refine Sends.executeAll (fun catalog => ∃ rows, catalog.cdcOffsets = some rows) _ _ items writer
    (fun item _ catalog stored => ?_) ⟨rows, present⟩
  obtain ⟨stored, present⟩ := stored
  exact ⟨⟨1, mergeOffset_apply present _⟩, ⟨placeOffset (row item) stored,
    by simp [Catalog.mapOffsets, present]⟩⟩

namespace KeyedTable

section
variable (table : KeyedTable) (tenant : String) (upserts : List (List Cell)) (deletes : List String)
  (offsets : List (Int × Int)) (updatedAt : String)

/-- The key under which the positions of the table's source are kept. -/
def source : String := table.system ++ "." ++ table.entity

def offsetRow (offset : Int × Int) : OffsetRow := ⟨table.source, offset.1, offset.2, updatedAt⟩

/-- The statements between the BEGIN and the COMMIT of a change batch. -/
def cdcStatements : List Statement :=
  prologue table.dataset table.columns ++ ([.createEngine .cdcOffsets] ++
    ((chunks mergeChunk (dedupByKey upserts table.keyIndex)).map (table.upsertStatement tenant) ++
      ((chunks mergeChunk deletes).map (table.deleteStatement tenant) ++
        offsets.map fun offset => .mergeOffset (table.offsetRow updatedAt offset))))

/-- What a change batch does to the rows of its table. -/
def cdcRows (rows : Multiset RawRow) : Multiset RawRow :=
  table.eraseAll tenant (chunks mergeChunk deletes)
    (table.mergeAll tenant (chunks mergeChunk (dedupByKey upserts table.keyIndex)) rows)

/-- What a change batch does to the stored positions. -/
def cdcPositions (rows : List OffsetRow) : List OffsetRow :=
  offsets.foldl (fun rows offset => placeOffset (table.offsetRow updatedAt offset) rows) rows

/-- The catalogue a committed change batch leaves. -/
def cdcCatalog (known : List String) (catalog : Catalog) : Catalog :=
  ((catalog.withColumns table.name known).openOffsets.mapRows table.name
    (table.cdcRows tenant upserts deletes)).mapOffsets (table.cdcPositions offsets updatedAt)

end

/-- A table with these columns takes the statements of a change batch. -/
def takes (table : KeyedTable) (upserts : List (List Cell)) (deletes known : List String) : Bool :=
  ((dedupByKey upserts table.keyIndex).isEmpty || table.fits known) &&
    (deletes.isEmpty || known.contains (foldName table.key))

/-- A change batch of sound names that the table takes and with no statement refused. -/
def commits (table : KeyedTable) (writer : Writer) (upserts : List (List Cell))
    (deletes : List String) (offsets : List (Int × Int)) : Bool :=
  table.sound &&
    (writer.durable.catalog.ensured table.dataset table.columns).any (table.takes upserts deletes) &&
    decide (writer.Clear (5 + (chunks mergeChunk (dedupByKey upserts table.keyIndex)).length +
      (chunks mergeChunk deletes).length + offsets.length))

/-- A change batch past its checks, between BEGIN and COMMIT. -/
def cdcBody (table : KeyedTable) (upserts : List (List Cell)) (deletes : List String)
    (offsets : List (Int × Int)) (updatedAt : String) (dataset : Dataset) : Session Nat := do
  ensureRawTable dataset table.columns
  let _ ← execute (.createEngine .cdcOffsets)
  let written ← mergeUpserts dataset table.columns table.key
    (dedupByKey upserts (table.columns.idxOf table.key))
  let _ ← mergeDeletes dataset table.key deletes
  let _ ← executeAll (offsets.map fun offset => .mergeOffset (table.offsetRow updatedAt offset))
  return written

theorem cdcStatements_length (table : KeyedTable) (tenant : String) (upserts : List (List Cell))
    (deletes : List String) (offsets : List (Int × Int)) (updatedAt : String) :
    (table.cdcStatements tenant upserts deletes offsets updatedAt).length + 2 =
      5 + (chunks mergeChunk (dedupByKey upserts table.keyIndex)).length +
        (chunks mergeChunk deletes).length + offsets.length := by
  simp only [cdcStatements, prologue, List.length_append, List.length_map, List.length_cons,
    List.length_nil]
  omega

section
variable {table : KeyedTable} {known : List String} {upserts : List (List Cell)}
  {deletes : List String}

theorem takes_iff : table.takes upserts deletes known = true ↔
    (dedupByKey upserts table.keyIndex ≠ [] → table.fits known = true) ∧
      (deletes ≠ [] → known.contains (foldName table.key) = true) := by
  simp only [takes, Bool.and_eq_true, Bool.or_eq_true, List.isEmpty_iff, ne_eq, imp_iff_not_or,
    not_not]

private theorem createOffsets_apply (duck : DuckDb) (catalog : Catalog) :
    (Statement.createEngine .cdcOffsets).apply duck catalog = .ok (0, catalog.openOffsets) := rfl

/-- The rows, the deletes and the positions of a batch, the table being there. -/
private theorem changes_sends (start : Writer) {rows : List OffsetRow} (offsets : List (Int × Int))
    (updatedAt : String)
    (present : start.durable.catalog.columnsOf table.name = some known)
    (positions : start.durable.catalog.cdcOffsets = some rows)
    (fits : dedupByKey upserts table.keyIndex ≠ [] → table.fits known = true)
    (keyed : deletes ≠ [] → known.contains (foldName table.key) = true)
    (owned : known.contains "tenant_id" = true)
    (aligned : ∀ row ∈ upserts, row.length = table.columns.length) :
    Sends (do
        let written ← mergeUpserts table.dataset table.columns table.key
          (dedupByKey upserts table.keyIndex)
        let _ ← mergeDeletes table.dataset table.key deletes
        let _ ← executeAll (offsets.map fun offset =>
          .mergeOffset (table.offsetRow updatedAt offset))
        return written) start
      ((chunks mergeChunk (dedupByKey upserts table.keyIndex)).map
          (table.upsertStatement start.tenant) ++
        ((chunks mergeChunk deletes).map (table.deleteStatement start.tenant) ++
          offsets.map fun offset => .mergeOffset (table.offsetRow updatedAt offset)))
      ((start.durable.catalog.mapRows table.name
        (table.cdcRows start.tenant upserts deletes)).mapOffsets
          (table.cdcPositions offsets updatedAt)) := by
  refine (mergeUpserts_sends start present fits
    fun row member => aligned row (mem_of_mem_dedupByKey member)).seq fun _ merged same changed => ?_
  rw [← same.tenant]
  refine (mergeDeletes_sends merged (by simpa [changed] using present) keyed owned).seq
    fun _ erased _ changed' => ?_
  have stored : erased.durable.catalog.cdcOffsets = some rows := by
    simpa [changed, changed'] using positions
  have last := mergeOffsets_sends (table.offsetRow updatedAt) offsets erased stored
  rw [changed', changed, same.tenant, Catalog.mapRows_mapRows] at last
  rw [same.tenant]
  exact last.andThen fun _ => Sends.pure _ _

theorem cdcBody_sends (writer : Writer)
    (ensured : writer.durable.catalog.ensured table.dataset table.columns = some known)
    (takes : table.takes upserts deletes known = true)
    (aligned : ∀ row ∈ upserts, row.length = table.columns.length)
    (offsets : List (Int × Int)) (updatedAt : String) :
    Sends (table.cdcBody upserts deletes offsets updatedAt table.dataset) writer
      (table.cdcStatements writer.tenant upserts deletes offsets updatedAt)
      (table.cdcCatalog writer.tenant upserts deletes offsets updatedAt known
        writer.durable.catalog) := by
  obtain ⟨fits, keyed⟩ := takes_iff.mp takes
  have owned : known.contains "tenant_id" = true := by
    simpa using Catalog.ensured_tenant ensured
  refine (ensureRawTable_sends ensured).seq fun _ opened same made => ?_
  refine (Sends.execute opened (createOffsets_apply _ _)).seq fun _ ready same' made' => ?_
  rw [made] at made'
  have sends := changes_sends ready offsets updatedAt
    (by rw [made', Catalog.columnsOf_openOffsets, ← KeyedTable.name, Catalog.columnsOf_withColumns])
    (by rw [made']; rfl) fits keyed owned aligned
  rw [made', same'.tenant, same.tenant] at sends
  exact sends

theorem cdcBody_fails (writer : Writer)
    (refused : (writer.durable.catalog.ensured table.dataset table.columns).any
      (table.takes upserts deletes) = false)
    (aligned : ∀ row ∈ upserts, row.length = table.columns.length)
    (offsets : List (Int × Int)) (updatedAt : String) :
    Fails (table.cdcBody upserts deletes offsets updatedAt table.dataset) writer := by
  cases ensured : writer.durable.catalog.ensured table.dataset table.columns with
  | none => exact (ensureRawTable_fails ensured).bind
  | some known =>
    have present (catalog : Catalog)
        (made : catalog = (writer.durable.catalog.withColumns table.name known).openOffsets) :
        catalog.columnsOf table.name = some known := by
      rw [made, Catalog.columnsOf_openOffsets, Catalog.columnsOf_withColumns]
    have untaken : table.takes upserts deletes known = false := by simpa [ensured] using refused
    refine (ensureRawTable_sends ensured).bindFails fun _ opened _ made => ?_
    refine (Sends.execute opened (createOffsets_apply _ _)).bindFails fun _ ready _ made' => ?_
    rw [made, ← KeyedTable.name] at made'
    by_cases fits : dedupByKey upserts table.keyIndex ≠ [] → table.fits known = true
    · refine (mergeUpserts_sends ready (present _ made') fits
        fun row member => aligned row (mem_of_mem_dedupByKey member)).bindFails
          fun _ merged _ changed => ?_
      have unkeyed : ¬ (deletes ≠ [] → known.contains (foldName table.key) = true) :=
        fun keyed => Bool.eq_false_iff.mp untaken (takes_iff.mpr ⟨fits, keyed⟩)
      rw [Classical.not_imp, Bool.not_eq_true] at unkeyed
      refine (mergeDeletes_fails ?_ unkeyed.1).bind
      rw [changed, Catalog.columnsOf_mapRows, present _ made']
      simp only [Option.any_some, unkeyed.2, Bool.false_and]
    · rw [Classical.not_imp, Bool.not_eq_true] at fits
      exact (mergeUpserts_fails (present _ made') fits.2 fits.1).bind

end

end KeyedTable

theorem KeyedTable.cdcCatalog_rewrites (table : KeyedTable) (tenant : String)
    (upserts : List (List Cell)) (deletes : List String) (offsets : List (Int × Int))
    (updatedAt : String) (known : List String) (catalog : Catalog) :
    Rewrites catalog (table.cdcCatalog tenant upserts deletes offsets updatedAt known catalog)
      table.name (table.cdcRows tenant upserts deletes) := by
  have present : (catalog.withColumns table.name known).openOffsets.columnsOf table.name =
      some known := by
    rw [Catalog.columnsOf_openOffsets, Catalog.columnsOf_withColumns]
  constructor
  · rw [KeyedTable.cdcCatalog, Catalog.rowsOf_mapOffsets, Catalog.rowsOf_mapRows_self present,
      Catalog.rowsOf_openOffsets, Catalog.rowsOf_withColumns]
  · intro other ne
    rw [KeyedTable.cdcCatalog, Catalog.rowsOf_mapOffsets, Catalog.rowsOf_mapRows_of_ne _ ne,
      Catalog.rowsOf_openOffsets, Catalog.rowsOf_withColumns]

theorem KeyedTable.mem_cdcPositions {table : KeyedTable} {offsets : List (Int × Int)}
    {updatedAt : String} {rows : List OffsetRow} {row : OffsetRow}
    (member : row ∈ table.cdcPositions offsets updatedAt rows) :
    (∃ offset ∈ offsets, row = table.offsetRow updatedAt offset) ∨ row ∈ rows := by
  unfold cdcPositions at member
  induction offsets generalizing rows with
  | nil => exact Or.inr member
  | cons offset offsets ih =>
    rcases ih member with ⟨later, inRest, placed⟩ | earlier
    · exact Or.inl ⟨later, List.mem_cons_of_mem _ inRest, placed⟩
    · exact (mem_placeOffset earlier).imp_left fun placed => ⟨offset, by simp, placed⟩

/-- The positions a committed batch leaves are its own and the ones before. -/
theorem KeyedTable.mem_recorded_cdcCatalog {table : KeyedTable} {tenant : String}
    {upserts : List (List Cell)} {deletes : List String} {offsets : List (Int × Int)}
    {updatedAt : String} {known : List String} {catalog : Catalog} {part offset : Int}
    (member : (part, offset) ∈ (table.cdcCatalog tenant upserts deletes offsets updatedAt known
      catalog).recorded table.source) :
    (part, offset) ∈ offsets ∨ (part, offset) ∈ catalog.recorded table.source := by
  obtain ⟨row, stored, source, named, placed⟩ := Catalog.mem_recorded.mp member
  simp only [cdcCatalog, Catalog.mapOffsets, Catalog.mapRows_cdcOffsets, Catalog.openOffsets,
    Catalog.withColumns_cdcOffsets, Option.map_some, Option.getD_some] at stored
  rcases mem_cdcPositions stored with ⟨pair, inOffsets, rfl⟩ | before
  · exact Or.inl (by rw [← named, ← placed]; exact inOffsets)
  · exact Or.inr (Catalog.mem_recorded.mpr ⟨row, before, source, named, placed⟩)

/-- Placing positions keeps those of other partitions. -/
theorem KeyedTable.mem_cdcPositions_of_notMem {table : KeyedTable} {offsets : List (Int × Int)}
    {updatedAt : String} {rows : List OffsetRow} {row : OffsetRow} (member : row ∈ rows)
    (apart : row.part ∉ offsets.map Prod.fst) :
    row ∈ table.cdcPositions offsets updatedAt rows := by
  unfold cdcPositions
  induction offsets generalizing rows with
  | nil => exact member
  | cons offset offsets ih =>
    simp only [List.map_cons, List.mem_cons, not_or] at apart
    refine ih ?_ apart.2
    show row ∈ placeOffset (table.offsetRow updatedAt offset) rows
    unfold placeOffset
    split
    · exact List.mem_map.mpr ⟨row, member, if_neg fun same => apart.1 same.2⟩
    · exact List.mem_append_left _ member

theorem placeOffset_mem (row : OffsetRow) (rows : List OffsetRow) : row ∈ placeOffset row rows := by
  unfold placeOffset
  split
  · next found =>
    obtain ⟨stored, member, same⟩ := List.any_eq_true.mp found
    exact List.mem_map.mpr ⟨stored, member, if_pos (by simpa using same)⟩
  · simp

/-- Each position of a committed batch is recorded. -/
theorem KeyedTable.recorded_cdcCatalog {table : KeyedTable} {offsets : List (Int × Int)}
    (distinct : (offsets.map Prod.fst).Nodup) {part offset : Int} (member : (part, offset) ∈ offsets)
    (tenant : String) (upserts : List (List Cell)) (deletes : List String) (updatedAt : String)
    (known : List String) (catalog : Catalog) :
    (part, offset) ∈ (table.cdcCatalog tenant upserts deletes offsets updatedAt known
      catalog).recorded table.source := by
  refine Catalog.mem_recorded.mpr ⟨table.offsetRow updatedAt (part, offset), ?_, rfl, rfl, rfl⟩
  simp only [cdcCatalog, Catalog.mapOffsets, Catalog.mapRows_cdcOffsets, Catalog.openOffsets,
    Catalog.withColumns_cdcOffsets, Option.map_some, Option.getD_some]
  generalize catalog.cdcOffsets.getD [] = rows
  obtain ⟨before, later, rfl⟩ := List.append_of_mem member
  simp only [List.map_append, List.map_cons, List.nodup_append, List.nodup_cons] at distinct
  rw [cdcPositions, List.foldl_append, List.foldl_cons]
  exact mem_cdcPositions_of_notMem (placeOffset_mem _ _) distinct.2.1.1

theorem KeyedTable.columnsOf_cdcCatalog (table : KeyedTable) (tenant : String)
    (upserts : List (List Cell)) (deletes : List String) (offsets : List (Int × Int))
    (updatedAt : String) (known : List String) (catalog : Catalog) :
    (table.cdcCatalog tenant upserts deletes offsets updatedAt known catalog).columnsOf table.name =
      some known := by
  rw [KeyedTable.cdcCatalog, Catalog.columnsOf_mapOffsets, Catalog.columnsOf_mapRows,
    Catalog.columnsOf_openOffsets, Catalog.columnsOf_withColumns]

section
variable (table : KeyedTable) (writer : Writer) {upserts : List (List Cell)}
  {deletes : List String} {offsets : List (Int × Int)}

/-- The writer a committed change batch leaves. -/
def KeyedTable.afterCdc (upserts : List (List Cell)) (deletes : List String)
    (offsets : List (Int × Int)) (updatedAt : String) (known : List String) : Writer :=
  { writer with
    issued := writer.issued +
      (table.cdcStatements writer.tenant upserts deletes offsets updatedAt).length + 2
    rollbackTo := none
    writeGen := writer.writeGen + 1
    durable :=
      ⟨table.cdcCatalog writer.tenant upserts deletes offsets updatedAt known
          writer.durable.catalog,
        writer.durable.history ++
          table.cdcStatements writer.tenant upserts deletes offsets updatedAt⟩ }

@[simp] theorem KeyedTable.afterCdc_catalog (upserts : List (List Cell)) (deletes : List String)
    (offsets : List (Int × Int)) (updatedAt : String) (known : List String) :
    (table.afterCdc writer upserts deletes offsets updatedAt known).durable.catalog =
      table.cdcCatalog writer.tenant upserts deletes offsets updatedAt known
        writer.durable.catalog := rfl

@[simp] theorem KeyedTable.afterCdc_tenant (upserts : List (List Cell)) (deletes : List String)
    (offsets : List (Int × Int)) (updatedAt : String) (known : List String) :
    (table.afterCdc writer upserts deletes offsets updatedAt known).tenant = writer.tenant := by
  simp only [KeyedTable.afterCdc]

@[simp] theorem KeyedTable.afterCdc_rollbackTo (upserts : List (List Cell))
    (deletes : List String) (offsets : List (Int × Int)) (updatedAt : String)
    (known : List String) :
    (table.afterCdc writer upserts deletes offsets updatedAt known).rollbackTo = none := rfl

/-- A change batch that commits: its rows, deletes and positions, all at once. -/
theorem applyCdcBatch_committed
    (commits : table.commits writer upserts deletes offsets = true)
    (aligned : ∀ row ∈ upserts, row.length = table.columns.length) (updatedAt : String) :
    ∃ written known, writer.durable.catalog.ensured table.dataset table.columns = some known ∧
      table.takes upserts deletes known = true ∧
      applyCdcBatch table.system table.entity table.columns table.key upserts deletes offsets
          updatedAt writer =
        (.ok written, table.afterCdc writer upserts deletes offsets updatedAt known) := by
  simp only [KeyedTable.commits, Bool.and_eq_true, decide_eq_true_eq] at commits
  obtain ⟨⟨sound, taken⟩, clear⟩ := commits
  obtain ⟨known, ensured, takes⟩ := (Option.any_eq_true _ _).mp taken
  rw [← table.cdcStatements_length writer.tenant upserts deletes offsets updatedAt] at clear
  have sends := KeyedTable.cdcBody_sends writer.begun ensured takes aligned offsets updatedAt
  obtain ⟨written, ran⟩ := transaction_taken sends clear
  refine ⟨written, known, ensured, takes, ?_⟩
  have shape : applyCdcBatch table.system table.entity table.columns table.key upserts deletes
      offsets updatedAt = table.checked fun dataset =>
        transaction (table.cdcBody upserts deletes offsets updatedAt dataset) := rfl
  rw [shape, KeyedTable.checked_of_sound sound]
  exact ran

/-- A change batch leaves the table rewritten and the positions placed. -/
theorem KeyedTable.cdcCatalog_eq (tenant : String) (upserts : List (List Cell))
    (deletes : List String) (offsets : List (Int × Int)) (updatedAt : String)
    (known : List String) (catalog : Catalog) :
    table.cdcCatalog tenant upserts deletes offsets updatedAt known catalog =
      { catalog.rewrite table.name known (table.cdcRows tenant upserts deletes) with
        cdcOffsets := some (table.cdcPositions offsets updatedAt (catalog.cdcOffsets.getD [])) } := by
  have present : (catalog.withColumns table.name known).openOffsets.columnsOf table.name =
      some known := by
    rw [Catalog.columnsOf_openOffsets, Catalog.columnsOf_withColumns]
  rw [cdcCatalog, Catalog.mapRows_eq_rewrite present]
  simp [Catalog.rewrite, Catalog.mapOffsets, Catalog.openOffsets, Catalog.withColumns,
    Catalog.setRaw, Catalog.rowsOf]

theorem KeyedTable.commits_of_never (never : ∀ i, writer.duck.rejects i = false) :
    table.commits writer upserts deletes offsets =
      (table.sound &&
        (writer.durable.catalog.ensured table.dataset table.columns).any
          (table.takes upserts deletes)) := by
  have clear (count : Nat) : writer.Clear count := fun _ _ => never _
  simp [commits, clear]

/-- A change batch that does not commit leaves nothing of itself. -/
theorem applyCdcBatch_rolledBack
    (refused : table.commits writer upserts deletes offsets = false)
    (aligned : ∀ row ∈ upserts, row.length = table.columns.length) (updatedAt : String) :
    RollsBack (applyCdcBatch table.system table.entity table.columns table.key upserts deletes
      offsets updatedAt) writer := by
  have shape : applyCdcBatch table.system table.entity table.columns table.key upserts deletes
      offsets updatedAt = table.checked fun dataset =>
        transaction (table.cdcBody upserts deletes offsets updatedAt dataset) := rfl
  rw [shape]
  cases sound : table.sound with
  | false =>
    obtain ⟨failure, ran⟩ := KeyedTable.checked_of_unsound sound (fun dataset =>
      transaction (table.cdcBody upserts deletes offsets updatedAt dataset)) writer
    exact ⟨failure, writer.issued, writer.rollbackTo, ran, Or.inl rfl⟩
  | true =>
    unfold RollsBack
    rw [KeyedTable.checked_of_sound sound]
    cases taken : (writer.durable.catalog.ensured table.dataset table.columns).any
        (table.takes upserts deletes) with
    | false => exact transaction_of_fails (KeyedTable.cdcBody_fails writer.begun taken aligned _ _)
    | true =>
      obtain ⟨known, ensured, takes⟩ := (Option.any_eq_true _ _).mp taken
      refine transaction_refused (KeyedTable.cdcBody_sends writer.begun ensured takes aligned _ _) ?_
      rw [KeyedTable.cdcStatements_length]
      simpa [KeyedTable.commits, sound, taken] using refused

end

end ConsumerEngine.Storage
