import ConsumerEngine.Storage.Atomicity
import ConsumerEngine.Storage.Ingests

/-! What the operations of the writer send outside a transaction, and which announce it.

Such an operation sends its statements one by one and stops at the first that is refused.
The write generation advances only behind the last of them.
-/

set_option autoImplicit false

namespace ConsumerEngine.Storage

open ConsumerEngine.Core ConsumerEngine.Foundation

/-- The statements taken of those sent in order, up to the first that is refused. -/
def taken (duck : DuckDb) (issued : Nat) (catalog : Catalog) : List Statement → List Statement
  | [] => []
  | statement :: rest =>
      if duck.rejects issued then []
      else
        match statement.apply duck catalog with
        | .error _ => []
        | .ok (_, after) => statement :: taken duck (issued + 1) after rest

theorem taken_prefix (duck : DuckDb) (issued : Nat) (catalog : Catalog)
    (statements : List Statement) : taken duck issued catalog statements <+: statements := by
  induction statements generalizing issued catalog with
  | nil => exact List.prefix_refl _
  | cons statement rest ih =>
    unfold taken
    split
    · exact List.nil_prefix
    · split
      · exact List.nil_prefix
      · exact (List.prefix_cons_inj statement).mpr (ih _ _)

/-- The statements of an operation outside a transaction, in order, and whether the write
generation advances behind them. -/
structure Plan where
  statements : List Statement
  announces : Bool

def Plan.nothing : Plan := ⟨[], false⟩

/-- What of the plan a writer's database takes. -/
def Plan.taken (plan : Plan) (writer : Writer) : List Statement :=
  Storage.taken writer.duck writer.issued writer.durable.catalog plan.statements

/-- All of the plan is taken, and then the generation advances. -/
def Plan.announced (plan : Plan) (writer : Writer) : Bool :=
  plan.announces && (plan.taken writer).length == plan.statements.length

/-- What a plan makes of a writer, whichever of its statements is refused. -/
structure Plan.Leads (plan : Plan) (before after : Writer) : Prop where
  applied : applyAll before.duck before.durable.catalog (plan.taken before) =
    .ok after.durable.catalog
  rollbackTo : after.rollbackTo = before.rollbackTo
  writeGen : after.writeGen = if plan.announced before then before.writeGen + 1 else before.writeGen

/-- A session does what a plan says. -/
abbrev CarriesOut {α : Type} (act : Session α) (writer : Writer) (plan : Plan) : Prop :=
  plan.Leads writer (act writer).2

namespace CarriesOut

variable {α β : Type} {act : Session α} {writer after : Writer} {plan : Plan}

/-- A session that leaves catalogue and handle alone. -/
theorem idle (durable : (act writer).2.durable = writer.durable)
    (rollbackTo : (act writer).2.rollbackTo = writer.rollbackTo)
    (writeGen : (act writer).2.writeGen = writer.writeGen) : CarriesOut act writer .nothing where
  applied := by rw [durable]; rfl
  rollbackTo := rollbackTo
  writeGen := writeGen

theorem refused {failure : Error} (ran : act writer = (.error failure, writer)) :
    CarriesOut act writer .nothing :=
  idle (by rw [ran]) (by rw [ran]) (by rw [ran])

theorem congr {other : Session β} (same : (other writer).2 = (act writer).2)
    (follows : CarriesOut act writer plan) : CarriesOut other writer plan := by
  rw [CarriesOut, same]
  exact follows

/-- The end of an operation that announces what it did. -/
theorem bump (writer : Writer) (result : α) :
    CarriesOut (do bumpWrite; return result) writer ⟨[], true⟩ where
  applied := rfl
  rollbackTo := rfl
  writeGen := rfl

/-- One statement, and if it is taken what comes behind it. -/
theorem execute {next : Nat → Session α} {statement : Statement} {rest : List Statement}
    {announces : Bool}
    (behind : ∀ affected catalog,
      statement.apply writer.duck writer.durable.catalog = .ok (affected, catalog) →
        CarriesOut (next affected) (writer.accept statement catalog) ⟨rest, announces⟩) :
    CarriesOut (Storage.execute statement >>= next) writer ⟨statement :: rest, announces⟩ := by
  cases rejected : writer.duck.rejects writer.issued with
  | true =>
    have none_ : Storage.taken writer.duck writer.issued writer.durable.catalog (statement :: rest) =
        [] := by rw [Storage.taken, if_pos rejected]
    have stops : (Storage.execute statement >>= next) writer =
        (.error (.storage "statement failed"), writer.sent) :=
      Effect.bind_of_error (execute_rejected rejected)
    exact ⟨by rw [Plan.taken, none_, stops]; rfl, by rw [stops]; rfl,
      by rw [stops, Plan.announced, Plan.taken, none_]; simp [Writer.sent]⟩
  | false =>
    cases outcome : statement.apply writer.duck writer.durable.catalog with
    | error message =>
      have none_ : Storage.taken writer.duck writer.issued writer.durable.catalog
          (statement :: rest) = [] := by
        rw [Storage.taken, if_neg (by rw [rejected]; exact Bool.false_ne_true), outcome]
      obtain ⟨failure, failed⟩ := execute_failed outcome
      have stops : (Storage.execute statement >>= next) writer =
          (.error (.storage failure), writer.sent) := Effect.bind_of_error failed
      exact ⟨by rw [Plan.taken, none_, stops]; rfl, by rw [stops]; rfl,
        by rw [stops, Plan.announced, Plan.taken, none_]; simp [Writer.sent]⟩
    | ok result =>
      obtain ⟨affected, catalog⟩ := result
      have goes : (Storage.execute statement >>= next) writer =
          next affected (writer.accept statement catalog) :=
        Effect.bind_of_ok (execute_accepted rejected outcome)
      have follows := behind affected catalog outcome
      have one : Storage.taken writer.duck writer.issued writer.durable.catalog (statement :: rest) =
          statement :: Storage.taken writer.duck (writer.issued + 1) catalog rest := by
        rw [Storage.taken, if_neg (by rw [rejected]; exact Bool.false_ne_true), outcome]
      refine ⟨?_, ?_, ?_⟩
      · rw [Plan.taken, one, applyAll, outcome, goes]
        exact follows.applied
      · rw [goes]
        exact follows.rollbackTo
      · rw [goes, follows.writeGen, Plan.announced, Plan.announced, Plan.taken, Plan.taken, one]
        simp [Writer.accept, Writer.sent]

/-- A list of statements sent in order, and if all are taken what comes behind them. -/
theorem executeFrom {statements rest : List Statement} {announces : Bool} {next : Nat → Session α}
    (behind : ∀ total reached, CarriesOut (next total) reached ⟨rest, announces⟩) (affected : Nat)
    (writer : Writer) :
    CarriesOut (Storage.executeFrom affected statements >>= next) writer
      ⟨statements ++ rest, announces⟩ := by
  induction statements generalizing affected writer with
  | nil => exact behind affected writer
  | cons statement later ih =>
    have steps : CarriesOut
        (Storage.execute statement >>= fun n => Storage.executeFrom (affected + n) later >>= next)
        writer ⟨statement :: (later ++ rest), announces⟩ :=
      execute fun n _ _ => ih (affected + n) _
    refine congr ?_ steps
    rw [Storage.executeFrom, Effect.bind_assoc]

theorem executeAll {statements rest : List Statement} {announces : Bool} {next : Nat → Session α}
    (behind : ∀ total reached, CarriesOut (next total) reached ⟨rest, announces⟩) (writer : Writer) :
    CarriesOut (Storage.executeAll statements >>= next) writer ⟨statements ++ rest, announces⟩ :=
  executeFrom behind 0 writer

theorem get {next : Writer → Session α} (follows : CarriesOut (next writer) writer plan) :
    CarriesOut (Effect.get >>= next) writer plan := follows

theorem lift {check : Except Error β} {next : β → Session α} {value : β} (passed : check = .ok value)
    (follows : CarriesOut (next value) writer plan) :
    CarriesOut (Effect.lift check >>= next) writer plan := by
  rw [passed]
  exact follows

theorem liftRefused {check : Except Error β} {failure : Error} (failed : check = .error failure)
    (next : β → Session α) : CarriesOut (Effect.lift check >>= next) writer .nothing := by
  rw [failed]
  exact refused (Effect.bind_of_error rfl)

theorem read (query : Catalog → Except String α) (writer : Writer) :
    CarriesOut (Storage.read query) writer .nothing := by
  have kept := read_keeps query writer
  refine .idle ?_ kept.rollbackTo kept.writeGen
  unfold Storage.read
  dsimp only
  split
  · rfl
  · split <;> rfl

theorem insertChunked {ρ : Type} {cols : Nat} {rows : List ρ} {statement : List ρ → Statement}
    {rest : List Statement} {announces : Bool} {next : Nat → Session α}
    (filled : ¬ rows.isEmpty = true) (positive : min 500 (maxParams / max cols 1) ≠ 0)
    (behind : ∀ total reached, CarriesOut (next total) reached ⟨rest, announces⟩) :
    CarriesOut (Storage.insertChunked cols rows statement >>= next) writer
      ⟨(chunks (min 500 (maxParams / max cols 1)) rows).map statement ++ rest, announces⟩ := by
  rw [Storage.insertChunked, if_neg filled, if_neg positive]
  exact executeAll behind writer

/-- The two statements every write to an engine table begins with. -/
theorem ensureEngineTable {table : EngineTable} (rest : List Statement) {announces : Bool}
    {next : Unit → Session α}
    (behind : ∀ reached, reached.tenant = writer.tenant →
      CarriesOut (next ()) reached ⟨rest, announces⟩) :
    CarriesOut (Storage.ensureEngineTable table >>= next) writer
      ⟨[.createEngine table, .addEngineTenant table] ++ rest, announces⟩ := by
  rw [Storage.ensureEngineTable, Effect.bind_assoc]
  refine execute fun _ _ _ => ?_
  rw [Effect.bind_assoc]
  exact execute fun _ _ _ => behind _ rfl

/-- The two statements every write to a raw table begins with. -/
theorem ensureRawTable {table : Dataset} {columns : List String} (rest : List Statement)
    {announces : Bool} {next : Unit → Session α}
    (behind : ∀ reached, reached.tenant = writer.tenant →
      CarriesOut (next ()) reached ⟨rest, announces⟩) :
    CarriesOut (Storage.ensureRawTable table columns >>= next) writer
      ⟨prologue table columns ++ rest, announces⟩ := by
  rw [Storage.ensureRawTable, Effect.bind_assoc]
  refine execute fun _ _ _ => ?_
  rw [Effect.bind_assoc]
  exact execute fun _ _ _ => behind _ rfl

end CarriesOut

/-! ### The operations -/

/-- The operations ingestion commands invoke on the writer. -/
inductive WriterCall where
  | ingest (table : IngestTable) (rows : List (List Cell))
  | upsert (table : KeyedTable) (rows : List (List Cell))
  | delete (system entity key : String) (keys : List String)
  | applyCdc (table : KeyedTable) (upserts : List (List Cell)) (deletes : List String)
      (offsets : List (Int × Int)) (updatedAt : String)
  | features (rows : List FeatureRow)
  | catalogue (rows : List CatalogRow)
  | suppression (rows : List SuppressionRow)
  | materialise (subquerySql : String) (subqueryParams : List Value) (keyColumn : String)
      (spec : SnapshotSpec)
  | exportParquet (snapshotId dest : String)
  | compact (system entity : String)
  | maintain (procedure : String) (retentionDays : Nat)
  | readOffsets (source : String)

namespace WriterCall

/-- The writer after the operation has returned, with a result or an error. -/
def after (writer : Writer) : WriterCall → Writer
  | ingest table rows => (ingestRaw table.system table.entity table.columns rows writer).2
  | upsert table rows => (upsertRaw table.system table.entity table.columns table.key rows writer).2
  | delete system entity key keys => (deleteRaw system entity key keys writer).2
  | applyCdc table upserts deletes offsets updatedAt =>
      (applyCdcBatch table.system table.entity table.columns table.key upserts deletes offsets
        updatedAt writer).2
  | features rows => (writeFeaturesAndRefresh rows writer).2
  | catalogue rows => (writeCatalogRows rows writer).2
  | suppression rows => (writeSuppressionIdempotent rows writer).2
  | materialise subquerySql subqueryParams keyColumn spec =>
      (materializeSnapshot subquerySql subqueryParams keyColumn spec writer).2
  | exportParquet snapshotId dest => (exportSnapshotParquet snapshotId dest writer).2
  | compact system entity => (Storage.compact system entity writer).2
  | maintain procedure retentionDays => (Storage.maintain procedure retentionDays writer).2
  | readOffsets source => (readCdcOffsets source writer).2

/-- The statements of an engine table's write ahead of its rows. -/
def opening (table : EngineTable) : List Statement := [.createEngine table, .addEngineTenant table]

/-- The embeddings of a batch of catalogue rows are all as long as the first. -/
def evenlyEmbedded (rows : List CatalogRow) : Bool :=
  rows.all fun row => row.embedding.length =
    (rows.head?.map (fun row => row.embedding.length)).getD 0

/-- What an operation sends outside a transaction for a tenant. -/
def plan (tenant : String) : WriterCall → Plan
  | ingest table rows =>
      if table.sound then
        if rows.isEmpty || !table.bindable then ⟨prologue table.dataset table.columns, false⟩
        else ⟨prologue table.dataset table.columns ++
          (chunks table.chunkRows rows).map (table.insertStatement tenant), true⟩
      else .nothing
  | upsert table rows =>
      if table.sound then
        if rows.isEmpty then ⟨prologue table.dataset table.columns, false⟩
        else ⟨prologue table.dataset table.columns ++
          (chunks mergeChunk (dedupByKey rows table.keyIndex)).map (table.upsertStatement tenant), true⟩
      else .nothing
  | delete system entity key keys =>
      if isIdent key && isIdent system && isIdent entity && !keys.isEmpty then
        ⟨(chunks mergeChunk keys).map fun chunk => .mergeDelete ⟨system, entity⟩ key chunk tenant, true⟩
      else .nothing
  | catalogue rows =>
      if rows.isEmpty then .nothing
      else if evenlyEmbedded rows then
        ⟨opening .semanticCatalog ++ rows.map (.insertCatalogRow · tenant), true⟩
      else ⟨opening .semanticCatalog, false⟩
  | suppression rows =>
      if rows.isEmpty then .nothing
      else ⟨opening .suppression ++ rows.map (.insertSuppression · tenant), true⟩
  | materialise subquerySql subqueryParams keyColumn spec =>
      if isIdent keyColumn then
        ⟨opening .audienceSnapshot ++ [.insertSnapshot (snapshotStatement subquerySql keyColumn)
          (snapshotParams spec tenant subqueryParams)], true⟩
      else .nothing
  | readOffsets _ => ⟨[.createEngine .cdcOffsets], false⟩
  -- a transaction, or statements that leave every table alone
  | applyCdc .. | features .. | exportParquet .. | compact .. | maintain .. => .nothing

/-- An operation whose statements each take effect on their own. -/
def sequential : WriterCall → Bool
  | applyCdc .. | features .. | exportParquet .. | compact .. | maintain .. => false
  | _ => true

section
variable (writer : Writer)

theorem ingest_leads (table : IngestTable) (rows : List (List Cell)) :
    ((ingest table rows).plan writer.tenant).Leads writer ((ingest table rows).after writer) := by
  rw [plan]
  cases sound : table.sound with
  | false =>
    obtain ⟨failure, ran⟩ := IngestTable.ingestRaw_of_unsound rows sound writer
    exact CarriesOut.refused ran
  | true =>
    rw [after, IngestTable.ingestRaw_of_sound sound, if_pos rfl]
    cases rows with
    | nil => exact CarriesOut.ensureRawTable [] fun _ _ => .idle rfl rfl rfl
    | cons row more =>
      have filled : ¬ (row :: more).isEmpty = true := by simp
      cases bindable : table.bindable with
      | false =>
        have whole : ¬ 0 < table.chunkRows := fun positive => by
          rw [table.chunkRows_pos, bindable] at positive
          cases positive
        rw [IngestTable.chunkRows] at whole
        refine CarriesOut.ensureRawTable [] fun reached _ => .idle ?_ ?_ ?_ <;>
          simp only [if_neg filled, insertChunked, if_pos (Nat.eq_zero_of_not_pos whole)] <;> rfl
      | true =>
        have positive := (table.chunkRows_pos.mpr bindable).ne'
        rw [IngestTable.chunkRows] at positive
        rw [IngestTable.body, IngestTable.chunkRows]
        refine CarriesOut.ensureRawTable _ fun reached tenant => ?_
        rw [if_neg filled, ← List.append_nil (List.map ..), ← tenant]
        exact .get (.insertChunked filled positive fun total reached => .bump reached total)

theorem upsert_leads (table : KeyedTable) (rows : List (List Cell)) :
    ((upsert table rows).plan writer.tenant).Leads writer ((upsert table rows).after writer) := by
  have same : (upsert table rows).after writer = (table.checked (fun dataset => do
      Storage.ensureRawTable dataset table.columns
      if rows.isEmpty then return 0
      let affected ← mergeUpserts dataset table.columns table.key
        (dedupByKey rows (table.columns.idxOf table.key))
      bumpWrite
      return affected) writer).2 := rfl
  rw [plan, same]
  cases sound : table.sound with
  | false =>
    obtain ⟨failure, ran⟩ := KeyedTable.checked_of_unsound sound _ writer
    exact CarriesOut.refused ran
  | true =>
    rw [KeyedTable.checked_of_sound sound, if_pos rfl]
    cases rows with
    | nil => exact CarriesOut.ensureRawTable [] fun _ _ => .idle rfl rfl rfl
    | cons row more =>
      have filled : ¬ (row :: more).isEmpty = true := by simp
      rw [if_neg filled]
      refine CarriesOut.ensureRawTable _ fun reached tenant => ?_
      rw [if_neg filled, mergeUpserts, Effect.bind_assoc, ← List.append_nil (List.map ..), ← tenant]
      exact .get (.executeAll (fun total reached => .bump reached total) reached)

theorem delete_leads (system entity key : String) (keys : List String) :
    ((delete system entity key keys).plan writer.tenant).Leads writer
      ((delete system entity key keys).after writer) := by
  rw [plan, after, deleteRaw]
  cases keyIdent : isIdent key with
  | false =>
    cases checked : validateIdent key with
    | ok => rw [validateIdent_eq_ok, keyIdent] at checked; cases checked
    | error failure => exact CarriesOut.refused (Effect.bind_of_error rfl)
  | true =>
    rw [validateIdent_eq_ok.mpr keyIdent, Effect.bind_of_ok (Effect.lift_apply _ _)]
    cases named : isIdent system && isIdent entity with
    | false =>
      cases checked : rawTableName system entity with
      | ok dataset =>
        obtain ⟨one, two, -⟩ := rawTableName_eq_ok.mp checked
        rw [one, two] at named
        cases named
      | error failure =>
        rw [Bool.true_and, named]
        exact CarriesOut.refused (Effect.bind_of_error rfl)
    | true =>
      have both := Bool.and_eq_true_iff.mp named
      rw [rawTableName_eq_ok.mpr ⟨both.1, both.2, rfl⟩, Effect.bind_of_ok (Effect.lift_apply _ _),
        Bool.true_and, named, Bool.true_and]
      cases keys with
      | nil => exact CarriesOut.idle rfl rfl rfl
      | cons first more =>
        rw [if_pos (by rfl), if_neg (by simp), mergeDeletes, Effect.bind_assoc,
          ← List.append_nil (List.map ..)]
        exact CarriesOut.get (.executeAll (fun total reached => .bump reached total) writer)

/-- The check of one row of a catalogue batch. -/
private def sameDim (rows : List CatalogRow) (row : CatalogRow) : Except Error Unit :=
  let dim := (rows.head?.map (fun row => row.embedding.length)).getD 0
  if row.embedding.length = dim then .ok ()
  else .error (.invalidInput ("catalog embedding dimension mismatch: expected " ++ toString dim ++
    ", got " ++ toString row.embedding.length))

private theorem sameDim_eq_ok (rows : List CatalogRow) :
    rows.forM (sameDim rows) = .ok () ↔ evenlyEmbedded rows = true := by
  rw [except_forM_eq_ok, evenlyEmbedded, List.all_eq_true]
  refine forall₂_congr fun row _ => ?_
  rw [sameDim, decide_eq_true_iff]
  split <;> simp_all

theorem catalogue_leads (rows : List CatalogRow) :
    ((catalogue rows).plan writer.tenant).Leads writer ((catalogue rows).after writer) := by
  rw [plan, after, writeCatalogRows]
  split
  · exact CarriesOut.idle rfl rfl rfl
  · cases even : evenlyEmbedded rows with
    | false =>
      rw [if_neg Bool.false_ne_true]
      refine CarriesOut.ensureEngineTable [] fun reached _ => ?_
      cases checked : rows.forM (sameDim rows) with
      | ok => rw [(sameDim_eq_ok rows).mp checked] at even; cases even
      | error failure => exact CarriesOut.liftRefused checked _
    | true =>
      rw [if_pos rfl]
      refine CarriesOut.ensureEngineTable _ fun reached tenant =>
        .lift ((sameDim_eq_ok rows).mpr even) ?_
      rw [← List.append_nil (List.map ..), ← tenant]
      exact .get (.executeAll (fun total reached => .bump reached total) reached)

theorem suppression_leads (rows : List SuppressionRow) :
    ((suppression rows).plan writer.tenant).Leads writer ((suppression rows).after writer) := by
  rw [plan, after, writeSuppressionIdempotent]
  split
  · exact CarriesOut.idle rfl rfl rfl
  · refine CarriesOut.ensureEngineTable _ fun reached tenant => ?_
    rw [← List.append_nil (List.map ..), ← tenant]
    exact .get (.executeAll (fun total reached => .bump reached total) reached)

theorem materialise_leads (subquerySql : String) (subqueryParams : List Value)
    (keyColumn : String) (spec : SnapshotSpec) :
    ((materialise subquerySql subqueryParams keyColumn spec).plan writer.tenant).Leads writer
      ((materialise subquerySql subqueryParams keyColumn spec).after writer) := by
  rw [plan, after, materializeSnapshot]
  cases keyIdent : isIdent keyColumn with
  | false =>
    cases checked : validateIdent keyColumn with
    | ok => rw [validateIdent_eq_ok, keyIdent] at checked; cases checked
    | error failure => exact CarriesOut.refused (Effect.bind_of_error rfl)
  | true =>
    rw [validateIdent_eq_ok.mpr keyIdent, Effect.bind_of_ok (Effect.lift_apply _ _), if_pos rfl]
    refine CarriesOut.ensureEngineTable _ fun reached tenant => ?_
    rw [← tenant]
    exact .get (.execute fun affected _ _ => .bump _ affected)

theorem readOffsets_leads (source : String) :
    ((readOffsets source).plan writer.tenant).Leads writer ((readOffsets source).after writer) := by
  exact CarriesOut.execute fun affected catalog _ => CarriesOut.read _ _

/-- An operation outside a transaction does what its plan says. -/
theorem leads (call : WriterCall) (apart : call.sequential = true) :
    (call.plan writer.tenant).Leads writer (call.after writer) := by
  cases call with
  | ingest table rows => exact ingest_leads writer table rows
  | upsert table rows => exact upsert_leads writer table rows
  | delete system entity key keys => exact delete_leads writer system entity key keys
  | catalogue rows => exact catalogue_leads writer rows
  | suppression rows => exact suppression_leads writer rows
  | materialise sql params keyColumn spec => exact materialise_leads writer sql params keyColumn spec
  | readOffsets source => exact readOffsets_leads writer source
  | applyCdc | features | exportParquet | compact | maintain => cases apart

end

end WriterCall

end ConsumerEngine.Storage
