import ConsumerEngine.Core.Freshness
import ConsumerEngine.Ingestion.GracefulStop
import ConsumerEngine.Semantic.Profiler

/-! `POST /sources/onboard`: checks, the ingest, the freshness registry, the profile, the catalogue.

The rows are handed to the writer before the source type is looked at, so a request that passes
the checks of its columns and rows is ingested and then rejected for an unknown source type.
-/

set_option autoImplicit false

namespace ConsumerEngine.Ingress

open ConsumerEngine.Core ConsumerEngine.Foundation ConsumerEngine.Storage ConsumerEngine.Ingestion
  ConsumerEngine.Semantic

/-! ### The request -/

/-- `OnboardRequest`. -/
structure OnboardRequest where
  system : String
  entity : String
  columns : List String
  rows : List (List Cell)
  sourceType : Option String

/-- `MAX_ONBOARD_ROWS`. -/
def maxOnboardRows : Nat := 200000

/-- `MAX_COLUMNS`. -/
def maxColumns : Nat := 1024

/-- `MAX_CELL_BYTES`. -/
def maxCellBytes : Nat := 4096

/-- A check that rejects the request. -/
def rejectIf (condition : Bool) (message : String) : Except Error Unit :=
  if condition then .error (.invalidInput message) else .ok ()

/-- The checks of the `i`-th row. -/
def checkRow (expected i : Nat) (row : List Cell) : Except Error Unit := do
  rejectIf (row.length != expected) ("row " ++ toString i ++ " has " ++ toString row.length ++
    " cells, expected " ++ toString expected)
  row.reduceOption.forM fun cell => rejectIf (maxCellBytes < cell.utf8ByteSize)
    ("row " ++ toString i ++ " cell exceeds " ++ toString maxCellBytes ++ " bytes")

/-- The checks `onboard` makes before it ingests. -/
def OnboardRequest.check (request : OnboardRequest) : Except Error Unit := do
  validateIdent request.system
  validateIdent request.entity
  rejectIf request.columns.isEmpty "columns must not be empty"
  rejectIf (maxColumns < request.columns.length) ("columns exceed cap of " ++ toString maxColumns)
  request.columns.forM validateIdent
  rejectIf (maxOnboardRows < request.rows.length) ("rows exceed cap of " ++ toString maxOnboardRows)
  request.rows.zipIdx.forM fun entry => checkRow request.columns.length entry.2 entry.1

/-- `parse_source_type`. -/
def parseSourceType : Option String → Except Error SourceType
  | none => .ok .batch
  | some label =>
      if label = "batch" then .ok .batch
      else if label = "cdc" then .ok .cdc
      else .error (.invalidInput ("unknown sourceType " ++ debugQuoted label))

/-- The status code `ApiError::into_response` gives an error of the core. -/
def statusOf : Error → Nat
  | .invalidInput _ => 400
  | .writerAlreadyHeld => 409
  | .catalogueUnavailable => 503
  | .storage _ | .execution _ | .ingestion _ | .panicked _ => 500

/-- `OnboardResponse`. -/
structure OnboardResponse where
  rowsInserted : Nat
  profiled : Bool
  columns : List String
  deriving DecidableEq

/-! ### The handler -/

/-- What the handlers share: the writer thread and the freshness registry. -/
structure Engine where
  service : Service
  freshness : FreshnessRegistry

def Engine.catalog (engine : Engine) : Catalog := engine.service.loop.writer.durable.catalog

abbrev Handling (α : Type) : Type := Effect Engine Error α

/-- A call of the handle: the command is sent and its answer awaited. A thread that is gone, or
goes without an answer, fails the call. -/
def submit (config : MicroBatchConfig) (clock : Loop.Clock) (cmd : Cmd) : Handling Reply :=
  fun engine =>
    if engine.service.status = .running then
      let served := engine.service.wake config (.command clock cmd)
      match (served.answered.drop engine.service.answered.length).head? with
      | some answer => (.ok answer.2, { engine with service := served })
      | none => (.error (.ingestion "receiving on a closed channel"), { engine with service := served })
    else (.error (.ingestion "sending on a closed channel"), engine)

/-- A command that is answered with a count. -/
def submitCount (config : MicroBatchConfig) (clock : Loop.Clock) (cmd : Cmd) : Handling Nat := do
  match ← submit config clock cmd with
  | .count (.ok n) => return n
  | .count (.error failure) => Effect.throw failure
  | .done _ | .offsets _ | .drained => Effect.throw (.ingestion "answered in another type")

/-- The command an onboarding has its rows ingested by. -/
def OnboardRequest.ingest (request : OnboardRequest) (tenant : String) : Cmd :=
  .ingestRaw request.system request.entity request.columns request.rows tenant

/-- `FreshnessRegistry::set` on the shared registry. -/
def registerSource (system entity : String) (sourceType : SourceType) (epoch : Int) : Handling Unit :=
  fun engine =>
    match engine.freshness.set system entity sourceType epoch with
    | .ok freshness => (.ok (), { engine with freshness })
    | .error failure => (.error failure, engine)

/-- What an onboarding meets on its way: the readings of the clocks, what the other requests and
the writer do to the engine before its catalogue rows are written, and the tables the profiler
reads; `none` if it runs out of time. -/
structure Encounter where
  clock : Loop.Clock
  epoch : Int
  others : Engine → Engine
  view : Option View
  profiledAt : Int
  writtenAt : Loop.Clock

section
variable (config : MicroBatchConfig) (profiler : Profiler) (models : Models) (met : Encounter)
  (tenant : String) (request : OnboardRequest)

/-- Profile the table and catalogue its columns for the tenant; a failure only means that the
source is not profiled. -/
def catalogueSource : Handling (Bool × List String) := do
  Effect.modify met.others
  match met.view with
  | none => return (false, [])
  | some view =>
      match profiler.onboard models view request.system request.entity met.profiledAt with
      | .error _ => return (false, [])
      | .ok (rows, _) => do
          let stamped := rows.map fun row => { row with sourceEpoch := met.epoch }
          match ← Effect.attempt (submitCount config met.writtenAt (.writeCatalog stamped tenant)) with
          | .ok _ => return (true, stamped.filterMap CatalogRow.columnName)
          | .error _ => return (false, [])

/-- `onboard` before the profile. -/
def acceptRows : Handling Nat := do
  Effect.lift request.check
  let n ← submitCount config met.clock (request.ingest tenant)
  let sourceType ← Effect.lift (parseSourceType request.sourceType)
  registerSource request.system request.entity sourceType met.epoch
  return n

/-- `onboard`. -/
def onboard : Handling OnboardResponse := do
  let n ← acceptRows config met tenant request
  let (profiled, columns) ← catalogueSource config profiler models met tenant request
  return ⟨n, profiled, columns⟩

/-- No raw table, buffered row, freshness entry or catalogue row is another one. -/
structure Untouched (before after : Engine) : Prop where
  raw : after.catalog.raw = before.catalog.raw
  pending : after.service.loop.pending = before.service.loop.pending
  freshness : after.freshness = before.freshness
  semanticCatalog : after.catalog.semanticCatalog = before.catalog.semanticCatalog

/-- An onboarding rejected for its input leaves the engine as it was. -/
def Harmless (engine : Engine) : Prop :=
  ∀ failure, (onboard config profiler models met tenant request engine).1 = .error failure →
    statusOf failure = 400 →
      Untouched engine (onboard config profiler models met tenant request engine).2

end

/-- The request names a source type there is. -/
def OnboardRequest.KnownSource (request : OnboardRequest) : Prop :=
  (parseSourceType request.sourceType).isOk = true

instance (request : OnboardRequest) : Decidable request.KnownSource :=
  inferInstanceAs (Decidable (_ = _))

/-! ### What the handler is told -/

/-- A failure the client is not blamed for. -/
def Internal (failure : Error) : Prop := statusOf failure ≠ 400

section
variable {config : MicroBatchConfig} {clock : Loop.Clock} {cmd : Cmd} {engine after : Engine}

/-- A command with an answer was served. -/
theorem submit_eq_ok {reply : Reply} (ran : submit config clock cmd engine = (.ok reply, after)) :
    ∃ reached loop,
      Loop.flushExpired config.flushAgeSecs clock.now engine.service.loop = (.ok (), reached) ∧
        Loop.serve config clock cmd reached = (.ok reply, loop) ∧
        after = { engine with service := ⟨loop, engine.service.received ++ [cmd],
          engine.service.answered ++ [(cmd, reply)],
          Service.statusAfter engine.service.status cmd⟩ } := by
  unfold submit at ran
  split at ran
  · rcases Service.wake_command_cases config engine.service clock cmd with
      ⟨reached, loop, found, expired, served, woken⟩ | ⟨loop, woken⟩
    · simp only [woken, List.drop_left, List.head?_cons, Prod.mk.injEq, Except.ok.injEq] at ran
      obtain ⟨rfl, rfl⟩ := ran
      exact ⟨reached, loop, expired, served, rfl⟩
    · simp [woken] at ran
  · cases ran

theorem submit_internal : Effect.FailsWith Internal (submit config clock cmd) := by
  intro engine failure after failed
  unfold submit at failed
  split at failed
  · dsimp only at failed
    split at failed <;> cases failed
    exact fun same => nomatch same
  · cases failed
    exact fun same => nomatch same

/-- What a command that is counted was answered. -/
theorem submitCount_answer {outcome : Except Error Nat}
    (ran : submitCount config clock cmd engine = (outcome, after)) :
    (∃ failure, outcome = .error failure ∧ Internal failure) ∨
      submit config clock cmd engine = (.ok (.count outcome), after) := by
  unfold submitCount at ran
  rw [Effect.bind_apply] at ran
  rcases answered : submit config clock cmd engine with ⟨replied, reached⟩
  rw [answered] at ran
  cases replied with
  | error failure =>
    cases ran
    exact .inl ⟨failure, rfl, submit_internal _ _ _ answered⟩
  | ok reply =>
    cases reply with
    | count counted =>
      cases counted <;> cases ran <;> exact .inr rfl
    | done _ | offsets _ | drained =>
      cases ran
      exact .inl ⟨_, rfl, fun same => nomatch same⟩

end

/-! ### An ingest in the loop -/

/-- The writer makes no check that `onboard` has not made. -/
theorem ingestRaw_internal {table : IngestTable} (sound : table.sound = true)
    (rows : List (List Cell)) :
    Effect.FailsWith Internal (ingestRaw table.system table.entity table.columns rows) :=
  IngestTable.ingestRaw_failsWith (fun _ same => nomatch same)
    (fun unsound => absurd sound (Bool.eq_false_iff.mp unsound)) (fun _ _ same => nomatch same) rows

theorem callKnown_answer {α : Type} {system entity : String} {act : Session α} {loop after : Loop}
    {outcome : Except Error α}
    (ran : Loop.callKnown system entity act loop = (.ok outcome, after)) :
    (act loop.writer).1 = outcome := by
  unfold Loop.callKnown at ran
  obtain ⟨returned, reached, called, rest⟩ := Effect.bind_eq_ok.mp ran
  cases returned with
  | error failure =>
    cases rest
    exact Loop.call_eq_ok called
  | ok found =>
    obtain ⟨-, _, _, last⟩ := Effect.bind_eq_ok.mp rest
    cases last
    exact Loop.call_eq_ok called

/-- A flush of a batch is one ingest of the writer. -/
theorem flushBatch_answer {key : BatchKey} {batch : PendingBatch} {loop after : Loop}
    {outcome : Except Error Nat} (ran : Loop.flushBatch key batch loop = (.ok outcome, after)) :
    (ingestRaw key.system key.entity batch.columns batch.rows
        (loop.writer.setTenant batch.tenant)).1 = outcome ∧
      after.writer = (ingestRaw key.system key.entity batch.columns batch.rows
        (loop.writer.setTenant batch.tenant)).2 ∧
      after.pending = loop.pending := by
  unfold Loop.flushBatch at ran
  obtain ⟨⟨⟩, reached, set, flushed⟩ := Effect.bind_eq_ok.mp ran
  cases set
  obtain ⟨known, state⟩ := Loop.callKnown_state key.system key.entity
    (ingestRaw key.system key.entity batch.columns batch.rows)
    { loop with writer := loop.writer.setTenant batch.tenant }
  obtain rfl : after = _ := (congrArg Prod.snd flushed).symm.trans state
  exact ⟨callKnown_answer flushed, rfl, rfl⟩

/-- What an ingest does in the loop: it stores its rows at once, or its batch with them once it
is long enough, or it buffers them. -/
inductive Ingested (config : MicroBatchConfig) (since : Nat) (table : IngestTable)
    (rows : List (List Cell)) (tenant : String) (loop after : Loop) (outcome : Except Error Nat) :
    Prop where
  /-- Buffering is off. -/
  | stored (off : config.flushRows = 0)
      (ran : (ingestRaw table.system table.entity table.columns rows
        (loop.writer.setTenant tenant)).1 = outcome)
      (writer : after.writer = (ingestRaw table.system table.entity table.columns rows
        (loop.writer.setTenant tenant)).2)
      (pending : after.pending = loop.pending)
  /-- The batch of the key is flushed with the rows of this ingest in it. -/
  | flushed (reached : Loop) (batch : PendingBatch)
      (shaped : Loop.changeShape (.of tenant table.system table.entity) table.columns
        { loop with writer := loop.writer.setTenant tenant } = (.ok (), reached))
      (extended : batch = reached.extended (.of tenant table.system table.entity) table.columns rows
        tenant since)
      (full : config.flushRows ≤ batch.rows.length)
      (ran : (ingestRaw table.system table.entity batch.columns batch.rows
        (reached.writer.setTenant batch.tenant)).1 = outcome)
      (writer : after.writer = (ingestRaw table.system table.entity batch.columns batch.rows
        (reached.writer.setTenant batch.tenant)).2)
      (pending : after.pending = reached.pending.remove (.of tenant table.system table.entity))
  /-- The rows wait in the batch of the key. -/
  | buffered (reached : Loop)
      (shaped : Loop.changeShape (.of tenant table.system table.entity) table.columns
        { loop with writer := loop.writer.setTenant tenant } = (.ok (), reached))
      (short : (reached.extended (.of tenant table.system table.entity) table.columns rows
        tenant since).rows.length < config.flushRows)
      (answered : outcome = .ok 0)
      (writer : after.writer = reached.writer)
      (pending : after.pending = reached.pending.insert (.of tenant table.system table.entity)
        (reached.extended (.of tenant table.system table.entity) table.columns rows tenant since))

theorem ingest_cases {config : MicroBatchConfig} {since : Nat} {table : IngestTable}
    {rows : List (List Cell)} {tenant : String} {loop after : Loop} {outcome : Except Error Nat}
    (ran : Loop.ingest config since table.system table.entity table.columns rows tenant loop =
      (.ok outcome, after)) :
    Ingested config since table rows tenant loop after outcome := by
  unfold Loop.ingest at ran
  rw [Effect.bind_of_ok (show Loop.setTenant tenant loop =
    (.ok (), { loop with writer := loop.writer.setTenant tenant }) from rfl)] at ran
  split at ran
  · next off =>
    obtain ⟨known, state⟩ := Loop.callKnown_state table.system table.entity
      (ingestRaw table.system table.entity table.columns rows)
      { loop with writer := loop.writer.setTenant tenant }
    rw [ran] at state
    obtain rfl : after = _ := state
    exact .stored off (callKnown_answer ran) rfl rfl
  · obtain ⟨⟨⟩, reached, shaped, last⟩ := Effect.bind_eq_ok.mp ran
    unfold Loop.buffer at last
    rw [Effect.bind_of_ok (Effect.get_apply reached)] at last
    split at last
    · next full =>
      obtain ⟨⟨⟩, emptied, removed, flushed⟩ := Effect.bind_eq_ok.mp last
      cases removed
      obtain ⟨answered, writer, pending⟩ := flushBatch_answer flushed
      exact .flushed reached _ shaped rfl full answered writer pending
    · next short =>
      cases last
      exact .buffered reached shaped (Nat.lt_of_not_le short) rfl rfl rfl

/-- The batch an ingest extends has its columns. -/
theorem extended_columns {key : BatchKey} {columns : List String} {rows : List (List Cell)}
    {tenant : String} {since : Nat} {loop reached : Loop}
    (shaped : Loop.changeShape key columns loop = (.ok (), reached)) :
    (reached.extended key columns rows tenant since).columns = columns := by
  unfold Loop.extended
  cases found : reached.pending.get key with
  | none => rfl
  | some batch =>
    have settled : batch.columns = columns := Loop.changeShape_settles shaped found
    exact settled

/-- An ingest past the checks of the handler is not refused for its input. -/
theorem Ingested.internal {config : MicroBatchConfig} {since : Nat} {table : IngestTable}
    {rows : List (List Cell)} {tenant : String} {loop after : Loop} {failure : Error}
    (sound : table.sound = true)
    (ingested : Ingested config since table rows tenant loop after (.error failure)) :
    Internal failure := by
  cases ingested with
  | stored off ran => exact ingestRaw_internal sound rows _ failure _ (Prod.ext ran rfl)
  | flushed reached batch shaped extended full ran =>
    have columns : batch.columns = table.columns := extended ▸ extended_columns shaped
    rw [columns] at ran
    exact ingestRaw_internal sound batch.rows _ failure _ (Prod.ext ran rfl)
  | buffered reached shaped short answered => cases answered

/-! ### The checks -/

/-- The table the rows of a request go to. -/
def OnboardRequest.table (request : OnboardRequest) : IngestTable :=
  ⟨request.system, request.entity, request.columns⟩

theorem rejectIf_eq_ok {condition : Bool} {message : String} :
    rejectIf condition message = .ok () ↔ condition = false := by
  cases condition <;> simp [rejectIf]

theorem checkRow_width {expected i : Nat} {row : List Cell}
    (passed : checkRow expected i row = .ok ()) : row.length = expected := by
  obtain ⟨⟨⟩, width, -⟩ := except_bind_eq_ok.mp passed
  simpa using rejectIf_eq_ok.mp width

/-- What a request that passes the checks is like. -/
structure OnboardRequest.Checked (request : OnboardRequest) : Prop where
  sound : request.table.sound = true
  narrow : request.columns.length ≤ maxColumns
  aligned : ∀ row ∈ request.rows, row.length = request.columns.length

theorem OnboardRequest.checked_of_ok {request : OnboardRequest} (passed : request.check = .ok ()) :
    request.Checked := by
  unfold OnboardRequest.check at passed
  obtain ⟨⟨⟩, system, passed⟩ := except_bind_eq_ok.mp passed
  obtain ⟨⟨⟩, entity, passed⟩ := except_bind_eq_ok.mp passed
  obtain ⟨⟨⟩, present, passed⟩ := except_bind_eq_ok.mp passed
  obtain ⟨⟨⟩, narrow, passed⟩ := except_bind_eq_ok.mp passed
  obtain ⟨⟨⟩, idents, passed⟩ := except_bind_eq_ok.mp passed
  obtain ⟨⟨⟩, -, rows⟩ := except_bind_eq_ok.mp passed
  refine ⟨?_, ?_, fun row member => ?_⟩
  · simp only [IngestTable.sound, OnboardRequest.table, rejectIf_eq_ok.mp present,
      validateIdent_eq_ok.mp system, validateIdent_eq_ok.mp entity,
      forM_validateIdent_eq_ok.mp idents]
    rfl
  · exact Nat.le_of_not_lt (of_decide_eq_false (rejectIf_eq_ok.mp narrow))
  · obtain ⟨i, inside, rfl⟩ := List.getElem_of_mem member
    have rowed := except_forM_eq_ok.mp rows (request.rows[i], i)
      (List.mk_mem_zipIdx_iff_getElem?.mpr (List.getElem?_eq_getElem inside))
    exact checkRow_width rowed

/-! ### A request that is rejected -/

section
variable {config : MicroBatchConfig} {clock : Loop.Clock} {profiler : Profiler} {models : Models}
  {met : Encounter} {tenant : String} {request : OnboardRequest} {engine after : Engine}

/-- The answer to the ingest of a request. -/
theorem submitIngest_answer {outcome : Except Error Nat}
    (ran : submitCount config clock (request.ingest tenant) engine = (outcome, after)) :
    (∃ failure, outcome = .error failure ∧ Internal failure) ∨
      ∃ reached, Loop.flushExpired config.flushAgeSecs clock.now engine.service.loop =
          (.ok (), reached) ∧
        Ingested config clock.since request.table request.rows tenant reached after.service.loop
          outcome := by
  rcases submitCount_answer ran with failed | answered
  · exact .inl failed
  · obtain ⟨reached, loop, expired, served, rfl⟩ := submit_eq_ok answered
    obtain ⟨found, _, ingested, same⟩ := Effect.bind_eq_ok.mp served
    cases same
    exact .inr ⟨reached, expired, ingest_cases ingested⟩

theorem submitIngest_internal (checked : request.Checked) :
    Effect.FailsWith Internal (submitCount config clock (request.ingest tenant)) := by
  intro engine failure after failed
  rcases submitIngest_answer failed with ⟨_, ⟨⟩, internal⟩ | ⟨reached, -, ingested⟩
  · exact internal
  · exact ingested.internal checked.sound

theorem registerSource_internal (checked : request.Checked) (sourceType : SourceType) (epoch : Int) :
    Effect.FailsWith Internal (registerSource request.system request.entity sourceType epoch) := by
  have sound := checked.sound
  simp only [IngestTable.sound, OnboardRequest.table, Bool.and_eq_true] at sound
  intro engine failure after failed
  simp only [registerSource, FreshnessRegistry.set, validateIdent_eq_ok.mpr sound.1.2,
    validateIdent_eq_ok.mpr sound.2, bind, Except.bind, pure, Except.pure] at failed
  cases failed

theorem catalogueSource_returns (engine : Engine) :
    ∃ answer after, catalogueSource config profiler models met tenant request engine =
      (.ok answer, after) := by
  unfold catalogueSource
  rw [Effect.bind_of_ok (Effect.modify_apply _ _)]
  cases met.view with
  | none => exact ⟨_, _, rfl⟩
  | some view =>
    dsimp only
    cases profiler.onboard models view request.system request.entity met.profiledAt with
    | error failure => exact ⟨_, _, rfl⟩
    | ok result =>
      dsimp only
      rw [Effect.bind_of_ok (Effect.attempt_apply _ _)]
      rcases submitCount config met.writtenAt _ _ with ⟨failure | n, after⟩ <;> exact ⟨_, _, rfl⟩

theorem catalogueSource_internal :
    Effect.FailsWith Internal (catalogueSource config profiler models met tenant request) := by
  intro engine failure after failed
  obtain ⟨answer, reached, ran⟩ :=
    @catalogueSource_returns config profiler models met tenant request engine
  cases ran.symm.trans failed

theorem acceptRows_internal (passed : request.check = .ok ()) (known : request.KnownSource) :
    Effect.FailsWith Internal (acceptRows config met tenant request) := by
  have checked := OnboardRequest.checked_of_ok passed
  unfold acceptRows
  refine Effect.FailsWith.bind (Effect.FailsWith.lift fun e failed => ?_) fun _ =>
    Effect.FailsWith.bind (submitIngest_internal checked) fun n => Effect.FailsWith.bind
      (Effect.FailsWith.lift fun e unknown => ?_) fun sourceType => Effect.FailsWith.bind
        (registerSource_internal checked sourceType met.epoch) fun _ => Effect.FailsWith.pure n
  · cases passed.symm.trans failed
  · rw [OnboardRequest.KnownSource, unknown] at known
    cases known

/-- Past the checks, a request of a known source type is not rejected for its input. -/
theorem onboard_internal (passed : request.check = .ok ()) (known : request.KnownSource) :
    Effect.FailsWith Internal (onboard config profiler models met tenant request) :=
  Effect.FailsWith.bind (acceptRows_internal passed known) fun _ =>
    Effect.FailsWith.bind catalogueSource_internal fun _ => Effect.FailsWith.pure _

/-- A request that fails a check is answered at once. -/
theorem onboard_of_unchecked {failure : Error} (failed : request.check = .error failure) :
    onboard config profiler models met tenant request engine = (.error failure, engine) :=
  Effect.bind_of_error (Effect.bind_of_error (show Effect.lift request.check engine =
    (.error failure, engine) by rw [Effect.lift_apply, failed]))

theorem harmless_of_known (good : request.check ≠ .ok () ∨ request.KnownSource) :
    Harmless config profiler models met tenant request engine := by
  intro failure failed blamed
  cases passed : request.check with
  | error found =>
    rw [onboard_of_unchecked passed]
    exact ⟨rfl, rfl, rfl, rfl⟩
  | ok =>
    have known := good.resolve_left fun fails => fails passed
    exact absurd blamed (onboard_internal passed known engine failure _ (Prod.ext failed rfl))

end

/-! ### What an ingest leaves -/

/-- A schema change takes the batch of other columns out of the buffer. -/
theorem changeShape_cases {key : BatchKey} {columns : List String} {loop reached : Loop}
    (ran : Loop.changeShape key columns loop = (.ok (), reached)) :
    reached = loop ∨ ∃ old, loop.pending.get key = some old ∧ old.columns ≠ columns ∧
      reached.pending = loop.pending.remove key := by
  unfold Loop.changeShape at ran
  rw [Effect.bind_of_ok (Effect.get_apply loop)] at ran
  cases other : loop.otherShape key columns with
  | none =>
    simp only [other] at ran
    cases ran
    exact .inl rfl
  | some old =>
    simp only [other] at ran
    obtain ⟨found, differs⟩ := Option.filter_eq_some_iff.mp other
    have state := congrArg (fun result => result.2.pending) ran
    simp only [Loop.flushOut_state, Loop.flushBatch_pending] at state
    exact .inr ⟨old, found, by simpa using differs, state.symm⟩

/-- Rows that were ingested are stored. -/
theorem raw_of_ingestRaw {table : IngestTable} {rows : List (List Cell)} {writer : Writer} {n : Nat}
    (filled : rows ≠ []) (aligned : ∀ row ∈ rows, row.length = table.columns.length)
    (ran : (ingestRaw table.system table.entity table.columns rows writer).1 = .ok n) :
    (ingestRaw table.system table.entity table.columns rows writer).2.durable.catalog.raw ≠
      writer.durable.catalog.raw := by
  obtain ⟨stored, lands⟩ := IngestTable.lands writer aligned
  obtain rfl := lands.whole (by rw [ran]; rfl)
  intro same
  have grown := congrArg Multiset.card lands.catalog.target
  simp only [Catalog.rowsOf, same, IngestTable.store, Multiset.card_add, Multiset.coe_card,
    List.length_map] at grown
  exact filled (List.eq_nil_of_length_eq_zero (by omega))

/-- The rows of an ingest that was acknowledged are stored, or the buffer is another one. -/
theorem Ingested.shows {config : MicroBatchConfig} {since : Nat} {table : IngestTable}
    {rows : List (List Cell)} {tenant : String} {loop after : Loop} {n : Nat}
    (filled : rows ≠ []) (aligned : ∀ row ∈ rows, row.length = table.columns.length)
    (ingested : Ingested config since table rows tenant loop after (.ok n))
    (pending : after.pending = loop.pending) :
    after.writer.durable.catalog.raw ≠ loop.writer.durable.catalog.raw := by
  cases ingested with
  | stored off ran writer =>
    rw [writer]
    exact raw_of_ingestRaw filled aligned ran
  | flushed reached batch shaped extended full ran writer removed =>
    have gone : loop.pending.get (.of tenant table.system table.entity) = none := by
      rw [← pending, removed, SortedMap.get_remove_self]
    rcases changeShape_cases shaped with rfl | ⟨old, found, -⟩
    · -- No batch was waiting: the one that is flushed has the rows of this ingest only.
      obtain rfl : batch = ⟨table.columns, rows, tenant, since⟩ := by
        rw [extended, Loop.extended, gone]
        rfl
      rw [writer]
      exact raw_of_ingestRaw filled aligned ran
    · cases gone.symm.trans found
  | buffered reached shaped short answered writer inserted =>
    have waits := SortedMap.get_insert_self reached.pending (.of tenant table.system table.entity)
      (reached.extended (.of tenant table.system table.entity) table.columns rows tenant since)
    rw [← inserted, pending] at waits
    refine absurd waits ?_
    rcases changeShape_cases shaped with rfl | ⟨old, found, differs, -⟩
    · unfold Loop.extended
      cases found : loop.pending.get (.of tenant table.system table.entity) with
      | none => exact fun same => nomatch same
      | some batch =>
        intro same
        have rowsSame := congrArg PendingBatch.rows (Option.some.inj same)
        exact filled (List.self_eq_append_right.mp rowsSame)
    · intro same
      rw [found] at same
      exact differs (congrArg PendingBatch.columns (Option.some.inj same) ▸ extended_columns shaped)

/-! ### Exactly the unknown source types -/

/-- No waiting batch is old enough to be flushed. -/
def NothingDue (config : MicroBatchConfig) (now : Nat) (loop : Loop) : Prop :=
  config.flushAgeSecs = 0 ∨
    ∀ entry ∈ loop.pending.entries, Loop.expired config.flushAgeSecs now entry.2 = false

theorem flushExpired_nothing {config : MicroBatchConfig} {now : Nat} {loop : Loop}
    (nothing : NothingDue config now loop) :
    Loop.flushExpired config.flushAgeSecs now loop = (.ok (), loop) := by
  unfold Loop.flushExpired
  split
  · rfl
  · next ages =>
    have none : loop.keysOf (Loop.expired config.flushAgeSecs now) = [] := by
      rw [Loop.keysOf, List.filter_eq_nil_iff.mpr fun entry member => by
        rw [(nothing.resolve_left ages) entry member]
        exact Bool.false_ne_true]
      rfl
    unfold Loop.flushSome
    rw [Effect.bind_of_ok (Effect.get_apply loop), none]
    rfl

section
variable (config : MicroBatchConfig) (profiler : Profiler) (models : Models) (met : Encounter)
  (tenant : String) (request : OnboardRequest) (engine : Engine)

/-- The writer acknowledges the rows of the request, and flushes nothing else. -/
structure TakesRows : Prop where
  filled : request.rows ≠ []
  nothingDue : NothingDue config met.clock.now engine.service.loop
  acknowledged : (submitCount config met.clock (request.ingest tenant) engine).1.isOk = true

end

/-! ### An order of an unknown source type -/

/-- An engine that has served nothing. -/
def freshEngine : Engine := ⟨Service.start freshWriter, FreshnessRegistry.new⟩

/-- An onboarding alone with the engine, at second 1000, whose profile does not come in time. -/
def alone : Encounter := ⟨⟨0, 0, "t0"⟩, 1000, id, none, 1000, ⟨0, 0, "t1"⟩⟩

/-- One order, from a source of some type. -/
def orderRequest (sourceType : Option String) : OnboardRequest :=
  ⟨"crm", "orders", ["user_id", "sku"], [[some "u1", some "A"]], sourceType⟩

end ConsumerEngine.Ingress
