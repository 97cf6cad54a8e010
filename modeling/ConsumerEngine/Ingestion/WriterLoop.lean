import Mathlib.Data.Prod.Lex
import ConsumerEngine.Ingestion.Debezium

/-! The writer thread: one loop that serves commands and buffers raw rows.

Rows wait in a batch for each tenant and dataset until the batch is long enough, old
enough, of another shape, or the loop is told to compact or stop. A flush that fails is
logged and its rows are dropped. A panic ends the thread.
-/

set_option autoImplicit false

namespace ConsumerEngine.Ingestion

open ConsumerEngine.Core ConsumerEngine.Foundation ConsumerEngine.Storage

/-- `MicroBatchConfig`. -/
structure MicroBatchConfig where
  flushRows : Nat
  flushAgeSecs : Nat

/-- The key of a buffered batch, ordered as the tuple `(tenant, system, entity)`. -/
abbrev BatchKey : Type := Lex (String × Lex (String × String))

def BatchKey.of (tenant system entity : String) : BatchKey := toLex (tenant, toLex (system, entity))

def BatchKey.tenant (key : BatchKey) : String := (ofLex key).1

def BatchKey.system (key : BatchKey) : String := (ofLex (ofLex key).2).1

def BatchKey.entity (key : BatchKey) : String := (ofLex (ofLex key).2).2

/-- `PendingBatch`. `since` is in nanoseconds, as every reading of the clock. -/
structure PendingBatch where
  columns : List String
  rows : List (List Cell)
  tenant : String
  since : Nat

inductive Cmd where
  | ingestRaw (system entity : String) (columns : List String) (rows : List (List Cell))
      (tenant : String)
  | compactAll (retentionDays : Nat)
  | materialize (subquerySql : String) (subqueryParams : List Value) (keyColumn : String)
      (spec : SnapshotSpec) (tenant : String)
  | exportParquet (snapshotId dest : String)
  | upsertRaw (system entity : String) (columns : List String) (key : String)
      (rows : List (List Cell)) (tenant : String)
  | deleteRaw (system entity key : String) (keys : List String) (tenant : String)
  | writeFeatures (rows : List FeatureRow) (tenant : String)
  | writeCatalog (rows : List CatalogRow) (tenant : String)
  | writeSuppression (rows : List SuppressionRow) (tenant : String)
  | applyCdcBatch (batch : SourceBatch) (tenant : String)
  | readCdcOffset (source : String)
  | shutdown

/-- What a command is answered with. -/
inductive Reply where
  | count (outcome : Except Error Nat)
  | done (outcome : Except Error Unit)
  | offsets (outcome : Except Error (List (Int × Int)))
  | drained

/-- The local variables of `writer_loop`. `known` is a set; it is visited in the order
its datasets first came up. -/
structure Loop where
  writer : Writer
  known : List (String × String)
  pending : SortedMap BatchKey PendingBatch

/-- A part of the loop; its failure is a panic of the thread. -/
abbrev LoopEffect (α : Type) : Type := Effect Loop String α

namespace Loop

/-- Run an operation of the writer and look at its result. -/
def call {α : Type} (act : Session α) : LoopEffect (Except Error α) := fun loop =>
  match act loop.writer with
  | (.error (.panicked message), writer) => (.error message, { loop with writer })
  | (outcome, writer) => (.ok outcome, { loop with writer })

def setTenant (tenant : String) : LoopEffect Unit :=
  Effect.modify fun loop => { loop with writer := loop.writer.setTenant tenant }

def register (system entity : String) : LoopEffect Unit := Effect.modify fun loop =>
  if loop.known.contains (system, entity) then loop
  else { loop with known := loop.known ++ [(system, entity)] }

/-- Run an operation on a dataset, which is known from then on if it succeeds. -/
def callKnown {α : Type} (system entity : String) (act : Session α) :
    LoopEffect (Except Error α) := do
  let outcome ← call act
  match outcome with
  | .ok result => do
      register system entity
      return .ok result
  | .error failure => return .error failure

/-- `flush_batch`. -/
def flushBatch (key : BatchKey) (batch : PendingBatch) : LoopEffect (Except Error Nat) := do
  setTenant batch.tenant
  callKnown key.system key.entity (ingestRaw key.system key.entity batch.columns batch.rows)

def removePending (key : BatchKey) : LoopEffect Unit :=
  Effect.modify fun loop => { loop with pending := loop.pending.remove key }

/-- Take a batch out of the buffer and flush it. A failure is logged: the rows are gone. -/
def flushOut (key : BatchKey) (batch : PendingBatch) : LoopEffect Unit := do
  removePending key
  let _ ← flushBatch key batch

/-- One turn of the loop of `flush_some`. -/
def flushKey (key : BatchKey) : LoopEffect Unit := do
  let loop ← Effect.get
  match loop.pending.get key with
  | none => return ()
  | some batch => flushOut key batch

def flushKeys : List BatchKey → LoopEffect Unit
  | [] => pure ()
  | key :: keys => do
      flushKey key
      flushKeys keys

/-- The keys of the batches to flush, in order. -/
def keysOf (loop : Loop) (shouldFlush : PendingBatch → Bool) : List BatchKey :=
  (loop.pending.entries.filter fun entry => shouldFlush entry.2).map Prod.fst

/-- `flush_some`. -/
def flushSome (shouldFlush : PendingBatch → Bool) : LoopEffect Unit := do
  let loop ← Effect.get
  flushKeys (loop.keysOf shouldFlush)

/-- `flush_pending`. -/
def flushPending : LoopEffect Unit := flushSome fun _ => true

/-- A batch has waited for this many seconds. -/
def expired (ageSecs now : Nat) (batch : PendingBatch) : Bool :=
  decide (ageSecs * 1000000000 ≤ now - batch.since)

/-- `flush_expired`. -/
def flushExpired (ageSecs now : Nat) : LoopEffect Unit :=
  if ageSecs = 0 then pure () else flushSome (expired ageSecs now)

/-- The batch of other columns under the key of an ingest, if there is one. -/
def otherShape (loop : Loop) (key : BatchKey) (columns : List String) : Option PendingBatch :=
  (loop.pending.get key).filter fun existing => existing.columns ≠ columns

/-- A schema change forces the old batch out. -/
def changeShape (key : BatchKey) (columns : List String) : LoopEffect Unit := do
  let loop ← Effect.get
  match loop.otherShape key columns with
  | none => return ()
  | some old => flushOut key old

/-- The batch under a key with more rows, or a new one. -/
def extended (loop : Loop) (key : BatchKey) (columns : List String) (rows : List (List Cell))
    (tenant : String) (since : Nat) : PendingBatch :=
  let batch := (loop.pending.get key).getD ⟨columns, [], tenant, since⟩
  { batch with rows := batch.rows ++ rows }

/-- Add rows to the batch under a key and flush it once it is long enough. -/
def buffer (config : MicroBatchConfig) (since : Nat) (key : BatchKey) (columns : List String)
    (rows : List (List Cell)) (tenant : String) : LoopEffect (Except Error Nat) := do
  let loop ← Effect.get
  let batch := loop.extended key columns rows tenant since
  if config.flushRows ≤ batch.rows.length then do
    removePending key
    flushBatch key batch
  else do
    Effect.modify fun loop => { loop with pending := loop.pending.insert key batch }
    return .ok 0

/-- `Cmd::IngestRaw`. -/
def ingest (config : MicroBatchConfig) (since : Nat) (system entity : String)
    (columns : List String) (rows : List (List Cell)) (tenant : String) :
    LoopEffect (Except Error Nat) := do
  setTenant tenant
  if config.flushRows = 0 then
    callKnown system entity (ingestRaw system entity columns rows)
  else do
    changeShape (BatchKey.of tenant system entity) columns
    buffer config since (BatchKey.of tenant system entity) columns rows tenant

/-- Compact every known table; the last error wins. -/
def compactKnown (last : Except Error Unit) : List (String × String) → LoopEffect (Except Error Unit)
  | [] => pure last
  | (system, entity) :: rest => do
      let outcome ← call (compact system entity)
      match outcome with
      | .ok () => compactKnown last rest
      | .error failure => compactKnown (.error failure) rest

def lastError (last outcome : Except Error Unit) : Except Error Unit :=
  match outcome with
  | .ok () => last
  | .error failure => .error failure

/-- `Cmd::CompactAll`. -/
def compactAll (retentionDays : Nat) : LoopEffect (Except Error Unit) := do
  flushPending
  let loop ← Effect.get
  let compacted ← compactKnown (.ok ()) loop.known
  let expired ← call (expireSnapshots retentionDays)
  let deleted ← call (deleteOrphanedFiles retentionDays)
  return lastError (lastError compacted expired) deleted

/-- A command of one tenant, run by the writer under that tenant. -/
def callAs {α : Type} (tenant : String) (act : Session α) : LoopEffect (Except Error α) := do
  setTenant tenant
  call act

/-- The readings of the clock while one command is served. -/
structure Clock where
  now : Nat
  since : Nat
  stamp : String

/-- The arms of the `match` on a command. -/
def serve (config : MicroBatchConfig) (clock : Clock) : Cmd → LoopEffect Reply
  | .ingestRaw system entity columns rows tenant => do
      return .count (← ingest config clock.since system entity columns rows tenant)
  | .compactAll retentionDays => do return .done (← compactAll retentionDays)
  | .upsertRaw system entity columns key rows tenant => do
      setTenant tenant
      return .count (← callKnown system entity (upsertRaw system entity columns key rows))
  | .deleteRaw system entity key keys tenant => do
      setTenant tenant
      return .count (← callKnown system entity (deleteRaw system entity key keys))
  | .materialize subquerySql subqueryParams keyColumn spec tenant => do
      return .count (← callAs tenant (materializeSnapshot subquerySql subqueryParams keyColumn spec))
  | .exportParquet snapshotId dest => do return .done (← call (exportSnapshotParquet snapshotId dest))
  | .writeFeatures rows tenant => do return .count (← callAs tenant (writeFeaturesAndRefresh rows))
  | .writeCatalog rows tenant => do return .count (← callAs tenant (writeCatalogRows rows))
  | .writeSuppression rows tenant => do
      return .count (← callAs tenant (writeSuppressionIdempotent rows))
  | .applyCdcBatch batch tenant => do
      setTenant tenant
      return .count (← callKnown batch.system batch.entity (applyCdcBatch batch.system batch.entity
        batch.columns batch.key batch.upserts batch.deletes batch.offsets clock.stamp))
  | .readCdcOffset source => do return .offsets (← call (readCdcOffsets source))
  | .shutdown => do
      flushPending
      return .drained

end Loop

/-! ### The thread -/

/-- What `recv_timeout` came back with. -/
inductive Wake where
  | timeout (now : Nat)
  | command (clock : Loop.Clock) (cmd : Cmd)
  | disconnected

inductive Status where
  | running | stopped | panicked
  deriving DecidableEq, Repr

/-- The thread, the commands it took and those it answered. -/
structure Service where
  loop : Loop
  received : List Cmd
  answered : List (Cmd × Reply)
  status : Status

namespace Service

def start (writer : Writer) : Service := ⟨⟨writer, [], SortedMap.empty⟩, [], [], .running⟩

/-- Run a part of the loop; the thread goes on unless it panics. -/
def run {α : Type} (service : Service) (act : LoopEffect α) (next : Service → α → Service) :
    Service :=
  match act service.loop with
  | (.ok result, loop) => next { service with loop } result
  | (.error _, loop) => { service with loop, status := .panicked }

/-- One iteration of `writer_loop`. -/
def wake (config : MicroBatchConfig) (service : Service) : Wake → Service
  | .timeout now => service.run (Loop.flushExpired config.flushAgeSecs now) fun service _ => service
  | .command clock cmd =>
      let service := { service with received := service.received ++ [cmd] }
      service.run (do Loop.flushExpired config.flushAgeSecs clock.now; Loop.serve config clock cmd)
        fun service reply =>
          let service := { service with answered := service.answered ++ [(cmd, reply)] }
          match cmd with
          | .shutdown => { service with status := .stopped }
          | _ => service
  | .disconnected => service.run Loop.flushPending fun service _ =>
      { service with status := .stopped }

/-- The loop turns while it runs. -/
def Turns (config : MicroBatchConfig) (wake : Wake) (service next : Service) : Prop :=
  service.status = .running ∧ next = service.wake config wake

end Service

end ConsumerEngine.Ingestion
