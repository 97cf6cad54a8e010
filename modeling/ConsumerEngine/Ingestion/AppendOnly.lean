import ConsumerEngine.Ingestion.MicroBatching
import ConsumerEngine.Storage.EngineTables

/-! What a run of the writer thread does to the engine's own tables: no command takes a row back, and
each adds rows to the table it is about.
-/

set_option autoImplicit false

namespace ConsumerEngine.Ingestion

open ConsumerEngine.Core ConsumerEngine.Foundation ConsumerEngine.Storage

/-- The table of the engine's own that a command is about. Those on raw tables may record offsets. -/
def Cmd.about : Cmd → EngineTable
  | .materialize .. => .audienceSnapshot
  | .writeFeatures .. => .featureStore
  | .writeCatalog .. => .semanticCatalog
  | .writeSuppression .. => .suppression
  | _ => .cdcOffsets

def Wake.about : Wake → EngineTable
  | .command _ cmd => cmd.about
  | .timeout _ | .disconnected => .cdcOffsets

/-- Statements about raw tables, or about one of the engine's own. -/
def Concerns (table : EngineTable) (statement : Statement) : Prop :=
  (∃ name, statement.Touches name) ∨ statement.About table

namespace Loop

/-- The writer was only sent allowed statements. -/
def Sends (allowed : Statement → Prop) (before after : Loop) : Prop :=
  Sending allowed before.writer after.writer

instance (allowed : Statement → Prop) : IsPreorder Loop (Sends allowed) where
  refl loop := refl_of (Sending allowed) loop.writer
  trans _ _ _ first second := trans_of (Sending allowed) first second

section
variable {α : Type} {table : EngineTable} {act : Session α}

theorem Concerns.raw {dataset : Dataset} (only : OnlySends (Statement.Touches (rawName dataset)) act) :
    OnlySends (Concerns table) act := only.mono fun _ touches => .inl ⟨_, touches⟩

theorem Concerns.keyed {dataset : Dataset} (only : OnlySends (Statement.Keyed dataset) act) :
    OnlySends (Concerns table) act := only.mono fun _ keyed => .inl ⟨_, keyed.2⟩

theorem Concerns.about (only : OnlySends (Statement.About table) act) :
    OnlySends (Concerns table) act := only.mono fun _ => .inr

theorem sends_of_same {before after : Loop} (duck : after.writer.duck = before.writer.duck)
    (durable : after.writer.durable = before.writer.durable)
    (saved : after.writer.rollbackTo = before.writer.rollbackTo) :
    Sends (Concerns table) before after := by
  refine ⟨duck, .inl saved, fun fact _ keeps => ?_⟩
  rw [Writer.Keeps, durable, saved]
  exact keeps

theorem setTenant_sends (tenant : String) : Effect.Within (Sends (Concerns table)) (setTenant tenant) :=
  Effect.Within.modify fun _ => sends_of_same rfl rfl rfl

theorem call_sends (only : OnlySends (Concerns table) act) :
    Effect.Within (Sends (Concerns table)) (call act) := by
  intro loop
  rw [call_state]
  exact only loop.writer

theorem callKnown_sends (system entity : String) (only : OnlySends (Concerns table) act) :
    Effect.Within (Sends (Concerns table)) (callKnown system entity act) := by
  intro loop
  obtain ⟨known, state⟩ := callKnown_state system entity act loop
  rw [state]
  exact only loop.writer

theorem callAs_sends (tenant : String) (only : OnlySends (Concerns table) act) :
    Effect.Within (Sends (Concerns table)) (callAs tenant act) :=
  Effect.Within.bind (setTenant_sends tenant) fun _ => call_sends only

/-! ### Flushes -/

theorem flushBatch_sends (key : BatchKey) (batch : PendingBatch) :
    Effect.Within (Sends (Concerns table)) (flushBatch key batch) :=
  Effect.Within.bind (setTenant_sends _) fun _ =>
    callKnown_sends _ _ (Concerns.raw (ingestRaw_only _ _ _ _))

theorem removePending_sends (key : BatchKey) :
    Effect.Within (Sends (Concerns table)) (removePending key) :=
  Effect.Within.modify fun _ => sends_of_same rfl rfl rfl

theorem flushOut_sends (key : BatchKey) (batch : PendingBatch) :
    Effect.Within (Sends (Concerns table)) (flushOut key batch) :=
  Effect.Within.bind (removePending_sends key) fun _ =>
    Effect.Within.bind (flushBatch_sends key batch) fun _ => Effect.Within.pure ()

theorem flushKeys_sends (keys : List BatchKey) :
    Effect.Within (Sends (Concerns table)) (flushKeys keys) := by
  induction keys with
  | nil => exact Effect.Within.pure ()
  | cons key keys ih =>
    refine Effect.Within.bind (Effect.Within.bind Effect.Within.get fun loop => ?_) fun _ => ih
    cases loop.pending.get key with
    | none => exact Effect.Within.pure ()
    | some batch => exact flushOut_sends key batch

theorem flushSome_sends (shouldFlush : PendingBatch → Bool) :
    Effect.Within (Sends (Concerns table)) (flushSome shouldFlush) :=
  Effect.Within.bind Effect.Within.get fun _ => flushKeys_sends _

theorem flushExpired_sends (ageSecs now : Nat) :
    Effect.Within (Sends (Concerns table)) (flushExpired ageSecs now) := by
  unfold flushExpired
  split
  · exact Effect.Within.pure ()
  · exact flushSome_sends _

/-! ### The commands -/

theorem ingest_sends (config : MicroBatchConfig) (since : Nat) (system entity : String)
    (columns : List String) (rows : List (List Cell)) (tenant : String) :
    Effect.Within (Sends (Concerns table)) (ingest config since system entity columns rows tenant) := by
  refine Effect.Within.bind (setTenant_sends tenant) fun _ => ?_
  split
  · exact callKnown_sends _ _ (Concerns.raw (ingestRaw_only _ _ _ _))
  · refine Effect.Within.bind (Effect.Within.bind Effect.Within.get fun loop => ?_) fun _ => ?_
    · cases loop.otherShape _ columns with
      | none => exact Effect.Within.pure ()
      | some old => exact flushOut_sends _ old
    · refine Effect.Within.bind Effect.Within.get fun loop => ?_
      dsimp only
      split
      · exact Effect.Within.bind (removePending_sends _) fun _ => flushBatch_sends _ _
      · refine Effect.Within.bind (Effect.Within.modify fun _ => ?_) fun _ => Effect.Within.pure _
        exact sends_of_same rfl rfl rfl

theorem compactKnown_sends (last : Except Error Unit) (known : List (String × String)) :
    Effect.Within (Sends (Concerns table)) (compactKnown last known) := by
  induction known generalizing last with
  | nil => exact Effect.Within.pure last
  | cons dataset known ih =>
    refine Effect.Within.bind (call_sends (Concerns.about (compact_about table _ _))) fun outcome => ?_
    cases outcome with
    | ok => exact ih last
    | error failure => exact ih (.error failure)

theorem compactAll_sends (retentionDays : Nat) :
    Effect.Within (Sends (Concerns table)) (compactAll retentionDays) := by
  have maintained (procedure : String) : Effect.Within (Sends (Concerns table))
      (call (maintain procedure retentionDays)) :=
    call_sends (Concerns.about (maintain_about table procedure retentionDays))
  refine Effect.Within.bind (flushSome_sends _) fun _ => Effect.Within.bind Effect.Within.get fun _ => ?_
  refine Effect.Within.bind (compactKnown_sends _ _) fun _ => ?_
  exact Effect.Within.bind (maintained _) fun _ =>
    Effect.Within.bind (maintained _) fun _ => Effect.Within.pure _

end

/-- A command sends statements about raw tables and about its own table. -/
theorem serve_sends (config : MicroBatchConfig) (clock : Clock) (cmd : Cmd) :
    Effect.Within (Sends (Concerns cmd.about)) (serve config clock cmd) := by
  cases cmd with
  | ingestRaw system entity columns rows tenant =>
    exact Effect.Within.bind (ingest_sends config _ _ _ _ _ _) fun _ => Effect.Within.pure _
  | compactAll retentionDays =>
    exact Effect.Within.bind (compactAll_sends _) fun _ => Effect.Within.pure _
  | materialize subquerySql subqueryParams keyColumn spec tenant =>
    exact Effect.Within.bind (callAs_sends tenant (Concerns.about (materializeSnapshot_about _ _ _ _)))
      fun _ => Effect.Within.pure _
  | exportParquet snapshotId dest =>
    exact Effect.Within.bind (call_sends (Concerns.about (exportSnapshotParquet_about _ _ _)))
      fun _ => Effect.Within.pure _
  | upsertRaw system entity columns key rows tenant =>
    refine Effect.Within.bind (setTenant_sends tenant) fun _ => ?_
    exact Effect.Within.bind (callKnown_sends _ _ (Concerns.keyed (upsertRaw_only _ _ _ _ _)))
      fun _ => Effect.Within.pure _
  | deleteRaw system entity key keys tenant =>
    refine Effect.Within.bind (setTenant_sends tenant) fun _ => ?_
    exact Effect.Within.bind (callKnown_sends _ _ (Concerns.keyed (deleteRaw_only _ _ _ _)))
      fun _ => Effect.Within.pure _
  | writeFeatures rows tenant =>
    exact Effect.Within.bind (callAs_sends tenant (Concerns.about (writeFeaturesAndRefresh_about _)))
      fun _ => Effect.Within.pure _
  | writeCatalog rows tenant =>
    exact Effect.Within.bind (callAs_sends tenant (Concerns.about (writeCatalogRows_about _)))
      fun _ => Effect.Within.pure _
  | writeSuppression rows tenant =>
    exact Effect.Within.bind (callAs_sends tenant (Concerns.about (writeSuppressionIdempotent_about _)))
      fun _ => Effect.Within.pure _
  | applyCdcBatch batch tenant =>
    refine Effect.Within.bind (setTenant_sends tenant) fun _ => ?_
    exact Effect.Within.bind
      (callKnown_sends _ _ (Concerns.keyed (applyCdcBatch_only _ _ _ _ _ _ _ _)))
      fun _ => Effect.Within.pure _
  | readCdcOffset source =>
    exact Effect.Within.bind (call_sends (Concerns.about (readCdcOffsets_about source)))
      fun _ => Effect.Within.pure _
  | shutdown => exact Effect.Within.bind (flushSome_sends _) fun _ => Effect.Within.pure _

end Loop

/-! ### The thread -/

namespace Service

def catalog (service : Service) : Catalog := service.loop.writer.durable.catalog

/-- No transaction is open. -/
def Idle (service : Service) : Prop := service.loop.writer.rollbackTo = none

variable {config : MicroBatchConfig} {first last service : Service}

/-- A turn sends statements about raw tables and about the table of its command. -/
theorem wake_sends (config : MicroBatchConfig) (service : Service) (event : Wake) :
    Sending (Concerns event.about) service.loop.writer (service.wake config event).loop.writer := by
  cases event with
  | timeout now =>
    have loop : (service.wake config (.timeout now)).loop =
        (Loop.flushExpired config.flushAgeSecs now service.loop).2 := run_loop _ _ fun _ _ => rfl
    rw [loop]
    exact Loop.flushExpired_sends _ now service.loop
  | disconnected =>
    have loop : (service.wake config .disconnected).loop = (Loop.flushPending service.loop).2 :=
      run_loop _ _ fun _ _ => rfl
    rw [loop]
    exact Loop.flushSome_sends _ service.loop
  | command clock cmd =>
    rw [(wake_command config service clock cmd).1]
    exact Effect.Within.bind (Loop.flushExpired_sends _ clock.now)
      (fun _ => Loop.serve_sends config clock cmd) service.loop

theorem wake_idle (event : Wake) (idle : service.Idle) : (service.wake config event).Idle :=
  (wake_sends config service event).idle idle

theorem wake_appends (event : Wake) (idle : service.Idle) :
    service.catalog.Appends (service.wake config event).catalog :=
  (wake_sends config service event).appends idle

theorem wake_sameRows {table : EngineTable} {event : Wake} (idle : service.Idle)
    (raw : table ≠ .cdcOffsets) (other : table ≠ event.about) :
    service.catalog.SameRows (service.wake config event).catalog table :=
  (wake_sends config service event).sameRows idle fun _ concerns =>
    concerns.imp (fun ⟨name, touches⟩ => ⟨name, touches, raw⟩) fun about => ⟨_, about, other⟩

/-- What a run leaves as it found it, and what the tables hold at its end. -/
theorem run_kept {allowed : Wake → Service → Prop} (idle : first.Idle)
    (run : Reaches (Turns config) allowed first last) :
    last.Idle ∧ last.loop.writer.duck = first.loop.writer.duck ∧
      first.catalog.Appends last.catalog := by
  let held (service : Service) : Prop := service.Idle ∧
    service.loop.writer.duck = first.loop.writer.duck ∧ first.catalog.Appends service.catalog
  refine @Reaches.invariant _ _ _ _ _ _ held (fun event state next before _ turned => ?_)
    ⟨idle, rfl, refl_of Catalog.Appends _⟩ run
  obtain ⟨still, duck, kept⟩ := before
  obtain ⟨-, rfl⟩ := turned
  exact ⟨wake_idle event still, (wake_sends config state event).duck.trans duck,
    trans_of Catalog.Appends kept (wake_appends event still)⟩

/-- A command is answered with a count, or with why there is none. -/
def Answers (config : MicroBatchConfig) (service : Service) (clock : Loop.Clock) (cmd : Cmd)
    (outcome : Except Error Nat) : Prop :=
  (service.wake config (.command clock cmd)).answered = service.answered ++ [(cmd, .count outcome)]

/-- The writer that a command of one tenant runs on: the expired batches are flushed. -/
def readied (config : MicroBatchConfig) (service : Service) (now : Nat) (tenant : String) : Writer :=
  (Loop.flushExpired config.flushAgeSecs now service.loop).2.writer.setTenant tenant

/-- What a flush leaves to a command of a tenant. -/
structure Meets (service : Service) (tenant : String) (writer : Writer) : Prop where
  tenant : writer.tenant = tenant
  duck : writer.duck = service.loop.writer.duck
  idle : writer.rollbackTo = none
  rows : ∀ table, table ≠ .cdcOffsets → service.catalog.SameRows writer.durable.catalog table

theorem readied_meets (idle : service.Idle) (now : Nat) (tenant : String) :
    Meets service tenant (service.readied config now tenant) := by
  have flushed : Sending (Concerns .cdcOffsets) service.loop.writer
      (Loop.flushExpired config.flushAgeSecs now service.loop).2.writer :=
    Loop.flushExpired_sends _ now service.loop
  refine ⟨rfl, flushed.duck, flushed.idle idle, fun table raw => ?_⟩
  exact flushed.sameRows idle fun _ concerns =>
    concerns.imp (fun ⟨name, touches⟩ => ⟨name, touches, raw⟩) fun about => ⟨_, about, raw⟩

/-- How a command came out whose operation has run so: it is answered with its outcome, or the thread
ended on it, in the operation or before. -/
def CameOut (config : MicroBatchConfig) (service : Service) (clock : Loop.Clock) (cmd : Cmd)
    (ran : Except Error Nat × Writer) : Prop :=
  Answers config service clock cmd ran.1 ∧
      (service.wake config (.command clock cmd)).loop.writer = ran.2 ∨
    (service.wake config (.command clock cmd)).answered = service.answered ∧
      ((∃ failure, ran = (.error failure, (service.wake config (.command clock cmd)).loop.writer)) ∨
        ∀ table, table ≠ .cdcOffsets →
          service.catalog.SameRows (service.wake config (.command clock cmd)).catalog table)

theorem CameOut.ran {clock : Loop.Clock} {cmd : Cmd} {ran : Except Error Nat × Writer}
    {outcome : Except Error Nat} (out : CameOut config service clock cmd ran)
    (answers : Answers config service clock cmd outcome) :
    ran = (outcome, (service.wake config (.command clock cmd)).loop.writer) := by
  rcases out with ⟨told, last⟩ | ⟨unanswered, -⟩
  · have same := List.append_cancel_left (told.symm.trans answers)
    obtain same := Reply.count.inj (Prod.mk.inj (List.cons.inj same).1).2
    exact Prod.ext same last.symm
  · have lengths := congrArg List.length (unanswered.symm.trans answers)
    rw [List.length_append, List.length_singleton] at lengths
    omega

theorem call_eq_error {act : Session Nat} {loop after : Loop} {message : String}
    (ran : Loop.call act loop = (.error message, after)) :
    act loop.writer = (.error (.panicked message), after.writer) := by
  unfold Loop.call at ran
  rcases acted : act loop.writer with ⟨outcome, writer⟩
  rw [acted] at ran
  cases outcome with
  | ok result => cases ran
  | error failure =>
    cases failure with
    | panicked text =>
      cases ran
      rfl
    | _ => cases ran

/-- What the thread does of a command that it runs under a tenant. -/
theorem served_as {clock : Loop.Clock} {cmd : Cmd} {tenant : String} {act : Session Nat}
    (serves : ∀ loop, Loop.serve config clock cmd loop =
      (do return .count (← Loop.callAs tenant act) : LoopEffect Reply) loop) (idle : service.Idle) :
    CameOut config service clock cmd (act (service.readied config clock.now tenant)) := by
  have meets := @readied_meets config service idle clock.now tenant
  unfold CameOut Answers
  unfold readied at meets ⊢
  rcases expired : Loop.flushExpired config.flushAgeSecs clock.now service.loop with ⟨flush, reached⟩
  rw [expired] at meets
  have unanswered {message : String} {after : Loop}
      (stops : (do Loop.flushExpired config.flushAgeSecs clock.now
                   Loop.serve config clock cmd : LoopEffect Reply) service.loop =
        (.error message, after)) : service.wake config (.command clock cmd) =
          ⟨after, service.received ++ [cmd], service.answered, .panicked⟩ := by
    unfold wake run
    simp only [stops]
  cases flush with
  | error message =>
    rw [unanswered (Effect.bind_of_error expired)]
    exact .inr ⟨rfl, .inr meets.rows⟩
  | ok =>
    rcases called : Loop.call act (Loop.setTenant tenant reached).2 with ⟨returned, left⟩
    have state := Loop.call_state act (Loop.setTenant tenant reached).2
    rw [called] at state
    have ended : left.writer = (act (reached.writer.setTenant tenant)).2 := congrArg Loop.writer state
    have carried : Loop.callAs tenant act reached = (returned, left) := called
    cases returned with
    | error message =>
      have stops : Loop.serve config clock cmd reached = (.error message, left) :=
        (serves reached).trans (Effect.bind_of_error carried)
      rw [unanswered ((Effect.bind_of_ok expired).trans stops)]
      exact .inr ⟨rfl, .inl ⟨_, call_eq_error called⟩⟩
    | ok outcome =>
      have served : Loop.serve config clock cmd reached = (.ok (.count outcome), left) :=
        (serves reached).trans (Effect.bind_of_ok carried)
      rw [wake_served expired served]
      refine .inl ⟨?_, ended⟩
      exact congrArg (fun told => service.answered ++ [(cmd, Reply.count told)])
        (Loop.call_eq_ok called).symm

/-- The engine's own tables over every run of the thread: no row is taken back, and a table whose
commands are not among those served has the rows it had. -/
structure Accumulates (config : MicroBatchConfig) (first : Service) : Prop where
  kept : ∀ last, Reaches (Turns config) (fun _ _ => True) first last → first.catalog.Appends last.catalog
  unasked : ∀ table last, table ≠ .cdcOffsets →
    Reaches (Turns config) (fun event _ => event.about ≠ table) first last →
      first.catalog.SameRows last.catalog table

theorem thread_accumulates (config : MicroBatchConfig) (idle : first.Idle) :
    Accumulates config first where
  kept last run := (run_kept idle run).2.2
  unasked table last raw run := by
    let held (service : Service) : Prop := service.Idle ∧ first.catalog.SameRows service.catalog table
    refine (@Reaches.invariant _ _ _ _ _ _ held (fun event state next before other turned => ?_)
      ⟨idle, .refl _ _⟩ run).2
    obtain ⟨-, rfl⟩ := turned
    exact ⟨wake_idle event before.1, before.2.trans (wake_sameRows before.1 raw (Ne.symm other))⟩

theorem thread_accumulates_fresh : Accumulates ⟨2, 60⟩ (Service.start freshWriter) :=
  thread_accumulates ⟨2, 60⟩ rfl

end Service

end ConsumerEngine.Ingestion
