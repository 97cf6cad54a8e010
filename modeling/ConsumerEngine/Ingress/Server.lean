import ConsumerEngine.Ingress.Audience
import ConsumerEngine.Ingress.SuppressionLoop

/-! The server: its handlers, the jobs they spawn and the thread of the writer.

Requests, tasks, polls and turns of the writer interleave; a reader may be attached to a state that
is past, and the process may start again over the same catalogue. What is remembered of a run is who
submitted which job, which job wrote which snapshot, and what each response told.
-/

set_option autoImplicit false

namespace ConsumerEngine.Ingress

open ConsumerEngine.Core ConsumerEngine.Foundation ConsumerEngine.Ingestion ConsumerEngine.Query
  ConsumerEngine.Storage

/-! ### The server -/

/-- What a server is configured with, and the functions of others that it relies on. -/
structure Deployment (V : Type) where
  database : Query.Engine V
  toJson : V → Json
  shown : V → Value
  duck : DuckDb
  varchar : Value → Cell
  texts : Texts
  hmac : SigningKey → List UInt8 → Tag
  sha256 : List UInt8 → Digest
  batching : MicroBatchConfig
  queries : QueryEngine
  config : EngineConfig

/-- What a job was submitted with. -/
structure Submission where
  tenant : String
  campaignId : String
  query : SegmentQuery

/-- The task of a job, and how it came back if its supervisor has not recorded it yet. -/
structure Task where
  submission : Submission
  outcome : Option Outcome

/-- What a task meets: the freshness it reads, the replies of the readers, the clocks and the
identifier that is minted. -/
structure Errand where
  freshness : FreshnessRegistry
  reads : DeriveReads
  featured : Except QueryError Catalog
  stamps : Stamps
  clock : Loop.Clock

/-- A snapshot that was written: its job, its identifier as text and as stored, the state it was
selected from, its rows. -/
structure Snapshot where
  job : String
  submission : Submission
  uuid : String
  id : String
  source : Catalog
  rows : List (List Value)

/-- What all rows of a snapshot have for their cut-off. -/
def Snapshot.asOf (snapshot : Snapshot) : Option Value := snapshot.rows.head?.bind (·[2]?)

/-- An export whose checks were passed. -/
structure Export where
  authorization : Option String
  bare : String

/-- What a response tells. -/
inductive Disclosure where
  | job (id : String) (response : JobResponse)
  | metadata (response : AudienceResponse)
  | rows (response : ExportResponse)

/-- The process, and what is remembered of it: the callers of the polls, the states that readers may
be attached to, the submissions, the snapshots written and the responses. -/
structure Server where
  engine : Engine
  jobs : Jobs
  tasks : String → Option Task
  exports : Nat → Option Export
  key : SigningKey
  callers : Nat → Option String
  views : List Catalog
  submitted : String → Option Submission
  written : List Snapshot
  told : List (Option String × Disclosure)

def Server.start (writer : Writer) (ttl : Nat) (key : SigningKey) : Server where
  engine := ⟨Service.start writer, FreshnessRegistry.new⟩
  jobs := Jobs.start ttl
  tasks := fun _ => none
  exports := fun _ => none
  key := key
  callers := fun _ => none
  views := [writer.durable.catalog]
  submitted := fun _ => none
  written := []
  told := []

/-- The snapshot is there. -/
def Outcome.wrote : Outcome → Bool
  | .ok _ => true
  | .error _ | .panicked _ => false

section
variable {V : Type} (d : Deployment V)

/-- The tenant that a request is served as. -/
def Deployment.Admits (path : String) (authorization : Option String) (tenant : String) : Prop :=
  (AppState.build d.sha256 d.config).requireAuth d.sha256 path authorization = .ok (some tenant)

/-- The snapshot that a task wrote between two states. -/
def Deployment.made (job : String) (submission : Submission) (errand : Errand) (before after : Engine) :
    Snapshot where
  job := job
  submission := submission
  uuid := errand.stamps.uuid
  id := (d.duck.castUuid errand.stamps.uuid).getD ""
  source := (before.service.readied d.batching errand.clock.now submission.tenant).durable.catalog
  rows := after.catalog.snapshotRows.drop before.catalog.snapshotRows.length

end

inductive ServerEvent where
  | tick (now : Nat)
  | submit (authorization : Option String) (id : String) (request : JobsRequest) (since : Nat)
  | work (id : String) (errand : Errand)
  | panic (id join : String)
  | finish (id : String) (since : Nat)
  /-- The writer wakes for anything but a snapshot; sources may have been registered meanwhile. -/
  | turn (wake : Wake) (freshness : FreshnessRegistry)
  | poll (number : Nat) (authorization : Option String) (id : String)
  | proceed (number : Nat)
  | audience (authorization : Option String) (id : String) (now : UInt64)
  | checkExport (number : Nat) (authorization : Option String) (id : String) (query : ExportQuery)
      (now : UInt64)
  | exportRows (number : Nat) (clock : Loop.Clock) (dest : String)
  | restart (writer : Writer) (ttl : Nat) (key : SigningKey)

section
variable {V : Type} [DecidableEq V] (d : Deployment V)

/-- The materialise task of a job. -/
def Deployment.materialize (submission : Submission) (errand : Errand) (engine : Engine) :
    Outcome × Engine :=
  match ({ d.queries with freshness := errand.freshness } : QueryEngine).materialize d.database d.toJson
    submission.query submission.tenant errand.reads errand.featured errand.stamps
    submission.campaignId with
  | .error failure => (.error failure.display, engine)
  | .ok call =>
    match submitCount d.batching errand.clock (MaterializeCall.cmd call submission.tenant) engine with
    | (.ok _, after) => (.ok ("snap_" ++ errand.stamps.uuid), after)
    | (.error failure, after) => (.error (QueryError.execution failure).display, after)

/-- What happens next. Requests that are refused tell nothing, and change nothing but what a turn of
the writer may. -/
inductive Server.Step : ServerEvent → Server → Server → Prop where
  | ticks (server : Server) {now : Nat} {jobs : Jobs}
      (passed : server.jobs.step (.tick now) = some jobs) :
      Step (.tick now) server { server with jobs }
  | submits (server : Server) {authorization : Option String} {id tenant : String}
      {request : JobsRequest} {since : Nat} {jobs : Jobs}
      (admitted : d.Admits "/jobs" authorization tenant)
      (checked : request.check d.texts = .ok ())
      (inserted : server.jobs.step (.insertRunning id tenant since) = some jobs) :
      Step (.submit authorization id request since) server { server with
        jobs
        tasks := Function.update server.tasks id
          (some ⟨⟨tenant, request.campaignId, request.dsl⟩, none⟩)
        submitted := Function.update server.submitted id
          (some ⟨tenant, request.campaignId, request.dsl⟩) }
  -- reads and clocks are the task's own; the writer is reached through its channel
  | works (server : Server) {id : String} {submission : Submission} {errand : Errand}
      {outcome : Outcome} {after : Engine}
      (waits : server.tasks id = some ⟨submission, none⟩)
      (ran : d.materialize submission errand server.engine = (outcome, after)) :
      Step (.work id errand) server { server with
        engine := after
        views := server.views ++ [after.catalog]
        tasks := Function.update server.tasks id (some ⟨submission, some outcome⟩)
        written := server.written ++
          if outcome.wrote then [d.made id submission errand server.engine after] else [] }
  -- a task may panic before it calls the writer, or after: what is written stays
  | panics (server : Server) {id join : String} {task : Task}
      (runs : server.tasks id = some task) :
      Step (.panic id join) server { server with
        tasks := Function.update server.tasks id (some { task with outcome := some (.panicked join) }) }
  | finishes (server : Server) {id : String} {submission : Submission} {outcome : Outcome} {since : Nat}
      {jobs : Jobs} (ended : server.tasks id = some ⟨submission, some outcome⟩)
      (recorded : server.jobs.step (.finish id outcome since) = some jobs) :
      Step (.finish id since) server { server with
        jobs
        tasks := Function.update server.tasks id none }
  | turns (server : Server) {wake : Wake} (freshness : FreshnessRegistry)
      (running : server.engine.service.status = .running) (other : wake.about ≠ .audienceSnapshot) :
      Step (.turn wake freshness) server { server with
        engine := ⟨server.engine.service.wake d.batching wake, freshness⟩
        views := server.views ++ [(server.engine.service.wake d.batching wake).catalog] }
  | polls (server : Server) {number : Nat} {authorization : Option String} {id tenant : String}
      {jobs : Jobs} (admitted : d.Admits ("/jobs/" ++ id) authorization tenant)
      (started : server.jobs.step (.poll number id tenant) = some jobs) :
      Step (.poll number authorization id) server { server with
        jobs
        callers := Function.update server.callers number authorization }
  -- a poll takes several steps; it tells something in the step that answers it
  | proceeds (server : Server) {number : Nat} {jobs : Jobs}
      (went : server.jobs.step (.proceed number) = some jobs) :
      Step (.proceed number) server { server with
        jobs
        told := server.told ++ (jobs.answers.drop server.jobs.answers.length).filterMap fun answer =>
          (getJob answer.status).toOption.map fun response =>
            (server.callers number, .job answer.id response) }
  | answers (server : Server) {authorization : Option String} {id tenant : String} {now : UInt64}
      {view : Catalog} {reader : String → Except QueryError (List MetaRow)} {response : AudienceResponse}
      (admitted : d.Admits ("/audience/" ++ id) authorization tenant) (seen : view ∈ server.views)
      (replies : ∀ bare, MetaReply d.varchar d.duck view bare tenant (reader bare))
      (responds : getAudience d.texts d.hmac now server.key reader id = .ok response) :
      Step (.audience authorization id now) server { server with
        told := server.told ++ [(authorization, .metadata response)] }
  | checks (server : Server) {number : Nat} {authorization : Option String} {id tenant bare : String}
      {query : ExportQuery} {now : UInt64} {view : Catalog}
      {reader : String → Except QueryError (List MetaRow)}
      (admitted : d.Admits ("/audience/" ++ id ++ "/export") authorization tenant)
      (seen : view ∈ server.views)
      (replies : ∀ bare, MetaReply d.varchar d.duck view bare tenant (reader bare))
      (passed : checkExport d.texts d.hmac now server.key reader id query = .ok bare) :
      Step (.checkExport number authorization id query now) server { server with
        exports := Function.update server.exports number (some ⟨authorization, bare⟩) }
  -- the writer is told no tenant: what is exported was checked by `checks`
  | exports (server : Server) {number : Nat} {clock : Loop.Clock} {dest : String} {pending : Export}
      {exported : Except Error Unit} {after : Engine} {file : Except String (List (List Value))}
      {response : ExportResponse} (waits : server.exports number = some pending)
      (served : submit d.batching clock (.exportParquet pending.bare dest) server.engine =
        (.ok (.done exported), after))
      (copied : ∀ rows, file = .ok rows → ∃ id, d.duck.castUuid pending.bare = some id ∧
        rows = Query.exportRows id after.catalog.snapshotRows)
      (responds : exportResponse pending.bare exported file = .ok response) :
      Step (.exportRows number clock dest) server { server with
        engine := after
        views := server.views ++ [after.catalog]
        exports := Function.update server.exports number none
        told := server.told ++ [(pending.authorization, .rows response)] }
  -- jobs, tasks, pending exports and the key are in memory; the catalogue is not
  | restarts (server : Server) {writer : Writer} {ttl : Nat} {key : SigningKey}
      (attached : writer.durable.catalog = server.engine.catalog) (duck : writer.duck = d.duck)
      (idle : writer.rollbackTo = none) :
      Step (.restart writer ttl key) server { server with
        engine := ⟨Service.start writer, FreshnessRegistry.new⟩
        jobs := { server.jobs with registry := JobRegistry.withTtl ttl, polls := fun _ => none }
        tasks := fun _ => none
        exports := fun _ => none
        key := key
        views := [writer.durable.catalog] }

end

/-! ### A task -/

section
variable {config : MicroBatchConfig} {clock : Loop.Clock} {cmd : Cmd} {engine after : Engine}

theorem submitCount_state (config : MicroBatchConfig) (clock : Loop.Clock) (cmd : Cmd) (engine : Engine) :
    (submitCount config clock cmd engine).2 = (submit config clock cmd engine).2 := by
  unfold submitCount
  rw [Effect.bind_apply]
  rcases submit config clock cmd engine with ⟨outcome, reached⟩
  cases outcome with
  | error failure => rfl
  | ok reply =>
    cases reply with
    | count counted => cases counted <;> rfl
    | _ => rfl

/-- A call leaves the writer as it was, or as the turn left it. -/
theorem submit_service (config : MicroBatchConfig) (clock : Loop.Clock) (cmd : Cmd) (engine : Engine) :
    (submit config clock cmd engine).2.service = engine.service ∨
      (submit config clock cmd engine).2.service = engine.service.wake config (.command clock cmd) := by
  unfold submit
  split
  · dsimp only
    split <;> exact .inr rfl
  · exact .inl rfl

/-- A call that is counted returns what its operation returned; one that fails has had it fail, or
left the engine's own tables alone. -/
theorem submitCount_ran (tenant : String) (act : Session Nat) {outcome : Except Error Nat}
    (serves : ∀ loop, Loop.serve config clock cmd loop =
      (do return .count (← Loop.callAs tenant act) : LoopEffect Reply) loop)
    (idle : engine.service.Idle) (ran : submitCount config clock cmd engine = (outcome, after)) :
    act (engine.service.readied config clock.now tenant) = (outcome, after.service.loop.writer) ∨
      (∃ failure, outcome = .error failure) ∧
        ((∃ failure, act (engine.service.readied config clock.now tenant) =
            (.error failure, after.service.loop.writer)) ∨
          ∀ table, table ≠ .cdcOffsets → engine.catalog.SameRows after.catalog table) := by
  by_cases running : engine.service.status = .running
  · rcases @Service.served_as config engine.service clock cmd tenant act serves idle with
      ⟨told, last⟩ | ⟨unanswered, how⟩
    · have answered : submit config clock cmd engine = (.ok (.count (act
          (engine.service.readied config clock.now tenant)).1),
            { engine with service := engine.service.wake config (.command clock cmd) }) := by
        unfold submit
        rw [if_pos running]
        dsimp only
        rw [told, List.drop_left]
        rfl
      unfold submitCount at ran
      rw [Effect.bind_of_ok answered] at ran
      left
      refine Prod.ext ?_ ?_
      · cases returned : (act (engine.service.readied config clock.now tenant)).1 with
        | ok n =>
          rw [returned] at ran
          exact congrArg Prod.fst ran
        | error failure =>
          rw [returned] at ran
          exact congrArg Prod.fst ran
      · have state := submitCount_state config clock cmd engine
        unfold submitCount at state
        rw [Effect.bind_of_ok answered, ran, answered] at state
        rw [← last, show after = _ from state]
    · have refused : submit config clock cmd engine =
          (.error (.ingestion "receiving on a closed channel"),
            { engine with service := engine.service.wake config (.command clock cmd) }) := by
        unfold submit
        rw [if_pos running]
        dsimp only
        rw [unanswered, List.drop_length]
        rfl
      unfold submitCount at ran
      rw [Effect.bind_of_error refused] at ran
      cases ran
      exact .inr ⟨⟨_, rfl⟩, how⟩
  · have refused : submit config clock cmd engine =
        (.error (.ingestion "sending on a closed channel"), engine) := by
      unfold submit
      rw [if_neg running]
    unfold submitCount at ran
    rw [Effect.bind_of_error refused] at ran
    cases ran
    exact .inr ⟨⟨_, rfl⟩, .inr fun table _ => .refl _ _⟩

end

section
variable {V : Type} [DecidableEq V] {d : Deployment V} {submission : Submission} {errand : Errand}
  {engine after : Engine} {outcome : Outcome}

/-- The writer is left between two turns, its database what it was. -/
theorem materialize_service (idle : engine.service.Idle)
    (ran : d.materialize submission errand engine = (outcome, after)) :
    after.service.Idle ∧ after.service.loop.writer.duck = engine.service.loop.writer.duck := by
  have called (cmd : Cmd) (left : Engine)
      (state : (submitCount d.batching errand.clock cmd engine).2 = left) :
      left.service.Idle ∧ left.service.loop.writer.duck = engine.service.loop.writer.duck := by
    rw [submitCount_state] at state
    rcases submit_service d.batching errand.clock cmd engine with same | woken
    · rw [← state, same]
      exact ⟨idle, rfl⟩
    · rw [← state, woken]
      exact ⟨Service.wake_idle _ idle, (Service.wake_sends d.batching engine.service _).duck⟩
  unfold Deployment.materialize at ran
  split at ran
  · cases ran
    exact ⟨idle, rfl⟩
  · split at ran
    · next counted =>
      cases ran
      exact called _ _ (congrArg Prod.snd counted)
    · next counted =>
      cases ran
      exact called _ _ (congrArg Prod.snd counted)

theorem materialize_named {snap : String}
    (ran : d.materialize submission errand engine = (.ok snap, after)) :
    snap = "snap_" ++ errand.stamps.uuid := by
  unfold Deployment.materialize at ran
  split at ran
  · cases ran
  · split at ran <;> cases ran
    rfl

/-- A task that does not come back with a snapshot has written none. -/
theorem materialize_kept (idle : engine.service.Idle)
    (ran : d.materialize submission errand engine = (outcome, after)) (failed : outcome.wrote = false) :
    after.catalog.snapshotRows = engine.catalog.snapshotRows := by
  unfold Deployment.materialize at ran
  split at ran
  · cases ran
    rfl
  · next call _ =>
    split at ran
    · cases ran
      cases failed
    · next counted =>
      cases ran
      have meets := @Service.readied_meets d.batching engine.service idle errand.clock.now submission.tenant
      have before : (engine.service.readied d.batching errand.clock.now
          submission.tenant).durable.catalog.snapshotRows = engine.catalog.snapshotRows :=
        meets.rows .audienceSnapshot (by decide)
      rcases submitCount_ran submission.tenant
        (materializeSnapshot call.wrapSql call.wrapParams call.key call.spec) (fun _ => rfl) idle counted with failed | ⟨-, ⟨failure, failed⟩ | kept⟩
      · exact (materializeSnapshot_failed failed).trans before
      · exact (materializeSnapshot_failed failed).trans before
      · exact kept .audienceSnapshot (by decide)

end

/-! ### Moments of the registry -/

section
variable {jobs next : Jobs} {number : Nat} {id tenant : String}

theorem tick_eq_some {now : Nat} (passed : jobs.step (.tick now) = some next) :
    next = { jobs with clock := now } := by
  unfold Jobs.step at passed
  dsimp only at passed
  split at passed
  · cases passed
    rfl
  · cases passed

theorem insertRunning_eq_some {since : Nat}
    (inserted : jobs.step (.insertRunning id tenant since) = some next) :
    jobs.jobs id = none ∧ next = { jobs with
      registry := jobs.registry.insertRunning id tenant since
      jobs := Function.update jobs.jobs id (some ⟨tenant, none⟩) } := by
  unfold Jobs.step at inserted
  dsimp only at inserted
  split at inserted
  · next fresh =>
    cases inserted
    exact ⟨fresh.1, rfl⟩
  · cases inserted

theorem finish_eq_some {outcome : Outcome} {since : Nat}
    (recorded : jobs.step (.finish id outcome since) = some next) :
    ∃ tenant, jobs.jobs id = some ⟨tenant, none⟩ ∧ next = { jobs with
      registry := jobs.registry.insert id ⟨outcome.status, tenant, since⟩
      jobs := Function.update jobs.jobs id (some ⟨tenant, some (outcome.status, since)⟩) } := by
  unfold Jobs.step at recorded
  dsimp only at recorded
  split at recorded
  · next tenant running =>
    split at recorded
    · cases recorded
      exact ⟨tenant, running, by rw [finish_eq]⟩
    · cases recorded
  · cases recorded

theorem poll_eq_some (started : jobs.step (.poll number id tenant) = some next) :
    next = { jobs with
      polls := Function.update jobs.polls number
        (some ⟨id, tenant, jobs.clock, .checking, jobs.dueTo id tenant⟩) } := by
  unfold Jobs.step at started
  dsimp only at started
  split at started
  · cases started
  · cases started
    rfl

/-- A poll that goes on takes no entry in, and answers with nothing or with what the registry has
for its tenant. -/
theorem proceed_eq_some (went : jobs.step (.proceed number) = some next) :
    ∃ poll, jobs.polls number = some poll ∧ next.jobs = jobs.jobs ∧
      (∀ other later, next.polls other = some later →
        ∃ earlier, jobs.polls other = some earlier ∧ earlier.tenant = later.tenant) ∧
      (∀ id entry, next.registry.map id = some entry → jobs.registry.map id = some entry) ∧
      ∀ answer ∈ next.answers.drop jobs.answers.length, answer.id = poll.id ∧
        (answer.status = none ∨ answer.status = jobs.registry.owned poll.id poll.tenant) := by
  obtain ⟨poll, found, rfl⟩ := Option.map_eq_some_iff.mp went
  refine ⟨poll, found, ?_⟩
  have answered (registry : JobRegistry) (status : Option JobStatus)
      (entries : ∀ id entry, registry.map id = some entry → jobs.registry.map id = some entry)
      (own : status = none ∨ status = jobs.registry.owned poll.id poll.tenant) :
      let next := { jobs with registry }.answer number poll status
      next.jobs = jobs.jobs ∧
      (∀ other later, next.polls other = some later →
        ∃ earlier, jobs.polls other = some earlier ∧ earlier.tenant = later.tenant) ∧
      (∀ id entry, next.registry.map id = some entry → jobs.registry.map id = some entry) ∧
      ∀ answer ∈ next.answers.drop jobs.answers.length, answer.id = poll.id ∧
        (answer.status = none ∨ answer.status = jobs.registry.owned poll.id poll.tenant) := by
    refine ⟨rfl, fun other later held => ?_, entries, fun answer told => ?_⟩
    · exact ⟨later, (update_none_eq_some held).2, rfl⟩
    · unfold Jobs.answer at told
      rw [List.drop_left, List.mem_singleton] at told
      subst told
      exact ⟨rfl, own⟩
  unfold Jobs.proceed
  cases stage : poll.stage with
  | checking =>
    refine ⟨rfl, fun other later held => ?_, fun _ _ entry => entry, fun answer told => ?_⟩
    · rcases update_eq_some held with ⟨rfl, rfl⟩ | ⟨-, held⟩
      · exact ⟨poll, found, rfl⟩
      · exact ⟨later, held, rfl⟩
    · dsimp only at told
      rw [List.drop_length] at told
      cases told
  | removing =>
    exact answered (jobs.registry.remove poll.id) none
      (fun id entry held => (update_none_eq_some held).2) (.inl rfl)
  | reading => exact answered jobs.registry _ (fun _ _ entry => entry) (.inr rfl)

end

end ConsumerEngine.Ingress
