import ConsumerEngine.Ingress.Server

/-! What callers are told of jobs and snapshots, over every run of the server.

Each response goes to a caller whom the configuration admits as the tenant who submitted the job, and
what it tells of a snapshot is what the job wrote.
-/


set_option autoImplicit false

namespace ConsumerEngine.Ingress

open ConsumerEngine.Core ConsumerEngine.Foundation ConsumerEngine.Ingestion ConsumerEngine.Query
  ConsumerEngine.Storage

/-! ### What it amounts to -/

section
variable {V : Type} [DecidableEq V] (d : Deployment V)

/-- What the database does with identifiers and rows is what the grammar means by them. -/
structure Deployment.Sound : Prop where
  inserts : Inserts d.database d.shown d.duck
  uuid : ∀ text id value, d.duck.castUuid text = some id →
    d.database.cast "uuid" (d.database.text text) = some value → d.shown value = .text id

/-- The rows of a snapshot are those of its job: they carry its identifier, its campaign, one cut-off
and the tenant who submitted it, and their keys are the users that the query selects, each once. -/
structure Snapshot.Marked (snapshot : Snapshot) : Prop where
  named : d.duck.castUuid snapshot.uuid = some snapshot.id
  valid : d.texts.isUuid snapshot.uuid = true
  rows : ∀ row ∈ snapshot.rows, row[0]? = some (.text snapshot.id) ∧
    row[1]? = some (.text snapshot.submission.campaignId) ∧ row[2]? = snapshot.asOf ∧
    row[6]? = some (.text snapshot.submission.tenant)
  selected : ∃ users : Finset Cell,
    (d.database.population (d.queries.readOptions snapshot.submission.tenant)
      snapshot.source).survivors d.database snapshot.submission.query = some users ∧
    (snapshot.rows : Multiset (List Value)).map (·[snapshotKeyColumn]?) =
      users.val.map fun user => some (cellValue user)

/-- The job has written the snapshot that it came back with. -/
def Server.Wrote (server : Server) (job snap : String) : Prop :=
  ∃ snapshot ∈ server.written, snapshot.job = job ∧ snap = "snap_" ++ snapshot.uuid

/-- A response to a tenant tells of the tenant's own: a job that the tenant submitted, and of a
snapshot that such a job wrote its metadata or its rows as they were written. -/
def Server.Own (server : Server) (tenant : String) : Disclosure → Prop
  | .job id response => ∃ submission, server.submitted id = some submission ∧
      submission.tenant = tenant ∧ ∀ snap, response.snapshotId = some snap → server.Wrote id snap
  | .metadata response => ∃ snapshot ∈ server.written, snapshot.submission.tenant = tenant ∧
      (∃ bare, response.snapshotId = "snap_" ++ bare ∧ d.duck.castUuid bare = some snapshot.id) ∧
      response.campaignId = snapshot.submission.campaignId ∧
      response.asOfTs = (snapshot.asOf.bind d.varchar).getD "" ∧
      response.rowCount = snapshot.rows.length ∧ snapshot.rows ≠ []
  | .rows response => ∃ snapshot ∈ server.written, snapshot.submission.tenant = tenant ∧
      response.rows = snapshot.rows.map (List.take 6)

/-- Identifiers are minted afresh, and the tokens that are presented do not collide. -/
def Uncolliding (known : Set (List UInt8)) : ServerEvent → Server → Prop
  | .work _ errand, server => d.texts.isUuid errand.stamps.uuid = true ∧
      ∃ id, d.duck.castUuid errand.stamps.uuid = some id ∧ ∀ snapshot ∈ server.written, snapshot.id ≠ id
  | .submit authorization .., _ | .poll _ authorization _, _ | .audience authorization .., _
  | .checkExport _ authorization .., _ =>
      ∀ token, authorization = some ("Bearer " ++ token) → utf8 token ∈ known
  | _, _ => True

/-- The catalogue and the states that readers see have the snapshots written so far, one after the
other. -/
structure Server.Recorded (server : Server) : Prop where
  idle : server.engine.service.Idle
  duck : server.engine.service.loop.writer.duck = d.duck
  stored : server.engine.catalog.snapshotRows = server.written.flatMap Snapshot.rows
  views : ∀ view ∈ server.views, ∃ earlier, earlier <+: server.written ∧
    view.snapshotRows = earlier.flatMap Snapshot.rows
  marked : ∀ snapshot ∈ server.written, snapshot.Marked d
  apart : server.written.Pairwise fun one other => one.id ≠ other.id

/-- Each snapshot, task, entry and poll goes back to who asked for it. -/
structure Server.Attributed (server : Server) : Prop where
  own : ∀ snapshot ∈ server.written, server.submitted snapshot.job = some snapshot.submission
  minted : ∀ id submission, server.submitted id = some submission →
    ∃ ended, server.jobs.jobs id = some ⟨submission.tenant, ended⟩
  tasks : ∀ id task, server.tasks id = some task → server.submitted id = some task.submission ∧
    validate d.texts.isRfc3339 task.submission.query = .ok () ∧
    ∀ snap, task.outcome = some (.ok snap) → server.Wrote id snap
  entries : ∀ id entry, server.jobs.registry.map id = some entry → ∃ submission,
    server.submitted id = some submission ∧ submission.tenant = entry.tenant ∧
      ∀ snap, entry.status = .done snap → server.Wrote id snap
  polls : ∀ number poll, server.jobs.polls number = some poll →
    d.config.Admits (server.callers number) poll.tenant

/-- What was told, and what a pending export will tell, is the caller's own. -/
structure Server.Truthful (server : Server) : Prop where
  exports : ∀ number pending, server.exports number = some pending → ∃ snapshot ∈ server.written,
    d.config.Admits pending.authorization snapshot.submission.tenant ∧
      d.duck.castUuid pending.bare = some snapshot.id
  told : ∀ authorization disclosure, (authorization, disclosure) ∈ server.told →
    ∃ tenant, d.config.Admits authorization tenant ∧ server.Own d tenant disclosure

/-- What holds in every state of a run. -/
structure Server.Sound (server : Server) : Prop where
  recorded : server.Recorded d
  attributed : server.Attributed d
  truthful : server.Truthful d

/-- What the server has told, in every state of every run: each response that was given went to a
caller whom the configuration admits as some tenant, and is that tenant's own. -/
structure Server.Discreet (server : Server) : Prop where
  told : ∀ authorization disclosure, (authorization, disclosure) ∈ server.told →
    ∃ tenant, d.config.Admits authorization tenant ∧ server.Own d tenant disclosure
  written : ∀ snapshot ∈ server.written, snapshot.Marked d ∧
    server.submitted snapshot.job = some snapshot.submission

end

/-! ### Reading the snapshots of several jobs -/

section
variable {V : Type} {d : Deployment V} {written : List Snapshot} {id tenant bare : String}
  {view : Catalog}

/-- The rows that carry an identifier and a tenant are those of the tenant's snapshot. -/
theorem ofTenant_own (marked : ∀ snapshot ∈ written, snapshot.Marked d)
    (apart : written.Pairwise fun one other => one.id ≠ other.id) {snapshot : Snapshot}
    (member : snapshot ∈ written) :
    ofTenant snapshot.id snapshot.submission.tenant (written.flatMap Snapshot.rows) = snapshot.rows := by
  unfold ofTenant
  rw [ofSnapshot_flatMap (fun block among row stored => ((marked block among).rows row stored).1),
    filter_alone apart member, List.flatMap_singleton]
  exact List.filter_eq_self.mpr fun row stored =>
    decide_eq_true ((marked snapshot member).rows row stored).2.2.2

theorem ofTenant_foreign (marked : ∀ snapshot ∈ written, snapshot.Marked d)
    (foreign : ∀ snapshot ∈ written, snapshot.id = id → snapshot.submission.tenant ≠ tenant) :
    ofTenant id tenant (written.flatMap Snapshot.rows) = [] := by
  unfold ofTenant
  rw [ofSnapshot_flatMap (fun block among row stored => ((marked block among).rows row stored).1)]
  refine List.filter_eq_nil_iff.mpr fun row stored alike => ?_
  obtain ⟨snapshot, member, among⟩ := List.mem_flatMap.mp stored
  obtain ⟨member, same⟩ := List.mem_filter.mp member
  have carried := ((marked snapshot member).rows row among).2.2.2
  exact foreign snapshot member (of_decide_eq_true same)
    (Value.text.inj (Option.some.inj (carried.symm.trans (of_decide_eq_true alike))))

/-- The metadata query has one row for a snapshot of the tenant's, if anyone is in it. -/
theorem metaRows_own (marked : ∀ snapshot ∈ written, snapshot.Marked d)
    (apart : written.Pairwise fun one other => one.id ≠ other.id) {snapshot : Snapshot}
    (member : snapshot ∈ written) :
    metaRows d.varchar snapshot.id snapshot.submission.tenant (written.flatMap Snapshot.rows) =
      if snapshot.rows = [] then [] else [⟨some snapshot.submission.campaignId,
        snapshot.asOf.bind d.varchar, snapshot.rows.length⟩] := by
  have own := ofTenant_own marked apart member
  rw [@metaRows_alike _ _ _ _ (some (.text snapshot.submission.campaignId)) snapshot.asOf ?_, own]
  · rfl
  · intro row stored
    rw [own] at stored
    obtain ⟨-, campaign, asOf, -⟩ := (marked snapshot member).rows row stored
    exact ⟨campaign, asOf⟩

theorem metaRows_foreign (marked : ∀ snapshot ∈ written, snapshot.Marked d)
    (foreign : ∀ snapshot ∈ written, snapshot.id = id → snapshot.submission.tenant ≠ tenant) :
    metaRows d.varchar id tenant (written.flatMap Snapshot.rows) = [] := by
  unfold metaRows
  rw [ofTenant_foreign marked foreign]
  rfl

/-- Metadata that is found is that of a snapshot of the tenant's. -/
theorem snapshotMeta_own (marked : ∀ snapshot ∈ written, snapshot.Marked d)
    (apart : written.Pairwise fun one other => one.id ≠ other.id)
    (stored : view.snapshotRows = written.flatMap Snapshot.rows) {found : SnapshotMeta}
    {reply : Except QueryError (List MetaRow)}
    (replies : MetaReply d.varchar d.duck view bare tenant reply)
    (got : snapshotMeta bare reply = .ok (some found)) :
    ∃ snapshot ∈ written, snapshot.submission.tenant = tenant ∧
      d.duck.castUuid bare = some snapshot.id ∧ found = ⟨bare, snapshot.submission.campaignId,
        (snapshot.asOf.bind d.varchar).getD "", snapshot.rows.length⟩ ∧ snapshot.rows ≠ [] := by
  cases reply with
  | error failure => cases got
  | ok rows =>
    obtain ⟨-, id, cast_, same⟩ := replies rows rfl
    rw [stored] at same
    by_cases mine : ∃ snapshot ∈ written, snapshot.id = id ∧ snapshot.submission.tenant = tenant
    · obtain ⟨snapshot, member, rfl, rfl⟩ := mine
      rw [metaRows_own marked apart member] at same
      split at same
      · rw [List.perm_nil.mp same] at got
        cases got
      · next some_ =>
        rw [List.perm_singleton.mp same] at got
        cases got
        exact ⟨snapshot, member, rfl, cast_, rfl, some_⟩
    · rw [metaRows_foreign marked fun snapshot member alike own => mine ⟨snapshot, member, alike, own⟩] at same
      rw [List.perm_nil.mp same] at got
      cases got

/-- The rows that are exported under the identifier of a snapshot are its own. -/
theorem exportRows_own (marked : ∀ snapshot ∈ written, snapshot.Marked d)
    (apart : written.Pairwise fun one other => one.id ≠ other.id) {snapshot : Snapshot}
    (member : snapshot ∈ written) :
    Query.exportRows snapshot.id (written.flatMap Snapshot.rows) = snapshot.rows.map (List.take 6) := by
  unfold Query.exportRows
  rw [ofSnapshot_flatMap (fun block among row stored => ((marked block among).rows row stored).1),
    filter_alone apart member, List.flatMap_singleton]

end

/-! ### The snapshot of a task -/

section
variable {V : Type} [DecidableEq V] {d : Deployment V} {submission : Submission} {errand : Errand}
  {engine after : Engine} {outcome : Outcome}

/-- A task that comes back with a snapshot has written one, and it is marked. -/
theorem materialize_wrote (sound : d.Sound) (idle : engine.service.Idle)
    (duck : engine.service.loop.writer.duck = d.duck)
    (valid : validate d.texts.isRfc3339 submission.query = .ok ())
    (ran : d.materialize submission errand engine = (outcome, after)) (done : outcome.wrote = true)
    {id : String} (named : d.duck.castUuid errand.stamps.uuid = some id)
    (text : d.texts.isUuid errand.stamps.uuid = true) (job : String) :
    outcome = .ok ("snap_" ++ errand.stamps.uuid) ∧
      (d.made job submission errand engine after).Marked d ∧ after.catalog.snapshotRows =
        engine.catalog.snapshotRows ++ (d.made job submission errand engine after).rows := by
  unfold Deployment.materialize at ran
  split at ran
  · cases ran
    cases done
  · next call sent =>
    split at ran
    · next n reached counted =>
      cases ran
      have meets := @Service.readied_meets d.batching engine.service idle errand.clock.now submission.tenant
      have wrote := (submitCount_ran submission.tenant
        (materializeSnapshot call.wrapSql call.wrapParams call.key call.spec)
        (fun _ => rfl) idle counted).resolve_right
          fun other => by
            obtain ⟨⟨failure, refused⟩, -⟩ := other
            cases refused
      obtain ⟨users, pivots, made, hitReason, rows, survive, -, -, each, stored_, -, left⟩ :=
        materialized_rows ((meets.duck.trans duck) ▸ sound.inserts) valid sent meets.tenant wrote
      obtain ⟨-, -, compiled, reason, write, asOfTs, -, -, -, -, rfl⟩ := materialize_eq_ok sent
      have before : (engine.service.readied d.batching errand.clock.now
          submission.tenant).durable.catalog.snapshotRows = engine.catalog.snapshotRows :=
        meets.rows .audienceSnapshot (by decide)
      have appended : after.catalog.snapshotRows = engine.catalog.snapshotRows ++ rows := by
        rw [← before, ← addSnapshot_rows, ← left]
        rfl
      have own : (d.made job submission errand engine after).rows = rows := by
        dsimp only [Deployment.made]
        rw [appended, List.drop_left]
      have carried (row : List Value) (member : row ∈ rows) : row[0]? = some (.text id) ∧
          row[1]? = some (.text submission.campaignId) ∧
          row[2]? = (d.database.cast "timestamptz" (d.database.text asOfTs)).map d.shown ∧
          row[6]? = some (.text submission.tenant) := by
        rw [← Multiset.mem_coe, stored_, Multiset.mem_map] at member
        obtain ⟨values, among, rfl⟩ := member
        obtain ⟨user, -, one⟩ := Sql.mem_mapAll each among
        obtain ⟨uuid, asOf, features, reason, cast_, dated, -, -, rfl⟩ := snapshotRow_eq_some one
        refine ⟨congrArg some (sound.uuid _ _ _ named cast_), ?_, ?_, ?_⟩
        · exact congrArg some (sound.inserts.cell (some submission.campaignId))
        · rw [dated]
          rfl
        · exact congrArg some (sound.inserts.cell (some submission.tenant))
      refine ⟨rfl, ⟨?_, text, ?_, users, survive, ?_⟩, own ▸ appended⟩
      · dsimp only [Deployment.made]
        rw [named, Option.getD_some]
      · intro row member
        rw [own] at member
        obtain ⟨identified, campaign, asOf, tenant⟩ := carried row member
        refine ⟨?_, campaign, ?_, tenant⟩
        · dsimp only [Deployment.made]
          rw [named, identified, Option.getD_some]
        · unfold Snapshot.asOf
          rw [own, asOf]
          cases rows with
          | nil => cases member
          | cons first rest => exact (carried first List.mem_cons_self).2.2.1.symm
      · rw [own, stored_, Multiset.map_map]
        refine Sql.mapAll_read each fun user row one => ?_
        obtain ⟨uuid, asOf, features, reason, -, -, -, -, rfl⟩ := snapshotRow_eq_some one
        exact congrArg some (sound.inserts.cell user)
    · cases ran
      cases done

end

/-! ### One step -/

section
variable {V : Type} {d : Deployment V} {server next : Server} {event : ServerEvent}
  {known : Set (List UInt8)}

/-- What is written and submitted stays so. -/
structure Server.Onward (before after : Server) : Prop where
  written : before.written <+: after.written
  submitted : ∀ id submission, before.submitted id = some submission →
    after.submitted id = some submission

theorem Server.Wrote.onward {job snap : String} (onward : server.Onward next) (wrote : server.Wrote job snap) :
    next.Wrote job snap := by
  obtain ⟨snapshot, member, own⟩ := wrote
  exact ⟨snapshot, onward.written.subset member, own⟩

theorem Server.Own.onward {tenant : String} {disclosure : Disclosure} (onward : server.Onward next)
    (own : server.Own d tenant disclosure) : next.Own d tenant disclosure := by
  cases disclosure with
  | job id response =>
    obtain ⟨submission, submitted, mine, wrote⟩ := own
    exact ⟨submission, onward.submitted _ _ submitted, mine, fun snap named => (wrote snap named).onward onward⟩
  | metadata response =>
    obtain ⟨snapshot, member, own⟩ := own
    exact ⟨snapshot, onward.written.subset member, own⟩
  | rows response =>
    obtain ⟨snapshot, member, own⟩ := own
    exact ⟨snapshot, onward.written.subset member, own⟩

/-- What is pending and told stays the callers' own, whatever else is told being so too. -/
theorem Server.Truthful.onward (truthful : server.Truthful d) (onward : server.Onward next)
    (exports : ∀ number pending, next.exports number = some pending →
      server.exports number = some pending)
    (told : ∀ authorization disclosure, (authorization, disclosure) ∈ next.told →
      (authorization, disclosure) ∈ server.told ∨
        ∃ tenant, d.config.Admits authorization tenant ∧ next.Own d tenant disclosure) :
    next.Truthful d where
  exports number pending waits := by
    obtain ⟨snapshot, member, own⟩ := truthful.exports number pending (exports number pending waits)
    exact ⟨snapshot, onward.written.subset member, own⟩
  told authorization disclosure among := by
    rcases told authorization disclosure among with before | own
    · obtain ⟨tenant, admitted, own⟩ := truthful.told authorization disclosure before
      exact ⟨tenant, admitted, own.onward onward⟩
    · exact own

/-- The snapshots written in a step follow those before. -/
theorem Server.Recorded.advance (before : server.Recorded d) (added : List Snapshot)
    (written : next.written = server.written ++ added)
    (views : next.views = server.views ++ [next.engine.catalog])
    (idle : next.engine.service.Idle) (duck : next.engine.service.loop.writer.duck = d.duck)
    (rows : next.engine.catalog.snapshotRows =
      server.engine.catalog.snapshotRows ++ added.flatMap Snapshot.rows)
    (marked : ∀ snapshot ∈ added, snapshot.Marked d)
    (apart : (server.written ++ added).Pairwise fun one other => one.id ≠ other.id) :
    next.Recorded d := by
  have stored : next.engine.catalog.snapshotRows = next.written.flatMap Snapshot.rows := by
    rw [rows, before.stored, written, List.flatMap_append]
  refine ⟨idle, duck, stored, fun view seen => ?_, fun snapshot member => ?_, written ▸ apart⟩
  · rw [views] at seen
    rcases List.mem_append.mp seen with seen | seen
    · obtain ⟨earlier, prefix_, shown⟩ := before.views view seen
      exact ⟨earlier, written ▸ prefix_.trans (List.prefix_append _ _), shown⟩
    · obtain rfl := List.mem_singleton.mp seen
      exact ⟨next.written, List.prefix_rfl, stored⟩
  · rw [written] at member
    rcases List.mem_append.mp member with member | member
    · exact before.marked snapshot member
    · exact marked snapshot member

/-- A step that writes no snapshot. -/
theorem Server.Recorded.advance_none (before : server.Recorded d) (written : next.written = server.written)
    (views : next.views = server.views ++ [next.engine.catalog])
    (idle : next.engine.service.Idle) (duck : next.engine.service.loop.writer.duck = d.duck)
    (rows : next.engine.catalog.snapshotRows = server.engine.catalog.snapshotRows) :
    next.Recorded d := by
  refine before.advance [] ?_ views idle duck ?_ (fun snapshot member => by cases member) ?_
  · rw [written, List.append_nil]
  · rw [rows, List.flatMap_nil, List.append_nil]
  · rw [List.append_nil]
    exact before.apart

/-- What a turn on another table leaves. -/
theorem wake_recorded (before : server.Recorded d) {wake : Wake} (other : wake.about ≠ .audienceSnapshot) :
    let after := server.engine.service.wake d.batching wake
    after.Idle ∧ after.loop.writer.duck = d.duck ∧
      after.catalog.snapshotRows = server.engine.catalog.snapshotRows :=
  ⟨Service.wake_idle _ before.idle, (Service.wake_sends _ _ _).duck.trans before.duck,
    Service.wake_sameRows before.idle (by decide) (Ne.symm other)⟩

/-- What a call on another table leaves. -/
theorem submit_recorded (before : server.Recorded d) {clock : Loop.Clock} {cmd : Cmd}
    {outcome : Except Error Reply} {after : Engine} (other : cmd.about ≠ .audienceSnapshot)
    (ran : submit d.batching clock cmd server.engine = (outcome, after)) :
    after.service.Idle ∧ after.service.loop.writer.duck = d.duck ∧
      after.catalog.snapshotRows = server.engine.catalog.snapshotRows := by
  have state : after = (submit d.batching clock cmd server.engine).2 := (congrArg Prod.snd ran).symm
  rcases submit_service d.batching clock cmd server.engine with same | woken
  · rw [← state] at same
    exact ⟨same ▸ before.idle, same ▸ before.duck,
      congrArg (fun service : Service => service.catalog.snapshotRows) same⟩
  · rw [← state] at woken
    obtain ⟨idle, duck, rows⟩ := @wake_recorded _ d server before (.command clock cmd) other
    exact ⟨woken ▸ idle, woken ▸ duck,
      (congrArg (fun service : Service => service.catalog.snapshotRows) woken).trans rows⟩

theorem export_about (bare dest : String) : (Cmd.exportParquet bare dest).about ≠ .audienceSnapshot :=
  fun same => by cases (same : EngineTable.cdcOffsets = .audienceSnapshot)

/-- What the registry has for a tenant tells of the tenant's job. -/
theorem owned_own (before : server.Attributed d) {id tenant : String} {status : JobStatus}
    {response : JobResponse} (owned : server.jobs.registry.owned id tenant = some status)
    (responds : getJob (some status) = .ok response) : server.Own d tenant (.job id response) := by
  obtain ⟨entry, found, rfl⟩ := Option.map_eq_some_iff.mp owned
  obtain ⟨held, own⟩ := Option.filter_eq_some_iff.mp found
  obtain ⟨submission, submitted, same, wrote⟩ := before.entries id entry held
  refine ⟨submission, submitted, same.trans (of_decide_eq_true own), fun snap named => ?_⟩
  cases status : entry.status with
  | done found =>
    rw [status] at responds
    cases responds
    cases named
    exact wrote _ status
  | running | failed _ =>
    rw [status] at responds
    cases responds
    cases named

/-- Metadata that any reader finds is that of a snapshot among those written. -/
theorem metadata_own (before : server.Recorded d) {view : Catalog} {bare tenant : String}
    {reply : Except QueryError (List MetaRow)} {found : SnapshotMeta} (seen : view ∈ server.views)
    (replies : MetaReply d.varchar d.duck view bare tenant reply)
    (got : snapshotMeta bare reply = .ok (some found)) :
    ∃ snapshot ∈ server.written, snapshot.submission.tenant = tenant ∧
      d.duck.castUuid bare = some snapshot.id ∧ found = ⟨bare, snapshot.submission.campaignId,
        (snapshot.asOf.bind d.varchar).getD "", snapshot.rows.length⟩ ∧ snapshot.rows ≠ [] := by
  obtain ⟨earlier, prefix_, shown⟩ := before.views view seen
  obtain ⟨snapshot, member, own⟩ := snapshotMeta_own
    (fun snapshot member => before.marked snapshot (prefix_.subset member))
    (before.apart.sublist prefix_.sublist) shown replies got
  exact ⟨snapshot, prefix_.subset member, own⟩

/-- A request that is served is served as a tenant of the configuration's. -/
theorem Deployment.Admits.config {path : String} {authorization : Option String} {tenant : String}
    (apart : Set.InjOn d.sha256 known) (held : ∀ token ∈ d.config.tokens, utf8 token ∈ known)
    (asked : ∀ token, authorization = some ("Bearer " ++ token) → utf8 token ∈ known)
    (guarded : ∀ probe ∈ ["/healthz", "/readyz"], path ≠ probe)
    (admitted : d.Admits path authorization tenant) : d.config.Admits authorization tenant :=
  (requireAuth_iff apart asked held ⟨guarded _ List.mem_cons_self,
    guarded _ (List.mem_cons_of_mem _ List.mem_cons_self)⟩).mp admitted

/-- The paths of jobs and snapshots are none of the probes'. -/
theorem guarded_of_second {path : String} {c : Char} (second : path.toList[1]? = some c)
    (other : c ≠ 'h' ∧ c ≠ 'r') : ∀ probe ∈ ["/healthz", "/readyz"], path ≠ probe := by
  intro probe member same
  rw [same] at second
  rcases List.mem_cons.mp member with rfl | member
  · exact other.1 (Option.some.inj second).symm
  · obtain rfl := List.mem_singleton.mp member
    exact other.2 (Option.some.inj second).symm

theorem guarded_job (id : String) : ∀ probe ∈ ["/healthz", "/readyz"], "/jobs/" ++ id ≠ probe :=
  @guarded_of_second _ 'j' (by rw [String.toList_append]; rfl) (by decide)

theorem guarded_audience (id : String) : ∀ probe ∈ ["/healthz", "/readyz"], "/audience/" ++ id ≠ probe :=
  @guarded_of_second _ 'a' (by rw [String.toList_append]; rfl) (by decide)

theorem sound_start {writer : Writer} (duck : writer.duck = d.duck) (idle : writer.rollbackTo = none)
    (fresh : writer.durable.catalog.snapshotRows = []) (ttl : Nat) (key : SigningKey) :
    (Server.start writer ttl key).Sound d where
  recorded := by
    refine ⟨idle, duck, fresh, fun view seen => ?_, fun snapshot member => (by cases member),
      List.Pairwise.nil⟩
    obtain rfl := List.mem_singleton.mp seen
    exact ⟨[], List.prefix_rfl, fresh⟩
  attributed := ⟨fun snapshot member => (by cases member), fun id submission submitted => (by cases submitted),
    fun id task runs => (by cases runs), fun id entry held => (by cases held),
    fun number poll held => (by cases held)⟩
  truthful := ⟨fun number pending waits => (by cases waits),
    fun authorization disclosure among => (by cases among)⟩

end

section
variable {V : Type} [DecidableEq V] {d : Deployment V} {server next : Server} {event : ServerEvent}
  {known : Set (List UInt8)}

theorem recorded_step (sound : d.Sound) (before : server.Sound d) (fair : Uncolliding d known event server)
    (step : Server.Step d event server next) : next.Recorded d := by
  have recorded := before.recorded
  cases step with
  | ticks | submits | panics | finishes | polls | proceeds | answers | checks =>
    exact ⟨recorded.idle, recorded.duck, recorded.stored, recorded.views, recorded.marked, recorded.apart⟩
  | @works _ id submission errand outcome after waits ran =>
    obtain ⟨text, identifier, named, fresh⟩ := fair
    obtain ⟨idle, duck⟩ := materialize_service recorded.idle ran
    cases wrote : outcome.wrote with
    | false =>
      -- a failed INSERT is one statement that did not happen
      have kept := materialize_kept recorded.idle ran wrote
      exact recorded.advance_none (List.append_nil _) rfl idle (duck.trans recorded.duck) kept
    | true =>
      obtain ⟨-, marked, rows⟩ := materialize_wrote sound recorded.idle recorded.duck
        (before.attributed.tasks _ _ waits).2.1 ran wrote named text id
      have fresh_ : (d.made id submission errand server.engine after).id = identifier := by
        dsimp only [Deployment.made]
        rw [named, Option.getD_some]
      refine recorded.advance [d.made id submission errand server.engine after]
        rfl rfl idle (duck.trans recorded.duck) ?_ ?_ ?_
      · rw [List.flatMap_singleton]
        exact rows
      · intro snapshot member
        obtain rfl := List.mem_singleton.mp member
        exact marked
      · refine List.pairwise_append.mpr ⟨recorded.apart, List.pairwise_singleton _ _, ?_⟩
        intro snapshot member other among
        obtain rfl := List.mem_singleton.mp among
        rw [fresh_]
        exact fresh snapshot member
  | turns _ freshness running other =>
    obtain ⟨idle, duck, rows⟩ := wake_recorded recorded other
    exact recorded.advance_none rfl rfl idle duck rows
  | @exports _ number clock dest pending exported after file response waits served copied responds =>
    obtain ⟨idle, duck, rows⟩ := submit_recorded recorded (export_about _ _) served
    exact recorded.advance_none rfl rfl idle duck rows
  | @restarts _ writer ttl key attached duck idle =>
    -- readers attach anew, so that only the durable state is seen
    have stored : writer.durable.catalog.snapshotRows = server.written.flatMap Snapshot.rows := by
      rw [attached, recorded.stored]
    refine ⟨idle, duck, stored, fun view seen => ?_, recorded.marked, recorded.apart⟩
    obtain rfl := List.mem_singleton.mp seen
    exact ⟨server.written, List.prefix_rfl, stored⟩

theorem checked_valid {texts : Texts} {request : JobsRequest} (checked : request.check texts = .ok ()) :
    validate texts.isRfc3339 request.dsl = .ok () := by
  obtain ⟨-, -, accepted⟩ := except_bind_eq_ok.mp checked
  cases valid : validate texts.isRfc3339 request.dsl with
  | ok => rfl
  | error failure =>
    rw [valid] at accepted
    cases accepted

/-- What is written or submitted before a step is so after it. -/
theorem onward_step (before : server.Attributed d) (step : Server.Step d event server next) :
    server.Onward next := by
  cases step with
  | ticks | panics | finishes | turns | polls | proceeds | answers | checks | exports | restarts =>
    exact ⟨List.prefix_rfl, fun _ _ submitted => submitted⟩
  | works => exact ⟨List.prefix_append _ _, fun _ _ submitted => submitted⟩
  | @submits _ authorization id tenant request since jobs admitted checked inserted =>
    obtain ⟨fresh, -⟩ := insertRunning_eq_some inserted
    refine ⟨List.prefix_rfl, fun other submission submitted => ?_⟩
    by_cases same : other = id
    · subst same
      obtain ⟨ended, minted⟩ := before.minted _ _ submitted
      cases fresh.symm.trans minted
    · exact (Function.update_of_ne same _ _).trans submitted

theorem attributed_step (apart : Set.InjOn d.sha256 known)
    (held_ : ∀ token ∈ d.config.tokens, utf8 token ∈ known) (before : server.Attributed d)
    (fair : Uncolliding d known event server) (step : Server.Step d event server next) :
    next.Attributed d := by
  have onward := onward_step before step
  cases step with
  | turns | answers | checks | exports =>
    exact ⟨before.own, before.minted, before.tasks, before.entries, before.polls⟩
  | ticks _ passed =>
    obtain rfl := tick_eq_some passed
    exact ⟨before.own, before.minted, before.tasks, before.entries, before.polls⟩
  | @submits _ authorization id tenant request since jobs admitted checked inserted =>
    obtain ⟨-, rfl⟩ := insertRunning_eq_some inserted
    have valid : validate d.texts.isRfc3339 request.dsl = .ok () := checked_valid checked
    refine ⟨fun snapshot member => onward.submitted _ _ (before.own snapshot member),
      fun other submission submitted => ?_, fun other task runs => ?_, fun other entry held => ?_,
      before.polls⟩
    · rcases update_eq_some submitted with ⟨rfl, rfl⟩ | ⟨differs, submitted⟩
      · exact ⟨none, Function.update_self _ _ _⟩
      · obtain ⟨ended, minted⟩ := before.minted _ _ submitted
        exact ⟨ended, (Function.update_of_ne differs _ _).trans minted⟩
    · rcases update_eq_some runs with ⟨rfl, rfl⟩ | ⟨-, runs⟩
      · exact ⟨Function.update_self _ _ _, valid, fun snap ended => by cases ended⟩
      · obtain ⟨submitted, valid, wrote⟩ := before.tasks _ _ runs
        exact ⟨onward.submitted _ _ submitted, valid, fun snap ended => (wrote snap ended).onward onward⟩
    · rcases update_eq_some held with ⟨rfl, rfl⟩ | ⟨-, held⟩
      · exact ⟨_, Function.update_self _ _ _, rfl, fun snap ended => by cases ended⟩
      · obtain ⟨submission, submitted, own, wrote⟩ := before.entries _ _ held
        exact ⟨submission, onward.submitted _ _ submitted, own, fun snap ended => (wrote snap ended).onward onward⟩
  | @works _ id submission errand outcome after waits ran =>
    obtain ⟨submitted, valid, -⟩ := before.tasks _ _ waits
    refine ⟨fun snapshot member => ?_, before.minted, fun other task runs => ?_, fun other entry held => ?_,
      before.polls⟩
    · rcases List.mem_append.mp member with member | member
      · exact before.own snapshot member
      · split at member
        · obtain rfl := List.mem_singleton.mp member
          exact submitted
        · cases member
    · rcases update_eq_some runs with ⟨rfl, rfl⟩ | ⟨-, runs⟩
      · refine ⟨submitted, valid, fun snap ended => ?_⟩
        obtain rfl := Option.some.inj ended
        refine ⟨d.made other submission errand server.engine after, List.mem_append_right _ ?_, rfl,
          materialize_named ran⟩
        rw [if_pos (show (Outcome.ok snap).wrote = true from rfl)]
        exact List.mem_singleton_self _
      · obtain ⟨submitted, valid, wrote⟩ := before.tasks _ _ runs
        exact ⟨submitted, valid, fun snap ended => (wrote snap ended).onward onward⟩
    · obtain ⟨submission, submitted, own, wrote⟩ := before.entries _ _ held
      exact ⟨submission, submitted, own, fun snap ended => (wrote snap ended).onward onward⟩
  | @panics _ id join task waits =>
    refine ⟨before.own, before.minted, fun other task runs => ?_, before.entries, before.polls⟩
    rcases update_eq_some runs with ⟨rfl, rfl⟩ | ⟨-, runs⟩
    · obtain ⟨submitted, valid, -⟩ := before.tasks _ _ waits
      exact ⟨submitted, valid, fun snap ended => by cases ended⟩
    · exact before.tasks _ _ runs
  | @finishes _ id submission outcome since jobs ended recorded =>
    obtain ⟨tenant, runs, rfl⟩ := finish_eq_some recorded
    obtain ⟨submitted, valid, wrote⟩ := before.tasks _ _ ended
    refine ⟨before.own, fun other submission submitted => ?_, fun other task runs => ?_,
      fun other entry held => ?_, before.polls⟩
    · -- the job keeps its tenant when it ends
      obtain ⟨known, minted⟩ := before.minted _ _ submitted
      by_cases same : other = id
      · subst same
        obtain rfl := (Job.mk.inj (Option.some.inj (runs.symm.trans minted))).1
        exact ⟨_, Function.update_self _ _ _⟩
      · exact ⟨known, (Function.update_of_ne same _ _).trans minted⟩
    · exact before.tasks _ _ (update_none_eq_some runs).2
    · rcases update_eq_some held with ⟨rfl, rfl⟩ | ⟨-, held⟩
      · obtain ⟨known, minted⟩ := before.minted _ _ submitted
        refine ⟨submission, submitted, (Job.mk.inj (Option.some.inj (minted.symm.trans runs))).1,
          fun snap told => wrote snap ?_⟩
        cases outcome with
        | ok found => exact congrArg (fun snap => some (Outcome.ok snap)) (JobStatus.done.inj told)
        | _ => cases told
      · exact before.entries _ _ held
  | @polls _ number authorization id tenant jobs admitted started =>
    obtain rfl := poll_eq_some started
    refine ⟨before.own, before.minted, before.tasks, before.entries, fun other poll held => ?_⟩
    rcases update_eq_some held with ⟨rfl, rfl⟩ | ⟨differs, held⟩
    · change d.config.Admits (Function.update server.callers other authorization other) tenant
      rw [Function.update_self]
      exact admitted.config apart held_ fair (guarded_job id)
    · change d.config.Admits (Function.update server.callers number authorization other) poll.tenant
      rw [Function.update_of_ne differs]
      exact before.polls other poll held
  | @proceeds _ number jobs went =>
    obtain ⟨poll, -, same, polls, entries, -⟩ := proceed_eq_some went
    refine ⟨before.own, fun other submission submitted => ?_, before.tasks,
      fun other entry held => before.entries other entry (entries other entry held),
      fun other later held => ?_⟩
    · obtain ⟨ended, minted⟩ := before.minted _ _ submitted
      exact ⟨ended, same ▸ minted⟩
    · obtain ⟨earlier, found, own⟩ := polls other later held
      exact own ▸ before.polls other earlier found
  | restarts =>
    exact ⟨before.own, before.minted, fun id task runs => (by cases runs),
      fun id entry held => (by cases held), fun number poll held => (by cases held)⟩

theorem truthful_step (apart : Set.InjOn d.sha256 known)
    (held : ∀ token ∈ d.config.tokens, utf8 token ∈ known) (before : server.Sound d)
    (fair : Uncolliding d known event server) (step : Server.Step d event server next) :
    next.Truthful d := by
  have onward := onward_step before.attributed step
  have recorded := before.recorded
  cases step with
  | ticks | submits | works | panics | finishes | turns | polls =>
    exact before.truthful.onward onward (fun _ _ waits => waits) fun _ _ among => .inl among
  | @proceeds _ number jobs went =>
    obtain ⟨poll, polled, -, -, -, answers⟩ := proceed_eq_some went
    refine before.truthful.onward onward (fun _ _ waits => waits) fun authorization disclosure among => ?_
    rcases List.mem_append.mp among with among | among
    · exact .inl among
    · obtain ⟨answer, told, made⟩ := List.mem_filterMap.mp among
      obtain ⟨response, responds, made⟩ := Option.map_eq_some_iff.mp made
      obtain ⟨rfl, rfl⟩ := Prod.mk.inj made
      -- an answer has nothing, or what the registry had for the poll's own tenant
      obtain ⟨same, status⟩ := answers answer told
      refine .inr ⟨poll.tenant, before.attributed.polls number poll polled, ?_⟩
      cases found : answer.status with
      | none =>
        rw [found] at responds
        cases responds
      | some known =>
        have owned := (status.resolve_left (by rw [found]; exact Option.some_ne_none known)).symm.trans found
        rw [same]
        have own := @owned_own _ d server before.attributed poll.id poll.tenant known response owned ?_
        · exact own.onward onward
        · rw [found] at responds
          cases known <;> cases responds <;> rfl
  | @answers _ authorization id tenant now view reader response admitted seen replies responds =>
    refine before.truthful.onward onward (fun _ _ waits => waits) fun other disclosure among => ?_
    rcases List.mem_append.mp among with among | among
    · exact .inl among
    · obtain ⟨rfl, rfl⟩ := Prod.mk.inj (List.mem_singleton.mp among)
      obtain ⟨bare, found, whole, -, read, rfl⟩ := getAudience_eq_ok.mp responds
      obtain ⟨snapshot, member, own, named, rfl, some_⟩ :=
        metadata_own recorded seen (replies bare) read
      exact .inr ⟨tenant, admitted.config apart held fair (guarded_audience id), snapshot, member, own,
        ⟨bare, whole, named⟩, rfl, rfl, rfl, some_⟩
  | @checks _ number authorization id tenant bare query now view reader admitted seen replies passed =>
    obtain ⟨-, -, -, -, found, read⟩ := checkExport_eq_ok.mp passed
    obtain ⟨snapshot, member, own, named, -, -⟩ := metadata_own recorded seen (replies bare) read
    refine ⟨fun other pending waits => ?_, before.truthful.told⟩
    rcases update_eq_some waits with ⟨rfl, rfl⟩ | ⟨-, waits⟩
    · refine ⟨snapshot, member, own ▸ admitted.config apart held fair ?_, named⟩
      rw [String.append_assoc]
      exact guarded_audience _
    · exact before.truthful.exports other pending waits
  | @exports _ number clock dest pending exported after file response waits served copied responds =>
    obtain ⟨-, -, rows⟩ := submit_recorded recorded (export_about _ _) served
    obtain ⟨snapshot, member, admitted, named⟩ := before.truthful.exports number pending waits
    refine before.truthful.onward onward (fun other later waits => (update_none_eq_some waits).2)
      fun other disclosure among => ?_
    rcases List.mem_append.mp among with among | among
    · exact .inl among
    · obtain ⟨rfl, rfl⟩ := Prod.mk.inj (List.mem_singleton.mp among)
      -- the identifier is the snapshot's that was checked, however much was written since
      obtain ⟨id, cast_, read⟩ := copied _ (exportResponse_eq_ok responds)
      obtain rfl := Option.some.inj (named.symm.trans cast_)
      refine .inr ⟨snapshot.submission.tenant, admitted, snapshot, member, rfl, ?_⟩
      rw [read, rows, recorded.stored, exportRows_own recorded.marked recorded.apart member]
  | restarts =>
    exact before.truthful.onward onward (fun number pending waits => (by cases waits))
      fun _ _ among => .inl among

/-! ### A run -/

theorem sound_run (sound : d.Sound) (apart : Set.InjOn d.sha256 known)
    (held : ∀ token ∈ d.config.tokens, utf8 token ∈ known) (before : server.Sound d)
    (run : Reaches (Server.Step d) (Uncolliding d known) server next) : next.Sound d :=
  run.invariant (fun _ _ _ before fair step => ⟨recorded_step sound before fair step,
    attributed_step apart held before.attributed fair step, truthful_step apart held before fair step⟩) before

variable (d known) in
/-- The server tells nobody but whose it is, in every state that a run comes to. -/
def Deployment.Confines (server : Server) : Prop :=
  ∀ next, Reaches (Server.Step d) (Uncolliding d known) server next → next.Discreet d

/-- A server that starts over a catalogue without snapshots tells, whatever is asked of it by whom and
however often it starts again, each tenant of the tenant's own jobs and snapshots only, and of those
what the jobs wrote. -/
theorem disclosures_confined {writer : Writer} (sound : d.Sound) (apart : Set.InjOn d.sha256 known)
    (held : ∀ token ∈ d.config.tokens, utf8 token ∈ known) (duck : writer.duck = d.duck)
    (idle : writer.rollbackTo = none) (fresh : writer.durable.catalog.snapshotRows = []) (ttl : Nat)
    (key : SigningKey) : d.Confines known (Server.start writer ttl key) := by
  intro next run
  have sound_ := sound_run sound apart held (sound_start duck idle fresh ttl key) run
  exact ⟨sound_.truthful.told, fun snapshot member =>
    ⟨sound_.recorded.marked snapshot member, sound_.attributed.own snapshot member⟩⟩

end

/-! ### Two tenants -/

/-- SHA-256 of `"acme-key"` -/
def acmeDigest : Digest :=
  #v[175, 172, 171, 53, 117, 19, 122, 250, 78, 0, 217, 203, 202, 252, 177, 76,
    154, 226, 95, 119, 157, 150, 78, 176, 234, 91, 44, 78, 181, 223, 209, 99]

/-- SHA-256 of `"globex-key"` -/
def globexDigest : Digest :=
  #v[242, 164, 85, 181, 155, 133, 138, 4, 197, 17, 8, 65, 106, 242, 4, 34,
    3, 203, 106, 195, 95, 164, 20, 31, 186, 65, 72, 188, 133, 110, 120, 212]

/-- The hash, as computed for these two tokens. -/
def recordedSha256 (bytes : List UInt8) : Digest :=
  if bytes = utf8 "acme-key" then acmeDigest
  else if bytes = utf8 "globex-key" then globexDigest
  else Vector.replicate 32 0

noncomputable def twoTenants : Deployment Datum where
  database := jsonEngine
  toJson := Datum.toJson
  shown := Datum.value
  duck := insertingDuck jsonEngine Datum.value
  varchar := textOf
  texts := anyText
  hmac := recordedHmac
  sha256 := recordedSha256
  batching := ⟨0, 0⟩
  queries := ruledEngine
  config := ⟨"default", none, [⟨"acme", "acme-key"⟩, ⟨"globex", "globex-key"⟩]⟩

theorem twoTenants_sound : twoTenants.Sound where
  inserts := insertingDuck_inserts fun cell => by cases cell <;> rfl
  uuid text id value named cast_ := by
    obtain rfl := Option.some.inj named
    obtain rfl := Option.some.inj cast_
    rfl

theorem recordedSha256_injOn : Set.InjOn recordedSha256 {utf8 "acme-key", utf8 "globex-key"} := by
  have others : utf8 "globex-key" ≠ utf8 "acme-key" := fun same =>
    absurd (utf8_injective same) (by decide)
  have first : recordedSha256 (utf8 "acme-key") = acmeDigest := if_pos rfl
  have second : recordedSha256 (utf8 "globex-key") = globexDigest := (if_neg others).trans (if_pos rfl)
  have differ : acmeDigest ≠ globexDigest := by decide
  rintro _ (rfl | rfl) _ (rfl | rfl) same
  · rfl
  · exact absurd (first.symm.trans (same.trans second)) differ
  · exact absurd (first.symm.trans (same.symm.trans second)) differ
  · rfl

theorem twoTenants_known :
    ∀ token ∈ twoTenants.config.tokens, utf8 token ∈ ({utf8 "acme-key", utf8 "globex-key"} : Set _) := by
  intro token member
  rcases List.mem_cons.mp member with rfl | member
  · exact .inl rfl
  · obtain rfl := List.mem_singleton.mp member
    exact .inr rfl

theorem disclosures_confined_twoTenants :
    twoTenants.Confines {utf8 "acme-key", utf8 "globex-key"}
      (Server.start (jsonWriter orderOnly) 3600000 testKey) :=
  disclosures_confined twoTenants_sound recordedSha256_injOn twoTenants_known rfl rfl rfl 3600000 testKey

end ConsumerEngine.Ingress
