import ConsumerEngine.Ingress.Disclosures

/-! A finished job is readable: what its tenant gets back of the snapshot that it names.

The reader is attached to the current state and answers. The snapshot's metadata comes with a token
that lives for a quarter of an hour and lets its rows out; another tenant finds nothing.
-/

set_option autoImplicit false

namespace ConsumerEngine.Ingress

open ConsumerEngine.Core ConsumerEngine.Foundation ConsumerEngine.Ingestion ConsumerEngine.Query
  ConsumerEngine.Storage

section
variable {V : Type} (d : Deployment V)

/-- A reader that is attached to the state answers to the metadata query. -/
structure Deployment.Attached (state : Catalog) (bare tenant : String)
    (reader : String → Except QueryError (List MetaRow)) : Prop where
  replies : MetaReply d.varchar d.duck state bare tenant (reader bare)
  answers : ∃ rows, reader bare = .ok rows

/-- The query of the submission, over what the tenant had when the snapshot was written. -/
def Snapshot.audience (snapshot : Snapshot) : Option (Finset Cell) :=
  (d.database.population (d.queries.readOptions snapshot.submission.tenant)
    snapshot.source).survivors d.database snapshot.submission.query

/-- What comes back of a snapshot. An audience of nobody leaves no trace: its metadata is not found. -/
structure Server.Returns (server : Server) (snapshot : Snapshot) : Prop where
  audience : ∃ users, snapshot.audience d = some users ∧ ∀ now reader,
    d.Attached server.engine.catalog snapshot.uuid snapshot.submission.tenant reader →
      getAudience d.texts d.hmac now server.key reader ("snap_" ++ snapshot.uuid) =
        if users = ∅ then .error .notFound
        else .ok ⟨"snap_" ++ snapshot.uuid, snapshot.submission.campaignId,
          (snapshot.asOf.bind d.varchar).getD "", users.card,
          downloadUrl ("snap_" ++ snapshot.uuid)
            (sign d.hmac now server.key snapshot.uuid exportTtlSecs)⟩
  token : ∀ now later reader, snapshot.rows ≠ [] →
    d.Attached server.engine.catalog snapshot.uuid snapshot.submission.tenant reader →
      (checkExport d.texts d.hmac later server.key reader ("snap_" ++ snapshot.uuid)
          ⟨some "parquet", some (sign d.hmac now server.key snapshot.uuid exportTtlSecs)⟩ =
        .ok snapshot.uuid ↔ later.toNat < min (now.toNat + 900) (UInt64.size - 1))
  exported : Query.exportRows snapshot.id server.engine.catalog.snapshotRows =
    snapshot.rows.map (List.take 6)
  withheld : ∀ tenant now reader query bare, tenant ≠ snapshot.submission.tenant →
    d.Attached server.engine.catalog snapshot.uuid tenant reader →
      getAudience d.texts d.hmac now server.key reader ("snap_" ++ snapshot.uuid) = .error .notFound ∧
      checkExport d.texts d.hmac now server.key reader ("snap_" ++ snapshot.uuid) query ≠ .ok bare

/-- A job that its tenant is told is done has a snapshot to be read. -/
def Server.Readable (server : Server) : Prop :=
  ∀ id tenant snap, server.jobs.registry.owned id tenant = some (.done snap) →
    ∃ snapshot ∈ server.written, snapshot.job = id ∧ snapshot.submission.tenant = tenant ∧
      snap = "snap_" ++ snapshot.uuid ∧ server.Returns d snapshot

end

/-! ### One snapshot -/

section
variable {V : Type} {d : Deployment V} {server : Server} {snapshot : Snapshot}
  {tenant : String} {reader : String → Except QueryError (List MetaRow)}

/-- Every user of the audience has one row. -/
theorem Snapshot.Marked.count (marked : snapshot.Marked d) :
    ∃ users, snapshot.audience d = some users ∧ snapshot.rows.length = users.card := by
  obtain ⟨users, survive, keys⟩ := marked.selected
  have cards := congrArg Multiset.card keys
  rw [Multiset.card_map, Multiset.card_map, Multiset.coe_card, Finset.card_val] at cards
  exact ⟨users, survive, cards⟩

theorem snapshotMeta_current (recorded : server.Recorded d) (member : snapshot ∈ server.written)
    (attached : d.Attached server.engine.catalog snapshot.uuid snapshot.submission.tenant reader) :
    snapshotMeta snapshot.uuid (reader snapshot.uuid) = .ok (if snapshot.rows = [] then none
      else some ⟨snapshot.uuid, snapshot.submission.campaignId,
        (snapshot.asOf.bind d.varchar).getD "", snapshot.rows.length⟩) := by
  obtain ⟨rows, answered⟩ := attached.answers
  obtain ⟨-, id, cast_, same⟩ := attached.replies rows answered
  obtain rfl := Option.some.inj ((recorded.marked snapshot member).named.symm.trans cast_)
  rw [recorded.stored, metaRows_own recorded.marked recorded.apart member] at same
  rw [answered]
  by_cases empty : snapshot.rows = []
  · rw [if_pos empty] at same ⊢
    rw [List.perm_nil.mp same]
    rfl
  · rw [if_neg empty] at same ⊢
    rw [List.perm_singleton.mp same]
    rfl

theorem snapshotMeta_foreign (recorded : server.Recorded d) (member : snapshot ∈ server.written)
    (foreign : tenant ≠ snapshot.submission.tenant)
    (attached : d.Attached server.engine.catalog snapshot.uuid tenant reader) :
    snapshotMeta snapshot.uuid (reader snapshot.uuid) = .ok none := by
  obtain ⟨rows, answered⟩ := attached.answers
  obtain ⟨-, id, cast_, same⟩ := attached.replies rows answered
  obtain rfl := Option.some.inj ((recorded.marked snapshot member).named.symm.trans cast_)
  have others (other : Snapshot) (among : other ∈ server.written) (alike : other.id = snapshot.id) :
      other.submission.tenant ≠ tenant := by
    -- identifiers are apart, so it is the same snapshot
    have found := filter_alone recorded.apart member
    have here : other ∈ server.written.filter fun one => one.id = snapshot.id :=
      List.mem_filter.mpr ⟨among, decide_eq_true alike⟩
    rw [found] at here
    obtain rfl := List.mem_singleton.mp here
    exact foreign.symm
  rw [recorded.stored, metaRows_foreign recorded.marked others] at same
  rw [answered, List.perm_nil.mp same]
  rfl

theorem returns_of_recorded (recorded : server.Recorded d) (member : snapshot ∈ server.written) :
    server.Returns d snapshot := by
  have marked := recorded.marked snapshot member
  have parsed : parseSnapId d.texts ("snap_" ++ snapshot.uuid) = .ok snapshot.uuid :=
    parseSnapId_eq_ok.mpr ⟨rfl, marked.valid⟩
  obtain ⟨users, survive, count⟩ := marked.count
  have nobody : users = ∅ ↔ snapshot.rows = [] := by
    rw [← Finset.card_eq_zero, ← count, List.length_eq_zero_iff]
  refine ⟨⟨users, survive, fun now reader attached => ?_⟩, fun now later reader some_ attached => ?_,
    ?_, fun tenant now reader query bare foreign attached => ⟨?_, fun passed => ?_⟩⟩
  · have read := snapshotMeta_current recorded member attached
    by_cases empty : snapshot.rows = []
    · rw [if_pos empty] at read
      rw [if_pos (nobody.mpr empty)]
      exact getAudience_notFound parsed read
    · rw [if_neg empty] at read
      rw [if_neg (mt nobody.mp empty), ← count]
      exact getAudience_eq_ok.mpr ⟨snapshot.uuid, _, rfl, marked.valid, read, rfl⟩
  · have read := snapshotMeta_current recorded member attached
    rw [if_neg some_] at read
    have lives := @verify_sign d.hmac now server.key snapshot.uuid exportTtlSecs later
    rw [show exportTtlSecs.toNat = 900 from rfl] at lives
    rw [checkExport_eq_ok, ← lives]
    exact ⟨fun passed => passed.2.2.2.1, fun good => ⟨rfl, rfl, marked.valid, good, _, read⟩⟩
  · rw [recorded.stored, exportRows_own recorded.marked recorded.apart member]
  · exact getAudience_notFound parsed (snapshotMeta_foreign recorded member foreign attached)
  · obtain ⟨-, whole, -, -, found, read⟩ := checkExport_eq_ok.mp passed
    obtain rfl := Option.some.inj
      ((stripPrefix_eq_some.mpr rfl).symm.trans (stripPrefix_eq_some.mpr whole))
    rw [snapshotMeta_foreign recorded member foreign attached] at read
    cases read

end

/-! ### A run -/

section
variable {V : Type} [DecidableEq V] (d : Deployment V) (known : Set (List UInt8))

/-- Jobs are readable in every state that a run comes to. -/
def Deployment.KeepsReadable (server : Server) : Prop :=
  ∀ next, Reaches (Server.Step d) (Uncolliding d known) server next → next.Readable d

variable {d known}

/-- Whenever a job is done, whatever else was asked meanwhile, its tenant gets back the campaign and
the size of the audience that its query selected, and with the token its rows; nobody else does. -/
theorem finished_jobs_readable {writer : Writer} (sound : d.Sound) (apart : Set.InjOn d.sha256 known)
    (held : ∀ token ∈ d.config.tokens, utf8 token ∈ known) (duck : writer.duck = d.duck)
    (idle : writer.rollbackTo = none) (fresh : writer.durable.catalog.snapshotRows = []) (ttl : Nat)
    (key : SigningKey) : d.KeepsReadable known (Server.start writer ttl key) := by
  intro next run id tenant snap owned
  have before := sound_run sound apart held (sound_start duck idle fresh ttl key) run
  obtain ⟨entry, found, status⟩ := Option.map_eq_some_iff.mp owned
  obtain ⟨kept, own⟩ := Option.filter_eq_some_iff.mp found
  obtain ⟨submission, submitted, same, wrote⟩ := before.attributed.entries id entry kept
  obtain ⟨snapshot, member, rfl, named⟩ := wrote snap status
  obtain rfl := Option.some.inj (submitted.symm.trans (before.attributed.own snapshot member))
  exact ⟨snapshot, member, rfl, same.trans (of_decide_eq_true own), named,
    returns_of_recorded before.recorded member⟩

end

theorem finished_jobs_readable_twoTenants :
    twoTenants.KeepsReadable {utf8 "acme-key", utf8 "globex-key"}
      (Server.start (jsonWriter orderOnly) 3600000 testKey) :=
  finished_jobs_readable twoTenants_sound recordedSha256_injOn twoTenants_known rfl rfl rfl 3600000 testKey

end ConsumerEngine.Ingress
