import ConsumerEngine.Ingress.Onboarding
import ConsumerEngine.Query.Enforcement

/-! What an onboarding puts into the catalogue.

The profiler reads the table through another connection. Rows that only wait in the buffer have
no table there yet, and a table made for other columns does not get the new ones: the columns of
a request are catalogued exactly where the table the profiler finds has them.
-/

set_option autoImplicit false

namespace ConsumerEngine.Ingress

open ConsumerEngine.Core ConsumerEngine.Foundation ConsumerEngine.Storage ConsumerEngine.Ingestion
  ConsumerEngine.Semantic ConsumerEngine.Query

/-! ### Writing catalogue rows -/

/-- The catalogue with more entries of a tenant. -/
def addEntries (tenant : String) (rows : List CatalogRow) (catalog : Catalog) : Catalog :=
  { catalog with semanticCatalog := some (catalog.semanticCatalog.getD [] ++
      rows.map fun row => ⟨row, some tenant⟩) }

theorem foldl_addEntries (tenant : String) (rows : List CatalogRow) (catalog : Catalog) :
    rows.foldl (fun catalog row => addEntries tenant [row] catalog) (addEntries tenant [] catalog) =
      addEntries tenant rows catalog := by
  have general : ∀ first : List CatalogRow,
      rows.foldl (fun catalog row => addEntries tenant [row] catalog) (addEntries tenant first catalog) =
        addEntries tenant (first ++ rows) catalog := by
    induction rows with
    | nil =>
      intro first
      rw [List.append_nil]
      rfl
    | cons row rows ih =>
      intro first
      have next : addEntries tenant [row] (addEntries tenant first catalog) =
          addEntries tenant (first ++ [row]) catalog := by
        simp [addEntries]
      rw [List.foldl_cons, next, ih, List.append_assoc, List.singleton_append]
  exact general []

/-- Entries of one dimension are written unless a statement is refused. -/
theorem writeCatalogRows_accepts {writer : Writer} {rows : List CatalogRow} {dim : Nat}
    (never : ∀ i, writer.duck.rejects i = false) (filled : rows ≠ [])
    (sized : ∀ row ∈ rows, row.embedding.length = dim) :
    Accepts (writeCatalogRows rows) writer (addEntries writer.tenant rows writer.durable.catalog) := by
  obtain ⟨⟨⟩, opened, ran, same, made⟩ := (show Sends (ensureEngineTable .semanticCatalog) writer
      [.createEngine .semanticCatalog, .addEngineTenant .semanticCatalog]
      (addEntries writer.tenant [] writer.durable.catalog) by
    have there : addEntries writer.tenant [] writer.durable.catalog =
        { writer.durable.catalog with
          semanticCatalog := some (writer.durable.catalog.semanticCatalog.getD []) } := by
      simp [addEntries]
    rw [there]
    exact (Sends.execute writer rfl).bind fun _ =>
      (Sends.execute (writer.advanced _ _) rfl).andThen fun _ => Sends.pure _ ()).leaves never
  have sends := Sends.executeAll (fun catalog => ∃ stored, catalog.semanticCatalog = some stored)
    (fun row => .insertCatalogRow row opened.tenant)
    (fun row catalog => addEntries opened.tenant [row] catalog) rows opened
    (fun row _ catalog present => by
      obtain ⟨stored, present⟩ := present
      refine ⟨⟨1, ?_⟩, _, rfl⟩
      simp only [Statement.apply, present, presentIf, bind, Except.bind, pure, Except.pure,
        addEntries, Option.getD_some, List.map_cons, List.map_nil])
    (by rw [made]; exact ⟨_, rfl⟩)
  obtain ⟨n, after, wrote, same', left⟩ := sends.leaves (by rw [same.duck]; exact never)
  rw [made, same.tenant, foldl_addEntries] at left
  have head : (rows.head?.map fun row => row.embedding.length).getD 0 = dim := by
    cases rows with
    | nil => exact absurd rfl filled
    | cons row rest => exact sized row List.mem_cons_self
  have checked : (rows.forM fun row =>
      if row.embedding.length = dim then (.ok () : Except Error Unit)
      else .error (.invalidInput ("catalog embedding dimension mismatch: expected " ++ toString dim ++
        ", got " ++ toString row.embedding.length))) = .ok () :=
    except_forM_eq_ok.mpr fun row member => if_pos (sized row member)
  refine ⟨n, { after with writeGen := after.writeGen + 1 }, ?_, same'.duck.trans same.duck, left⟩
  unfold writeCatalogRows
  rw [if_neg (by simpa using filled), Effect.bind_of_ok ran, head,
    Effect.bind_of_ok (show Effect.lift _ opened = (.ok (), opened) by
      rw [Effect.lift_apply, checked]),
    Effect.bind_of_ok (Effect.get_apply opened), Effect.bind_of_ok wrote]
  rfl

/-! ### The writer is ready -/

/-- The database takes every statement, and every waiting batch can be bound. -/
structure Ready (loop : Loop) : Prop where
  idle : loop.writer.rollbackTo = none
  never : ∀ i, loop.writer.duck.rejects i = false
  bindable : ∀ entry ∈ loop.pending.entries, (entry.2.table entry.1).bindable = true

/-- Rows that can be bound do not end the thread. -/
theorem ingestRaw_returns {table : IngestTable} (bindable : table.bindable = true)
    (rows : List (List Cell)) :
    Effect.FailsWith (fun failure => ∀ message, failure ≠ .panicked message)
      (ingestRaw table.system table.entity table.columns rows) :=
  IngestTable.ingestRaw_failsWith (fun _ _ same => nomatch same) (fun _ _ _ same => nomatch same)
    (fun wide => absurd bindable (Bool.eq_false_iff.mp wide)) rows

/-- A flush of a batch that can be bound returns, and touches no catalogue entry. -/
theorem flushKey_ready {key : BatchKey} {loop : Loop} (ready : Ready loop) :
    ∃ after, Loop.flushKey key loop = (.ok (), after) ∧ Ready after ∧
      after.writer.durable.catalog.semanticCatalog = loop.writer.durable.catalog.semanticCatalog := by
  unfold Loop.flushKey
  rw [Effect.bind_of_ok (Effect.get_apply loop)]
  cases found : loop.pending.get key with
  | none => exact ⟨loop, rfl, ready, rfl⟩
  | some batch =>
    have bindable := ready.bindable (key, batch) (SortedMap.get_eq_some.mp found)
    have returns : ∀ message, (ingestRaw key.system key.entity batch.columns batch.rows
        (loop.writer.setTenant batch.tenant)).1 ≠ .error (.panicked message) :=
      fun message failed => ingestRaw_returns bindable batch.rows _ _ _ (Prod.ext failed rfl) message rfl
    have sending := ingestRaw_only key.system key.entity batch.columns batch.rows
      (loop.writer.setTenant batch.tenant)
    have apart : rawName ⟨key.system, key.entity⟩ ++ "'" ≠ rawName ⟨key.system, key.entity⟩ :=
      tenant_ne _
    have kept := sending.keeps _ (undisturbed_visible _ apart
      (loop.writer.durable.catalog.visible (rawName ⟨key.system, key.entity⟩ ++ "'")))
      ⟨rfl, fun saved open_ => by cases ready.idle.symm.trans open_⟩
    obtain ⟨outcome, known, ran⟩ := Loop.flushBatch_returns key batch
      { loop with pending := loop.pending.remove key } returns
    refine ⟨_, Effect.bind_of_ok (show Loop.removePending key loop =
      (.ok (), { loop with pending := loop.pending.remove key }) from rfl) |>.trans
        (Effect.bind_of_ok ran), ⟨sending.idle ready.idle, fun i => ?_, fun entry member => ?_⟩,
          congrArg Visible.semanticCatalog kept.1⟩
    · exact (congrFun (congrArg DuckDb.rejects sending.duck) i).trans (ready.never i)
    · exact ready.bindable entry (SortedMap.mem_remove.mp member).1

theorem flushKeys_ready (keys : List BatchKey) {loop : Loop} (ready : Ready loop) :
    ∃ after, Loop.flushKeys keys loop = (.ok (), after) ∧ Ready after ∧
      after.writer.durable.catalog.semanticCatalog = loop.writer.durable.catalog.semanticCatalog := by
  induction keys generalizing loop with
  | nil => exact ⟨loop, rfl, ready, rfl⟩
  | cons key keys ih =>
    obtain ⟨reached, ran, still, same⟩ := flushKey_ready ready
    obtain ⟨after, rest, last, same'⟩ := ih still
    exact ⟨after, (Effect.bind_of_ok ran).trans rest, last, same'.trans same⟩

theorem flushExpired_ready (ageSecs now : Nat) {loop : Loop} (ready : Ready loop) :
    ∃ after, Loop.flushExpired ageSecs now loop = (.ok (), after) ∧ Ready after ∧
      after.writer.durable.catalog.semanticCatalog = loop.writer.durable.catalog.semanticCatalog := by
  unfold Loop.flushExpired
  split
  · exact ⟨loop, rfl, ready, rfl⟩
  · exact flushKeys_ready _ ready

/-- Entries of one dimension are written by a writer that is ready. -/
theorem submit_writeCatalog {config : MicroBatchConfig} {clock : Loop.Clock} {tenant : String}
    {rows : List CatalogRow} {dim : Nat} {engine : Engine}
    (running : engine.service.status = .running) (ready : Ready engine.service.loop)
    (filled : rows ≠ []) (sized : ∀ row ∈ rows, row.embedding.length = dim) :
    ∃ n after, submitCount config clock (.writeCatalog rows tenant) engine = (.ok n, after) ∧
      after.catalog.semanticCatalog = (addEntries tenant rows engine.catalog).semanticCatalog := by
  obtain ⟨reached, expired, still, same⟩ := flushExpired_ready config.flushAgeSecs clock.now ready
  obtain ⟨n, writer, wrote, duck, left⟩ := writeCatalogRows_accepts
    (show ∀ i, (reached.writer.setTenant tenant).duck.rejects i = false from still.never) filled sized
  have called : Loop.callAs tenant (writeCatalogRows rows) reached =
      (.ok (.ok n), { reached with writer }) := by
    refine Effect.bind_of_ok (show Loop.setTenant tenant reached =
      (.ok (), { reached with writer := reached.writer.setTenant tenant }) from rfl) |>.trans ?_
    unfold Loop.call
    simp only [wrote]
  have served : Loop.serve config clock (.writeCatalog rows tenant) reached =
      (.ok (.count (.ok n)), { reached with writer }) := Effect.bind_of_ok called
  have woken := @Service.wake_served config clock _ _ engine.service _ _ expired served
  have answered : submit config clock (.writeCatalog rows tenant) engine =
      (.ok (.count (.ok n)), { engine with service := ⟨{ reached with writer },
        engine.service.received ++ [.writeCatalog rows tenant],
        engine.service.answered ++ [(.writeCatalog rows tenant, .count (.ok n))],
        engine.service.status⟩ }) := by
    unfold submit
    rw [if_pos running, woken]
    simp only [List.drop_left, List.head?_cons]
    rfl
  refine ⟨n, _, Effect.bind_of_ok answered, ?_⟩
  simp only [Engine.catalog, left, addEntries, Writer.setTenant, same]

/-! ### What an onboarding catalogues -/

/-- The embedding model emits vectors of its dimension. -/
def Sized (models : Models) : Prop :=
  ∀ text vector, models.embed text = .ok vector → vector.length = models.dim

/-- The column of the request's table. -/
def OnboardRequest.column (request : OnboardRequest) (column : String) : ReferencedColumn :=
  ⟨request.system, request.entity, column⟩

section
variable (view : View) (tenant : String) (request : OnboardRequest)

/-- The response and the catalogue are complete. -/
structure CataloguesAccepted (response : OnboardResponse) (after : Engine) : Prop where
  profiled : response.profiled = true
  columns : ∃ source, view (rawName ⟨request.system, request.entity⟩) = some source ∧
    response.columns = Profiler.profiledColumns source
  catalogued : ∀ column ∈ request.columns,
    CataloguedIn (ownEntries tenant after.catalog) (request.column column)
  passes : ∀ guardrails freshness q log, referencedFeatures q = [] →
    (∀ r ∈ referencedColumns q, ∃ column ∈ request.columns, r = request.column column) →
      (enforceCatalogue freshness after.catalog tenant guardrails q log).1 = .ok ()

/-- The profiler finds the table, and each column of the request in it, as the request spells it,
or catalogued before. -/
def Covered (before : Engine) : Prop :=
  ∃ source, Profiler.Profilable view request.system request.entity source ∧
    ∀ column ∈ request.columns, column ∈ Profiler.profiledColumns source ∨
      CataloguedIn (ownEntries tenant before.catalog) (request.column column)

end

section
variable {config : MicroBatchConfig} {profiler : Profiler} {models : Models} {met : Encounter}
  {tenant : String} {request : OnboardRequest} {engine after : Engine} {view : View}
  {source : SourceTable}

/-- The rows a profile brings back are of one dimension. -/
theorem onboard_sized (sized : Sized models) {rows : List CatalogRow} {calls : List ModelCall}
    {system table : String} {now : Int}
    (ran : profiler.onboard models view system table now = .ok (rows, calls)) :
    ∀ row ∈ rows, row.embedding.length = models.dim := by
  have embedded (text : String) : (Profiler.embedding models text).length = models.dim := by
    unfold Profiler.embedding
    cases answered : models.embed text with
    | ok vector => exact sized text vector answered
    | error failure => exact List.length_replicate
  obtain ⟨source, profilable⟩ := Profiler.profilable_of_ok ran
  rw [Profiler.onboard_eq profilable] at ran
  cases ran
  intro row member
  rcases List.mem_cons.mp member with rfl | among
  · exact embedded _
  · obtain ⟨entry, -, rfl⟩ := List.mem_map.mp among
    exact embedded _

/-- The entries a profile of a table comes to. -/
def profileEntries (profiler : Profiler) (models : Models) (met : Encounter)
    (request : OnboardRequest) (source : SourceTable) : List CatalogRow :=
  (Profiler.tableRow models request.system request.entity met.profiledAt
      (Profiler.profiledColumns source) ::
    (profiler.profiled source).map fun entry => Profiler.columnRow models request.system
      request.entity met.profiledAt entry.1 entry.2).map
    fun row => { row with sourceEpoch := met.epoch }

theorem profileEntries_columns :
    (profileEntries profiler models met request source).filterMap CatalogRow.columnName =
      Profiler.profiledColumns source := by
  rw [profileEntries, List.map_cons, List.filterMap_cons_none rfl, List.map_map, List.filterMap_map,
    Profiler.profiled, List.filterMap_map]
  exact List.filterMap_some

/-- An entry describes its column of the table. -/
theorem cataloguedIn_profileEntries {column : String} :
    CataloguedIn ((profileEntries profiler models met request source).map fun row =>
        ⟨row, some tenant⟩) (request.column column) ↔
      column ∈ Profiler.profiledColumns source := by
  rw [← @profileEntries_columns profiler models met request source, List.mem_filterMap]
  constructor
  · rintro ⟨stored, member, -, named⟩
    obtain ⟨row, among, rfl⟩ := List.mem_map.mp member
    exact ⟨row, among, named⟩
  · rintro ⟨row, among, named⟩
    refine ⟨_, List.mem_map_of_mem among, ?_, named⟩
    obtain ⟨unstamped, profiled, rfl⟩ := List.mem_map.mp among
    rcases List.mem_cons.mp profiled with rfl | columned
    · cases named
    · obtain ⟨entry, -, rfl⟩ := List.mem_map.mp columned
      simp [describes, OnboardRequest.column, Profiler.columnRow]

/-- A table that can be profiled is catalogued with all its columns. -/
theorem catalogueSource_profiled (sized : Sized models) (inTime : met.view = some view)
    (profilable : Profiler.Profilable view request.system request.entity source)
    (running : (met.others engine).service.status = .running)
    (ready : Ready (met.others engine).service.loop) :
    ∃ after, catalogueSource config profiler models met tenant request engine =
        (.ok (true, Profiler.profiledColumns source), after) ∧
      after.catalog.semanticCatalog = (addEntries tenant
        (profileEntries profiler models met request source) (met.others engine).catalog).semanticCatalog := by
  have ran := @Profiler.onboard_eq profiler models view request.system request.entity met.profiledAt
    source profilable
  have entries := onboard_sized sized ran
  obtain ⟨n, after, submitted, stored⟩ := @submit_writeCatalog config met.writtenAt tenant
    (profileEntries profiler models met request source) models.dim (met.others engine) running ready
    (List.cons_ne_nil _ _) fun row member => by
      obtain ⟨unstamped, profiled, rfl⟩ := List.mem_map.mp member
      exact entries unstamped profiled
  refine ⟨after, ?_, stored⟩
  have columns := @profileEntries_columns profiler models met request source
  unfold profileEntries at submitted columns
  unfold catalogueSource
  rw [Effect.bind_of_ok (Effect.modify_apply _ _), inTime]
  dsimp only
  rw [ran]
  dsimp only
  rw [Effect.bind_of_ok (Effect.attempt_apply _ _), submitted]
  dsimp only
  rw [columns, Effect.pure_apply]

/-- The tenant's entries are those it had and the new ones. -/
theorem ownEntries_addEntries {rows : List CatalogRow} {before : Engine}
    (stored : after.catalog.semanticCatalog =
      (addEntries tenant rows before.catalog).semanticCatalog) :
    ownEntries tenant after.catalog =
      ownEntries tenant before.catalog ++ rows.map fun row => ⟨row, some tenant⟩ := by
  have own : (rows.map fun row => (⟨row, some tenant⟩ : StoredCatalogRow)).filter
      (fun stored => stored.tenantId == some tenant) = rows.map fun row => ⟨row, some tenant⟩ := by
    refine List.filter_eq_self.mpr fun entry member => ?_
    obtain ⟨row, -, rfl⟩ := List.mem_map.mp member
    exact beq_self_eq_true _
  unfold ownEntries
  rw [stored, addEntries, Option.getD_some, List.filter_append, own]

theorem cataloguedIn_append {first second : List StoredCatalogRow} {r : ReferencedColumn} :
    CataloguedIn (first ++ second) r ↔ CataloguedIn first r ∨ CataloguedIn second r := by
  simp only [CataloguedIn, List.mem_append, or_and_right, exists_or]

/-- A query over catalogued columns passes. -/
theorem enforceCatalogue_passes {catalog : Catalog}
    (catalogued : ∀ column ∈ request.columns,
      CataloguedIn (ownEntries tenant catalog) (request.column column))
    (guardrails : GuardrailConfig) (freshness : FreshnessRegistry) (q : SegmentQuery)
    (log : List StaleCatalogue) (featureless : referencedFeatures q = [])
    (asked : ∀ r ∈ referencedColumns q, ∃ column ∈ request.columns, r = request.column column) :
    (enforceCatalogue freshness catalog tenant guardrails q log).1 = .ok () := by
  have own : ∀ r ∈ referencedColumns q, CataloguedIn (ownEntries tenant catalog) r := by
    intro r member
    obtain ⟨column, inside, rfl⟩ := asked r member
    exact catalogued column inside
  cases on : guardrails.enforceCatalogue with
  | false =>
    unfold enforceCatalogue
    rw [if_neg (Bool.eq_false_iff.mp on)]
    rfl
  | true =>
    obtain ⟨r, member⟩ := List.exists_mem_of_ne_nil _ (referencedColumns_ne_nil q)
    obtain ⟨rows, present, sub⟩ := present_of_own (own r member)
    rw [enforceCatalogue_outcome on, verdict_of_catalogued present fun r member =>
      (own r member).mono sub, featureless]
    rfl

/-- The engine an onboarding finds when it writes its entries. -/
def beforeCatalogue (config : MicroBatchConfig) (met : Encounter) (tenant : String)
    (request : OnboardRequest) (engine : Engine) : Engine :=
  met.others (acceptRows config met tenant request engine).2

end

/-! ### An order that waits -/

/-- Models that always answer. -/
def answering : Models := { stubModels with dim := 1, embed := fun _ => .ok [0] }

theorem answering_sized : Sized answering := by
  intro text vector answered
  cases answered
  rfl

/-- An onboarding whose profile sees these tables. -/
def seeing (view : View) : Encounter := { alone with view := some view }

def ordersTable : View := fun name =>
  if name = "raw_crm_orders" then some ⟨["user_id", "sku", "tenant_id"], []⟩ else none

/-- The engine once the order waits. -/
def orderAccepted : Engine :=
  (acceptRows Service.pairs (seeing ordersTable) "acme" (orderRequest none) freshEngine).2

theorem orderAccepted_ready : Ready orderAccepted.service.loop :=
  ⟨rfl, fun _ => rfl, fun entry member => by
    rw [List.mem_singleton.mp member]
    rfl⟩

end ConsumerEngine.Ingress
