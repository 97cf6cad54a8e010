import ConsumerEngine.Storage.Sessions

/-! What a session can do to the stored state, told from the statements it may send. -/

set_option autoImplicit false

namespace ConsumerEngine.Storage

open ConsumerEngine.Core ConsumerEngine.Foundation

/-- A fact about what is stored now and about what a ROLLBACK would bring back. -/
def Writer.Keeps (fact : Durable → Prop) (writer : Writer) : Prop :=
  fact writer.durable ∧ ∀ saved, writer.rollbackTo = some saved → fact saved

/-- A fact that the allowed statements do not disturb. -/
def Undisturbed (duck : DuckDb) (allowed : Statement → Prop) (fact : Durable → Prop) : Prop :=
  ∀ durable statement affected catalog, allowed statement → fact durable →
    statement.apply duck durable.catalog = .ok (affected, catalog) →
      fact ⟨catalog, durable.history ++ [statement]⟩

/-- Only allowed statements were sent between the two writers, and no transaction was
left open. -/
structure Sending (allowed : Statement → Prop) (before after : Writer) : Prop where
  duck : after.duck = before.duck
  closed : after.rollbackTo = before.rollbackTo ∨ after.rollbackTo = none
  keeps : ∀ fact, Undisturbed before.duck allowed fact → before.Keeps fact → after.Keeps fact

/-- However the session ends, it sent only allowed statements. -/
abbrev OnlySends {α : Type} (allowed : Statement → Prop) (act : Session α) : Prop :=
  Effect.Within (Sending allowed) act

instance (allowed : Statement → Prop) : IsPreorder Writer (Sending allowed) where
  refl _ := ⟨rfl, Or.inl rfl, fun _ _ keeps => keeps⟩
  trans _ _ _ first second :=
    ⟨second.duck.trans first.duck, second.closed.elim
      (fun same => first.closed.imp same.trans same.trans) Or.inr, fun fact undisturbed keeps =>
        second.keeps fact (by rw [first.duck]; exact undisturbed)
          (first.keeps fact undisturbed keeps)⟩

theorem Sending.idle {allowed : Statement → Prop} {before after : Writer}
    (sending : Sending allowed before after) (idle : before.rollbackTo = none) :
    after.rollbackTo = none := sending.closed.elim (fun same => same.trans idle) id

namespace OnlySends

variable {α β : Type} {allowed : Statement → Prop}

theorem mono {wider : Statement → Prop} (implied : ∀ statement, allowed statement → wider statement)
    {act : Session α} (only : OnlySends allowed act) : OnlySends wider act := fun writer =>
  ⟨(only writer).duck, (only writer).closed, fun fact undisturbed => (only writer).keeps fact
    fun durable statement affected catalog allows =>
      undisturbed durable statement affected catalog (implied statement allows)⟩

/-- A step that leaves the stored state and the saved one alone sends nothing. -/
theorem of_same {act : Session α} (same : ∀ writer, (act writer).2.duck = writer.duck ∧
    (act writer).2.durable = writer.durable ∧ (act writer).2.rollbackTo = writer.rollbackTo) :
    OnlySends allowed act := by
  intro writer
  obtain ⟨duck, durable, saved⟩ := same writer
  refine ⟨duck, Or.inl saved, fun fact _ keeps => ?_⟩
  rw [Writer.Keeps, durable, saved]
  exact keeps

theorem ensure (condition : Bool) (failure : Error) :
    OnlySends allowed (ensure condition failure) := by
  unfold Storage.ensure
  split
  · exact Effect.Within.pure ()
  · exact Effect.Within.throw failure

theorem execute {statement : Statement} (allows : allowed statement) :
    OnlySends allowed (execute statement) := by
  intro writer
  rcases execute_cases statement writer with ⟨failure, ran⟩ | ⟨affected, catalog, -, applied, ran⟩
  · rw [ran]
    exact ⟨rfl, Or.inl rfl, fun _ _ keeps => keeps⟩
  · rw [ran]
    exact ⟨rfl, Or.inl rfl, fun fact undisturbed keeps =>
      ⟨undisturbed _ _ _ _ allows keeps.1 applied, keeps.2⟩⟩

theorem executeAll {statements : List Statement} (allows : ∀ statement ∈ statements,
    allowed statement) : OnlySends allowed (executeAll statements) := by
  have sending (affected : Nat) : OnlySends allowed (executeFrom affected statements) := by
    induction statements generalizing affected with
    | nil => exact Effect.Within.pure affected
    | cons statement rest ih =>
      exact Effect.Within.bind (execute (allows statement (by simp))) fun n =>
        ih (fun other member => allows other (List.mem_cons_of_mem _ member)) (affected + n)
  exact sending 0

theorem read (query : Catalog → Except String α) : OnlySends allowed (read query) := by
  refine of_same fun writer => ?_
  unfold Storage.read
  cases writer.duck.rejects writer.issued with
  | true => exact ⟨rfl, rfl, rfl⟩
  | false =>
    simp only [Bool.false_eq_true, if_false]
    cases query writer.durable.catalog <;> exact ⟨rfl, rfl, rfl⟩

theorem bumpWrite : OnlySends allowed bumpWrite := of_same fun _ => ⟨rfl, rfl, rfl⟩

/-- Going back to what is saved keeps every fact about it. -/
private theorem keeps_committed {fact : Durable → Prop} {writer : Writer}
    (keeps : writer.Keeps fact) : fact writer.committed := by
  unfold Writer.committed
  cases saved : writer.rollbackTo with
  | none => exact keeps.1
  | some durable => exact keeps.2 durable saved

private theorem keeps_begun {fact : Durable → Prop} {writer : Writer} (keeps : writer.Keeps fact) :
    writer.begun.Keeps fact :=
  ⟨keeps.1, fun saved same => by cases same; exact keeps.1⟩

/-- A transaction sends what its body sends, and ends. -/
theorem transaction {body : Session α} (only : OnlySends allowed body) :
    OnlySends allowed (transaction body) := by
  intro writer
  cases begins : writer.duck.rejects writer.issued with
  | true =>
    rw [transaction_unbegun begins]
    exact ⟨rfl, Or.inl rfl, fun _ _ keeps => keeps⟩
  | false =>
    have inside := only writer.begun
    simp only [Storage.transaction, Effect.bind_apply, beginTransaction_taken begins,
      Effect.attempt_apply]
    rcases ran : body writer.begun with ⟨outcome, reached⟩
    rw [ran] at inside
    obtain ⟨duck, -, keeps⟩ := inside
    cases outcome with
    | error failure =>
      exact ⟨duck, Or.inr rfl, fun fact undisturbed kept =>
        ⟨keeps_committed (keeps fact undisturbed (keeps_begun kept)), fun _ none => by cases none⟩⟩
    | ok result =>
      cases commits : reached.duck.rejects reached.issued with
      | true =>
        simp only [Effect.bind_apply, commit, commits, if_true]
        exact ⟨duck, Or.inr rfl, fun fact undisturbed kept =>
          ⟨keeps_committed (keeps fact undisturbed (keeps_begun kept)),
            fun _ none => by cases none⟩⟩
      | false =>
        simp only [Effect.bind_apply, commit, commits, Bool.false_eq_true, if_false]
        exact ⟨duck, Or.inr rfl, fun fact undisturbed kept =>
          ⟨(keeps fact undisturbed (keeps_begun kept)).1, fun _ none => by cases none⟩⟩

end OnlySends

/-! ### The operations of the writer -/

/-- Statements that leave every raw table alone. -/
def Statement.Aside (statement : Statement) : Prop := statement.touchesRaw = false

/-- Statements about one of the engine's own tables, or about no table. -/
def Statement.About (table : EngineTable) : Statement → Prop
  | .createEngine other | .addEngineTenant other => other = table
  | .mergeOffset _ => table = .cdcOffsets
  | .insertFeatures .. | .createView .. => table = .featureStore
  | .insertCatalogRow .. => table = .semanticCatalog
  | .insertSuppression .. => table = .suppression
  | .insertSnapshot .. => table = .audienceSnapshot
  | .maintenance _ => True
  | _ => False

/-- Statements that append no rows to a raw table. -/
def Statement.KeepsInserts : Statement → Prop
  | .insertRaw .. => False
  | _ => True

/-- Statements about the raw table of this name, or about the offsets of the CDC sources. -/
def Statement.Touches (name : String) : Statement → Prop
  | .createRaw into _ | .addTenantColumn into | .insertRaw into .. | .mergeUpsert into .. |
    .mergeDelete into .. => rawName into = name
  | .createEngine .cdcOffsets | .mergeOffset _ => True
  | _ => False

/-- Statements of a keyed write of one dataset. -/
def Statement.Keyed (dataset : Dataset) (statement : Statement) : Prop :=
  statement.KeepsInserts ∧ statement.Touches (rawName dataset)

private theorem exceptBind_eq_ok {α β : Type} {first : Except String α}
    {next : α → Except String β} {result : β} (ran : (first >>= next) = .ok result) :
    ∃ value, first = .ok value ∧ next value = .ok result := by
  cases first with
  | error message => cases ran
  | ok value => exact ⟨value, rfl, ran⟩

theorem presentIf_eq_ok {α : Type} {stored : Option (List α)} {rows : List α} :
    presentIf stored = .ok rows ↔ stored = some rows := by
  cases stored <;> simp [presentIf]

theorem Statement.Aside.apply_raw {statement : Statement} (aside : statement.Aside) {duck : DuckDb}
    {catalog after : Catalog} {affected : Nat}
    (applied : statement.apply duck catalog = .ok (affected, after)) : after.raw = catalog.raw := by
  cases statement with
  | createRaw | addTenantColumn | insertRaw | mergeUpsert | mergeDelete => cases aside
  | createEngine table => cases table <;> cases applied <;> rfl
  | addEngineTenant table =>
    cases applied
    rfl
  | maintenance sql =>
    cases applied
    rfl
  | mergeOffset row =>
    obtain ⟨rows, -, rest⟩ := exceptBind_eq_ok applied
    split at rest <;>
    · cases rest
      rfl
  | insertFeatures rows tenant =>
    obtain ⟨stored, -, rest⟩ := exceptBind_eq_ok applied
    obtain ⟨added, -, rest⟩ := exceptBind_eq_ok rest
    cases rest
    rfl
  | createView family shorts =>
    obtain ⟨stored, -, rest⟩ := exceptBind_eq_ok applied
    cases rest
    rfl
  | insertCatalogRow row tenant =>
    obtain ⟨stored, -, rest⟩ := exceptBind_eq_ok applied
    cases rest
    rfl
  | insertSuppression row tenant =>
    obtain ⟨stored, -, rest⟩ := exceptBind_eq_ok applied
    obtain ⟨added, -, rest⟩ := exceptBind_eq_ok rest
    split at rest <;>
    · cases rest
      rfl
  | insertSnapshot sql params =>
    obtain ⟨stored, -, rest⟩ := exceptBind_eq_ok applied
    obtain ⟨selected, -, rest⟩ := exceptBind_eq_ok rest
    cases rest
    rfl

/-- What a query on one dataset can read: its raw table and the engine's own tables. -/
structure Visible where
  raw : Option RawTable
  featureStore : Option (List StoredFeature)
  featureViews : List (String × List String)
  semanticCatalog : Option (List StoredCatalogRow)
  suppression : Option (List StoredSuppression)
  audienceSnapshot : Option (List (List Value))

def Catalog.visible (catalog : Catalog) (name : String) : Visible :=
  ⟨catalog.raw name, catalog.featureStore, catalog.featureViews, catalog.semanticCatalog,
    catalog.suppression, catalog.audienceSnapshot⟩

theorem Catalog.visible_setRaw (catalog : Catalog) {name other : String} (table : RawTable)
    (apart : other ≠ name) : (catalog.setRaw name table).visible other = catalog.visible other := by
  rw [visible, catalog.setRaw_of_ne table apart]
  rfl

theorem Statement.Touches.apply_visible {name other : String} (apart : other ≠ name)
    {statement : Statement} (touches : statement.Touches name) {duck : DuckDb}
    {catalog after : Catalog} {affected : Nat}
    (applied : statement.apply duck catalog = .ok (affected, after)) :
    after.visible other = catalog.visible other := by
  cases statement with
  | createRaw into columns =>
    simp only [Statement.apply] at applied
    split at applied
    · cases applied
      rfl
    · split at applied
      · cases applied
        exact catalog.visible_setRaw _ (touches ▸ apart)
      · cases applied
  | addTenantColumn into =>
    obtain ⟨found, -, rest⟩ := exceptBind_eq_ok applied
    split at rest
    · cases rest
      rfl
    · cases rest
      exact catalog.visible_setRaw _ (touches ▸ apart)
  | insertRaw into columns count params =>
    obtain ⟨found, -, rest⟩ := exceptBind_eq_ok applied
    split at rest
    · obtain ⟨tuples, -, rest⟩ := exceptBind_eq_ok rest
      cases rest
      exact catalog.visible_setRaw _ (touches ▸ apart)
    · cases rest
  | mergeUpsert into columns key count params =>
    obtain ⟨found, -, rest⟩ := exceptBind_eq_ok applied
    split at rest
    · obtain ⟨tuples, -, rest⟩ := exceptBind_eq_ok rest
      cases rest
      exact catalog.visible_setRaw _ (touches ▸ apart)
    · cases rest
  | mergeDelete into key keys tenant =>
    obtain ⟨found, -, rest⟩ := exceptBind_eq_ok applied
    split at rest
    · cases rest
      exact catalog.visible_setRaw _ (touches ▸ apart)
    · cases rest
  | createEngine table =>
    cases table with
    | cdcOffsets =>
      cases applied
      rfl
    | _ => cases touches
  | mergeOffset row =>
    obtain ⟨rows, -, rest⟩ := exceptBind_eq_ok applied
    split at rest <;>
    · cases rest
      rfl
  | _ => cases touches

theorem undisturbed_visible (duck : DuckDb) {name other : String} (apart : other ≠ name)
    (visible : Visible) : Undisturbed duck (Statement.Touches name) fun durable =>
      durable.catalog.visible other = visible :=
  fun _ _ _ _ touches same applied => (touches.apply_visible apart applied).trans same

theorem undisturbed_raw (duck : DuckDb) (raw : String → Option RawTable) :
    Undisturbed duck Statement.Aside fun durable => durable.catalog.raw = raw :=
  fun _ _ _ _ aside same applied => (aside.apply_raw applied).trans same

theorem Statement.Aside.keepsInserts {statement : Statement} (aside : statement.Aside) :
    statement.KeepsInserts := by
  cases statement <;> trivial

theorem Statement.About.aside {table : EngineTable} {statement : Statement}
    (about : statement.About table) : statement.Aside := by
  cases statement with
  | createRaw | addTenantColumn | insertRaw | mergeUpsert | mergeDelete => cases about
  | _ => rfl

theorem ensureEngineTable_about (table : EngineTable) :
    OnlySends (Statement.About table) (ensureEngineTable table) := by
  refine Effect.Within.bind (OnlySends.execute rfl) fun _ => ?_
  exact Effect.Within.bind (OnlySends.execute rfl) fun _ => Effect.Within.pure ()

theorem insertChunked_only {ρ : Type} {statement : List ρ → Statement}
    {allowed : Statement → Prop} (allows : ∀ piece, allowed (statement piece)) (cols : Nat) (rows : List ρ) :
    OnlySends allowed (insertChunked cols rows statement) := by
  unfold insertChunked
  split
  · exact Effect.Within.pure 0
  · dsimp only
    split
    · exact Effect.Within.throw _
    · refine OnlySends.executeAll fun sent member => ?_
      obtain ⟨piece, -, rfl⟩ := List.mem_map.mp member
      exact allows piece

theorem writeFeatureRows_about (rows : List FeatureRow) :
    OnlySends (Statement.About .featureStore) (writeFeatureRows rows) := by
  unfold writeFeatureRows
  split
  · exact Effect.Within.pure 0
  · refine Effect.Within.bind (Effect.Within.lift _) fun _ => ?_
    refine Effect.Within.bind (ensureEngineTable_about _) fun _ => ?_
    exact Effect.Within.bind Effect.Within.get fun _ => insertChunked_only (fun _ => Eq.refl EngineTable.featureStore) 6 rows

theorem featureShortNames_about (family : String) :
    OnlySends (Statement.About .featureStore) (featureShortNames family) := by
  refine Effect.Within.bind (Effect.Within.lift _) fun _ => ?_
  exact Effect.Within.bind (ensureEngineTable_about _) fun _ => OnlySends.read _

theorem refreshFeatureWideView_about (family : String) (shorts : List String) :
    OnlySends (Statement.About .featureStore) (refreshFeatureWideView family shorts) := by
  refine Effect.Within.bind (Effect.Within.lift _) fun _ => ?_
  split
  · exact Effect.Within.pure ()
  · refine Effect.Within.bind (ensureEngineTable_about _) fun _ => ?_
    refine Effect.Within.bind (Effect.Within.lift _) fun _ => ?_
    exact Effect.Within.bind (OnlySends.execute rfl) fun _ => Effect.Within.pure ()

theorem writeFeaturesAndRefresh_about (rows : List FeatureRow) :
    OnlySends (Statement.About .featureStore) (writeFeaturesAndRefresh rows) := by
  unfold writeFeaturesAndRefresh
  split
  · exact Effect.Within.pure 0
  · refine OnlySends.transaction (Effect.Within.bind (writeFeatureRows_about rows) fun _ => ?_)
    refine Effect.Within.bind (Effect.Within.lift _) fun families => ?_
    refine Effect.Within.bind (Effect.Within.foldlM (fun _ entry => ?_) _ _) fun _ =>
      Effect.Within.pure _
    exact Effect.Within.bind (featureShortNames_about _) fun _ => refreshFeatureWideView_about _ _

theorem writeCatalogRows_about (rows : List CatalogRow) :
    OnlySends (Statement.About .semanticCatalog) (writeCatalogRows rows) := by
  unfold writeCatalogRows
  split
  · exact Effect.Within.pure 0
  · refine Effect.Within.bind (ensureEngineTable_about _) fun _ => ?_
    refine Effect.Within.bind (Effect.Within.lift _) fun _ => ?_
    refine Effect.Within.bind Effect.Within.get fun writer => ?_
    refine Effect.Within.bind (OnlySends.executeAll fun sent member => ?_) fun _ =>
      Effect.Within.bind OnlySends.bumpWrite fun _ => Effect.Within.pure _
    obtain ⟨row, -, rfl⟩ := List.mem_map.mp member
    rfl

theorem writeSuppressionIdempotent_about (rows : List SuppressionRow) :
    OnlySends (Statement.About .suppression) (writeSuppressionIdempotent rows) := by
  unfold writeSuppressionIdempotent
  split
  · exact Effect.Within.pure 0
  · refine Effect.Within.bind (ensureEngineTable_about _) fun _ => ?_
    refine Effect.Within.bind Effect.Within.get fun writer => ?_
    refine Effect.Within.bind (OnlySends.executeAll fun sent member => ?_) fun _ =>
      Effect.Within.bind OnlySends.bumpWrite fun _ => Effect.Within.pure _
    obtain ⟨row, -, rfl⟩ := List.mem_map.mp member
    rfl

theorem materializeSnapshot_about (subquerySql : String) (subqueryParams : List Value)
    (keyColumn : String) (spec : SnapshotSpec) :
    OnlySends (Statement.About .audienceSnapshot) (materializeSnapshot subquerySql subqueryParams keyColumn spec) := by
  refine Effect.Within.bind (Effect.Within.lift _) fun _ => ?_
  refine Effect.Within.bind (ensureEngineTable_about _) fun _ => ?_
  refine Effect.Within.bind Effect.Within.get fun writer => ?_
  exact Effect.Within.bind (OnlySends.execute rfl) fun _ =>
    Effect.Within.bind OnlySends.bumpWrite fun _ => Effect.Within.pure _

theorem exportSnapshotParquet_about (table : EngineTable) (snapshotId dest : String) :
    OnlySends (Statement.About table) (exportSnapshotParquet snapshotId dest) :=
  Effect.Within.bind (OnlySends.execute trivial) fun _ => Effect.Within.pure ()

theorem compact_about (table : EngineTable) (system entity : String) :
    OnlySends (Statement.About table) (compact system entity) := by
  refine Effect.Within.bind (Effect.Within.lift _) fun _ => ?_
  exact Effect.Within.bind (OnlySends.execute trivial) fun _ => OnlySends.bumpWrite

theorem maintain_about (table : EngineTable) (procedure : String) (retentionDays : Nat) :
    OnlySends (Statement.About table) (maintain procedure retentionDays) := by
  have probes : OnlySends (Statement.About table) probeMaintenance := by
    refine Effect.Within.bind Effect.Within.get fun writer => ?_
    split
    · exact Effect.Within.pure ()
    · refine Effect.Within.bind (Effect.Within.attempt (OnlySends.execute trivial)) fun outcome => ?_
      exact OnlySends.of_same fun _ => ⟨rfl, rfl, rfl⟩
  refine Effect.Within.bind probes fun _ => Effect.Within.bind Effect.Within.get fun writer => ?_
  split
  · exact Effect.Within.bind (OnlySends.execute trivial) fun _ => OnlySends.bumpWrite
  · exact Effect.Within.pure ()

theorem readCdcOffsets_about (source : String) :
    OnlySends (Statement.About .cdcOffsets) (readCdcOffsets source) :=
  Effect.Within.bind (OnlySends.execute rfl) fun _ => OnlySends.read _

section
variable {α : Type} {act : Session α} {table : EngineTable}

theorem OnlySends.aside (about : OnlySends (Statement.About table) act) :
    OnlySends Statement.Aside act := about.mono fun _ => Statement.About.aside

end

theorem writeFeaturesAndRefresh_only (rows : List FeatureRow) :
    OnlySends Statement.Aside (writeFeaturesAndRefresh rows) := (writeFeaturesAndRefresh_about rows).aside

theorem writeCatalogRows_only (rows : List CatalogRow) :
    OnlySends Statement.Aside (writeCatalogRows rows) := (writeCatalogRows_about rows).aside

theorem writeSuppressionIdempotent_only (rows : List SuppressionRow) :
    OnlySends Statement.Aside (writeSuppressionIdempotent rows) :=
  (writeSuppressionIdempotent_about rows).aside

theorem materializeSnapshot_only (subquerySql : String) (subqueryParams : List Value)
    (keyColumn : String) (spec : SnapshotSpec) :
    OnlySends Statement.Aside (materializeSnapshot subquerySql subqueryParams keyColumn spec) :=
  (materializeSnapshot_about _ _ _ _).aside

theorem exportSnapshotParquet_only (snapshotId dest : String) :
    OnlySends Statement.Aside (exportSnapshotParquet snapshotId dest) :=
  (exportSnapshotParquet_about .audienceSnapshot snapshotId dest).aside

theorem compact_only (system entity : String) : OnlySends Statement.Aside (compact system entity) :=
  (compact_about .audienceSnapshot system entity).aside

theorem maintain_only (procedure : String) (retentionDays : Nat) :
    OnlySends Statement.Aside (maintain procedure retentionDays) :=
  (maintain_about .audienceSnapshot procedure retentionDays).aside

theorem readCdcOffsets_only (source : String) :
    OnlySends Statement.Aside (readCdcOffsets source) := (readCdcOffsets_about source).aside

/-! ### The keyed writes -/

theorem rawTableName_eq_ok {system entity : String} {dataset : Dataset} :
    rawTableName system entity = .ok dataset ↔
      isIdent system = true ∧ isIdent entity = true ∧ dataset = ⟨system, entity⟩ := by
  rw [← validateIdent_eq_ok, ← validateIdent_eq_ok, rawTableName]
  cases validateIdent system with
  | error failure => simp [bind, Except.bind]
  | ok =>
    cases validateIdent entity with
    | error failure => simp [bind, Except.bind]
    | ok => simp [bind, Except.bind, pure, Except.pure, eq_comm]

theorem OnlySends.ofTableName {α : Type} {allowed : Statement → Prop} {system entity : String}
    {next : Dataset → Session α} (only : OnlySends allowed (next ⟨system, entity⟩)) :
    OnlySends allowed (Effect.lift (rawTableName system entity) >>= next) := by
  intro writer
  cases named : rawTableName system entity with
  | error failure =>
    rw [Effect.bind_of_error (Effect.lift_apply _ _)]
    exact refl_of (Sending allowed) writer
  | ok table =>
    rw [Effect.bind_of_ok (Effect.lift_apply _ _)]
    obtain ⟨-, -, rfl⟩ := rawTableName_eq_ok.mp named
    exact only writer

theorem ensureRawTable_only (table : Dataset) (columns : List String) :
    OnlySends (Statement.Keyed table) (ensureRawTable table columns) :=
  Effect.Within.bind (OnlySends.execute ⟨trivial, rfl⟩) fun _ =>
    Effect.Within.bind (OnlySends.execute ⟨trivial, rfl⟩) fun _ => Effect.Within.pure ()

theorem mergeUpserts_only (table : Dataset) (columns : List String) (key : String)
    (deduped : List (List Cell)) :
    OnlySends (Statement.Keyed table) (mergeUpserts table columns key deduped) := by
  refine Effect.Within.bind Effect.Within.get fun writer => OnlySends.executeAll fun sent member => ?_
  obtain ⟨piece, -, rfl⟩ := List.mem_map.mp member
  exact ⟨trivial, rfl⟩

theorem mergeDeletes_only (table : Dataset) (key : String) (keys : List String) :
    OnlySends (Statement.Keyed table) (mergeDeletes table key keys) := by
  refine Effect.Within.bind Effect.Within.get fun writer => OnlySends.executeAll fun sent member => ?_
  obtain ⟨piece, -, rfl⟩ := List.mem_map.mp member
  exact ⟨trivial, rfl⟩

theorem upsertRaw_only (system entity : String) (columns : List String) (key : String)
    (rows : List (List Cell)) :
    OnlySends (Statement.Keyed ⟨system, entity⟩) (upsertRaw system entity columns key rows) := by
  refine Effect.Within.bind (OnlySends.ensure _ _) fun _ => ?_
  refine Effect.Within.bind (Effect.Within.lift _) fun _ => ?_
  refine Effect.Within.bind (Effect.Within.lift _) fun _ => ?_
  refine Effect.Within.bind (OnlySends.ensure _ _) fun _ => OnlySends.ofTableName ?_
  refine Effect.Within.bind (ensureRawTable_only _ columns) fun _ => ?_
  split
  · exact Effect.Within.pure 0
  · exact Effect.Within.bind (mergeUpserts_only _ columns key _) fun _ =>
      Effect.Within.bind OnlySends.bumpWrite fun _ => Effect.Within.pure _

theorem deleteRaw_only (system entity key : String) (keys : List String) :
    OnlySends (Statement.Keyed ⟨system, entity⟩) (deleteRaw system entity key keys) := by
  refine Effect.Within.bind (Effect.Within.lift _) fun _ => OnlySends.ofTableName ?_
  split
  · exact Effect.Within.pure 0
  · exact Effect.Within.bind (mergeDeletes_only _ key keys) fun _ =>
      Effect.Within.bind OnlySends.bumpWrite fun _ => Effect.Within.pure _

theorem applyCdcBatch_only (system entity : String) (columns : List String) (key : String)
    (upserts : List (List Cell)) (deletes : List String) (offsets : List (Int × Int))
    (updatedAt : String) : OnlySends (Statement.Keyed ⟨system, entity⟩)
      (applyCdcBatch system entity columns key upserts deletes offsets updatedAt) := by
  refine Effect.Within.bind (OnlySends.ensure _ _) fun _ => ?_
  refine Effect.Within.bind (Effect.Within.lift _) fun _ => ?_
  refine Effect.Within.bind (Effect.Within.lift _) fun _ => ?_
  refine Effect.Within.bind (OnlySends.ensure _ _) fun _ => OnlySends.ofTableName ?_
  refine OnlySends.transaction ?_
  refine Effect.Within.bind (ensureRawTable_only _ columns) fun _ => ?_
  refine Effect.Within.bind (OnlySends.execute ⟨trivial, trivial⟩) fun _ => ?_
  refine Effect.Within.bind (mergeUpserts_only _ columns key _) fun _ => ?_
  refine Effect.Within.bind (mergeDeletes_only _ key deletes) fun _ => ?_
  refine Effect.Within.bind (OnlySends.executeAll fun sent member => ?_) fun _ => Effect.Within.pure _
  obtain ⟨offset, -, rfl⟩ := List.mem_map.mp member
  exact ⟨trivial, trivial⟩

/-- An ingest touches the table of its dataset only. -/
theorem ingestRaw_only (system entity : String) (columns : List String) (rows : List (List Cell)) :
    OnlySends (Statement.Touches (rawName ⟨system, entity⟩)) (ingestRaw system entity columns rows) := by
  refine Effect.Within.bind (OnlySends.ensure _ _) fun _ => ?_
  refine Effect.Within.bind (Effect.Within.lift _) fun _ => OnlySends.ofTableName ?_
  refine Effect.Within.bind ((ensureRawTable_only _ columns).mono fun _ => And.right) fun _ => ?_
  split
  · exact Effect.Within.pure 0
  · refine Effect.Within.bind Effect.Within.get fun writer => ?_
    refine Effect.Within.bind (insertChunked_only (fun _ => by exact rfl) _ rows) fun _ => ?_
    exact Effect.Within.bind OnlySends.bumpWrite fun _ => Effect.Within.pure _

/-! ### Rows appended to raw tables -/

/-- One row as an insert binds it: its table, the columns listed, the cells under them. -/
structure Placed where
  into : Dataset
  columns : List String
  cells : List Cell

/-- The stored form of an appended row. -/
def Placed.row (placed : Placed) : RawRow := rowOf placed.columns placed.cells

/-- The rows a statement appends when it is taken. -/
def Statement.appended : Statement → List Placed
  | .insertRaw into columns count params =>
      match bindTuples columns.length count params with
      | .ok tuples => tuples.map fun cells => ⟨into, columns, cells⟩
      | .error _ => []
  | _ => []

/-- Every row that was ever appended to a raw table. -/
def appended (history : List Statement) : Multiset Placed :=
  (history.flatMap Statement.appended : List Placed)

@[simp] theorem appended_append (first second : List Statement) :
    appended (first ++ second) = appended first + appended second := by
  rw [appended, List.flatMap_append]
  rfl

@[simp] theorem appended_singleton (statement : Statement) :
    appended [statement] = (statement.appended : Multiset Placed) := by
  simp [appended]

theorem Statement.KeepsInserts.appended {statement : Statement} (keeps : statement.KeepsInserts) :
    statement.appended = [] := by
  cases statement <;> trivial

theorem undisturbed_appended (duck : DuckDb) (all : Multiset Placed) :
    Undisturbed duck Statement.KeepsInserts fun durable => appended durable.history = all := by
  intro durable statement affected catalog keeps same _
  rw [appended_append, appended_singleton, keeps.appended, same]
  exact Multiset.add_zero all

end ConsumerEngine.Storage
