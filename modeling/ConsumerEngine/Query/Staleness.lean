import ConsumerEngine.Query.Enforcement
import ConsumerEngine.Semantic.Versions

/-! When a query is warned about a stale catalogue.

The documentation warns about each column a query references; the check compares the newest entry
of the whole table with the ingest of the table.
-/

set_option autoImplicit false

namespace ConsumerEngine.Query

open ConsumerEngine.Core ConsumerEngine.Foundation ConsumerEngine.Storage ConsumerEngine.Semantic

/-- The entries a tenant has stored about a table, those of its columns and its own. -/
def tableEntries (catalog : Catalog) (tenant system entity : String) : List StoredCatalogRow :=
  (ownEntriesOf tenant (catalog.semanticCatalog.getD [])).filter fun entry =>
    entry.row.system = system ∧ entry.row.tableName = entity

/-- The entries a tenant has stored about a column. -/
def columnEntries (catalog : Catalog) (tenant : String) (r : ReferencedColumn) :
    List StoredCatalogRow :=
  versionsOf tenant ⟨r.system, r.entity, some r.column⟩ (catalog.semanticCatalog.getD [])

/-- What the check logs for a table. -/
def warning (freshness : FreshnessRegistry) (catalog : Catalog) (tenant system entity : String) :
    Option StaleCatalogue := do
  let known ← freshness.get system entity
  let epoch ← ((tableEntries catalog tenant system entity).map epochOf).max?
  if epoch < known.lastEpochSecs then some ⟨system, entity, epoch, known.lastEpochSecs⟩ else none

/-- The table was warned about. -/
def Warned (log : List StaleCatalogue) (system entity : String) : Prop :=
  ∃ stale ∈ log, stale.system = system ∧ stale.entity = entity

/-- The newest of the tenant's entries for the column is older than an epoch. -/
def StaleColumn (catalog : Catalog) (tenant : String) (r : ReferencedColumn) (epoch : Int) : Prop :=
  ∃ newest, IsNewest epochOf (columnEntries catalog tenant r) newest ∧ epochOf newest < epoch

/-- The table's entries and those of the referenced columns are out of date together: where any
entry of the table is up to date, one of each referenced column that has entries is, and where
there are only older ones, one of them is about a referenced column. -/
structure DatedTogether (catalog : Catalog) (tenant system entity : String) (epoch : Int)
    (referenced : List ReferencedColumn) : Prop where
  fresh : (∃ entry ∈ tableEntries catalog tenant system entity, epoch ≤ epochOf entry) →
    ∀ r ∈ referenced, r.system = system → r.entity = entity →
      columnEntries catalog tenant r ≠ [] → ∃ entry ∈ columnEntries catalog tenant r, epoch ≤ epochOf entry
  stale : tableEntries catalog tenant system entity ≠ [] →
    (∀ entry ∈ tableEntries catalog tenant system entity, epochOf entry < epoch) →
      ∃ r ∈ referenced, r.system = system ∧ r.entity = entity ∧ columnEntries catalog tenant r ≠ []

section
variable {freshness : FreshnessRegistry} {catalog : Catalog} {tenant : String}

/-- A loop that returns has appended to its log what it appends for each item. -/
theorem forM_appended {α ω ε : Type} {step : α → Effect (List ω) ε Unit} {wrote : α → Option ω}
    (writes : ∀ a log final, step a log = (.ok (), final) → final = log ++ (wrote a).toList)
    (items : List α) {log final : List ω} (ran : items.forM step log = (.ok (), final)) :
    final = log ++ items.filterMap wrote := by
  induction items generalizing log with
  | nil =>
    cases ran
    rw [List.filterMap_nil, List.append_nil]
  | cons item items ih =>
    obtain ⟨⟨⟩, middle, here, later⟩ := Effect.bind_eq_ok.mp ran
    rw [ih later, writes item log middle here, List.append_assoc]
    cases wrote_ : wrote item with
    | none => rw [List.filterMap_cons_none wrote_]; rfl
    | some one => rw [List.filterMap_cons_some wrote_]; rfl

theorem catalogueEpoch_eq {rows : List StoredCatalogRow} (present : catalog.semanticCatalog = some rows)
    (system entity : String) : catalogueEpoch catalog system entity tenant =
      .ok ((tableEntries catalog tenant system entity).map epochOf).max? := by
  have own : rows.filter (fun stored => describes system entity stored &&
      stored.tenantId == some tenant) = tableEntries catalog tenant system entity := by
    rw [tableEntries, ownEntriesOf, present, Option.getD_some, List.filter_filter]
    refine List.filter_congr fun stored _ => ?_
    rw [Bool.eq_iff_iff]
    simp only [describes, Bool.and_eq_true, beq_iff_eq, decide_eq_true_eq]
  rw [catalogueEpoch, tableRows_present present]
  dsimp only [bind, Except.bind, pure, Except.pure]
  rw [own]
  rfl

/-- A table that passes is warned about where its warning is due. -/
theorem checkTable_appended (entry : (String ×ₗ String) × List String) (log final : List StaleCatalogue)
    (ran : checkTable freshness catalog tenant entry log = (.ok (), final)) :
    final = log ++
      (warning freshness catalog tenant (ofLex entry.1).1 (ofLex entry.1).2).toList := by
  unfold checkTable at ran
  dsimp only at ran
  obtain ⟨catalogued, _, read, ran⟩ := Effect.bind_eq_ok.mp ran
  obtain ⟨present, rfl⟩ := Effect.lift_eq_ok read
  obtain ⟨⟨⟩, _, checked, ran⟩ := Effect.bind_eq_ok.mp ran
  obtain ⟨-, rfl⟩ := Effect.lift_eq_ok checked
  cases stored : catalog.semanticCatalog with
  | none =>
    unfold cataloguedColumns at present
    rw [stored] at present
    cases present
  | some rows =>
    unfold warnIfStale at ran
    unfold warning
    cases known : freshness.get (ofLex entry.1).1 (ofLex entry.1).2 with
    | none =>
      rw [known] at ran
      cases ran
      exact (List.append_nil _).symm
    | some known_ =>
      rw [known] at ran
      dsimp only at ran
      rw [catalogueEpoch_eq stored] at ran
      obtain ⟨newest, _, read, ran⟩ := Effect.bind_eq_ok.mp ran
      obtain ⟨same, rfl⟩ := Effect.lift_eq_ok read
      cases same
      rw [Option.bind_eq_bind, Option.bind_some, Option.bind_eq_bind]
      cases newest : ((tableEntries catalog tenant (ofLex entry.1).1 (ofLex entry.1).2).map
          epochOf).max? with
      | none =>
        rw [newest] at ran
        cases ran
        exact (List.append_nil _).symm
      | some epoch =>
        rw [newest] at ran
        dsimp only at ran
        rw [Option.bind_some]
        split at ran
        case isTrue older =>
          rw [if_pos older]
          exact (Prod.mk.inj ran).2.symm
        case isFalse younger =>
          rw [if_neg younger]
          cases ran
          exact (List.append_nil _).symm

/-- Of what an accepted query is warned: each referenced table whose warning is due. -/
theorem warned_iff {guardrails : GuardrailConfig} (on : guardrails.enforceCatalogue = true)
    {q : SegmentQuery} {log : List StaleCatalogue}
    (accepted : enforceCatalogue freshness catalog tenant guardrails q [] = (.ok (), log))
    {system entity : String}
    (referenced : ∃ column, ⟨system, entity, column⟩ ∈ referencedColumns q) :
    Warned log system entity ↔ (warning freshness catalog tenant system entity).isSome = true := by
  rw [enforceCatalogue, if_pos on] at accepted
  obtain ⟨⟨⟩, logged, tables, features⟩ := Effect.bind_eq_ok.mp accepted
  obtain ⟨-, rfl⟩ := Effect.lift_eq_ok features
  obtain rfl := forM_appended checkTable_appended _ tables
  have named {system entity : String} {stale : StaleCatalogue}
      (due : warning freshness catalog tenant system entity = some stale) :
      stale.system = system ∧ stale.entity = entity := by
    simp only [warning, Option.bind_eq_bind, Option.bind_eq_some_iff] at due
    obtain ⟨known, -, epoch, -, due⟩ := due
    split at due
    · cases due
      exact ⟨rfl, rfl⟩
    · cases due
  rw [List.nil_append, Warned]
  constructor
  · rintro ⟨stale, member, rfl, rfl⟩
    obtain ⟨entry, -, due⟩ := List.mem_filterMap.mp member
    obtain ⟨system, entity⟩ := named due
    rw [system, entity, due]
    rfl
  · intro due
    obtain ⟨stale, due⟩ := Option.isSome_iff_exists.mp due
    obtain ⟨column, member⟩ := referenced
    have listed := mem_byTable.mpr ⟨_, member, rfl, rfl⟩
    cases found : (byTable (referencedColumns q)).get (toLex (system, entity)) with
    | none =>
      rw [found] at listed
      cases listed
    | some cols =>
      exact ⟨stale, List.mem_filterMap.mpr ⟨_, SortedMap.get_eq_some.mp found, due⟩, named due⟩

/-- A warning is due where the table has entries of the tenant and all are older than its ingest. -/
theorem warning_due_iff {system entity : String} {known : SourceMeta}
    (registered : freshness.get system entity = some known) :
    (warning freshness catalog tenant system entity).isSome = true ↔
      tableEntries catalog tenant system entity ≠ [] ∧
        ∀ entry ∈ tableEntries catalog tenant system entity, epochOf entry < known.lastEpochSecs := by
  rw [warning, registered, Option.bind_eq_bind, Option.bind_some, Option.bind_eq_bind]
  cases newest : ((tableEntries catalog tenant system entity).map epochOf).max? with
  | none =>
    rw [Option.bind_none]
    refine iff_of_false Bool.false_ne_true fun entries => entries.1 ?_
    exact List.map_eq_nil_iff.mp (List.max?_eq_none_iff.mp newest)
  | some epoch =>
    obtain ⟨entry, member, rfl⟩ := List.mem_map.mp (List.max?_mem newest)
    have most := (List.max?_eq_some_iff.mp newest).2
    rw [Option.bind_some]
    constructor
    · intro due
      split at due
      case isTrue older =>
        refine ⟨List.ne_nil_of_mem member, fun other among => ?_⟩
        exact Int.lt_of_le_of_lt (most _ (List.mem_map_of_mem among)) older
      case isFalse => cases due
    · rintro ⟨-, older⟩
      rw [if_pos (older entry member)]
      rfl

theorem staleColumn_iff {r : ReferencedColumn} {epoch : Int} :
    StaleColumn catalog tenant r epoch ↔ columnEntries catalog tenant r ≠ [] ∧
      ∀ entry ∈ columnEntries catalog tenant r, epochOf entry < epoch := by
  constructor
  · rintro ⟨newest, is_newest, older⟩
    exact ⟨List.ne_nil_of_mem is_newest.mem, fun other among =>
      Int.lt_of_le_of_lt (is_newest.most other among) older⟩
  · rintro ⟨entries, older⟩
    cases chosen : firstNewest.newest (columnEntries catalog tenant r) with
    | none => exact absurd (firstNewest.chooses.total chosen) entries
    | some newest =>
      have is_newest := firstNewest.chooses.newest chosen
      exact ⟨newest, is_newest, older newest is_newest.mem⟩

/-- The entries of a column are among those of its table. -/
theorem columnEntries_sub {r : ReferencedColumn} {entry : StoredCatalogRow}
    (member : entry ∈ columnEntries catalog tenant r) :
    entry ∈ tableEntries catalog tenant r.system r.entity := by
  obtain ⟨among, keyed⟩ := List.mem_filter.mp member
  have same := of_decide_eq_true keyed
  refine List.mem_filter.mpr ⟨among, decide_eq_true ⟨?_, ?_⟩⟩
  · exact congrArg ColumnKey.system same
  · exact congrArg ColumnKey.tableName same

end

/-- An accepted query is warned about a referenced table exactly when it is to be, for one of the
columns it references, where the entries are out of date together. -/
theorem stale_warning_iff {freshness : FreshnessRegistry} {catalog : Catalog} {tenant : String}
    {guardrails : GuardrailConfig} (on : guardrails.enforceCatalogue = true) {q : SegmentQuery}
    {log : List StaleCatalogue}
    (accepted : enforceCatalogue freshness catalog tenant guardrails q [] = (.ok (), log))
    {system entity : String} {known : SourceMeta}
    (referenced : ∃ column, ⟨system, entity, column⟩ ∈ referencedColumns q)
    (registered : freshness.get system entity = some known) :
    (Warned log system entity ↔ ∃ column, ⟨system, entity, column⟩ ∈ referencedColumns q ∧
      StaleColumn catalog tenant ⟨system, entity, column⟩ known.lastEpochSecs) ↔
    DatedTogether catalog tenant system entity known.lastEpochSecs (referencedColumns q) := by
  rw [warned_iff on accepted referenced, warning_due_iff registered]
  simp only [staleColumn_iff]
  constructor
  · intro same
    refine ⟨?_, fun entries older => ?_⟩
    · rintro ⟨entry, member, fresh⟩ r among rfl rfl entries
      by_contra none_
      simp only [not_exists, not_and, Int.not_le] at none_
      exact absurd ((same.mpr ⟨r.column, among, entries, none_⟩).2 entry member) (Int.not_lt.mpr fresh)
    · obtain ⟨column, among, own, -⟩ := same.mp ⟨entries, older⟩
      exact ⟨_, among, rfl, rfl, own⟩
  · intro together
    constructor
    · rintro ⟨entries, older⟩
      obtain ⟨r, among, rfl, rfl, own⟩ := together.stale entries older
      exact ⟨r.column, among, own, fun entry member => older entry (columnEntries_sub member)⟩
    · rintro ⟨column, among, own, older⟩
      obtain ⟨entry, member⟩ := List.exists_mem_of_ne_nil _ own
      refine ⟨List.ne_nil_of_mem (columnEntries_sub member), fun other listed => ?_⟩
      by_contra fresh
      obtain ⟨up, there, late⟩ := together.fresh ⟨other, listed, Int.not_lt.mp fresh⟩ _ among rfl rfl own
      exact absurd (older up there) (Int.not_lt.mpr late)

/-- The orders, last ingested at an epoch. -/
def ordersIngestedAt (epoch : Int) : FreshnessRegistry :=
  ⟨fun key => if key = "erp.orders" then some ⟨.batch, epoch⟩ else none⟩

/-- Two columns of the orders, profiled at one epoch; then the second is edited. -/
def skuEdited : Catalog :=
  let entry (column : String) (epoch : Int) : StoredCatalogRow :=
    let first := entryFor "acme" ⟨"erp", "orders", column⟩
    { first with row := { first.row with sourceEpoch := epoch } }
  withEntries Catalog.empty [entry "user_id" 1, entry "sku" 1, entry "sku" 3]

/-- Ingested after the edit, the orders are warned about, as the column is to be. -/
theorem stale_warning_iff_later : ∃ log,
    (Warned log "erp" "orders" ↔ ∃ column, ⟨"erp", "orders", column⟩ ∈ referencedColumns buyers ∧
      StaleColumn skuEdited "acme" ⟨"erp", "orders", column⟩ 4) ↔
    DatedTogether skuEdited "acme" "erp" "orders" 4 (referencedColumns buyers) :=
  ⟨[⟨"erp", "orders", 3, 4⟩], @stale_warning_iff (ordersIngestedAt 4) skuEdited "acme" enforcing rfl
    buyers _ rfl "erp" "orders" ⟨.batch, 4⟩ ⟨"user_id", List.mem_cons_self⟩ rfl⟩

/-- Ingested before the edit of another column, they are not. -/
theorem stale_column_unwarned : ¬ ∀ (freshness : FreshnessRegistry) (catalog : Catalog)
    (tenant : String) (guardrails : GuardrailConfig) (q : SegmentQuery) (log : List StaleCatalogue)
    (system entity : String) (known : SourceMeta), guardrails.enforceCatalogue = true →
    validate (fun _ => true) q = .ok () →
    enforceCatalogue freshness catalog tenant guardrails q [] = (.ok (), log) →
    (∃ column, ⟨system, entity, column⟩ ∈ referencedColumns q) →
    freshness.get system entity = some known →
    (Warned log system entity ↔ ∃ column, ⟨system, entity, column⟩ ∈ referencedColumns q ∧
      StaleColumn catalog tenant ⟨system, entity, column⟩ known.lastEpochSecs) := by
  intro flagged
  have orders := flagged (ordersIngestedAt 2) skuEdited "acme" enforcing buyers [] "erp" "orders"
    ⟨.batch, 2⟩ rfl rfl rfl ⟨"user_id", List.mem_cons_self⟩ rfl
  obtain ⟨stale, member, -⟩ := orders.mpr ⟨"user_id", List.mem_cons_self,
    staleColumn_iff.mpr ⟨by decide, by decide⟩⟩
  cases member

end ConsumerEngine.Query
