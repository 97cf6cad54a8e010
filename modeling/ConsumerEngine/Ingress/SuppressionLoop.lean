import ConsumerEngine.Ingestion.AppendOnly
import ConsumerEngine.Query.Exclusion
import ConsumerEngine.Query.Materialization
import ConsumerEngine.Storage.Reversals
import ConsumerEngine.Storage.Suppressions

/-! The suppression loop: a writeback that is acknowledged keeps its user out of what is asked for
the campaign from then on.

A writeback is stored under its id and no command takes it back. The campaign's exclusion reads it
wherever a run or a snapshot comes later.
-/

set_option autoImplicit false

namespace ConsumerEngine.Ingress

open ConsumerEngine.Core ConsumerEngine.Foundation ConsumerEngine.Ingestion ConsumerEngine.Query
  ConsumerEngine.Sql ConsumerEngine.Storage

/-! ### Whom an exclusion leaves out -/

/-- The campaign is excluded, and no union adds users to those who are left. -/
def LeavesOut (q : SegmentQuery) (campaignId : String) : Prop :=
  .exclude campaignId ∈ q.ops ∧ ∀ kind inner, Op.setOp kind inner ∈ q.ops → kind ≠ .union

section
variable {V : Type} {E : Query.Engine V} {population : Population} {ops : List Op}

theorem closing_subset (narrows : ∀ kind inner, Op.setOp kind inner ∈ ops → kind ≠ .union)
    {mine users : Finset Cell} (closed : population.closing E mine ops = some users) : users ⊆ mine := by
  induction ops with
  | nil => exact (Option.some.inj closed).symm ▸ Finset.Subset.refl _
  | cons op rest ih =>
    have later := ih fun kind inner member => narrows kind inner (List.mem_cons_of_mem _ member)
    cases op with
    | setOp kind inner =>
      obtain ⟨others, -, rfl⟩ := Option.map_eq_some_iff.mp closed
      cases kind with
      | intersect => exact Finset.inter_subset_left
      | minus => exact Finset.sdiff_subset
      | union => exact absurd rfl (narrows _ _ List.mem_cons_self)
    | _ => exact later closed

/-- A survivor meets every operation of its level. -/
theorem survivor_meets {q : SegmentQuery} (narrows : ∀ kind inner, Op.setOp kind inner ∈ q.ops → kind ≠ .union)
    {users : Finset Cell} (survive : population.survivors E q = some users) {user : Cell}
    (member : user ∈ users) {op : Op} (among : op ∈ q.ops) :
    ∃ row ∈ population.rows q.source, population.meets E q.asOf row user op = .yes := by
  obtain ⟨source, key, ops, asOf⟩ := q
  rw [Population.survivors] at survive
  obtain ⟨mine, selected, closed⟩ := Option.bind_eq_some_iff.mp survive
  obtain ⟨row, stored, -, yes⟩ := ((mem_level selected).2 user).mp (closing_subset narrows closed member)
  exact ⟨row, stored, Truth.all_eq_yes.mp yes _ (List.mem_map_of_mem among)⟩

/-- Whom the rule spares was not reached for the campaign. -/
theorem spared_unreached {rules : SuppressionRules} {contacts : Multiset StoredSuppression}
    {campaignId : String} (noRepeat : rules.perCampaignNoRepeat = true)
    (spared : E.spares rules contacts campaignId = .yes) :
    ∀ row ∈ contacts, row.campaignId = campaignId → ¬ Reached row := by
  rw [Engine.spares, Truth.all_append, Truth.both_eq_yes, if_pos noRepeat] at spared
  have fresh := Truth.all_eq_yes.mp spared.1 _ List.mem_cons_self
  rw [notRepeated, Truth.ofBool_eq_yes, decide_eq_true_eq] at fresh
  exact fun row member same reached => fresh row member ⟨same, reached⟩

end

/-- A user who was reached for the campaign does not survive. -/
theorem reached_not_survivor {V : Type} {E : Query.Engine V} {opts : CompileOptions} {catalog : Catalog}
    {q : SegmentQuery} {users : Finset Cell} {told : StoredSuppression}
    (leaves : LeavesOut q told.campaignId) (noRepeat : opts.suppression.perCampaignNoRepeat = true)
    (held : told ∈ catalog.suppressionRows) (own : told.tenantId = some opts.tenant)
    (reached : Reached told) (survive : (E.population opts catalog).survivors E q = some users) :
    some told.userId ∉ users := by
  intro member
  obtain ⟨row, -, spared⟩ := survivor_meets leaves.2 survive member leaves.1
  have contact : told ∈ contactsOf catalog opts.tenant (some told.userId) :=
    Multiset.mem_filter.mpr ⟨held, rfl, own⟩
  exact spared_unreached noRepeat spared told contact rfl reached

/-! ### The writeback -/

theorem storedSuppression_eq {duck : DuckDb} {tenant : String} {row : SuppressionRow}
    {stored : StoredSuppression} (converted : storedSuppression duck tenant row = .ok stored) :
    stored.campaignId = row.campaignId ∧ stored.userId = row.userId ∧
      stored.action = row.action.asStr ∧ stored.tenantId = some tenant := by
  obtain ⟨id, -, rest⟩ := except_bind_eq_ok.mp converted
  obtain ⟨occurred, -, rest⟩ := except_bind_eq_ok.mp rest
  obtain ⟨received, -, rest⟩ := except_bind_eq_ok.mp rest
  cases rest
  exact ⟨rfl, rfl, rfl, rfl⟩

/-- A writeback that is acknowledged is stored, unless its id was taken. -/
theorem writeback_stored {writer after : Writer} {row : SuppressionRow} {n : Nat}
    (fresh : ∀ stored ∈ writer.durable.catalog.suppressionRows,
      writer.duck.castUuid row.suppressionId ≠ some stored.suppressionId)
    (ran : writeSuppressionIdempotent [row] writer = (.ok n, after)) :
    ∃ told ∈ after.durable.catalog.suppressionRows, told.campaignId = row.campaignId ∧
      told.userId = row.userId ∧ told.action = row.action.asStr ∧
        told.tenantId = some writer.tenant := by
  have writes := writeSuppression_writes writer row
  rw [ran] at writes
  obtain ⟨told, recorded⟩ := Option.isSome_iff_exists.mp (writes.returned.symm.trans rfl)
  have rows := writes.rows
  rw [recorded, Option.toList_some, List.foldl_cons, List.foldl_nil] at rows
  -- a row that could not be converted would not have been counted
  unfold Writer.recorded at recorded
  split at recorded
  · cases converted : storedSuppression writer.duck writer.tenant row with
    | error message =>
      rw [converted] at recorded
      cases recorded
    | ok stored =>
      rw [converted] at recorded
      obtain rfl := Option.some.inj recorded
      -- its id is its own, so the row is added and not taken for a repetition
      have unseen : ¬ writer.durable.catalog.suppressionRows.any
          (fun seen => seen.suppressionId = stored.suppressionId) := by
        intro seen
        obtain ⟨other, member, same⟩ := List.any_eq_true.mp seen
        exact fresh other member (of_decide_eq_true same ▸ storedSuppression_id converted)
      rw [placeFirst, if_neg unseen] at rows
      exact ⟨stored, rows ▸ List.mem_append_right _ List.mem_cons_self, storedSuppression_eq converted⟩
  · cases recorded

/-- The writebacks that say that the user was reached. -/
def SuppressionRow.Reaches (row : SuppressionRow) : Prop :=
  row.action = .targeted ∨ row.action = .delivered

/-! ### The loop -/

/-- The command a snapshot is sent as. -/
def MaterializeCall.cmd (call : MaterializeCall) (tenant : String) : Cmd :=
  .materialize call.wrapSql call.wrapParams call.key call.spec tenant

section
variable {V : Type} [DecidableEq V] (E : Query.Engine V) (toJson : V → Json) (shown : V → Value)
  (isRfc3339 : String → Bool) (config : MicroBatchConfig) (engine : QueryEngine)

/-- What the engine makes of the state that the thread left: no run returns the user for a query that
leaves the campaign's users out, and no snapshot it writes has them. -/
structure KeepsOut (service : Service) (tenant campaignId userId : String) : Prop where
  answers : ∀ q reads answer, LeavesOut q campaignId → validate isRfc3339 q = .ok () →
    reads.ran = .ok service.catalog → hasDerive q = false →
      engine.runSync E toJson q tenant reads = .ok answer → [E.cell (some userId)] ∉ answer.rows
  snapshots : ∀ q reads featured stamps name call clock n, LeavesOut q campaignId →
    validate isRfc3339 q = .ok () →
      engine.materialize E toJson q tenant reads featured stamps name = .ok call →
        Service.Answers config service clock (MaterializeCall.cmd call tenant) (.ok n) →
          ∃ rows : List (List Value),
            (service.wake config (.command clock (MaterializeCall.cmd call tenant))).catalog.snapshotRows =
              service.catalog.snapshotRows ++ rows ∧
            ∀ row ∈ rows, row[snapshotKeyColumn]? ≠ some (.text userId)

/-- The user is kept out in every state that a run of the thread comes to. -/
def KeepsOutFrom (service : Service) (tenant campaignId userId : String) : Prop :=
  ∀ later, Foundation.Reaches (Service.Turns config) (fun _ _ => True) service later →
    KeepsOut E toJson isRfc3339 config engine later tenant campaignId userId

variable {E toJson shown isRfc3339 config engine}

/-- A user is kept out of whatever is asked of a state that has the writeback. -/
theorem keepsOut_of_stored {service : Service} {tenant : String} {told : StoredSuppression}
    (inserts : Inserts E shown service.loop.writer.duck) (idle : service.Idle)
    (noRepeat : engine.suppression.perCampaignNoRepeat = true)
    (held : told ∈ service.catalog.suppressionRows) (own : told.tenantId = some tenant)
    (reached : Reached told) :
    KeepsOut E toJson isRfc3339 config engine service tenant told.campaignId told.userId where
  answers q reads answer leaves valid attached keyed ran := by
    obtain ⟨users, survive, rfl⟩ := runSync_rows valid keyed attached ran
    rw [Engine.keyTable, key_mem_keys]
    exact reached_not_survivor leaves noRepeat held own reached survive
  snapshots q reads featured stamps name call clock n leaves valid sent answered := by
    have meets := @Service.readied_meets config service idle clock.now tenant
    have wrote := (@Service.served_as config service clock (MaterializeCall.cmd call tenant) tenant
      (materializeSnapshot call.wrapSql call.wrapParams call.key call.spec) (fun _ => rfl) idle).ran answered
    generalize service.readied config clock.now tenant = writer at meets wrote
    obtain ⟨users, pivots, made, hitReason, rows, survive, -, -, each, stored_, -, left⟩ :=
      materialized_rows (meets.duck ▸ inserts) valid sent meets.tenant wrote
    -- what is flushed before the command writes neither of the two tables
    have before : writer.durable.catalog.snapshotRows = service.catalog.snapshotRows :=
      meets.rows .audienceSnapshot (by decide)
    have same : writer.durable.catalog.suppressionRows = service.catalog.suppressionRows :=
      meets.rows .suppression (by decide)
    refine ⟨rows, ?_, fun row member key => ?_⟩
    · rw [← before, ← addSnapshot_rows, ← left]
      rfl
    · rw [← Multiset.mem_coe, stored_, Multiset.mem_map] at member
      obtain ⟨values, among, rfl⟩ := member
      obtain ⟨user, survivor, one⟩ := mem_mapAll each among
      obtain ⟨id, asOf, features, reason, -, -, -, -, rfl⟩ := snapshotRow_eq_some one
      have shownKey : some (cellValue user) = some (cellValue (some told.userId)) :=
        (congrArg some (inserts.cell user)).symm.trans key
      obtain rfl := cellValue_injective (Option.some.inj shownKey)
      exact reached_not_survivor leaves noRepeat (same ▸ held) own reached survive survivor

end

/-- A user with an order was told of the spring campaign. -/
def springTold : SuppressionRow :=
  ⟨"0194203e-0000-7000-8000-000000000001", "spring", "u1", .email, .targeted, "2025-01-01T00:00:00Z",
    "2025-01-01T00:00:01Z"⟩

end ConsumerEngine.Ingress
