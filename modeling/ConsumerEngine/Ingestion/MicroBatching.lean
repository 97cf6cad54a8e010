import Mathlib.Algebra.Order.Group.Multiset
import Mathlib.Tactic.Abel
import ConsumerEngine.Foundation.Runs
import ConsumerEngine.Ingestion.WriterLoop
import ConsumerEngine.Storage.Ingests

/-! Where the rows of the ingest commands are: supplied, buffered, or appended.

A flush moves rows from the buffer to a table, and a failed one drops what it did not
store. Nothing else touches a row, so what was appended was supplied.
-/

set_option autoImplicit false

namespace ConsumerEngine.Ingestion

open ConsumerEngine.Core ConsumerEngine.Foundation ConsumerEngine.Storage

/-- The table a buffered batch is flushed to. -/
def PendingBatch.table (batch : PendingBatch) (key : BatchKey) : IngestTable :=
  ⟨key.system, key.entity, batch.columns⟩

/-- The rows of a buffered batch as they will be appended. -/
def PendingBatch.placed (batch : PendingBatch) (key : BatchKey) : List Placed :=
  batch.rows.map ((batch.table key).placed batch.tenant)

/-- A batch under its key: the tenant is that of the key, the rows have its columns. -/
structure PendingBatch.Sound (batch : PendingBatch) (key : BatchKey) : Prop where
  owned : batch.tenant = key.tenant
  aligned : ∀ row ∈ batch.rows, row.length = batch.columns.length

/-- The rows a command brings, with its own tenant and columns. -/
def Cmd.placed : Cmd → List Placed
  | .ingestRaw system entity columns rows tenant =>
      rows.map (IngestTable.placed ⟨system, entity, columns⟩ tenant)
  | _ => []

/-- Every row of an ingest has the width of its column list. -/
def Cmd.Aligned : Cmd → Prop
  | .ingestRaw _ _ columns rows _ => ∀ row ∈ rows, row.length = columns.length
  | _ => True

/-- The rows of all the commands. -/
def supplied (cmds : List Cmd) : Multiset Placed := (cmds.flatMap Cmd.placed : List Placed)

theorem supplied_append (cmds : List Cmd) (cmd : Cmd) :
    supplied (cmds ++ [cmd]) = supplied cmds + (cmd.placed : Multiset Placed) := by
  rw [supplied, List.flatMap_append, ← Multiset.coe_add]
  simp [supplied]

namespace Loop

/-- The rows in the buffer. -/
def buffered (loop : Loop) : Multiset Placed :=
  (loop.pending.entries.flatMap fun entry => entry.2.placed entry.1 : List Placed)

theorem buffered_remove {loop : Loop} {key : BatchKey} {batch : PendingBatch}
    (found : loop.pending.get key = some batch) :
    loop.buffered = (batch.placed key : Multiset Placed) +
      { loop with pending := loop.pending.remove key }.buffered :=
  Quotient.sound ((SortedMap.perm_remove found).flatMap_right _)

theorem buffered_insert (loop : Loop) (key : BatchKey) (batch : PendingBatch) :
    { loop with pending := loop.pending.insert key batch }.buffered =
      (batch.placed key : Multiset Placed) +
        { loop with pending := loop.pending.remove key }.buffered :=
  Quotient.sound ((SortedMap.insert_perm loop.pending key batch).flatMap_right _)

/-- The rows that wait under a key. -/
def waiting (loop : Loop) (key : BatchKey) : List Placed :=
  (loop.pending.get key).toList.flatMap fun batch => batch.placed key

theorem buffered_take (loop : Loop) (key : BatchKey) :
    loop.buffered = (loop.waiting key : Multiset Placed) +
      { loop with pending := loop.pending.remove key }.buffered := by
  cases found : loop.pending.get key with
  | none =>
    rw [buffered, buffered, SortedMap.remove_of_get_eq_none found, waiting, found]
    exact (zero_add _).symm
  | some batch =>
    rw [buffered_remove found, waiting, found]
    simp

section
variable {loop : Loop} {system entity : String} {columns : List String} {tenant : String}
  (sound : ∀ batch, loop.pending.get (.of tenant system entity) = some batch →
    batch.Sound (.of tenant system entity))
  (settled : ∀ batch, loop.pending.get (.of tenant system entity) = some batch →
    batch.columns = columns)

include sound settled

theorem extended_sound {rows : List (List Cell)} (aligned : ∀ row ∈ rows, row.length = columns.length)
    (since : Nat) :
    (loop.extended (.of tenant system entity) columns rows tenant since).Sound
      (.of tenant system entity) := by
  unfold extended
  cases found : loop.pending.get (.of tenant system entity) with
  | none => exact ⟨rfl, by simpa using aligned⟩
  | some batch =>
    refine ⟨(sound batch found).owned, fun row member => ?_⟩
    rcases List.mem_append.mp member with old | new
    · exact (sound batch found).aligned row old
    · exact (aligned row new).trans (congrArg List.length (settled batch found).symm)

/-- A batch is extended by the rows that wait and the new ones. -/
theorem extended_placed (rows : List (List Cell)) (since : Nat) :
    (loop.extended (.of tenant system entity) columns rows tenant since).placed
        (.of tenant system entity) =
      loop.waiting (.of tenant system entity) ++
        rows.map (IngestTable.placed ⟨system, entity, columns⟩ tenant) := by
  unfold extended waiting
  cases found : loop.pending.get (.of tenant system entity) with
  | none => rfl
  | some batch =>
    have owned : batch.tenant = tenant := (sound batch found).owned
    have same := settled batch found
    subst owned same
    simp [PendingBatch.placed, PendingBatch.table, BatchKey.system, BatchKey.entity, BatchKey.of]

end

/-! ### What each part of the loop does to the state -/

theorem call_state {α : Type} (act : Session α) (loop : Loop) :
    (call act loop).2 = { loop with writer := (act loop.writer).2 } := by
  unfold call
  rcases act loop.writer with ⟨outcome, writer⟩
  cases outcome with
  | ok result => rfl
  | error failure => cases failure <;> rfl

theorem call_eq_ok {α : Type} {act : Session α} {loop after : Loop} {outcome : Except Error α}
    (ran : call act loop = (.ok outcome, after)) : (act loop.writer).1 = outcome := by
  revert ran
  unfold call
  rcases act loop.writer with ⟨returned, writer⟩
  intro ran
  cases returned with
  | ok result =>
    cases ran
    rfl
  | error failure => cases failure <;> cases ran <;> rfl

theorem callKnown_state {α : Type} (system entity : String) (act : Session α) (loop : Loop) :
    ∃ known, (callKnown system entity act loop).2 =
      { loop with writer := (act loop.writer).2, known } := by
  have state := call_state act loop
  unfold callKnown
  rw [Effect.bind_apply]
  rcases ran : call act loop with ⟨outcome, reached⟩
  rw [ran] at state
  obtain rfl : reached = _ := state
  cases outcome with
  | error message => exact ⟨_, rfl⟩
  | ok returned =>
    cases returned with
    | error failure => exact ⟨_, rfl⟩
    | ok result =>
      simp only [Effect.bind_apply, register, Effect.modify_apply, Effect.pure_apply]
      split <;> exact ⟨_, rfl⟩

theorem callKnown_eq_ok {α : Type} {system entity : String} {act : Session α} {loop after : Loop}
    {result : α} (ran : callKnown system entity act loop = (.ok (.ok result), after)) :
    (act loop.writer).1 = .ok result := by
  unfold callKnown at ran
  obtain ⟨returned, reached, called, rest⟩ := Effect.bind_eq_ok.mp ran
  cases returned with
  | error failure => cases rest
  | ok found =>
    obtain ⟨-, _, _, last⟩ := Effect.bind_eq_ok.mp rest
    cases last
    exact call_eq_ok called

theorem flushOut_state (key : BatchKey) (batch : PendingBatch) (loop : Loop) :
    (flushOut key batch loop).2 =
      (flushBatch key batch { loop with pending := loop.pending.remove key }).2 := by
  simp only [flushOut, removePending, Effect.bind_apply, Effect.modify_apply]
  rcases flushBatch key batch { loop with pending := loop.pending.remove key } with ⟨outcome, after⟩
  cases outcome <;> rfl

@[simp] theorem flushBatch_pending (key : BatchKey) (batch : PendingBatch) (loop : Loop) :
    (flushBatch key batch loop).2.pending = loop.pending := by
  obtain ⟨known, state⟩ := callKnown_state key.system key.entity
    (ingestRaw key.system key.entity batch.columns batch.rows)
    (setTenant batch.tenant loop).2
  exact (congrArg Loop.pending state).trans rfl

/-! ### Accounts -/

/-- Rows on their way from a command or out of the buffer are accounted for together
with the buffered and the appended ones. -/
structure Accounted (base supply carried : Multiset Placed) (loop : Loop) : Prop where
  sound : ∀ entry ∈ loop.pending.entries, entry.2.Sound entry.1
  idle : loop.writer.rollbackTo = none
  grown : base ≤ appended loop.writer.durable.history
  covered : appended loop.writer.durable.history + loop.buffered + carried ≤ base + supply

/-- The accounts are kept, whatever is on its way. -/
def Conserves (before after : Loop) : Prop :=
  ∀ base supply carried, before.Accounted base supply carried →
    after.Accounted base supply carried

instance : IsPreorder Loop Conserves where
  refl _ _ _ _ accounted := accounted
  trans _ _ _ first second base supply carried accounted :=
    second base supply carried (first base supply carried accounted)

section
variable {base supply carried : Multiset Placed} {loop : Loop}

/-- Rows on their way may be dropped. -/
theorem Accounted.drop {more : Multiset Placed} (accounted : loop.Accounted base supply (carried + more)) :
    loop.Accounted base supply carried where
  sound := accounted.sound
  idle := accounted.idle
  grown := accounted.grown
  covered := by
    refine le_trans ?_ accounted.covered
    rw [← add_assoc]
    exact Multiset.le_add_right _ _

theorem Accounted.ofWriter {writer : Writer} {known : List (String × String)}
    (accounted : loop.Accounted base supply carried) (idle : writer.rollbackTo = none)
    (same : appended writer.durable.history = appended loop.writer.durable.history) :
    { loop with writer, known }.Accounted base supply carried where
  sound := accounted.sound
  idle := idle
  grown := by
    rw [same]
    exact accounted.grown
  covered := by
    have covered := accounted.covered
    rw [← same] at covered
    exact covered

theorem setTenant_conserves (tenant : String) : Effect.Within Conserves (setTenant tenant) :=
  fun _ _ _ _ accounted => accounted.ofWriter accounted.idle rfl

theorem sending_appended {before after : Writer} (sending : Sending Statement.KeepsInserts before after)
    (idle : before.rollbackTo = none) :
    appended after.durable.history = appended before.durable.history :=
  (sending.keeps _ (undisturbed_appended _ (appended before.durable.history))
    ⟨rfl, fun saved some => by rw [idle] at some; cases some⟩).1

theorem call_conserves {α : Type} {act : Session α} (only : OnlySends Statement.KeepsInserts act) :
    Effect.Within Conserves (call act) := by
  intro loop base supply carried accounted
  rw [call_state]
  have sending := only loop.writer
  exact accounted.ofWriter (sending.idle accounted.idle) (sending_appended sending accounted.idle)

theorem callKnown_conserves {α : Type} {act : Session α}
    (only : OnlySends Statement.KeepsInserts act) (system entity : String) :
    Effect.Within Conserves (callKnown system entity act) := by
  intro loop base supply carried accounted
  obtain ⟨known, state⟩ := callKnown_state system entity act loop
  rw [state]
  have sending := only loop.writer
  exact accounted.ofWriter (sending.idle accounted.idle) (sending_appended sending accounted.idle)

/-- Rows handed to `ingest_raw` are appended or dropped. -/
theorem ingestRaw_accounted (table : IngestTable) {rows : List (List Cell)}
    (aligned : ∀ row ∈ rows, row.length = table.columns.length)
    (accounted : loop.Accounted base supply
      (carried + (rows.map (table.placed loop.writer.tenant) : List Placed))) :
    (callKnown table.system table.entity (ingestRaw table.system table.entity table.columns rows)
      loop).2.Accounted base supply carried := by
  obtain ⟨known, state⟩ := callKnown_state table.system table.entity
    (ingestRaw table.system table.entity table.columns rows) loop
  obtain ⟨stored, lands⟩ := IngestTable.lands loop.writer aligned
  rw [state]
  refine ⟨accounted.sound, lands.rollbackTo.trans accounted.idle, ?_,
    le_trans ?_ accounted.covered⟩
  · simp only [lands.history]
    exact accounted.grown.trans (Multiset.le_add_right _ _)
  have some : (stored.map (table.placed loop.writer.tenant) : Multiset Placed) ≤
      (rows.map (table.placed loop.writer.tenant) : List Placed) :=
    (lands.initial.map _).sublist.subperm
  simp only [lands.history]
  calc appended loop.writer.durable.history +
        (stored.map (table.placed loop.writer.tenant) : List Placed) + loop.buffered + carried
      = appended loop.writer.durable.history + loop.buffered +
        (carried + (stored.map (table.placed loop.writer.tenant) : List Placed)) := by abel
    _ ≤ _ := add_le_add_right (add_le_add_right some _) _

/-- A flush appends the rows of its batch under the tenant of the batch, or drops them. -/
theorem flushBatch_accounted {key : BatchKey} {batch : PendingBatch} (sound : batch.Sound key)
    (accounted : loop.Accounted base supply (carried + (batch.placed key : List Placed))) :
    (flushBatch key batch loop).2.Accounted base supply carried :=
  ingestRaw_accounted (batch.table key) sound.aligned
    (setTenant_conserves batch.tenant loop base supply _ accounted)

/-- Taking a batch out of the buffer puts its rows on their way. -/
theorem Accounted.remove {key : BatchKey} {batch : PendingBatch}
    (accounted : loop.Accounted base supply carried) (found : loop.pending.get key = some batch) :
    { loop with pending := loop.pending.remove key }.Accounted base supply
      (carried + (batch.placed key : List Placed)) where
  sound entry member := accounted.sound entry (SortedMap.mem_remove.mp member).1
  idle := accounted.idle
  grown := accounted.grown
  covered := by
    have covered := accounted.covered
    rw [buffered_remove found] at covered
    refine le_trans (le_of_eq ?_) covered
    abel

theorem Accounted.sound_of_get {key : BatchKey} {batch : PendingBatch}
    (accounted : loop.Accounted base supply carried) (found : loop.pending.get key = some batch) :
    batch.Sound key := accounted.sound (key, batch) (SortedMap.get_eq_some.mp found)

theorem flushOut_accounted {key : BatchKey} {batch : PendingBatch}
    (accounted : loop.Accounted base supply carried) (found : loop.pending.get key = some batch) :
    (flushOut key batch loop).2.Accounted base supply carried := by
  rw [flushOut_state]
  exact flushBatch_accounted (accounted.sound_of_get found) (accounted.remove found)

theorem flushKey_conserves (key : BatchKey) : Effect.Within Conserves (flushKey key) := by
  intro loop base supply carried accounted
  unfold flushKey
  rw [Effect.bind_of_ok (Effect.get_apply loop)]
  cases found : loop.pending.get key with
  | none => exact accounted
  | some batch => exact flushOut_accounted accounted found

theorem flushKeys_conserves (keys : List BatchKey) : Effect.Within Conserves (flushKeys keys) := by
  induction keys with
  | nil => exact Effect.Within.pure ()
  | cons key keys ih => exact Effect.Within.bind (flushKey_conserves key) fun _ => ih

theorem flushSome_conserves (shouldFlush : PendingBatch → Bool) :
    Effect.Within Conserves (flushSome shouldFlush) :=
  Effect.Within.bind Effect.Within.get fun _ => flushKeys_conserves _

theorem flushExpired_conserves (ageSecs now : Nat) :
    Effect.Within Conserves (flushExpired ageSecs now) := by
  unfold flushExpired
  split
  · exact Effect.Within.pure ()
  · exact flushSome_conserves _

theorem changeShape_conserves (key : BatchKey) (columns : List String) :
    Effect.Within Conserves (changeShape key columns) := by
  intro loop base supply carried accounted
  unfold changeShape
  rw [Effect.bind_of_ok (Effect.get_apply loop)]
  cases other : loop.otherShape key columns with
  | none => exact accounted
  | some old => exact flushOut_accounted accounted (Option.filter_eq_some_iff.mp other).1

/-- After a schema change the batch under the key has the columns of the ingest. -/
theorem changeShape_settles {key : BatchKey} {columns : List String} {after : Loop}
    (ran : changeShape key columns loop = (.ok (), after)) {batch : PendingBatch}
    (found : after.pending.get key = some batch) : batch.columns = columns := by
  unfold changeShape at ran
  rw [Effect.bind_of_ok (Effect.get_apply loop)] at ran
  cases other : loop.otherShape key columns with
  | none =>
    simp only [other] at ran
    cases ran
    by_contra different
    rw [otherShape, found, Option.filter_some, if_pos (by simpa using different)] at other
    cases other
  | some old =>
    simp only [other] at ran
    have state := congrArg (fun result => result.2.pending) ran
    simp only [flushOut_state, flushBatch_pending] at state
    rw [← state, SortedMap.get_remove_self] at found
    cases found

/-- Rows on their way join the batch under their key, taken out of the buffer. -/
theorem Accounted.extend {system entity : String} {columns : List String}
    {rows : List (List Cell)} {tenant : String}
    (accounted : loop.Accounted base supply (carried +
      (rows.map (IngestTable.placed ⟨system, entity, columns⟩ tenant) : List Placed)))
    (aligned : ∀ row ∈ rows, row.length = columns.length)
    (settled : ∀ batch, loop.pending.get (.of tenant system entity) = some batch →
      batch.columns = columns) (since : Nat) :
    let batch := loop.extended (.of tenant system entity) columns rows tenant since
    batch.Sound (.of tenant system entity) ∧
      { loop with pending := loop.pending.remove (.of tenant system entity) }.Accounted base supply
        (carried + (batch.placed (.of tenant system entity) : List Placed)) := by
  have sound := extended_sound (fun _ found => accounted.sound_of_get found) settled aligned since
  refine ⟨sound, fun entry member => accounted.sound entry (SortedMap.mem_remove.mp member).1,
    accounted.idle, accounted.grown, ?_⟩
  have covered := accounted.covered
  rw [loop.buffered_take (.of tenant system entity)] at covered
  rw [extended_placed (fun _ found => accounted.sound_of_get found) settled, ← Multiset.coe_add]
  refine le_trans (le_of_eq ?_) covered
  abel

theorem buffer_accounted (config : MicroBatchConfig) (since : Nat) {system entity : String}
    {columns : List String} {rows : List (List Cell)} {tenant : String}
    (accounted : loop.Accounted base supply (carried +
      (rows.map (IngestTable.placed ⟨system, entity, columns⟩ tenant) : List Placed)))
    (aligned : ∀ row ∈ rows, row.length = columns.length)
    (settled : ∀ batch, loop.pending.get (.of tenant system entity) = some batch →
      batch.columns = columns) :
    (buffer config since (.of tenant system entity) columns rows tenant loop).2.Accounted
      base supply carried := by
  obtain ⟨sound, extended⟩ := accounted.extend aligned settled since
  unfold buffer
  rw [Effect.bind_of_ok (Effect.get_apply loop)]
  split
  · exact flushBatch_accounted sound extended
  · refine ⟨fun entry member => ?_, extended.idle, extended.grown, ?_⟩
    · rcases SortedMap.mem_insert.mp member with rfl | ⟨ne, member⟩
      · exact sound
      · exact accounted.sound entry member
    · refine le_trans (le_of_eq ?_) extended.covered
      simp only [Effect.bind_apply, Effect.modify_apply, Effect.pure_apply]
      rw [buffered_insert]
      abel

/-- The rows of an ingest are appended, buffered or dropped. -/
theorem ingest_accounted (config : MicroBatchConfig) (since : Nat) {system entity : String}
    {columns : List String} {rows : List (List Cell)} {tenant : String}
    (aligned : ∀ row ∈ rows, row.length = columns.length)
    (accounted : loop.Accounted base supply (carried +
      (rows.map (IngestTable.placed ⟨system, entity, columns⟩ tenant) : List Placed))) :
    (ingest config since system entity columns rows tenant loop).2.Accounted base supply carried := by
  have stamped := setTenant_conserves tenant loop base supply _ accounted
  unfold ingest
  rw [Effect.bind_of_ok (show setTenant tenant loop = (.ok (), (setTenant tenant loop).2) from rfl)]
  by_cases immediate : config.flushRows = 0
  · rw [if_pos immediate]
    exact ingestRaw_accounted ⟨system, entity, columns⟩ aligned stamped
  · rw [if_neg immediate, Effect.bind_apply]
    have reshaped := changeShape_conserves (.of tenant system entity) columns _ _ _ _ stamped
    rcases changed : changeShape (.of tenant system entity) columns (setTenant tenant loop).2
      with ⟨outcome, after⟩
    rw [changed] at reshaped
    cases outcome with
    | error message => exact reshaped.drop
    | ok => exact buffer_accounted config since reshaped aligned fun _ => changeShape_settles changed

end

/-! ### The commands -/

theorem callAs_conserves {α : Type} {act : Session α} (tenant : String)
    (only : OnlySends Statement.Aside act) : Effect.Within Conserves (callAs tenant act) :=
  Effect.Within.bind (setTenant_conserves tenant) fun _ =>
    call_conserves (only.mono fun _ => Statement.Aside.keepsInserts)

theorem callAside_conserves {α : Type} {act : Session α} (only : OnlySends Statement.Aside act) :
    Effect.Within Conserves (call act) :=
  call_conserves (only.mono fun _ => Statement.Aside.keepsInserts)

theorem compactKnown_conserves (last : Except Error Unit) (known : List (String × String)) :
    Effect.Within Conserves (compactKnown last known) := by
  induction known generalizing last with
  | nil => exact Effect.Within.pure last
  | cons dataset known ih =>
    refine Effect.Within.bind (callAside_conserves (compact_only _ _)) fun outcome => ?_
    cases outcome with
    | ok => exact ih last
    | error failure => exact ih (.error failure)

theorem compactAll_conserves (retentionDays : Nat) :
    Effect.Within Conserves (compactAll retentionDays) := by
  refine Effect.Within.bind (flushSome_conserves _) fun _ => ?_
  refine Effect.Within.bind Effect.Within.get fun _ => ?_
  refine Effect.Within.bind (compactKnown_conserves _ _) fun _ => ?_
  refine Effect.Within.bind (callAside_conserves (maintain_only _ _)) fun _ => ?_
  exact Effect.Within.bind (callAside_conserves (maintain_only _ _)) fun _ => Effect.Within.pure _

/-- Whatever a command does, the rows it brings are appended, buffered or dropped. -/
theorem serve_accounted (config : MicroBatchConfig) (clock : Clock) {cmd : Cmd}
    (aligned : cmd.Aligned) {base supply carried : Multiset Placed} {loop : Loop}
    (accounted : loop.Accounted base supply (carried + (cmd.placed : Multiset Placed))) :
    (serve config clock cmd loop).2.Accounted base supply carried := by
  cases cmd with
  | ingestRaw system entity columns rows tenant =>
    rw [serve, Effect.map_state]
    exact ingest_accounted config clock.since aligned accounted
  | compactAll retentionDays =>
    rw [serve, Effect.map_state]
    exact compactAll_conserves retentionDays _ _ _ _ accounted.drop
  | materialize subquerySql subqueryParams keyColumn spec tenant =>
    rw [serve, Effect.map_state]
    exact callAs_conserves tenant (materializeSnapshot_only _ _ _ _) _ _ _ _ accounted.drop
  | exportParquet snapshotId dest =>
    rw [serve, Effect.map_state]
    exact callAside_conserves (exportSnapshotParquet_only _ _) _ _ _ _ accounted.drop
  | upsertRaw system entity columns key rows tenant =>
    refine Effect.Within.bind (setTenant_conserves tenant) (fun _ => ?_) _ _ _ _ accounted.drop
    exact Effect.Within.bind (callKnown_conserves ((upsertRaw_only _ _ _ _ _).mono fun _ => And.left) _ _) fun _ =>
      Effect.Within.pure _
  | deleteRaw system entity key keys tenant =>
    refine Effect.Within.bind (setTenant_conserves tenant) (fun _ => ?_) _ _ _ _ accounted.drop
    exact Effect.Within.bind (callKnown_conserves ((deleteRaw_only _ _ _ _).mono fun _ => And.left) _ _) fun _ =>
      Effect.Within.pure _
  | writeFeatures rows tenant =>
    rw [serve, Effect.map_state]
    exact callAs_conserves tenant (writeFeaturesAndRefresh_only _) _ _ _ _ accounted.drop
  | writeCatalog rows tenant =>
    rw [serve, Effect.map_state]
    exact callAs_conserves tenant (writeCatalogRows_only _) _ _ _ _ accounted.drop
  | writeSuppression rows tenant =>
    rw [serve, Effect.map_state]
    exact callAs_conserves tenant (writeSuppressionIdempotent_only _) _ _ _ _ accounted.drop
  | applyCdcBatch batch tenant =>
    refine Effect.Within.bind (setTenant_conserves tenant) (fun _ => ?_) _ _ _ _ accounted.drop
    exact Effect.Within.bind (callKnown_conserves ((applyCdcBatch_only _ _ _ _ _ _ _ _).mono
      fun _ => And.left) _ _) fun _ =>
      Effect.Within.pure _
  | readCdcOffset source =>
    rw [serve, Effect.map_state]
    exact callAside_conserves (readCdcOffsets_only source) _ _ _ _ accounted.drop
  | shutdown =>
    exact Effect.Within.bind (flushSome_conserves _) (fun _ => Effect.Within.pure _) _ _ _ _
      accounted.drop

end Loop

/-! ### Runs -/

namespace Service

/-- The commands a run takes have rows of the width of their columns. -/
def Aligned : Wake → Service → Prop
  | .command _ cmd, _ => cmd.Aligned
  | _, _ => True

/-- A run of a part of the loop ends with the state that part left. -/
theorem run_loop {α : Type} (service : Service) (act : LoopEffect α) {next : Service → α → Service}
    (kept : ∀ service result, (next service result).loop = service.loop) :
    (service.run act next).loop = (act service.loop).2 := by
  unfold run
  rcases act service.loop with ⟨outcome, loop⟩
  cases outcome with
  | ok result => exact kept _ result
  | error message => rfl

theorem run_received {α : Type} (service : Service) (act : LoopEffect α)
    {next : Service → α → Service}
    (kept : ∀ service result, (next service result).received = service.received) :
    (service.run act next).received = service.received := by
  unfold run
  rcases act service.loop with ⟨outcome, loop⟩
  cases outcome with
  | ok result => exact kept _ result
  | error message => rfl

/-- The loop a command leaves: what is expired goes out first. -/
theorem wake_command (config : MicroBatchConfig) (service : Service) (clock : Loop.Clock) (cmd : Cmd) :
    (service.wake config (.command clock cmd)).loop =
        ((do Loop.flushExpired config.flushAgeSecs clock.now
             Loop.serve config clock cmd : LoopEffect Reply) service.loop).2 ∧
      (service.wake config (.command clock cmd)).received = service.received ++ [cmd] := by
  constructor
  · exact run_loop _ _ fun _ _ => by cases cmd <;> rfl
  · exact run_received _ _ fun _ _ => by cases cmd <;> rfl

/-- The rows an event of the loop brings. -/
def broughtBy : Wake → List Placed
  | .command _ cmd => cmd.placed
  | _ => []

/-- Each turn accounts for the rows it is brought. -/
theorem wake_conserves {config : MicroBatchConfig} {base supply : Multiset Placed} {event : Wake}
    {service : Service} (aligned : Aligned event service)
    (accounted : service.loop.Accounted base supply 0) :
    (service.wake config event).loop.Accounted base
      (supply + (broughtBy event : Multiset Placed)) 0 := by
  have brought : service.loop.Accounted base (supply + (broughtBy event : Multiset Placed))
      (0 + (broughtBy event : Multiset Placed)) := by
    refine ⟨accounted.sound, accounted.idle, accounted.grown, ?_⟩
    have more := add_le_add_left accounted.covered (broughtBy event : Multiset Placed)
    refine le_trans (le_of_eq ?_) (more.trans (le_of_eq ?_)) <;> abel
  cases event with
  | timeout now =>
    have loop : (service.wake config (.timeout now)).loop =
        (Loop.flushExpired config.flushAgeSecs now service.loop).2 := run_loop _ _ fun _ _ => rfl
    rw [loop]
    exact Loop.flushExpired_conserves _ now _ _ _ _ brought.drop
  | disconnected =>
    have loop : (service.wake config .disconnected).loop = (Loop.flushPending service.loop).2 :=
      run_loop _ _ fun _ _ => rfl
    rw [loop]
    exact Loop.flushSome_conserves _ _ _ _ _ brought.drop
  | command clock cmd =>
    obtain ⟨loop, -⟩ := wake_command config service clock cmd
    rw [loop, Effect.bind_apply]
    have flushed := Loop.flushExpired_conserves config.flushAgeSecs clock.now _ _ _ _ brought
    rcases ran : Loop.flushExpired config.flushAgeSecs clock.now service.loop with ⟨outcome, reached⟩
    rw [ran] at flushed
    cases outcome with
    | error message => exact flushed.drop
    | ok => exact Loop.serve_accounted config clock aligned flushed

/-- Each turn accounts for the rows of the command it takes. -/
theorem wake_accounted {config : MicroBatchConfig} {base : Multiset Placed} {event : Wake}
    {service : Service} (aligned : Aligned event service)
    (accounted : service.loop.Accounted base (supplied service.received) 0) :
    (service.wake config event).loop.Accounted
      base (supplied (service.wake config event).received) 0 := by
  have received : supplied (service.wake config event).received =
      supplied service.received + (broughtBy event : Multiset Placed) := by
    cases event with
    | timeout now =>
      have same : (service.wake config (.timeout now)).received = service.received :=
        run_received _ _ fun _ _ => rfl
      rw [same]
      exact (add_zero _).symm
    | disconnected =>
      have same : (service.wake config .disconnected).received = service.received :=
        run_received _ _ fun _ _ => rfl
      rw [same]
      exact (add_zero _).symm
    | command clock cmd =>
      rw [(wake_command config service clock cmd).2, supplied_append]
      rfl
  rw [received]
  exact wake_conserves aligned accounted

/-- The status a served command leaves. -/
def statusAfter (status : Status) : Cmd → Status
  | .shutdown => .stopped
  | _ => status

theorem wake_served {config : MicroBatchConfig} {clock : Loop.Clock} {cmd : Cmd} {reply : Reply}
    {service : Service} {reached after : Loop}
    (expired : Loop.flushExpired config.flushAgeSecs clock.now service.loop = (.ok (), reached))
    (served : Loop.serve config clock cmd reached = (.ok reply, after)) :
    service.wake config (.command clock cmd) =
      ⟨after, service.received ++ [cmd], service.answered ++ [(cmd, reply)],
        statusAfter service.status cmd⟩ := by
  have ran : (do Loop.flushExpired config.flushAgeSecs clock.now
                 Loop.serve config clock cmd : LoopEffect Reply) service.loop =
      (.ok reply, after) := (Effect.bind_of_ok expired).trans served
  unfold wake run
  simp only [ran]
  cases cmd <;> rfl

/-- A command that is answered was served; one that is not ended the thread. -/
theorem wake_command_cases (config : MicroBatchConfig) (service : Service) (clock : Loop.Clock)
    (cmd : Cmd) :
    (∃ reached after reply,
      Loop.flushExpired config.flushAgeSecs clock.now service.loop = (.ok (), reached) ∧
        Loop.serve config clock cmd reached = (.ok reply, after) ∧
        service.wake config (.command clock cmd) =
          ⟨after, service.received ++ [cmd], service.answered ++ [(cmd, reply)],
            statusAfter service.status cmd⟩) ∨
      ∃ after, service.wake config (.command clock cmd) =
        ⟨after, service.received ++ [cmd], service.answered, .panicked⟩ := by
  rcases ran : (do Loop.flushExpired config.flushAgeSecs clock.now
                   Loop.serve config clock cmd : LoopEffect Reply) service.loop with ⟨outcome, after⟩
  cases outcome with
  | ok reply =>
    obtain ⟨⟨⟩, reached, expired, served⟩ := Effect.bind_eq_ok.mp ran
    exact .inl ⟨reached, after, reply, expired, served, wake_served expired served⟩
  | error message =>
    refine .inr ⟨after, ?_⟩
    unfold wake run
    simp only [ran]

/-- Every row appended while the loop ran is a row of one of the commands it took, under
the tenant and the columns of that command, and no row is appended twice. -/
theorem appended_of_supplied (config : MicroBatchConfig) (writer : Writer)
    (idle : writer.rollbackTo = none) (service : Service)
    (run : Reaches (Turns config) Aligned (start writer) service) :
    ∃ inserted ≤ supplied service.received,
      appended service.loop.writer.durable.history =
        appended writer.durable.history + inserted := by
  have kept : ∀ event service next, service.loop.Accounted (appended writer.durable.history)
        (supplied service.received) 0 → Aligned event service → Turns config event service next →
      next.loop.Accounted (appended writer.durable.history) (supplied next.received) 0 := by
    intro event service next accounted aligned turns
    rw [turns.2]
    exact wake_accounted aligned accounted
  have started : (start writer).loop.Accounted (appended writer.durable.history)
      (supplied (start writer).received) 0 :=
    ⟨fun entry member => absurd member List.not_mem_nil, idle, le_rfl,
      le_of_eq (by simp [start, supplied, Loop.buffered, SortedMap.empty])⟩
  have accounted := run.invariant kept started
  obtain ⟨inserted, grown⟩ := Multiset.le_iff_exists_add.mp accounted.grown
  have covered := accounted.covered
  rw [add_zero, grown, add_assoc] at covered
  exact ⟨inserted, (Multiset.le_add_right _ _).trans (Multiset.add_le_add_iff_left.mp covered), grown⟩

/-- Batches of two rows, flushed at any age. -/
def pairs : MicroBatchConfig := ⟨2, 0⟩

def orderIngest : Cmd := .ingestRaw "crm" "orders" ["user_id", "sku"] [[some "u1", some "A"]] "acme"

/-- The loop after one ingest of one row, which it buffers. -/
def buffering (writer : Writer) : Service :=
  (start writer).wake pairs (.command ⟨0, 0, "t0"⟩ orderIngest)

theorem buffering_turns (writer : Writer) :
    Turns pairs (.command ⟨0, 0, "t0"⟩ orderIngest) (start writer) (buffering writer) := ⟨rfl, rfl⟩

theorem orderIngest_aligned : orderIngest.Aligned := by
  intro row member
  rw [List.mem_singleton.mp member]
  rfl

theorem appended_of_supplied_order :
    ∃ inserted ≤ supplied (buffering freshWriter).received,
      appended (buffering freshWriter).loop.writer.durable.history =
        appended freshWriter.durable.history + inserted :=
  appended_of_supplied pairs freshWriter rfl _
    ((Reaches.refl _).snoc (buffering_turns freshWriter) orderIngest_aligned)

end Service

end ConsumerEngine.Ingestion
