import ConsumerEngine.Ingestion.MicroBatching
import ConsumerEngine.Storage.Growth

/-! Acknowledged rows and what is stored when the loop stops.

An ingest is acknowledged when its rows are buffered, before anything has checked that
the table will take them. They are stored when the loop stops if every batch that was
flushed with acknowledged rows in it fitted its table at that moment.
-/

set_option autoImplicit false

namespace ConsumerEngine.Ingestion

open ConsumerEngine.Core ConsumerEngine.Foundation ConsumerEngine.Storage

/-- The stored form of the rows that go to one table. -/
def onTable (name : String) (placed : Multiset Placed) : Multiset RawRow :=
  (placed.filter fun row => rawName row.into = name).map Placed.row

@[simp] theorem onTable_zero (name : String) : onTable name 0 = 0 := rfl

@[simp] theorem onTable_add (name : String) (first second : Multiset Placed) :
    onTable name (first + second) = onTable name first + onTable name second := by
  simp [onTable]

theorem onTable_mono {name : String} {first second : Multiset Placed} (below : first ≤ second) :
    onTable name first ≤ onTable name second :=
  Multiset.map_le_map (Multiset.filter_le_filter _ below)

theorem onTable_placed (table : IngestTable) (tenant : String) (rows : List (List Cell)) :
    onTable table.name (rows.map (table.placed tenant) : List Placed) =
      (rows.map fun row => (table.placed tenant row).row : List RawRow) := by
  have all : (rows.map (table.placed tenant)).filter (fun row => rawName row.into = table.name) =
      rows.map (table.placed tenant) :=
    List.filter_eq_self.mpr fun placed member => by
      obtain ⟨row, -, rfl⟩ := List.mem_map.mp member
      exact decide_eq_true rfl
  rw [onTable, Multiset.filter_coe, all, Multiset.map_coe, List.map_map]
  rfl

theorem onTable_placed_of_ne {table : IngestTable} {name : String} (ne : name ≠ table.name)
    (tenant : String) (rows : List (List Cell)) :
    onTable name (rows.map (table.placed tenant) : List Placed) = 0 := by
  have none : (rows.map (table.placed tenant)).filter (fun row => rawName row.into = name) = [] :=
    List.filter_eq_nil_iff.mpr fun placed member => by
      obtain ⟨row, -, rfl⟩ := List.mem_map.mp member
      exact fun same => ne (of_decide_eq_true same).symm
  rw [onTable, Multiset.filter_coe, none]
  rfl

/-- What an ingest stored, seen at any table. -/
theorem rowsOf_lands {table : IngestTable} {rows stored : List (List Cell)} {writer : Writer}
    {outcome : Except Error Nat × Writer} (lands : table.Lands rows writer outcome stored)
    (name : String) : outcome.2.durable.catalog.rowsOf name =
      writer.durable.catalog.rowsOf name +
        onTable name (stored.map (table.placed writer.tenant) : List Placed) := by
  by_cases same : name = table.name
  · rw [same, lands.catalog.target, onTable_placed]
    rfl
  · rw [lands.catalog.others name same, onTable_placed_of_ne same, add_zero]

/-! ### Batches that fit -/

/-- The table takes the rows of the batch, if it has any. -/
def PendingBatch.Fits (batch : PendingBatch) (key : BatchKey) (catalog : Catalog) : Prop :=
  batch.rows ≠ [] → (batch.table key).takes catalog = true

namespace Loop

/-- Each batch fits its table when its turn to be flushed comes. -/
def FlushesFit : List BatchKey → Loop → Prop
  | [], _ => True
  | key :: keys, loop =>
      (∀ batch, loop.pending.get key = some batch → batch.Fits key loop.writer.durable.catalog) ∧
        FlushesFit keys (flushKey key loop).2

def ExpiredFit (ageSecs now : Nat) (loop : Loop) : Prop :=
  ageSecs ≠ 0 → FlushesFit (loop.keysOf (expired ageSecs now)) loop

/-- The batch an ingest forces out, or fills up with rows already in it, fits its table. -/
structure IngestFits (config : MicroBatchConfig) (key : BatchKey) (columns : List String)
    (rows : List (List Cell)) (loop : Loop) : Prop where
  reshaped : ∀ old, loop.otherShape key columns = some old →
    old.Fits key loop.writer.durable.catalog
  filled : ∀ waiting, loop.pending.get key = some waiting → waiting.columns = columns →
    config.flushRows ≤ (waiting.rows ++ rows).length →
      waiting.Fits key loop.writer.durable.catalog

/-- What a command flushes fits, and a keyed write spares the stored rows that are owed. -/
def CommandFits (config : MicroBatchConfig) (owed : Multiset Placed) : Cmd → Loop → Prop
  | .ingestRaw system entity columns rows tenant, loop =>
      (∀ row ∈ rows, row.length = columns.length) ∧
        (config.flushRows ≠ 0 →
          IngestFits config (.of tenant system entity) columns rows loop)
  | .compactAll _, loop | .shutdown, loop => FlushesFit (loop.keysOf fun _ => true) loop
  | .upsertRaw system entity columns key rows tenant, loop =>
      (∀ row ∈ rows, row.length = columns.length) ∧
        KeyedTable.SparesStored ⟨system, entity, columns, key⟩ tenant rows []
          (fun name => onTable name owed) loop.writer.durable.catalog
  | .deleteRaw system entity key keys tenant, loop =>
      KeyedTable.SparesStored ⟨system, entity, [], key⟩ tenant [] keys
        (fun name => onTable name owed) loop.writer.durable.catalog
  | .applyCdcBatch batch tenant, loop =>
      (∀ row ∈ batch.upserts, row.length = batch.columns.length) ∧
        KeyedTable.SparesStored ⟨batch.system, batch.entity, batch.columns, batch.key⟩ tenant
          batch.upserts batch.deletes (fun name => onTable name owed) loop.writer.durable.catalog
  | _, _ => True

/-! ### The invariant -/

/-- The rows owed are stored, buffered or on their way, table by table. -/
structure Held (owed carried : Multiset Placed) (loop : Loop) : Prop where
  sound : ∀ entry ∈ loop.pending.entries, entry.2.Sound entry.1
  idle : loop.writer.rollbackTo = none
  never : ∀ i, loop.writer.duck.rejects i = false
  held : ∀ name, onTable name owed ≤
    loop.writer.durable.catalog.rowsOf name + onTable name (loop.buffered + carried)

section
variable {owed carried : Multiset Placed} {loop : Loop}

theorem Held.less {fewer : Multiset Placed} (held : loop.Held owed carried) (below : fewer ≤ owed) :
    loop.Held fewer carried :=
  { held with held := fun name => (onTable_mono below).trans (held.held name) }

theorem Held.ofWriter {writer : Writer} {known : List (String × String)}
    (held : loop.Held owed carried) (idle : writer.rollbackTo = none)
    (duck : writer.duck = loop.writer.duck)
    (retains : Retains (fun name => onTable name owed) loop.writer.durable.catalog
      writer.durable.catalog) : { loop with writer, known }.Held owed carried where
  sound := held.sound
  idle := idle
  never := by rw [duck]; exact held.never
  held name := by
    classical
    -- what is owed and neither buffered nor on its way is stored
    have stored := tsub_le_iff_right.mpr (held.held name)
    exact tsub_le_iff_right.mp (retains name _ (Multiset.sub_le_self _ _) stored)

/-- Whatever a session does, its loop holds what is owed if it leaves those rows stored. -/
theorem Held.callKnown {α : Type} {act : Session α} {allowed : Statement → Prop}
    (held : loop.Held owed carried) (only : OnlySends allowed act) (system entity : String)
    (retains : Retains (fun name => onTable name owed) loop.writer.durable.catalog
      (act loop.writer).2.durable.catalog) :
    (Loop.callKnown system entity act loop).2.Held owed carried := by
  obtain ⟨known, state⟩ := callKnown_state system entity act loop
  rw [state]
  exact held.ofWriter ((only loop.writer).idle held.idle) (only loop.writer).duck retains

theorem Held.setTenant (held : loop.Held owed carried) (tenant : String) :
    (Loop.setTenant tenant loop).2.Held owed carried :=
  held.ofWriter held.idle rfl ((Grows.refl _).retains _)

theorem Held.callAside {α : Type} {act : Session α} (held : loop.Held owed carried)
    (only : OnlySends Statement.Aside act) : (Loop.call act loop).2.Held owed carried := by
  rw [call_state]
  have sending := only loop.writer
  exact held.ofWriter (sending.idle held.idle) sending.duck ((sending.grows held.idle).retains _)

/-! ### A flush -/

/-- The rows an answer acknowledges. -/
def acknowledged (outcome : Except String (Except Error Nat)) (rows : Multiset Placed) :
    Multiset Placed :=
  match outcome with
  | .ok (.ok _) => rows
  | _ => 0

theorem acknowledged_le (outcome : Except String (Except Error Nat)) (rows : Multiset Placed) :
    acknowledged outcome rows ≤ rows := by
  unfold acknowledged
  split
  · exact le_rfl
  · exact Multiset.zero_le rows

/-- Rows handed to `ingest_raw`: those owed before are stored, since the table takes the
rows if there are any; the others are acknowledged only if they are stored. -/
theorem Held.ingestRaw {table : IngestTable} {must extra : List (List Cell)}
    (aligned : ∀ row ∈ must ++ extra, row.length = table.columns.length)
    (fits : must ≠ [] → table.takes loop.writer.durable.catalog = true)
    (held : loop.Held owed
      (carried + (must.map (table.placed loop.writer.tenant) : List Placed))) :
    let result := Loop.callKnown table.system table.entity
      (Storage.ingestRaw table.system table.entity table.columns (must ++ extra)) loop
    result.2.Held (owed + acknowledged result.1
      (extra.map (table.placed loop.writer.tenant) : List Placed)) carried := by
  intro result
  obtain ⟨known, state⟩ := callKnown_state table.system table.entity
    (Storage.ingestRaw table.system table.entity table.columns (must ++ extra)) loop
  obtain ⟨stored, lands⟩ := IngestTable.lands loop.writer aligned
  have idle := lands.rollbackTo.trans held.idle
  have never := held.never
  rw [← lands.duck] at never
  by_cases returned : (Storage.ingestRaw table.system table.entity table.columns (must ++ extra)
      loop.writer).1.isOk = true
  · have whole := lands.whole returned
    subst whole
    refine Held.less ?_ (add_le_add_right (acknowledged_le _ _) owed)
    rw [state]
    refine ⟨held.sound, idle, never, fun name => ?_⟩
    have held := held.held name
    simp only [rowsOf_lands lands, onTable_add, List.map_append, ← Multiset.coe_add] at held ⊢
    refine le_trans (add_le_add_left held _) (le_of_eq ?_)
    simp only [Loop.buffered]
    abel
  · have nothing : must = [] := by
      by_contra some
      obtain ⟨n, after, ran⟩ := IngestTable.taken loop.writer (fits some) held.never aligned
      rw [ran] at returned
      exact returned rfl
    subst nothing
    have unanswered : acknowledged result.1
        (extra.map (table.placed loop.writer.tenant) : List Placed) = 0 := by
      unfold acknowledged
      split
      · next n answered =>
        have ran := callKnown_eq_ok (show result = (.ok (.ok n), result.2) from Prod.ext answered rfl)
        rw [ran] at returned
        exact absurd rfl returned
      · rfl
    rw [unanswered, add_zero, state]
    have held' : loop.Held owed carried := by simpa using held
    exact held'.ofWriter idle lands.duck (lands.grows.retains _)

theorem Held.ingestExtra (table : IngestTable) {rows : List (List Cell)}
    (aligned : ∀ row ∈ rows, row.length = table.columns.length) (held : loop.Held owed carried) :
    let result := Loop.callKnown table.system table.entity
      (Storage.ingestRaw table.system table.entity table.columns rows) loop
    result.2.Held (owed + acknowledged result.1
      (rows.map (table.placed loop.writer.tenant) : List Placed)) carried := by
  have nothing : loop.Held owed (carried +
      (([] : List (List Cell)).map (table.placed loop.writer.tenant) : List Placed)) := by
    simpa using held
  have stored := Held.ingestRaw (by simpa using aligned) (fun some => absurd rfl some) nothing
  exact stored

/-- A flush stores the rows owed before and acknowledges the others if it stores them. -/
theorem Held.flushSplit {key : BatchKey} {batch : PendingBatch} {must extra : List (List Cell)}
    (split : batch.rows = must ++ extra) (sound : batch.Sound key)
    (fits : must ≠ [] → (batch.table key).takes loop.writer.durable.catalog = true)
    (held : loop.Held owed
      (carried + (must.map ((batch.table key).placed batch.tenant) : List Placed))) :
    let result := Loop.flushBatch key batch loop
    result.2.Held (owed + acknowledged result.1
      (extra.map ((batch.table key).placed batch.tenant) : List Placed)) carried := by
  have aligned : ∀ row ∈ must ++ extra, row.length = (batch.table key).columns.length := by
    rw [← split]
    exact sound.aligned
  have stamped : (Loop.setTenant batch.tenant loop).2.Held owed (carried + (must.map
      ((batch.table key).placed (Loop.setTenant batch.tenant loop).2.writer.tenant) :
        List Placed)) := held.setTenant batch.tenant
  have flushed := Held.ingestRaw aligned (by exact fits) stamped
  rw [← split] at flushed
  exact flushed

/-- A flushed batch is stored. -/
theorem Held.flushBatch {key : BatchKey} {batch : PendingBatch} (sound : batch.Sound key)
    (fits : batch.Fits key loop.writer.durable.catalog)
    (held : loop.Held owed (carried + (batch.placed key : List Placed))) :
    (Loop.flushBatch key batch loop).2.Held owed carried :=
  (Held.flushSplit (List.append_nil batch.rows).symm sound fits held).less
    (Multiset.le_add_right _ _)

/-- Taking the batch under a key out of the buffer puts its rows on their way. -/
theorem Held.take (held : loop.Held owed carried) (key : BatchKey) :
    { loop with pending := loop.pending.remove key }.Held owed
      (carried + (loop.waiting key : Multiset Placed)) where
  sound entry member := held.sound entry (SortedMap.mem_remove.mp member).1
  idle := held.idle
  never := held.never
  held name := by
    have held := held.held name
    rw [loop.buffered_take key] at held
    refine held.trans (le_of_eq ?_)
    simp only [onTable_add]
    abel

theorem waiting_of_get {key : BatchKey} {batch : PendingBatch}
    (found : loop.pending.get key = some batch) : loop.waiting key = batch.placed key := by
  simp [waiting, found]

theorem waiting_of_get_none {key : BatchKey} (missing : loop.pending.get key = none) :
    loop.waiting key = [] := by
  simp [waiting, missing]

theorem Held.sound_of_get {key : BatchKey} {batch : PendingBatch} (held : loop.Held owed carried)
    (found : loop.pending.get key = some batch) : batch.Sound key :=
  held.sound (key, batch) (SortedMap.get_eq_some.mp found)

theorem Held.flushOut {key : BatchKey} {batch : PendingBatch} (held : loop.Held owed carried)
    (found : loop.pending.get key = some batch)
    (fits : batch.Fits key loop.writer.durable.catalog) :
    (Loop.flushOut key batch loop).2.Held owed carried := by
  rw [flushOut_state]
  have taken := held.take key
  rw [waiting_of_get found] at taken
  exact taken.flushBatch (held.sound_of_get found) fits

theorem Held.flushKeys {keys : List BatchKey} (held : loop.Held owed carried)
    (fits : FlushesFit keys loop) : (Loop.flushKeys keys loop).2.Held owed carried := by
  induction keys generalizing loop with
  | nil => exact held
  | cons key keys ih =>
    obtain ⟨here, rest⟩ := fits
    have flushed : (Loop.flushKey key loop).2.Held owed carried := by
      unfold Loop.flushKey
      rw [Effect.bind_of_ok (Effect.get_apply loop)]
      cases found : loop.pending.get key with
      | none => exact held
      | some batch => exact held.flushOut found (here batch found)
    unfold Loop.flushKeys
    rw [Effect.bind_apply]
    rcases ran : Loop.flushKey key loop with ⟨outcome, reached⟩
    rw [ran] at flushed rest
    cases outcome with
    | error message => exact flushed
    | ok => exact ih flushed rest

theorem Held.flushSome {shouldFlush : PendingBatch → Bool} (held : loop.Held owed carried)
    (fits : FlushesFit (loop.keysOf shouldFlush) loop) :
    (Loop.flushSome shouldFlush loop).2.Held owed carried := by
  unfold Loop.flushSome
  rw [Effect.bind_of_ok (Effect.get_apply loop)]
  exact held.flushKeys fits

theorem Held.flushExpired {ageSecs now : Nat} (held : loop.Held owed carried)
    (fits : ExpiredFit ageSecs now loop) : (Loop.flushExpired ageSecs now loop).2.Held owed carried := by
  unfold Loop.flushExpired
  by_cases disabled : ageSecs = 0
  · rw [if_pos disabled]
    exact held
  · rw [if_neg disabled]
    exact held.flushSome (fits disabled)

/-! ### An ingest -/

theorem Held.changeShape {key : BatchKey} {columns : List String} (held : loop.Held owed carried)
    (fits : ∀ old, loop.otherShape key columns = some old →
      old.Fits key loop.writer.durable.catalog) :
    (Loop.changeShape key columns loop).2.Held owed carried := by
  unfold Loop.changeShape
  rw [Effect.bind_of_ok (Effect.get_apply loop)]
  cases other : loop.otherShape key columns with
  | none => exact held
  | some old => exact held.flushOut (Option.filter_eq_some_iff.mp other).1 (fits old other)

/-- After a schema change what still waits under the key waited there before. -/
theorem changeShape_waiting {key : BatchKey} {columns : List String} {after : Loop}
    (ran : Loop.changeShape key columns loop = (.ok (), after)) {batch : PendingBatch}
    (found : after.pending.get key = some batch) :
    after = loop ∧ batch.columns = columns := by
  refine ⟨?_, changeShape_settles ran found⟩
  unfold Loop.changeShape at ran
  rw [Effect.bind_of_ok (Effect.get_apply loop)] at ran
  cases other : loop.otherShape key columns with
  | none =>
    simp only [other] at ran
    cases ran
    rfl
  | some old =>
    simp only [other] at ran
    have state := congrArg (fun result => result.2.pending) ran
    simp only [flushOut_state, flushBatch_pending] at state
    rw [← state, SortedMap.get_remove_self] at found
    cases found

section
variable (config : MicroBatchConfig) (since : Nat) {system entity : String} {columns : List String}
  {rows : List (List Cell)} {tenant : String}
  (aligned : ∀ row ∈ rows, row.length = columns.length)

include aligned

theorem Held.buffer (held : loop.Held owed carried)
    (settled : ∀ batch, loop.pending.get (.of tenant system entity) = some batch →
      batch.columns = columns)
    (filled : ∀ waiting, loop.pending.get (.of tenant system entity) = some waiting →
      config.flushRows ≤ (waiting.rows ++ rows).length →
        waiting.Fits (.of tenant system entity) loop.writer.durable.catalog) :
    let result := Loop.buffer config since (.of tenant system entity) columns rows tenant loop
    result.2.Held (owed + acknowledged result.1
      (rows.map (IngestTable.placed ⟨system, entity, columns⟩ tenant) : List Placed)) carried := by
  have owns : ∀ batch, loop.pending.get (.of tenant system entity) = some batch →
      batch.Sound (.of tenant system entity) := fun _ found => held.sound_of_get found
  have sound := extended_sound owns settled aligned since
  have taken := held.take (.of tenant system entity)
  unfold Loop.buffer
  rw [Effect.bind_of_ok (Effect.get_apply loop)]
  by_cases full : config.flushRows ≤
      (loop.extended (.of tenant system entity) columns rows tenant since).rows.length
  · rw [if_pos full]
    unfold extended at sound full ⊢
    cases found : loop.pending.get (.of tenant system entity) with
    | none =>
      rw [waiting_of_get_none found] at taken
      simp only [found, Option.getD_none] at sound ⊢
      exact Held.flushSplit (show _ = [] ++ rows from rfl) sound (fun some => absurd rfl some) taken
    | some waiting =>
      have owned : waiting.tenant = tenant := (owns waiting found).owned
      have same := settled waiting found
      subst owned same
      rw [waiting_of_get found] at taken
      simp only [found, Option.getD_some] at sound full ⊢
      exact Held.flushSplit rfl sound (filled waiting found full) taken
  · rw [if_neg full]
    refine ⟨fun entry member => ?_, held.idle, held.never, fun name => ?_⟩
    · rcases SortedMap.mem_insert.mp member with rfl | ⟨ne, member⟩
      · exact sound
      · exact held.sound entry member
    · have held := taken.held name
      simp only [Effect.bind_apply, Effect.modify_apply, Effect.pure_apply, acknowledged]
      rw [buffered_insert, extended_placed owns settled, ← Multiset.coe_add]
      simp only [onTable_add] at held ⊢
      refine le_trans (add_le_add_left held _) (le_of_eq ?_)
      abel

theorem Held.ingest (held : loop.Held owed carried)
    (fits : config.flushRows ≠ 0 → IngestFits config (.of tenant system entity) columns rows loop) :
    let result := Loop.ingest config since system entity columns rows tenant loop
    result.2.Held (owed + acknowledged result.1
      (rows.map (IngestTable.placed ⟨system, entity, columns⟩ tenant) : List Placed)) carried := by
  have stamped := held.setTenant tenant
  have fits : config.flushRows ≠ 0 → IngestFits config (.of tenant system entity) columns rows
      (Loop.setTenant tenant loop).2 := fun buffers => ⟨(fits buffers).1, (fits buffers).2⟩
  have current : (Loop.setTenant tenant loop).2.writer.tenant = tenant := rfl
  unfold Loop.ingest
  rw [Effect.bind_of_ok
    (show Loop.setTenant tenant loop = (.ok (), (Loop.setTenant tenant loop).2) from rfl)]
  generalize (Loop.setTenant tenant loop).2 = ready at stamped fits current ⊢
  subst current
  by_cases immediate : config.flushRows = 0
  · rw [if_pos immediate]
    exact Held.ingestExtra ⟨system, entity, columns⟩ aligned stamped
  · rw [if_neg immediate, Effect.bind_apply]
    obtain ⟨reshaped, filled⟩ := fits immediate
    have changed := stamped.changeShape reshaped
    rcases ran : Loop.changeShape (.of ready.writer.tenant system entity) columns ready
      with ⟨outcome, after⟩
    rw [ran] at changed
    cases outcome with
    | error message => exact changed.less (le_of_eq (add_zero owed))
    | ok =>
      refine changed.buffer config since aligned (fun _ => changeShape_settles ran)
        fun waiting found long => ?_
      obtain ⟨same, settled⟩ := changeShape_waiting ran found
      subst same
      exact filled waiting found settled long

end

/-! ### The other commands -/

theorem Held.compactKnown (held : loop.Held owed carried) (last : Except Error Unit)
    (known : List (String × String)) : (Loop.compactKnown last known loop).2.Held owed carried := by
  induction known generalizing last loop with
  | nil => exact held
  | cons dataset known ih =>
    have compacted := held.callAside (compact_only dataset.1 dataset.2)
    unfold Loop.compactKnown
    rw [Effect.bind_apply]
    rcases ran : Loop.call (compact dataset.1 dataset.2) loop with ⟨outcome, after⟩
    rw [ran] at compacted
    cases outcome with
    | error message => exact compacted
    | ok returned =>
      cases returned with
      | ok => exact ih compacted last
      | error failure => exact ih compacted (.error failure)

/-- What each part of a command leaves, the next part keeps. -/
theorem Held.bind {α β : Type} {act : LoopEffect α} {rest : α → LoopEffect β}
    (first : (act loop).2.Held owed carried)
    (next : ∀ result after, act loop = (.ok result, after) → after.Held owed carried →
      (rest result after).2.Held owed carried) :
    ((act >>= rest) loop).2.Held owed carried := by
  rw [Effect.bind_apply]
  rcases ran : act loop with ⟨outcome, after⟩
  rw [ran] at first
  cases outcome with
  | error message => exact first
  | ok result => exact next result after ran first

theorem Held.compactAll (retentionDays : Nat) (held : loop.Held owed carried)
    (fits : FlushesFit (loop.keysOf fun _ => true) loop) :
    (Loop.compactAll retentionDays loop).2.Held owed carried := by
  refine Held.bind (held.flushSome fits) fun _ _ _ flushed => ?_
  refine Held.bind flushed fun current after read held => ?_
  refine Held.bind (held.compactKnown _ _) fun _ _ _ compacted => ?_
  refine Held.bind (compacted.callAside (maintain_only _ _)) fun _ _ _ expired => ?_
  exact Held.bind (expired.callAside (maintain_only _ _)) fun _ _ _ deleted => deleted

theorem Held.callAs {α : Type} {act : Session α} (held : loop.Held owed carried) (tenant : String)
    (only : OnlySends Statement.Aside act) : (Loop.callAs tenant act loop).2.Held owed carried :=
  (held.setTenant tenant).callAside only

end

/-- The rows an answered command acknowledges. -/
def acknowledgedBy : Cmd × Reply → Multiset Placed
  | (cmd, .count (.ok _)) => cmd.placed
  | _ => 0

/-- The rows acknowledged once a command has been served. -/
def servedRows (cmd : Cmd) : Except String Reply → Multiset Placed
  | .ok reply => acknowledgedBy (cmd, reply)
  | .error _ => 0

theorem servedRows_of_bare {cmd : Cmd} (bare : cmd.placed = []) (outcome : Except String Reply) :
    servedRows cmd outcome = 0 := by
  unfold servedRows acknowledgedBy
  split
  · split
    · next same =>
      cases same
      rw [bare]
      rfl
    · rfl
  · rfl

section
variable {owed carried : Multiset Placed} {loop : Loop}

theorem Held.serveBare {cmd : Cmd} {act : LoopEffect Reply} (bare : cmd.placed = [])
    (held : (act loop).2.Held owed carried) :
    (act loop).2.Held (owed + servedRows cmd (act loop).1) carried := by
  rw [servedRows_of_bare bare, add_zero]
  exact held

/-- A command that fits leaves what was owed, and the rows it acknowledges, held. -/
theorem Held.serve (config : MicroBatchConfig) (clock : Clock) {cmd : Cmd}
    (held : loop.Held owed carried) (fits : CommandFits config owed cmd loop) :
    let result := Loop.serve config clock cmd loop
    result.2.Held (owed + servedRows cmd result.1) carried := by
  cases cmd with
  | ingestRaw system entity columns rows tenant =>
    have ingested := Held.ingest config clock.since fits.1 held fits.2
    simp only [Loop.serve, Effect.bind_apply]
    rcases ran : Loop.ingest config clock.since system entity columns rows tenant loop
      with ⟨outcome, after⟩
    rw [ran] at ingested
    cases outcome with
    | error message => exact ingested
    | ok returned => cases returned <;> exact ingested
  | compactAll retentionDays =>
    refine Held.serveBare rfl ?_
    rw [Loop.serve, Effect.map_state]
    exact held.compactAll retentionDays fits
  | materialize subquerySql subqueryParams keyColumn spec tenant =>
    refine Held.serveBare rfl ?_
    rw [Loop.serve, Effect.map_state]
    exact held.callAs tenant (materializeSnapshot_only _ _ _ _)
  | exportParquet snapshotId dest =>
    refine Held.serveBare rfl ?_
    rw [Loop.serve, Effect.map_state]
    exact held.callAside (exportSnapshotParquet_only _ _)
  | upsertRaw system entity columns key rows tenant =>
    refine Held.serveBare rfl ?_
    refine Held.bind (held.setTenant tenant) fun _ after ran stamped => ?_
    cases ran
    refine Held.bind (stamped.callKnown (upsertRaw_only _ _ _ _ _) _ _ ?_) fun _ _ _ done => done
    exact KeyedTable.upsertRaw_retains ⟨system, entity, columns, key⟩ _ fits.1 fits.2
  | deleteRaw system entity key keys tenant =>
    refine Held.serveBare rfl ?_
    refine Held.bind (held.setTenant tenant) fun _ after ran stamped => ?_
    cases ran
    refine Held.bind (stamped.callKnown (deleteRaw_only _ _ _ _) _ _ ?_) fun _ _ _ done => done
    exact KeyedTable.deleteRaw_retains ⟨system, entity, [], key⟩ _ fits
  | writeFeatures rows tenant =>
    refine Held.serveBare rfl ?_
    rw [Loop.serve, Effect.map_state]
    exact held.callAs tenant (writeFeaturesAndRefresh_only _)
  | writeCatalog rows tenant =>
    refine Held.serveBare rfl ?_
    rw [Loop.serve, Effect.map_state]
    exact held.callAs tenant (writeCatalogRows_only _)
  | writeSuppression rows tenant =>
    refine Held.serveBare rfl ?_
    rw [Loop.serve, Effect.map_state]
    exact held.callAs tenant (writeSuppressionIdempotent_only _)
  | applyCdcBatch batch tenant =>
    refine Held.serveBare rfl ?_
    refine Held.bind (held.setTenant tenant) fun _ after ran stamped => ?_
    cases ran
    refine Held.bind (stamped.callKnown (applyCdcBatch_only _ _ _ _ _ _ _ _) _ _ ?_)
      fun _ _ _ done => done
    exact KeyedTable.applyCdcBatch_retains ⟨batch.system, batch.entity, batch.columns, batch.key⟩ _
      batch.offsets clock.stamp fits.1 fits.2
  | readCdcOffset source =>
    refine Held.serveBare rfl ?_
    rw [Loop.serve, Effect.map_state]
    exact held.callAside (readCdcOffsets_only source)
  | shutdown =>
    refine Held.serveBare rfl ?_
    exact Held.bind (held.flushSome fits) fun _ _ _ flushed => flushed

end

/-! ### A drained buffer -/

theorem flushKey_pending {key : BatchKey} {loop after : Loop}
    (ran : Loop.flushKey key loop = (.ok (), after)) :
    after.pending.entries = (loop.pending.remove key).entries := by
  unfold Loop.flushKey at ran
  rw [Effect.bind_of_ok (Effect.get_apply loop)] at ran
  cases found : loop.pending.get key with
  | none =>
    simp only [found] at ran
    cases ran
    exact (SortedMap.remove_of_get_eq_none found).symm
  | some batch =>
    simp only [found] at ran
    have state := congrArg (fun result => result.2.pending) ran
    simp only [flushOut_state, flushBatch_pending] at state
    exact congrArg SortedMap.entries state.symm

theorem flushKeys_pending {keys : List BatchKey} {loop after : Loop}
    (ran : Loop.flushKeys keys loop = (.ok (), after)) :
    ∀ entry ∈ after.pending.entries, entry ∈ loop.pending.entries ∧ entry.1 ∉ keys := by
  induction keys generalizing loop with
  | nil =>
    cases ran
    exact fun entry member => ⟨member, List.not_mem_nil⟩
  | cons key keys ih =>
    obtain ⟨⟨⟩, reached, flushed, rest⟩ := Effect.bind_eq_ok.mp ran
    intro entry member
    obtain ⟨left, others⟩ := ih rest entry member
    rw [flushKey_pending flushed] at left
    obtain ⟨before, ne⟩ := SortedMap.mem_remove.mp left
    refine ⟨before, fun among => ?_⟩
    rcases List.mem_cons.mp among with same | among
    · exact ne same
    · exact others among

/-- After a full flush no batch waits. -/
theorem flushPending_entries {loop after : Loop} (ran : Loop.flushPending loop = (.ok (), after)) :
    after.pending.entries = [] := by
  unfold Loop.flushPending Loop.flushSome at ran
  rw [Effect.bind_of_ok (Effect.get_apply loop)] at ran
  refine List.eq_nil_iff_forall_not_mem.mpr fun entry member => ?_
  obtain ⟨before, others⟩ := flushKeys_pending ran entry member
  exact others (List.mem_map_of_mem (List.mem_filter.mpr ⟨before, rfl⟩))

theorem flushPending_buffered {loop after : Loop} (ran : Loop.flushPending loop = (.ok (), after)) :
    after.buffered = 0 := by
  rw [buffered, flushPending_entries ran]
  rfl

/-- A flush goes on after any failure but a panic. -/
theorem flushBatch_returns (key : BatchKey) (batch : PendingBatch) (loop : Loop)
    (returns : ∀ message, (Storage.ingestRaw key.system key.entity batch.columns batch.rows
      (loop.writer.setTenant batch.tenant)).1 ≠ .error (.panicked message)) :
    ∃ outcome known, Loop.flushBatch key batch loop =
      (.ok outcome, { loop with
        writer := (Storage.ingestRaw key.system key.entity batch.columns batch.rows
          (loop.writer.setTenant batch.tenant)).2
        known }) := by
  unfold Loop.flushBatch Loop.callKnown
  rw [Effect.bind_of_ok (show Loop.setTenant batch.tenant loop =
    (.ok (), { loop with writer := loop.writer.setTenant batch.tenant }) from rfl), Effect.bind_apply]
  unfold Loop.call
  revert returns
  rcases Storage.ingestRaw key.system key.entity batch.columns batch.rows
    (loop.writer.setTenant batch.tenant) with ⟨outcome, after⟩
  intro returns
  cases outcome with
  | ok n =>
    simp only [Effect.bind_apply, register, Effect.modify_apply, Effect.pure_apply]
    split <;> exact ⟨_, _, rfl⟩
  | error failure =>
    cases failure with
    | panicked message => exact absurd rfl (returns message)
    | _ => exact ⟨_, _, rfl⟩

/-- A buffer of one batch is drained by one flush. -/
theorem flushPending_single (key : BatchKey) (batch : PendingBatch) (loop : Loop)
    (alone : loop.pending.entries = [(key, batch)])
    (returns : ∀ message, (Storage.ingestRaw key.system key.entity batch.columns batch.rows
      (loop.writer.setTenant batch.tenant)).1 ≠ .error (.panicked message)) :
    ∃ after, Loop.flushPending loop = (.ok (), after) ∧
      after.writer = (Storage.ingestRaw key.system key.entity batch.columns batch.rows
        (loop.writer.setTenant batch.tenant)).2 := by
  have keys : loop.keysOf (fun _ => true) = [key] := by simp [keysOf, alone]
  have found : loop.pending.get key = some batch :=
    SortedMap.get_eq_some.mpr (by rw [alone]; exact List.mem_singleton.mpr rfl)
  obtain ⟨outcome, known, ran⟩ := flushBatch_returns key batch
    { loop with pending := loop.pending.remove key } returns
  refine ⟨⟨(Storage.ingestRaw key.system key.entity batch.columns batch.rows
    (loop.writer.setTenant batch.tenant)).2, known, loop.pending.remove key⟩, ?_, rfl⟩
  unfold Loop.flushPending Loop.flushSome
  rw [Effect.bind_of_ok (Effect.get_apply loop), keys]
  unfold Loop.flushKeys Loop.flushKey Loop.flushOut
  simp only [Effect.bind_apply, Effect.get_apply, found, removePending, Effect.modify_apply, ran]
  rfl

end Loop

/-! ### Runs -/

namespace Service

/-- The rows of the ingests that were answered with success. -/
def acknowledged (service : Service) : Multiset Placed :=
  (service.answered.map Loop.acknowledgedBy).sum

/-- What a turn flushes fits its table, and a keyed write spares the acknowledged rows. -/
def Fits (config : MicroBatchConfig) : Wake → Service → Prop
  | .timeout now, service => Loop.ExpiredFit config.flushAgeSecs now service.loop
  | .command clock cmd, service =>
      Loop.ExpiredFit config.flushAgeSecs clock.now service.loop ∧
        Loop.CommandFits config service.acknowledged cmd
          (Loop.flushExpired config.flushAgeSecs clock.now service.loop).2
  | .disconnected, service => Loop.FlushesFit (service.loop.keysOf fun _ => true) service.loop

/-- The acknowledged rows are held, and none of them waits when the loop has stopped. -/
structure Holds (service : Service) : Prop where
  held : service.loop.Held service.acknowledged 0
  drained : service.status = .stopped → service.loop.buffered = 0

theorem acknowledged_answer (service : Service) (cmd : Cmd) (reply : Reply) :
    { service with answered := service.answered ++ [(cmd, reply)] }.acknowledged =
      service.acknowledged + Loop.acknowledgedBy (cmd, reply) := by
  simp [acknowledged]

/-- A part of the loop that panics leaves what was held before. -/
theorem run_holds {α : Type} {service : Service} {act : LoopEffect α} {next : Service → α → Service}
    (held : (act service.loop).2.Held service.acknowledged 0)
    (finishes : ∀ result after, act service.loop = (.ok result, after) →
      (next { service with loop := after } result).Holds) :
    (service.run act next).Holds := by
  unfold run
  rcases ran : act service.loop with ⟨outcome, after⟩
  cases outcome with
  | ok result => exact finishes result after ran
  | error message =>
    rw [ran] at held
    exact ⟨held, fun stopped => nomatch stopped⟩

theorem wake_holds {config : MicroBatchConfig} {event : Wake} {service : Service}
    (running : service.status = .running) (fits : Fits config event service)
    (holds : service.Holds) : (service.wake config event).Holds := by
  have goesOn {service : Service} (running : service.status = .running) :
      service.status = .stopped → service.loop.buffered = 0 := fun stopped => by
    rw [running] at stopped
    cases stopped
  cases event with
  | timeout now =>
    have flushed := holds.held.flushExpired fits
    unfold wake
    refine run_holds flushed fun _ after ran => ⟨?_, goesOn (by exact running)⟩
    rw [ran] at flushed
    exact flushed
  | disconnected =>
    have flushed : (Loop.flushPending service.loop).2.Held service.acknowledged 0 :=
      holds.held.flushSome fits
    unfold wake
    refine run_holds flushed fun _ after ran => ⟨?_, fun _ => ?_⟩
    · rw [ran] at flushed
      exact flushed
    · exact Loop.flushPending_buffered ran
  | command clock cmd =>
    have flushed := holds.held.flushExpired fits.1
    have served {after : Loop} {outcome : Except String Reply}
        (ran : Loop.serve config clock cmd
          (Loop.flushExpired config.flushAgeSecs clock.now service.loop).2 = (outcome, after)) :
        after.Held (service.acknowledged + Loop.servedRows cmd outcome) 0 := by
      have served := flushed.serve config clock fits.2
      rw [ran] at served
      exact served
    have panicked : ((do Loop.flushExpired config.flushAgeSecs clock.now
                         Loop.serve config clock cmd : LoopEffect Reply) service.loop).2.Held
        service.acknowledged 0 := by
      refine Loop.Held.bind flushed fun _ after ran _ => ?_
      rw [ran] at served
      exact (served rfl).less (Multiset.le_add_right _ _)
    unfold wake
    refine run_holds panicked fun reply after ran => ?_
    obtain ⟨⟨⟩, reached, expired, answered⟩ := Effect.bind_eq_ok.mp ran
    rw [expired] at served
    have held := served answered
    cases cmd with
    | shutdown =>
      obtain ⟨⟨⟩, drained, last, done⟩ := Effect.bind_eq_ok.mp answered
      cases done
      refine ⟨?_, fun _ => Loop.flushPending_buffered last⟩
      exact (acknowledged_answer _ _ _).symm ▸ held
    | _ =>
      refine ⟨?_, goesOn (by exact running)⟩
      exact (acknowledged_answer _ _ _).symm ▸ held

/-- When the loop stops, every acknowledged row is stored, if each batch fitted its table
when it was flushed and no keyed write was for an acknowledged row already stored. -/
theorem acknowledged_stored (config : MicroBatchConfig) (writer : Writer)
    (idle : writer.rollbackTo = none) (never : ∀ i, writer.duck.rejects i = false)
    (service : Service) (run : Reaches (Turns config) (Fits config) (start writer) service)
    (stopped : service.status = .stopped) (name : String) :
    onTable name service.acknowledged ≤ service.loop.writer.durable.catalog.rowsOf name := by
  have kept : ∀ event service next, service.Holds → Fits config event service →
      Turns config event service next → next.Holds := by
    intro event service next holds fits turns
    rw [turns.2]
    exact wake_holds turns.1 fits holds
  have started : (start writer).Holds :=
    ⟨⟨fun entry member => absurd member List.not_mem_nil, idle, never, fun name => Multiset.zero_le _⟩, fun stopped => nomatch stopped⟩
  have holds := run.invariant kept started
  have held := holds.held.held name
  rw [holds.drained stopped, add_zero, onTable_zero, add_zero] at held
  exact held

section
variable (writer : Writer)

/-- The batch the ingest of one order waits in. -/
def orderBatch : PendingBatch := ⟨["user_id", "sku"], [[some "u1", some "A"]], "acme", 0⟩

def orderKey : BatchKey := .of "acme" "crm" "orders"

theorem buffering_eq : buffering writer =
    { loop := ⟨writer.setTenant "acme", [], SortedMap.empty.insert orderKey orderBatch⟩
      received := [orderIngest]
      answered := [(orderIngest, .count (.ok 0))]
      status := .running } := rfl

/-- The senders go away while the order waits: it is flushed and the loop stops. -/
theorem stops_after_flush (returns : ∀ message, (ingestRaw "crm" "orders" orderBatch.columns
      orderBatch.rows (writer.setTenant "acme")).1 ≠ .error (.panicked message)) :
    ∃ loop, (buffering writer).wake pairs .disconnected =
        { buffering writer with loop, status := .stopped } ∧
      loop.writer = (ingestRaw "crm" "orders" orderBatch.columns orderBatch.rows
        (writer.setTenant "acme")).2 := by
  obtain ⟨after, drained, stored⟩ := Loop.flushPending_single orderKey orderBatch
    (buffering writer).loop rfl returns
  refine ⟨after, ?_, stored⟩
  unfold wake run
  rw [drained]

theorem order_fits (takes : (orderBatch.table orderKey).takes writer.durable.catalog = true) :
    Fits pairs .disconnected (buffering writer) :=
  ⟨fun batch found _ => by
    cases (SortedMap.get_insert_self _ _ _).symm.trans found
    exact takes, trivial⟩

end

theorem acknowledged_stored_order :
    ∃ service, Reaches (Turns pairs) (Fits pairs) (start freshWriter) service ∧
      service.status = .stopped ∧
      onTable "raw_crm_orders" service.acknowledged ≤
        service.loop.writer.durable.catalog.rowsOf "raw_crm_orders" := by
  have takes : (orderBatch.table orderKey).takes freshWriter.durable.catalog = true := by decide
  have aligned : ∀ row ∈ orderBatch.rows, row.length = orderBatch.columns.length := by decide
  obtain ⟨n, after, taken⟩ := IngestTable.taken (freshWriter.setTenant "acme") takes (fun _ => rfl)
    aligned
  obtain ⟨loop, woken, -⟩ := stops_after_flush freshWriter fun message failed => by
    cases (congrArg Prod.fst taken).symm.trans failed
  have run : Reaches (Turns pairs) (Fits pairs) (start freshWriter)
      { buffering freshWriter with loop, status := .stopped } := by
    rw [← woken]
    refine ((Reaches.refl _).snoc (buffering_turns freshWriter) ?_).snoc ⟨rfl, rfl⟩
      (order_fits freshWriter takes)
    refine ⟨fun enabled => absurd rfl enabled, aligned, fun _ => ⟨?_, ?_⟩⟩
    · exact fun old other => nomatch other
    · exact fun waiting found => nomatch found
  exact ⟨_, run, rfl, acknowledged_stored pairs freshWriter rfl (fun _ => rfl) _ run rfl _⟩

/-- A writer whose catalogue holds the orders under fewer columns. -/
def narrowWriter : Writer :=
  { freshWriter with durable :=
      ⟨Catalog.empty.setRaw "raw_crm_orders" ⟨["user_id", "tenant_id"], 0⟩, []⟩ }

/-- The order is answered with success, then dropped when it is flushed. -/
theorem misfitting_order_lost :
    ∃ service, Reaches (Turns pairs) Aligned (start narrowWriter) service ∧
      service.status = .stopped ∧
      ¬ onTable "raw_crm_orders" service.acknowledged ≤
        service.loop.writer.durable.catalog.rowsOf "raw_crm_orders" := by
  have ensured : narrowWriter.durable.catalog.ensured (orderBatch.table orderKey).dataset
      (orderBatch.table orderKey).columns = some ["user_id", "tenant_id"] := by decide
  have filled : orderBatch.rows ≠ [] := by decide
  obtain ⟨message, after, refused, kept⟩ := IngestTable.misfit (narrowWriter.setTenant "acme")
    (by decide) (by decide) ensured (by decide) filled fun _ => rfl
  obtain ⟨loop, woken, stored⟩ := stops_after_flush narrowWriter fun message failed => by
    cases (congrArg Prod.fst refused).symm.trans failed
  have run : Reaches (Turns pairs) Aligned (start narrowWriter)
      { buffering narrowWriter with loop, status := .stopped } := by
    rw [← woken]
    exact ((Reaches.refl _).snoc (buffering_turns narrowWriter) orderIngest_aligned).snoc
      (show Turns pairs .disconnected _ _ from ⟨rfl, rfl⟩) trivial
  refine ⟨_, run, rfl, fun within => ?_⟩
  have nothing : loop.writer.durable.catalog.rowsOf "raw_crm_orders" = 0 := by
    rw [stored, show (ingestRaw "crm" "orders" orderBatch.columns orderBatch.rows
      (narrowWriter.setTenant "acme")).2 = after from congrArg Prod.snd refused, kept]
    rfl
  have owed : (onTable "raw_crm_orders" (buffering narrowWriter).acknowledged).card = 1 := by
    rw [buffering_eq narrowWriter]
    decide
  have bounded := Multiset.card_le_card within
  simp only [nothing, Multiset.card_zero] at bounded
  rw [show ({ buffering narrowWriter with loop, status := .stopped } : Service).acknowledged =
    (buffering narrowWriter).acknowledged from rfl, owed] at bounded
  omega

end Service

end ConsumerEngine.Ingestion
