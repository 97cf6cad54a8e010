import ConsumerEngine.Ingestion.GracefulStop
import ConsumerEngine.Storage.Snapshots

/-! The buffered loop against the loop that stores every ingest at once.

Only ingests wait. Landing a batch later commutes with what a command does to the tables
as long as the command neither meets a buffered row nor shapes its table differently; a
delete of a buffered row does not commute, and nothing lands the row before it.
-/

set_option autoImplicit false

namespace ConsumerEngine.Ingestion

open ConsumerEngine.Core ConsumerEngine.Foundation ConsumerEngine.Storage

/-! ### Catalogues in which batches still have to land -/

/-- The table a waiting batch goes to. -/
def tableOf (entry : BatchKey × PendingBatch) : IngestTable := entry.2.table entry.1

/-- The rows of the waiting batches. -/
def arrivals (batches : List (BatchKey × PendingBatch)) : Multiset Placed :=
  (batches.flatMap fun entry => entry.2.placed entry.1 : List Placed)

/-- The columns a batch leaves its table with. -/
def shapes (catalog : Catalog) (entry : BatchKey × PendingBatch) : Option (List String) :=
  catalog.ensured (tableOf entry).dataset (tableOf entry).columns

/-- `settled` is `stored` with the batches landed, in any order. -/
structure Settled (batches : List (BatchKey × PendingBatch)) (stored settled : Catalog) : Prop where
  aside : { settled with raw := stored.raw } = stored
  resting : ∀ name, (∀ entry ∈ batches, (tableOf entry).name ≠ name) →
    settled.raw name = stored.raw name
  landing : ∀ entry ∈ batches, ∃ known, shapes stored entry = some known ∧
    (tableOf entry).sound = true ∧ (tableOf entry).bindable = true ∧
      (tableOf entry).fits known = true ∧ settled.raw (tableOf entry).name =
        some ⟨known, stored.rowsOf (tableOf entry).name +
          onTable (tableOf entry).name (arrivals batches)⟩

theorem onTable_arrivals_of_ne {batches : List (BatchKey × PendingBatch)} {name : String}
    (apart : ∀ entry ∈ batches, (tableOf entry).name ≠ name) :
    onTable name (arrivals batches) = 0 := by
  induction batches with
  | nil => rfl
  | cons entry batches ih =>
    have here : onTable name (entry.2.placed entry.1 : List Placed) = 0 :=
      onTable_placed_of_ne (apart entry (by simp)).symm _ _
    rw [arrivals, List.flatMap_cons, ← Multiset.coe_add, onTable_add, here, zero_add]
    exact ih fun other member => apart other (List.mem_cons_of_mem _ member)

theorem arrivals_cons (entry : BatchKey × PendingBatch) (batches : List (BatchKey × PendingBatch)) :
    arrivals (entry :: batches) = (entry.2.placed entry.1 : Multiset Placed) + arrivals batches := by
  rw [arrivals, List.flatMap_cons, ← Multiset.coe_add]
  rfl

theorem ensured_congr {first second : Catalog} {dataset : Dataset} {columns : List String}
    (same : first.columnsOf (rawName dataset) = second.columnsOf (rawName dataset)) :
    first.ensured dataset columns = second.ensured dataset columns := by
  simp only [Catalog.ensured, same]

/-- A rewrite of another table shapes nothing. -/
theorem shapes_rewrite_of_ne {catalog : Catalog} {entry : BatchKey × PendingBatch} {name : String}
    (ne : (tableOf entry).name ≠ name) (known : List String)
    (change : Multiset RawRow → Multiset RawRow) :
    shapes (catalog.rewrite name known change) entry = shapes catalog entry :=
  ensured_congr (catalog.columnsOf_rewrite_of_ne known change ne)

/-- A rewritten table is shaped as it was rewritten. -/
theorem shapes_rewrite {catalog : Catalog} {entry : BatchKey × PendingBatch} {known : List String}
    (owned : "tenant_id" ∈ known) (change : Multiset RawRow → Multiset RawRow) :
    shapes (catalog.rewrite (tableOf entry).name known change) entry = some known :=
  Catalog.ensured_of_columnsOf (catalog.columnsOf_rewrite _ known change) owned

namespace Settled

variable {batches : List (BatchKey × PendingBatch)} {stored settled : Catalog}

theorem refl (catalog : Catalog) : Settled [] catalog catalog :=
  ⟨rfl, fun _ _ => rfl, fun _ member => absurd member List.not_mem_nil⟩

/-- Without a waiting batch the catalogues are the same. -/
theorem eq_of_nil (settles : Settled [] stored settled) : settled = stored := by
  have raw : settled.raw = stored.raw :=
    funext fun name => settles.resting name fun _ member => absurd member List.not_mem_nil
  rw [← settles.aside, ← raw]

/-- Only the tables and the rows matter, not how the rows are batched. -/
theorem exchange {others : List (BatchKey × PendingBatch)} (settles : Settled batches stored settled)
    (homes : ∀ table, (∃ entry ∈ others, tableOf entry = table) ↔
      ∃ entry ∈ batches, tableOf entry = table)
    (rows : arrivals others = arrivals batches) : Settled others stored settled where
  aside := settles.aside
  resting name apart := settles.resting name fun entry member => by
    obtain ⟨other, inOthers, same⟩ := (homes _).mpr ⟨entry, member, rfl⟩
    rw [← same]
    exact apart other inOthers
  landing entry member := by
    obtain ⟨other, inBatches, same⟩ := (homes _).mp ⟨entry, member, rfl⟩
    have landing := settles.landing other inBatches
    unfold shapes at landing ⊢
    rwa [same, ← rows] at landing

theorem perm {others : List (BatchKey × PendingBatch)} (settles : Settled batches stored settled)
    (same : others.Perm batches) : Settled others stored settled :=
  settles.exchange (fun _ => exists_congr fun _ => and_congr_left' same.mem_iff)
    (Quotient.sound (same.flatMap_right _))

theorem rowsOf (settles : Settled batches stored settled) (name : String) :
    settled.rowsOf name = stored.rowsOf name + onTable name (arrivals batches) := by
  by_cases awaited : ∃ entry ∈ batches, (tableOf entry).name = name
  · obtain ⟨entry, member, rfl⟩ := awaited
    obtain ⟨known, -, -, -, -, landed⟩ := settles.landing entry member
    rw [Catalog.rowsOf, landed]
  · have apart : ∀ entry ∈ batches, (tableOf entry).name ≠ name :=
      fun entry member same => awaited ⟨entry, member, same⟩
    rw [onTable_arrivals_of_ne apart, add_zero, Catalog.rowsOf, settles.resting name apart]
    rfl

/-- A table with a tenant column keeps its columns. -/
theorem columnsOf (settles : Settled batches stored settled) {name : String} {known : List String}
    (present : stored.columnsOf name = some known) (owned : "tenant_id" ∈ known) :
    settled.columnsOf name = some known := by
  by_cases awaited : ∃ entry ∈ batches, (tableOf entry).name = name
  · obtain ⟨entry, member, rfl⟩ := awaited
    obtain ⟨ensured, shaped, -, -, -, landed⟩ := settles.landing entry member
    rw [shapes, Catalog.ensured_of_columnsOf present owned] at shaped
    cases shaped
    rw [Catalog.columnsOf, landed]
    rfl
  · have apart : ∀ entry ∈ batches, (tableOf entry).name ≠ name :=
      fun entry member same => awaited ⟨entry, member, same⟩
    rwa [Catalog.columnsOf, settles.resting name apart]

/-- A table that every waiting batch shapes alike is shaped so once they have landed. -/
theorem ensured (settles : Settled batches stored settled) {dataset : Dataset}
    {columns known : List String} (ensured : stored.ensured dataset columns = some known)
    (agree : ∀ entry ∈ batches, (tableOf entry).name = rawName dataset →
      shapes stored entry = some known) : settled.ensured dataset columns = some known := by
  by_cases awaited : ∃ entry ∈ batches, (tableOf entry).name = rawName dataset
  · obtain ⟨entry, member, same⟩ := awaited
    obtain ⟨left, shaped, -, -, -, landed⟩ := settles.landing entry member
    rw [agree entry member same] at shaped
    cases shaped
    refine Catalog.ensured_of_columnsOf ?_ (Catalog.ensured_tenant ensured)
    rw [← same, Catalog.columnsOf, landed]
    rfl
  · rw [← ensured]
    refine ensured_congr ?_
    rw [Catalog.columnsOf, settles.resting (rawName dataset) fun entry member same =>
      awaited ⟨entry, member, same⟩]
    rfl

theorem rewrite_aside {known : List String} {first second : Multiset RawRow → Multiset RawRow}
    (settles : Settled batches stored settled) (name : String) :
    { settled.rewrite name known second with raw := (stored.rewrite name known first).raw } =
      stored.rewrite name known first := by
  have aside := settles.aside
  cases stored
  cases settled
  simp only [Catalog.mk.injEq, true_and] at aside
  obtain ⟨rfl, rfl, rfl, rfl, rfl, rfl⟩ := aside
  rfl

/-- A change of one table that leaves its awaited rows alone commutes with their landing. -/
theorem rewrite (settles : Settled batches stored settled) {name : String} {known : List String}
    {change : Multiset RawRow → Multiset RawRow} (owned : "tenant_id" ∈ known)
    (agree : ∀ entry ∈ batches, (tableOf entry).name = name → shapes stored entry = some known)
    (spares : ∀ rows, change (rows + onTable name (arrivals batches)) =
      change rows + onTable name (arrivals batches)) :
    Settled batches (stored.rewrite name known change) (settled.rewrite name known change) where
  aside := settles.rewrite_aside name
  resting other apart := by
    by_cases same : other = name
    · subst same
      rw [Catalog.rewrite, Catalog.rewrite, Catalog.setRaw_self, Catalog.setRaw_self,
        settles.rowsOf, onTable_arrivals_of_ne apart, add_zero]
    · rw [Catalog.rewrite, Catalog.rewrite, Catalog.setRaw_of_ne _ _ same,
        Catalog.setRaw_of_ne _ _ same]
      exact settles.resting other apart
  landing entry member := by
    obtain ⟨left, shaped, sound, bindable, fits, landed⟩ := settles.landing entry member
    by_cases same : (tableOf entry).name = name
    · subst same
      rw [agree entry member rfl] at shaped
      cases shaped
      refine ⟨known, shapes_rewrite owned change, sound, bindable, fits, ?_⟩
      rw [Catalog.rowsOf_rewrite, ← spares, ← settles.rowsOf, Catalog.rewrite, Catalog.setRaw_self]
    · refine ⟨left, (shapes_rewrite_of_ne same known change).trans shaped, sound, bindable, fits, ?_⟩
      rw [Catalog.rowsOf_rewrite_of_ne _ _ _ same, Catalog.rewrite, Catalog.setRaw_of_ne _ _ same]
      exact landed

theorem cdcOffsets_eq (settles : Settled batches stored settled) :
    settled.cdcOffsets = stored.cdcOffsets := by
  rw [← settles.aside]

theorem withOffsets (settles : Settled batches stored settled) (rows : Option (List OffsetRow)) :
    Settled batches { stored with cdcOffsets := rows } { settled with cdcOffsets := rows } :=
  ⟨congrArg (fun catalog => { catalog with cdcOffsets := rows }) settles.aside, settles.resting,
    settles.landing⟩

theorem addSnapshot (settles : Settled batches stored settled) (selected : List (List Value)) :
    Settled batches (stored.addSnapshot selected) (settled.addSnapshot selected) :=
  ⟨congrArg (fun catalog => catalog.addSnapshot selected) settles.aside, settles.resting,
    settles.landing⟩

section
variable {entry : BatchKey × PendingBatch} {known : List String}

/-- The rows of a batch on top of those stored. -/
def lands (entry : BatchKey × PendingBatch) (rows : Multiset RawRow) : Multiset RawRow :=
  (tableOf entry).store entry.2.tenant entry.2.rows rows

theorem lands_eq (entry : BatchKey × PendingBatch) (rows : Multiset RawRow) :
    lands entry rows = rows + onTable (tableOf entry).name (entry.2.placed entry.1 : List Placed) := by
  have placed := onTable_placed (tableOf entry) entry.2.tenant entry.2.rows
  exact congrArg (rows + ·) placed.symm

theorem onTable_entry_of_ne {name : String} (ne : name ≠ (tableOf entry).name) :
    onTable name (entry.2.placed entry.1 : List Placed) = 0 := onTable_placed_of_ne ne _ _

/-- Storing a batch while another loop buffers it. -/
theorem wait (settles : Settled batches stored settled) (shaped : shapes stored entry = some known)
    (sound : (tableOf entry).sound = true) (bindable : (tableOf entry).bindable = true)
    (fits : (tableOf entry).fits known = true)
    (agree : ∀ other ∈ batches, (tableOf other).name = (tableOf entry).name →
      shapes stored other = some known) :
    Settled (entry :: batches) stored (settled.rewrite (tableOf entry).name known (lands entry)) where
  aside := by
    have aside := settles.aside
    cases stored
    cases settled
    exact aside
  resting name apart := by
    have ne := (apart entry (by simp)).symm
    rw [Catalog.rewrite, Catalog.setRaw_of_ne _ _ ne]
    exact settles.resting name fun other member => apart other (List.mem_cons_of_mem _ member)
  landing other member := by
    by_cases same : (tableOf other).name = (tableOf entry).name
    · have takes : shapes stored other = some known ∧ (tableOf other).sound = true ∧
          (tableOf other).bindable = true ∧ (tableOf other).fits known = true := by
        rcases List.mem_cons.mp member with rfl | member
        · exact ⟨shaped, sound, bindable, fits⟩
        · obtain ⟨left, shaped', sound', bindable', fits', -⟩ := settles.landing other member
          rw [agree other member same] at shaped'
          cases shaped'
          exact ⟨agree other member same, sound', bindable', fits'⟩
      refine ⟨known, takes.1, takes.2.1, takes.2.2.1, takes.2.2.2, ?_⟩
      rw [same, Catalog.rewrite, Catalog.setRaw_self, lands_eq, settles.rowsOf, arrivals_cons,
        onTable_add, add_assoc, add_comm (onTable _ (arrivals batches))]
    · rcases List.mem_cons.mp member with rfl | member
      · exact absurd rfl same
      · obtain ⟨left, shaped', sound', bindable', fits', landed⟩ := settles.landing other member
        refine ⟨left, shaped', sound', bindable', fits', ?_⟩
        rw [Catalog.rewrite, Catalog.setRaw_of_ne _ _ same, landed, arrivals_cons, onTable_add,
          onTable_entry_of_ne same, zero_add]

/-- A batch that lands at last was expected all the time. -/
theorem flush (settles : Settled (entry :: batches) stored settled)
    (shaped : shapes stored entry = some known) :
    Settled batches (stored.rewrite (tableOf entry).name known (lands entry)) settled where
  aside := by
    have aside := settles.aside
    cases stored
    cases settled
    simp only [Catalog.mk.injEq, true_and] at aside
    obtain ⟨rfl, rfl, rfl, rfl, rfl, rfl⟩ := aside
    rfl
  resting name apart := by
    by_cases same : name = (tableOf entry).name
    · subst same
      obtain ⟨left, shaped', -, -, -, landed⟩ := settles.landing entry (by simp)
      rw [shaped] at shaped'
      cases shaped'
      rw [landed, arrivals_cons, onTable_add, onTable_arrivals_of_ne apart, add_zero,
        Catalog.rewrite, Catalog.setRaw_self, lands_eq]
    · rw [Catalog.rewrite, Catalog.setRaw_of_ne _ _ same]
      refine settles.resting name fun other member => ?_
      rcases List.mem_cons.mp member with rfl | member
      · exact fun home => same home.symm
      · exact apart other member
  landing other member := by
    obtain ⟨left, shaped', sound, bindable, fits, landed⟩ :=
      settles.landing other (List.mem_cons_of_mem _ member)
    by_cases same : (tableOf other).name = (tableOf entry).name
    · obtain ⟨left', shaped'', -, -, -, landed'⟩ := settles.landing entry (by simp)
      rw [shaped] at shaped''
      cases shaped''
      rw [same, landed'] at landed
      cases landed
      refine ⟨known, ?_, sound, bindable, fits, ?_⟩
      · rw [← same]
        exact shapes_rewrite (Catalog.ensured_tenant shaped) _
      · rw [same, landed', Catalog.rowsOf_rewrite, lands_eq, arrivals_cons, onTable_add, add_assoc]
    · refine ⟨left, (shapes_rewrite_of_ne same known _).trans shaped', sound, bindable, fits, ?_⟩
      rw [landed, Catalog.rowsOf_rewrite_of_ne _ _ _ same, arrivals_cons, onTable_add,
        onTable_entry_of_ne same, zero_add]

end

end Settled

/-! ### The two loops -/

/-- Buffering disabled: every ingest is stored at once. -/
def MicroBatchConfig.disabled (config : MicroBatchConfig) : MicroBatchConfig :=
  { config with flushRows := 0 }

namespace Loop

/-- One loop stores what the other has stored and what it still buffers or is about to
store. -/
structure Abreast (carried : List (BatchKey × PendingBatch)) (buffering unbuffered : Loop) : Prop where
  sound : ∀ entry ∈ carried ++ buffering.pending.entries, entry.2.Sound entry.1
  settled : Settled (carried ++ buffering.pending.entries) buffering.writer.durable.catalog
    unbuffered.writer.durable.catalog
  never : ∀ i, buffering.writer.duck.rejects i = false
  duck : unbuffered.writer.duck = buffering.writer.duck
  drained : unbuffered.pending.entries = []

/-- A part of the loop that runs one session of the writer and hands on its result. -/
structure Serves {α : Type} (part : LoopEffect (Except Error α)) (act : Session α) : Prop where
  accepts : ∀ loop catalog, Accepts act loop.writer catalog → ∃ result writer known,
    part loop = (.ok (.ok result), { loop with writer, known }) ∧
      writer.duck = loop.writer.duck ∧ writer.durable.catalog = catalog
  eq_ok : ∀ loop after result, part loop = (.ok (.ok result), after) →
    (act loop.writer).1 = .ok result

theorem serves_call {α : Type} (act : Session α) : Serves (call act) act where
  accepts loop catalog accepts := by
    obtain ⟨result, writer, ran, duck, left⟩ := accepts
    refine ⟨result, writer, loop.known, ?_, duck, left⟩
    unfold call
    rw [ran]
  eq_ok _ _ _ ran := call_eq_ok ran

theorem serves_callKnown {α : Type} (act : Session α) (system entity : String) :
    Serves (callKnown system entity act) act where
  accepts loop catalog accepts := by
    obtain ⟨result, writer, known, ran, duck, left⟩ := (serves_call act).accepts loop catalog accepts
    refine ⟨result, writer, ?_⟩
    unfold callKnown
    rw [Effect.bind_of_ok ran]
    simp only [Effect.bind_apply, register, Effect.modify_apply, Effect.pure_apply]
    split <;> exact ⟨_, rfl, duck, left⟩
  eq_ok _ _ _ ran := callKnown_eq_ok ran

namespace Abreast

variable {carried : List (BatchKey × PendingBatch)} {buffering unbuffered : Loop}
  {key : BatchKey} {batch : PendingBatch}

theorem setTenant (abreast : Abreast carried buffering unbuffered) (first second : String) :
    Abreast carried (Loop.setTenant first buffering).2 (Loop.setTenant second unbuffered).2 :=
  ⟨abreast.sound, abreast.settled, abreast.never, abreast.duck, abreast.drained⟩

/-- A batch is stored. -/
theorem land (abreast : Abreast ((key, batch) :: carried) buffering unbuffered) :
    ∃ n after, flushBatch key batch buffering = (.ok (.ok n), after) ∧
      Abreast carried after unbuffered ∧ after.pending = buffering.pending := by
  obtain ⟨known, shaped, sound, bindable, fits, -⟩ :=
    abreast.settled.landing (key, batch) (by simp)
  have stored := IngestTable.accepts (buffering.writer.setTenant batch.tenant) sound bindable
    shaped fits abreast.never (abreast.sound (key, batch) (by simp)).aligned
  obtain ⟨n, writer, datasets, ran, duck, left⟩ := (serves_callKnown _ key.system key.entity).accepts
    (Loop.setTenant batch.tenant buffering).2 _ stored
  refine ⟨n, _, ran, ⟨?_, ?_, ?_, ?_, abreast.drained⟩, rfl⟩
  · exact fun entry member => abreast.sound entry (List.mem_cons_of_mem _ member)
  · rw [left]
    exact abreast.settled.flush shaped
  · rw [duck]
    exact abreast.never
  · exact abreast.duck.trans duck.symm

/-- A batch is taken out of the buffer. -/
theorem take (abreast : Abreast carried buffering unbuffered)
    (found : buffering.pending.get key = some batch) :
    Abreast ((key, batch) :: carried) { buffering with pending := buffering.pending.remove key }
      unbuffered := by
  have same : ((key, batch) :: carried ++ (buffering.pending.remove key).entries).Perm
      (carried ++ buffering.pending.entries) :=
    List.perm_middle.symm.trans ((SortedMap.perm_remove found).symm.append_left carried)
  exact ⟨fun entry member => abreast.sound entry (same.mem_iff.mp member),
    abreast.settled.perm same, abreast.never, abreast.duck, abreast.drained⟩

/-- A batch is put into the buffer, in the place of the one under its key. -/
theorem put (abreast : Abreast ((key, batch) :: carried)
      { buffering with pending := buffering.pending.remove key } unbuffered) :
    Abreast carried { buffering with pending := buffering.pending.insert key batch } unbuffered := by
  have same : (carried ++ (buffering.pending.insert key batch).entries).Perm
      ((key, batch) :: carried ++ (buffering.pending.remove key).entries) :=
    ((SortedMap.insert_perm buffering.pending key batch).append_left carried).trans
      List.perm_middle
  exact ⟨fun entry member => abreast.sound entry (same.mem_iff.mp member),
    abreast.settled.perm same, abreast.never, abreast.duck, abreast.drained⟩

/-- Two batches of one shape under one key are one batch. -/
theorem join {old : PendingBatch} (abreast : Abreast ((key, old) :: (key, batch) :: carried)
      buffering unbuffered) (columns : old.columns = batch.columns) :
    Abreast ((key, { old with rows := old.rows ++ batch.rows }) :: carried) buffering unbuffered := by
  have oldSound := abreast.sound (key, old) (by simp)
  have newSound := abreast.sound (key, batch) (by simp)
  have owner : batch.tenant = old.tenant := newSound.owned.trans oldSound.owned.symm
  have home : tableOf (key, batch) = tableOf (key, old) := by
    simp only [tableOf, PendingBatch.table, columns]
  refine ⟨?_, abreast.settled.exchange (fun table => ?_) ?_, abreast.never, abreast.duck,
    abreast.drained⟩
  · intro entry member
    rcases List.mem_cons.mp member with rfl | member
    · refine ⟨oldSound.owned, fun row among => ?_⟩
      rcases List.mem_append.mp among with among | among
      · exact oldSound.aligned row among
      · exact (newSound.aligned row among).trans (congrArg List.length columns.symm)
    · exact abreast.sound entry (List.mem_cons_of_mem _ (List.mem_cons_of_mem _ member))
  · have merged : tableOf (key, { old with rows := old.rows ++ batch.rows }) = tableOf (key, old) :=
      rfl
    simp only [List.cons_append, List.exists_mem_cons_iff, merged, home]
    tauto
  · simp only [List.cons_append, arrivals_cons]
    rw [← add_assoc, Multiset.coe_add]
    simp only [PendingBatch.placed, PendingBatch.table, List.map_append, owner, columns]

theorem flushOut (abreast : Abreast carried buffering unbuffered)
    (found : buffering.pending.get key = some batch) :
    ∃ after, Loop.flushOut key batch buffering = (.ok (), after) ∧
      Abreast carried after unbuffered ∧ after.pending = buffering.pending.remove key := by
  obtain ⟨n, after, ran, landed, pending⟩ := (abreast.take found).land
  refine ⟨after, ?_, landed, pending⟩
  simp only [Loop.flushOut, removePending, Effect.bind_apply, Effect.modify_apply, ran,
    Effect.pure_apply]

theorem flushKeys (abreast : Abreast carried buffering unbuffered) (keys : List BatchKey) :
    ∃ after, Loop.flushKeys keys buffering = (.ok (), after) ∧ Abreast carried after unbuffered := by
  induction keys generalizing buffering with
  | nil => exact ⟨buffering, rfl, abreast⟩
  | cons key keys ih =>
    have flushed : ∃ after, flushKey key buffering = (.ok (), after) ∧
        Abreast carried after unbuffered := by
      unfold flushKey
      rw [Effect.bind_of_ok (Effect.get_apply buffering)]
      cases found : buffering.pending.get key with
      | none => exact ⟨buffering, rfl, abreast⟩
      | some batch =>
        obtain ⟨after, ran, kept, -⟩ := abreast.flushOut found
        exact ⟨after, ran, kept⟩
    obtain ⟨reached, ran, kept⟩ := flushed
    obtain ⟨after, rest, last⟩ := ih kept
    exact ⟨after, (Effect.bind_of_ok ran).trans rest, last⟩

theorem flushSome (abreast : Abreast carried buffering unbuffered)
    (shouldFlush : PendingBatch → Bool) :
    ∃ after, Loop.flushSome shouldFlush buffering = (.ok (), after) ∧
      Abreast carried after unbuffered := by
  unfold Loop.flushSome
  rw [Effect.bind_of_ok (Effect.get_apply buffering)]
  exact abreast.flushKeys _

theorem flushExpired (abreast : Abreast carried buffering unbuffered) (ageSecs now : Nat) :
    ∃ after, Loop.flushExpired ageSecs now buffering = (.ok (), after) ∧
      Abreast carried after unbuffered := by
  unfold Loop.flushExpired
  by_cases disabled : ageSecs = 0
  · rw [if_pos disabled]
    exact ⟨buffering, rfl, abreast⟩
  · rw [if_neg disabled]
    exact abreast.flushSome _

end Abreast

/-- A loop that buffers nothing has nothing to flush. -/
theorem flushSome_drained {loop : Loop} (drained : loop.pending.entries = [])
    (shouldFlush : PendingBatch → Bool) : flushSome shouldFlush loop = (.ok (), loop) := by
  unfold flushSome
  rw [Effect.bind_of_ok (Effect.get_apply loop), keysOf, drained]
  rfl

theorem flushExpired_drained {loop : Loop} (drained : loop.pending.entries = [])
    (ageSecs now : Nat) : flushExpired ageSecs now loop = (.ok (), loop) := by
  unfold flushExpired
  by_cases disabled : ageSecs = 0
  · rw [if_pos disabled]
    rfl
  · rw [if_neg disabled]
    exact flushSome_drained drained _

/-! ### The commands -/

/-- Every batch that waits for the dataset leaves its table with the same columns. -/
def ShapedAlike (loop : Loop) (dataset : Dataset) (columns : List String) : Prop :=
  ∀ entry ∈ loop.pending.entries, (tableOf entry).name = rawName dataset →
    shapes loop.writer.durable.catalog entry = loop.writer.durable.catalog.ensured dataset columns

/-- No waiting row of the table has a key the write is for. -/
def SparesWaiting (loop : Loop) (table : KeyedTable) (tenant : String) (upserts : List (List Cell))
    (keys : List String) : Prop :=
  table.Spares tenant upserts keys (onTable table.name loop.buffered)

/-- The selection of a snapshot reads no table a batch waits for. -/
def ReadsNoneWaiting (loop : Loop) (subquerySql : String) (subqueryParams : List Value)
    (keyColumn : String) (spec : SnapshotSpec) (tenant : String) : Prop :=
  ∀ raw : String → Option RawTable,
    (∀ name, (∀ entry ∈ loop.pending.entries, (tableOf entry).name ≠ name) →
      raw name = loop.writer.durable.catalog.raw name) →
    (loop.writer.setTenant tenant).snapshotRows subquerySql subqueryParams keyColumn spec
        { loop.writer.durable.catalog with raw } =
      (loop.writer.setTenant tenant).snapshotRows subquerySql subqueryParams keyColumn spec
        loop.writer.durable.catalog

/-- The command keeps away from what waits. -/
def KeepsAway : Cmd → Loop → Prop
  | .ingestRaw system entity columns rows _, loop =>
      (∀ row ∈ rows, row.length = columns.length) ∧
        IngestTable.takes ⟨system, entity, columns⟩ loop.writer.durable.catalog = true ∧
        loop.ShapedAlike ⟨system, entity⟩ columns
  | .upsertRaw system entity columns key rows tenant, loop =>
      (∀ row ∈ rows, row.length = columns.length) ∧
        loop.ShapedAlike ⟨system, entity⟩ columns ∧
        loop.SparesWaiting ⟨system, entity, columns, key⟩ tenant rows []
  | .deleteRaw system entity key keys tenant, loop =>
      loop.SparesWaiting ⟨system, entity, [], key⟩ tenant [] keys
  | .applyCdcBatch batch tenant, loop =>
      (∀ row ∈ batch.upserts, row.length = batch.columns.length) ∧
        loop.ShapedAlike ⟨batch.system, batch.entity⟩ batch.columns ∧
        loop.SparesWaiting ⟨batch.system, batch.entity, batch.columns, batch.key⟩ tenant
          batch.upserts batch.deletes
  | .materialize subquerySql subqueryParams keyColumn spec tenant, loop =>
      loop.ReadsNoneWaiting subquerySql subqueryParams keyColumn spec tenant
  | .shutdown, _ => True
  | _, _ => False

namespace Abreast

variable {buffering unbuffered : Loop}

/-- An ingest is stored by the one loop while the other is about to buffer it. -/
theorem store {system entity : String} {columns : List String} {rows : List (List Cell)}
    {tenant : String} (abreast : Abreast [] buffering unbuffered)
    (aligned : ∀ row ∈ rows, row.length = columns.length)
    (takes : IngestTable.takes ⟨system, entity, columns⟩ buffering.writer.durable.catalog = true)
    (alike : buffering.ShapedAlike ⟨system, entity⟩ columns) (since : Nat)
    (current : unbuffered.writer.tenant = tenant) :
    ∃ n after, callKnown system entity (ingestRaw system entity columns rows) unbuffered =
        (.ok (.ok n), after) ∧
      Abreast [(.of tenant system entity, ⟨columns, rows, tenant, since⟩)] buffering after := by
  simp only [IngestTable.takes, Bool.and_eq_true] at takes
  obtain ⟨⟨sound, bindable⟩, taken⟩ := takes
  obtain ⟨known, ensured, fits⟩ := (Option.any_eq_true _ _).mp taken
  have agree : ∀ entry ∈ buffering.pending.entries,
      (tableOf entry).name = rawName ⟨system, entity⟩ →
        shapes buffering.writer.durable.catalog entry = some known :=
    fun entry member same => (alike entry member same).trans ensured
  have stored := @IngestTable.accepts ⟨system, entity, columns⟩ rows unbuffered.writer known sound
    bindable (abreast.settled.ensured ensured agree) fits
    (by rw [abreast.duck]; exact abreast.never) aligned
  obtain ⟨n, writer, datasets, ran, duck, left⟩ :=
    (serves_callKnown _ system entity).accepts _ _ stored
  refine ⟨n, _, ran, ?_, ?_, abreast.never, duck.trans abreast.duck, abreast.drained⟩
  · intro entry member
    rcases List.mem_cons.mp member with rfl | member
    · exact ⟨rfl, aligned⟩
    · exact abreast.sound entry member
  · rw [left, current]
    exact @Settled.wait _ _ _ (.of tenant system entity, ⟨columns, rows, tenant, since⟩) known
      abreast.settled ensured sound bindable fits agree

/-- Rows about to be stored join the batch under their key. -/
theorem extend {columns : List String} {rows : List (List Cell)} {tenant : String} {since : Nat}
    {key : BatchKey} (abreast : Abreast [(key, ⟨columns, rows, tenant, since⟩)] buffering unbuffered)
    (settled : ∀ old, buffering.pending.get key = some old → old.columns = columns) :
    Abreast [(key, buffering.extended key columns rows tenant since)]
      { buffering with pending := buffering.pending.remove key } unbuffered := by
  unfold extended
  cases found : buffering.pending.get key with
  | none =>
    have same := SortedMap.remove_of_get_eq_none found
    refine ⟨?_, ?_, abreast.never, abreast.duck, abreast.drained⟩
    · rw [same]
      exact abreast.sound
    · rw [same]
      exact abreast.settled
  | some old => exact (abreast.take found).join (settled old found)

theorem buffer (config : MicroBatchConfig) {columns : List String} {rows : List (List Cell)}
    {tenant : String} {since : Nat} {key : BatchKey}
    (abreast : Abreast [(key, ⟨columns, rows, tenant, since⟩)] buffering unbuffered)
    (settled : ∀ old, buffering.pending.get key = some old → old.columns = columns) :
    ∃ n after, Loop.buffer config since key columns rows tenant buffering = (.ok (.ok n), after) ∧
      Abreast [] after unbuffered := by
  have extended := abreast.extend settled
  unfold Loop.buffer
  rw [Effect.bind_of_ok (Effect.get_apply buffering)]
  by_cases full : config.flushRows ≤
      (buffering.extended key columns rows tenant since).rows.length
  · rw [if_pos full]
    obtain ⟨n, after, ran, landed, -⟩ := extended.land
    exact ⟨n, after, ran, landed⟩
  · rw [if_neg full]
    exact ⟨0, _, rfl, extended.put⟩

theorem changeShape {carried : List (BatchKey × PendingBatch)}
    (abreast : Abreast carried buffering unbuffered) (key : BatchKey) (columns : List String) :
    ∃ after, Loop.changeShape key columns buffering = (.ok (), after) ∧
      Abreast carried after unbuffered := by
  unfold Loop.changeShape
  rw [Effect.bind_of_ok (Effect.get_apply buffering)]
  cases other : buffering.otherShape key columns with
  | none => exact ⟨buffering, rfl, abreast⟩
  | some old =>
    obtain ⟨after, ran, flushed, -⟩ := abreast.flushOut (Option.filter_eq_some_iff.mp other).1
    exact ⟨after, ran, flushed⟩

/-- An ingest is stored by the one loop and stored or buffered by the other. -/
theorem ingest (config : MicroBatchConfig) (since : Nat) {system entity : String}
    {columns : List String} {rows : List (List Cell)} {tenant : String}
    (abreast : Abreast [] buffering unbuffered)
    (aligned : ∀ row ∈ rows, row.length = columns.length)
    (takes : IngestTable.takes ⟨system, entity, columns⟩ buffering.writer.durable.catalog = true)
    (alike : buffering.ShapedAlike ⟨system, entity⟩ columns) :
    ∃ n after n' after', Loop.ingest config since system entity columns rows tenant buffering =
        (.ok (.ok n), after) ∧
      Loop.ingest config.disabled since system entity columns rows tenant unbuffered =
        (.ok (.ok n'), after') ∧ Abreast [] after after' := by
  have stamped := abreast.setTenant tenant tenant
  obtain ⟨n', after', ran', ahead⟩ := stamped.store aligned takes alike since rfl
  have immediate : Loop.ingest config.disabled since system entity columns rows tenant unbuffered =
      (.ok (.ok n'), after') := ran'
  by_cases disabled : config.flushRows = 0
  · obtain ⟨n, after, ran, landed, -⟩ := ahead.land
    have stored : Loop.ingest config since system entity columns rows tenant buffering =
        (.ok (.ok n), after) := by
      unfold Loop.ingest
      rw [Effect.bind_of_ok (show Loop.setTenant tenant buffering =
        (.ok (), (Loop.setTenant tenant buffering).2) from rfl), if_pos disabled]
      exact ran
    exact ⟨n, after, n', after', stored, immediate, landed⟩
  · obtain ⟨reached, reshaped, kept⟩ := ahead.changeShape (.of tenant system entity) columns
    obtain ⟨n, after, ran, held⟩ := kept.buffer config fun _ => changeShape_settles reshaped
    have waits : Loop.ingest config since system entity columns rows tenant buffering =
        (.ok (.ok n), after) := by
      unfold Loop.ingest
      rw [Effect.bind_of_ok (show Loop.setTenant tenant buffering =
        (.ok (), (Loop.setTenant tenant buffering).2) from rfl), if_neg disabled,
        Effect.bind_of_ok reshaped]
      exact ran
    exact ⟨n, after, n', after', waits, immediate, held⟩

/-- A part of the loop run under a tenant and answered with its count. -/
def counted (tenant : String) (part : LoopEffect (Except Error Nat)) : LoopEffect Reply := do
  Loop.setTenant tenant
  return .count (← part)

theorem counted_apply (tenant : String) (part : LoopEffect (Except Error Nat)) (loop : Loop) :
    counted tenant part loop =
      (do return .count (← part) : LoopEffect Reply) (Loop.setTenant tenant loop).2 := rfl

/-- Both loops run one session under one tenant. -/
theorem countedBoth {part : LoopEffect (Except Error Nat)} {act : Session Nat} {tenant : String}
    (abreast : Abreast [] buffering unbuffered) (serves : Serves part act)
    (acknowledged : ∃ n, (counted tenant part buffering).1 = .ok (.count (.ok n)))
    (both : ∀ n, (act (buffering.writer.setTenant tenant)).1 = .ok n → ∃ stored settled,
      Accepts act (buffering.writer.setTenant tenant) stored ∧
        Accepts act (unbuffered.writer.setTenant tenant) settled ∧
          Settled buffering.pending.entries stored settled) :
    ∃ reply after reply' after', counted tenant part buffering = (.ok reply, after) ∧
      counted tenant part unbuffered = (.ok reply', after') ∧ Abreast [] after after' := by
  obtain ⟨n, acknowledged⟩ := acknowledged
  have answered : (act (buffering.writer.setTenant tenant)).1 = .ok n := by
    rcases ran : part (Loop.setTenant tenant buffering).2 with ⟨outcome, after⟩
    rw [counted_apply, Effect.bind_apply, ran] at acknowledged
    cases outcome with
    | error message => cases acknowledged
    | ok returned =>
      cases acknowledged
      exact serves.eq_ok _ _ _ ran
  obtain ⟨stored, settled, first, second, settles⟩ := both n answered
  obtain ⟨result, writer, known, ran, duck, left⟩ :=
    serves.accepts (Loop.setTenant tenant buffering).2 stored first
  obtain ⟨result', writer', known', ran', duck', left'⟩ :=
    serves.accepts (Loop.setTenant tenant unbuffered).2 settled second
  refine ⟨.count (.ok result), _, .count (.ok result'), _,
    (counted_apply ..).trans (Effect.bind_of_ok ran),
    (counted_apply ..).trans (Effect.bind_of_ok ran'), abreast.sound, ?_, ?_, ?_, abreast.drained⟩
  · rw [left, left']
    exact settles
  · rw [duck]
    exact abreast.never
  · exact duck'.trans (abreast.duck.trans duck.symm)

section
variable {tenant : String} (abreast : Abreast [] buffering unbuffered)

include abreast

theorem unbuffered_never (i : Nat) : unbuffered.writer.duck.rejects i = false := by
  rw [abreast.duck]
  exact abreast.never i

theorem upsertRaw (table : KeyedTable) {rows : List (List Cell)}
    (aligned : ∀ row ∈ rows, row.length = table.columns.length)
    (alike : buffering.ShapedAlike table.dataset table.columns)
    (spares : buffering.SparesWaiting table tenant rows []) (n : Nat)
    (answered : (Storage.upsertRaw table.system table.entity table.columns table.key rows
      (buffering.writer.setTenant tenant)).1 = .ok n) :
    ∃ stored settled,
      Accepts (Storage.upsertRaw table.system table.entity table.columns table.key rows)
          (buffering.writer.setTenant tenant) stored ∧
        Accepts (Storage.upsertRaw table.system table.entity table.columns table.key rows)
          (unbuffered.writer.setTenant tenant) settled ∧
        Settled buffering.pending.entries stored settled := by
  obtain ⟨sound, known, ensured, fits⟩ := upsertRaw_eq_ok (Prod.ext answered rfl)
  have agree : ∀ entry ∈ buffering.pending.entries, (tableOf entry).name = table.name →
      shapes buffering.writer.durable.catalog entry = some known :=
    fun entry member same => (alike entry member same).trans ensured
  refine ⟨_, _, upsertRaw_accepts table _ sound ensured fits abreast.never aligned,
    upsertRaw_accepts table _ sound (abreast.settled.ensured ensured agree) fits
      abreast.unbuffered_never aligned, ?_⟩
  exact abreast.settled.rewrite (Catalog.ensured_tenant ensured) agree fun stored =>
    KeyedTable.mergeAll_add spares (fun piece member row inPiece =>
      mem_of_mem_dedupByKey (mem_of_mem_chunks (by decide) member inPiece)) stored

theorem deleteRaw (table : KeyedTable) {keys : List String}
    (spares : buffering.SparesWaiting table tenant [] keys) (n : Nat)
    (answered : (Storage.deleteRaw table.system table.entity table.key keys
      (buffering.writer.setTenant tenant)).1 = .ok n) :
    ∃ stored settled,
      Accepts (Storage.deleteRaw table.system table.entity table.key keys)
          (buffering.writer.setTenant tenant) stored ∧
        Accepts (Storage.deleteRaw table.system table.entity table.key keys)
          (unbuffered.writer.setTenant tenant) settled ∧
        Settled buffering.pending.entries stored settled := by
  obtain ⟨keyed, system, entity, found⟩ := deleteRaw_eq_ok (Prod.ext answered rfl)
  by_cases nothing : keys = []
  · subst nothing
    exact ⟨_, _, deleteRaw_accepts_nil table _ keyed system entity,
      deleteRaw_accepts_nil table _ keyed system entity, abreast.settled⟩
  · obtain ⟨known, present, listed, owned⟩ := found nothing
    have member : "tenant_id" ∈ known := by simpa using owned
    refine ⟨_, _, deleteRaw_accepts table _ keyed system entity present listed owned abreast.never,
      deleteRaw_accepts table _ keyed system entity (abreast.settled.columnsOf present member)
        listed owned abreast.unbuffered_never, ?_⟩
    refine abreast.settled.rewrite member (fun entry _ same => ?_) fun stored =>
      KeyedTable.eraseAll_add spares (fun piece member key inPiece =>
        mem_of_mem_chunks (by decide) member inPiece) stored
    exact Catalog.ensured_of_columnsOf (by rw [← present]; exact congrArg _ same) member

theorem applyCdcBatch (table : KeyedTable) {upserts : List (List Cell)} {deletes : List String}
    (offsets : List (Int × Int)) (updatedAt : String)
    (aligned : ∀ row ∈ upserts, row.length = table.columns.length)
    (alike : buffering.ShapedAlike table.dataset table.columns)
    (spares : buffering.SparesWaiting table tenant upserts deletes) (n : Nat)
    (answered : (Storage.applyCdcBatch table.system table.entity table.columns table.key upserts
      deletes offsets updatedAt (buffering.writer.setTenant tenant)).1 = .ok n) :
    ∃ stored settled,
      Accepts (Storage.applyCdcBatch table.system table.entity table.columns table.key upserts
          deletes offsets updatedAt) (buffering.writer.setTenant tenant) stored ∧
        Accepts (Storage.applyCdcBatch table.system table.entity table.columns table.key upserts
          deletes offsets updatedAt) (unbuffered.writer.setTenant tenant) settled ∧
        Settled buffering.pending.entries stored settled := by
  have commits : table.commits (buffering.writer.setTenant tenant) upserts deletes offsets = true := by
    by_contra refused
    obtain ⟨failure, _, _, ran, -⟩ := applyCdcBatch_rolledBack table
      (buffering.writer.setTenant tenant) (by simpa using refused) aligned updatedAt
    rw [ran] at answered
    cases answered
  obtain ⟨written, known, ensured, takes, ran⟩ := applyCdcBatch_committed table
    (buffering.writer.setTenant tenant) commits aligned updatedAt
  have agree : ∀ entry ∈ buffering.pending.entries, (tableOf entry).name = table.name →
      shapes buffering.writer.durable.catalog entry = some known :=
    fun entry member same => (alike entry member same).trans ensured
  have ensured' : unbuffered.writer.durable.catalog.ensured table.dataset table.columns =
      some known := abreast.settled.ensured ensured agree
  have commits' : table.commits (unbuffered.writer.setTenant tenant) upserts deletes offsets =
      true := by
    rw [KeyedTable.commits_of_never table (buffering.writer.setTenant tenant) abreast.never] at commits
    rw [KeyedTable.commits_of_never table (unbuffered.writer.setTenant tenant)
      abreast.unbuffered_never]
    have usable : (unbuffered.writer.durable.catalog.ensured table.dataset table.columns).any
        (table.takes upserts deletes) = true := by rw [ensured']; exact takes
    rw [Bool.and_eq_true] at commits ⊢
    exact ⟨commits.1, usable⟩
  obtain ⟨written', known', ensured'', -, ran'⟩ := applyCdcBatch_committed table
    (unbuffered.writer.setTenant tenant) commits' aligned updatedAt
  cases ensured'.symm.trans ensured''
  refine ⟨_, _, ⟨written, _, ran, rfl, rfl⟩, ⟨written', _, ran', rfl, rfl⟩, ?_⟩
  rw [KeyedTable.afterCdc_catalog, KeyedTable.afterCdc_catalog, KeyedTable.cdcCatalog_eq,
    KeyedTable.cdcCatalog_eq]
  have positions : (unbuffered.writer.setTenant tenant).durable.catalog.cdcOffsets =
      (buffering.writer.setTenant tenant).durable.catalog.cdcOffsets :=
    abreast.settled.cdcOffsets_eq
  rw [positions]
  refine Settled.withOffsets ?_ _
  refine abreast.settled.rewrite (Catalog.ensured_tenant ensured) agree fun stored => ?_
  show table.eraseAll tenant _ (table.mergeAll tenant _
      (stored + onTable table.name buffering.buffered)) =
    table.eraseAll tenant _ (table.mergeAll tenant _ stored) + onTable table.name buffering.buffered
  rw [KeyedTable.mergeAll_add spares, KeyedTable.eraseAll_add spares]
  · exact fun piece member key inPiece => mem_of_mem_chunks (by decide) member inPiece
  · exact fun piece member row inPiece =>
      mem_of_mem_dedupByKey (mem_of_mem_chunks (by decide) member inPiece)

theorem materialize {subquerySql : String} {subqueryParams : List Value} {keyColumn : String}
    {spec : SnapshotSpec}
    (apart : buffering.ReadsNoneWaiting subquerySql subqueryParams keyColumn spec tenant) (n : Nat)
    (answered : (materializeSnapshot subquerySql subqueryParams keyColumn spec
      (buffering.writer.setTenant tenant)).1 = .ok n) :
    ∃ stored settled,
      Accepts (materializeSnapshot subquerySql subqueryParams keyColumn spec)
          (buffering.writer.setTenant tenant) stored ∧
        Accepts (materializeSnapshot subquerySql subqueryParams keyColumn spec)
          (unbuffered.writer.setTenant tenant) settled ∧
        Settled buffering.pending.entries stored settled := by
  obtain ⟨valid, selected, rows⟩ := materializeSnapshot_eq_ok (Prod.ext answered rfl)
  have catalog : unbuffered.writer.durable.catalog = { buffering.writer.durable.catalog with
      raw := unbuffered.writer.durable.catalog.raw } := by
    rw [← abreast.settled.aside]
  have rows' : (unbuffered.writer.setTenant tenant).snapshotRows subquerySql subqueryParams keyColumn
      spec unbuffered.writer.durable.catalog = .ok selected := by
    have same (catalog : Catalog) : (unbuffered.writer.setTenant tenant).snapshotRows subquerySql
        subqueryParams keyColumn spec catalog = (buffering.writer.setTenant tenant).snapshotRows
          subquerySql subqueryParams keyColumn spec catalog := by
      simp only [Writer.snapshotRows, Writer.setTenant, abreast.duck]
    rw [same, catalog, apart _ fun name => abreast.settled.resting name]
    exact rows
  exact ⟨_, _, materializeSnapshot_accepts valid rows abreast.never,
    materializeSnapshot_accepts valid rows' abreast.unbuffered_never,
    abreast.settled.addSnapshot selected⟩

end

/-- What one turn of the one loop does to the other. -/
theorem serve (config : MicroBatchConfig) (clock : Clock) {cmd : Cmd}
    (abreast : Abreast [] buffering unbuffered) (away : KeepsAway cmd buffering)
    (acknowledged : cmd ≠ .shutdown →
      ∃ n, (Loop.serve config clock cmd buffering).1 = .ok (.count (.ok n))) :
    ∃ reply after reply' after', Loop.serve config clock cmd buffering = (.ok reply, after) ∧
      Loop.serve config.disabled clock cmd unbuffered = (.ok reply', after') ∧
      Abreast [] after after' := by
  cases cmd with
  | ingestRaw system entity columns rows tenant =>
    obtain ⟨aligned, takes, alike⟩ := away
    obtain ⟨n, after, n', after', ran, ran', kept⟩ := @Abreast.ingest buffering unbuffered config
      clock.since system entity columns rows tenant abreast aligned takes alike
    exact ⟨_, after, _, after', Effect.bind_of_ok ran, Effect.bind_of_ok ran', kept⟩
  | upsertRaw system entity columns key rows tenant =>
    exact abreast.countedBoth (serves_callKnown _ system entity)
      (acknowledged fun same => nomatch same)
      (abreast.upsertRaw ⟨system, entity, columns, key⟩ away.1 away.2.1 away.2.2)
  | deleteRaw system entity key keys tenant =>
    exact abreast.countedBoth (serves_callKnown _ system entity)
      (acknowledged fun same => nomatch same)
      (abreast.deleteRaw ⟨system, entity, [], key⟩ away)
  | applyCdcBatch batch tenant =>
    exact abreast.countedBoth (serves_callKnown _ batch.system batch.entity)
      (acknowledged fun same => nomatch same)
      (abreast.applyCdcBatch ⟨batch.system, batch.entity, batch.columns, batch.key⟩ batch.offsets
        clock.stamp away.1 away.2.1 away.2.2)
  | materialize subquerySql subqueryParams keyColumn spec tenant =>
    have counts (config : MicroBatchConfig) (loop : Loop) : Loop.serve config clock
        (.materialize subquerySql subqueryParams keyColumn spec tenant) loop = counted tenant
          (Loop.call (materializeSnapshot subquerySql subqueryParams keyColumn spec)) loop := rfl
    have answered := acknowledged fun same => nomatch same
    rw [counts] at answered ⊢
    rw [counts]
    exact abreast.countedBoth (serves_call _) answered (abreast.materialize away)
  | shutdown =>
    obtain ⟨after, flushed, kept⟩ := abreast.flushSome fun _ => true
    exact ⟨.drained, after, .drained, unbuffered, Effect.bind_of_ok flushed,
      Effect.bind_of_ok (flushSome_drained abreast.drained _), kept⟩
  | _ => exact absurd away id

end Abreast

end Loop

/-! ### Runs -/

namespace Service

/-- A turn of the loop and the same wake of the loop with buffering disabled. -/
def TurnBoth (config : MicroBatchConfig) (event : Wake) (services next : Service × Service) : Prop :=
  Turns config event services.1 next.1 ∧ next.2 = services.2.wake config.disabled event

/-- A command is acknowledged and keeps away from what waits when its turn comes. -/
def KeepsAway (config : MicroBatchConfig) : Wake → Service × Service → Prop
  | .command clock cmd, services =>
      let loop := (Loop.flushExpired config.flushAgeSecs clock.now services.1.loop).2
      Loop.KeepsAway cmd loop ∧
        (cmd ≠ .shutdown → ∃ n, (Loop.serve config clock cmd loop).1 = .ok (.count (.ok n)))
  | _, _ => True

/-- The loops are abreast, and level once they have stopped. -/
structure Alongside (services : Service × Service) : Prop where
  abreast : Loop.Abreast [] services.1.loop services.2.loop
  status : services.2.status = services.1.status
  drained : services.1.status = .stopped → services.1.loop.pending.entries = []

theorem wake_alongside {config : MicroBatchConfig} {event : Wake} {services : Service × Service}
    (running : services.1.status = .running) (away : KeepsAway config event services)
    (alongside : Alongside services) :
    Alongside (services.1.wake config event, services.2.wake config.disabled event) := by
  obtain ⟨buffering, unbuffered⟩ := services
  obtain ⟨abreast, status, -⟩ := alongside
  simp only at abreast status running
  cases event with
  | timeout now =>
    obtain ⟨after, ran, kept⟩ := abreast.flushExpired config.flushAgeSecs now
    have idle := Loop.flushExpired_drained abreast.drained config.disabled.flushAgeSecs now
    unfold wake run
    simp only [ran, idle]
    refine ⟨kept, status, fun stopped => ?_⟩
    rw [show buffering.status = .stopped from stopped] at running
    cases running
  | disconnected =>
    obtain ⟨after, ran, kept⟩ := abreast.flushSome fun _ => true
    have ran : Loop.flushPending buffering.loop = (.ok (), after) := ran
    have idle : Loop.flushPending unbuffered.loop = (.ok (), unbuffered.loop) :=
      Loop.flushSome_drained abreast.drained _
    unfold wake run
    simp only [ran, idle]
    exact ⟨kept, rfl, fun _ => Loop.flushPending_entries ran⟩
  | command clock cmd =>
    obtain ⟨reached, expired, flushed⟩ := abreast.flushExpired config.flushAgeSecs clock.now
    have idle := Loop.flushExpired_drained abreast.drained config.disabled.flushAgeSecs clock.now
    obtain ⟨keeps, acknowledged⟩ := away
    rw [expired] at keeps acknowledged
    obtain ⟨reply, after, reply', after', served, served', kept⟩ :=
      flushed.serve config clock keeps acknowledged
    rw [wake_served expired served, wake_served idle served']
    refine ⟨kept, congrArg (statusAfter · cmd) status, fun stopped => ?_⟩
    cases cmd with
    | shutdown =>
      obtain ⟨⟨⟩, drained, last, done⟩ := Effect.bind_eq_ok.mp served
      cases done
      exact Loop.flushPending_entries last
    | _ =>
      rw [show buffering.status = .stopped from stopped] at running
      cases running

/-- When the loop stops, the catalogue is the one the loop without buffering leaves, if
every acknowledged command kept away from what waited when its turn came. -/
theorem stored_as_unbuffered (config : MicroBatchConfig) (writer : Writer)
    (never : ∀ i, writer.duck.rejects i = false) (services : Service × Service)
    (run : Reaches (TurnBoth config) (KeepsAway config) (start writer, start writer) services)
    (stopped : services.1.status = .stopped) :
    services.2.status = .stopped ∧
      services.2.loop.writer.durable.catalog = services.1.loop.writer.durable.catalog := by
  have kept : ∀ event services next, Alongside services → KeepsAway config event services →
      TurnBoth config event services next → Alongside next := by
    intro event services next alongside away turns
    obtain ⟨⟨running, first⟩, second⟩ := turns
    have turned := wake_alongside running away alongside
    rwa [← first, ← second] at turned
  have started : Alongside (start writer, start writer) :=
    ⟨⟨fun entry member => absurd member List.not_mem_nil, Settled.refl _, never, rfl, rfl⟩, rfl,
      fun stopped => nomatch stopped⟩
  obtain ⟨abreast, status, drained⟩ := run.invariant kept started
  refine ⟨status.trans stopped, ?_⟩
  have settled := abreast.settled
  rw [drained stopped] at settled
  exact settled.eq_of_nil

/-- The loop that does not buffer, after the same ingest. -/
def storing (writer : Writer) : Service :=
  (start writer).wake pairs.disabled (.command ⟨0, 0, "t0"⟩ orderIngest)

theorem orderIngest_acknowledged (writer : Writer) :
    (Loop.serve pairs ⟨0, 0, "t0"⟩ orderIngest
      (Loop.flushExpired pairs.flushAgeSecs 0 (start writer).loop).2).1 = .ok (.count (.ok 0)) := rfl

/-- The order is buffered, then stored when the senders go away. -/
theorem stored_as_unbuffered_order :
    ∃ services, Reaches (TurnBoth pairs) (KeepsAway pairs) (start freshWriter, start freshWriter)
        services ∧ services.1.status = .stopped ∧ services.2.status = .stopped ∧
      services.2.loop.writer.durable.catalog = services.1.loop.writer.durable.catalog := by
  have takes : (orderBatch.table orderKey).takes freshWriter.durable.catalog = true := by decide
  have aligned : ∀ row ∈ orderBatch.rows, row.length = orderBatch.columns.length := by decide
  obtain ⟨n, after, taken⟩ := IngestTable.taken (freshWriter.setTenant "acme") takes (fun _ => rfl)
    aligned
  obtain ⟨loop, woken, -⟩ := stops_after_flush freshWriter fun message failed => by
    cases (congrArg Prod.fst taken).symm.trans failed
  have ingested : KeepsAway pairs (.command ⟨0, 0, "t0"⟩ orderIngest)
      (start freshWriter, start freshWriter) :=
    ⟨⟨aligned, takes, fun entry member => absurd member List.not_mem_nil⟩, fun _ => ⟨0, orderIngest_acknowledged freshWriter⟩⟩
  have stored : Reaches (TurnBoth pairs) (KeepsAway pairs) (start freshWriter, start freshWriter)
      (buffering freshWriter, storing freshWriter) :=
    (Reaches.refl _).snoc (⟨buffering_turns freshWriter, rfl⟩ : TurnBoth pairs _ _ _) ingested
  have run : Reaches (TurnBoth pairs) (KeepsAway pairs) (start freshWriter, start freshWriter)
      ({ buffering freshWriter with loop, status := .stopped },
        (storing freshWriter).wake pairs.disabled .disconnected) :=
    stored.snoc (⟨⟨rfl, woken.symm⟩, rfl⟩ : TurnBoth pairs .disconnected _ _) trivial
  exact ⟨_, run, rfl, stored_as_unbuffered pairs freshWriter (fun _ => rfl) _ run rfl⟩

/-! ### A delete after an ingest -/

/-- Every command was answered with success. -/
def AllAcknowledged (service : Service) : Prop :=
  ∀ answer ∈ service.answered, ∃ n, answer.2 = .count (.ok n)

def orderColumns : List String := ["user_id", "sku", "tenant_id"]

/-- A writer whose catalogue holds an empty table of orders. -/
def openedWriter : Writer :=
  { freshWriter with durable := ⟨Catalog.empty.setRaw "raw_crm_orders" ⟨orderColumns, 0⟩, []⟩ }

def removeOrder : Cmd := .deleteRaw "crm" "orders" "user_id" ["u1"] "acme"

def orders : KeyedTable := ⟨"crm", "orders", [], "user_id"⟩

/-- A delete is served at once, whatever waits. -/
theorem wake_removeOrder {config : MicroBatchConfig} (ageless : config.flushAgeSecs = 0)
    {service : Service} (never : ∀ i, service.loop.writer.duck.rejects i = false)
    (present : service.loop.writer.durable.catalog.columnsOf orders.name = some orderColumns) :
    ∃ n writer known, service.wake config (.command ⟨0, 0, "t1"⟩ removeOrder) =
        ⟨⟨writer, known, service.loop.pending⟩, service.received ++ [removeOrder],
          service.answered ++ [(removeOrder, .count (.ok n))], service.status⟩ ∧
      writer.duck = service.loop.writer.duck ∧
      writer.durable.catalog = service.loop.writer.durable.catalog.rewrite orders.name orderColumns
        (orders.eraseAll "acme" (chunks mergeChunk ["u1"])) := by
  have deleted := @deleteRaw_accepts orders (service.loop.writer.setTenant "acme") ["u1"]
    orderColumns (by decide) (by decide) (by decide) present (by decide) (by decide) never
  obtain ⟨n, writer, known, ran, duck, left⟩ := (Loop.serves_callKnown _ "crm" "orders").accepts
    (Loop.setTenant "acme" service.loop).2 _ deleted
  have expired : Loop.flushExpired config.flushAgeSecs 0 service.loop = (.ok (), service.loop) := by
    rw [ageless]
    rfl
  exact ⟨n, writer, known, wake_served expired ((Loop.Abreast.counted_apply "acme" _ _).trans
    (Effect.bind_of_ok ran)), duck, left⟩

/-- The rows of the order as they are stored. -/
def orderRows : Multiset RawRow :=
  ([[some "u1", some "A"]].map fun row => ((orderBatch.table orderKey).placed "acme" row).row :
    List RawRow)

theorem orders_accept {writer : Writer} (never : ∀ i, writer.duck.rejects i = false)
    (present : writer.durable.catalog.columnsOf orders.name = some orderColumns) :
    Accepts (ingestRaw "crm" "orders" orderBatch.columns orderBatch.rows) (writer.setTenant "acme")
      (writer.durable.catalog.rewrite orders.name orderColumns (· + orderRows)) :=
  @IngestTable.accepts (orderBatch.table orderKey) orderBatch.rows (writer.setTenant "acme")
    orderColumns (by decide) (by decide)
    (Catalog.ensured_of_columnsOf present (by decide)) (by decide) never (by decide)

theorem storing_eq {writer : Writer} (never : ∀ i, writer.duck.rejects i = false)
    (present : writer.durable.catalog.columnsOf orders.name = some orderColumns) :
    ∃ n reached known, storing writer = ⟨⟨reached, known, SortedMap.empty⟩, [orderIngest],
          [(orderIngest, .count (.ok n))], .running⟩ ∧
      reached.duck = writer.duck ∧ reached.durable.catalog =
        writer.durable.catalog.rewrite orders.name orderColumns (· + orderRows) := by
  obtain ⟨n, reached, known, ran, duck, left⟩ := (Loop.serves_callKnown _ "crm" "orders").accepts
    (Loop.setTenant "acme" (start writer).loop).2 _ (orders_accept never present)
  have ingested : Loop.ingest pairs.disabled 0 "crm" "orders" ["user_id", "sku"]
      [[some "u1", some "A"]] "acme" (start writer).loop = (.ok (.ok n), _) := ran
  exact ⟨n, reached, known, wake_served rfl (Effect.bind_of_ok ingested), duck, left⟩

theorem erased_orders : orders.eraseAll "acme" (chunks mergeChunk ["u1"]) (0 + orderRows) = 0 := by
  rw [zero_add]
  show orderRows.filter (fun row => deletes orders.key ["u1"] "acme" row = false) = 0
  refine Multiset.filter_eq_nil.mpr fun row member => ?_
  rw [List.mem_singleton.mp (Multiset.mem_coe.mp member)]
  decide

/-- The ingest and the delete are acknowledged, and the row is there all the same. -/
theorem removed_order_returns :
    ∃ services, Reaches (TurnBoth pairs) (fun _ _ => True) (start openedWriter, start openedWriter)
        services ∧ services.1.status = .stopped ∧ services.2.status = .stopped ∧
      AllAcknowledged services.1 ∧ AllAcknowledged services.2 ∧
      services.1.loop.writer.durable.catalog.rowsOf "raw_crm_orders" ≠
        services.2.loop.writer.durable.catalog.rowsOf "raw_crm_orders" := by
  have never : ∀ i, openedWriter.duck.rejects i = false := fun _ => rfl
  have present : openedWriter.durable.catalog.columnsOf orders.name = some orderColumns := by decide
  have empty : openedWriter.durable.catalog.rowsOf orders.name = 0 := by
    rw [Catalog.rowsOf, Catalog.columnsOf_eq_some.mp present]
    rfl
  -- the loop that buffers: the delete finds no row, and the ingest lands after it
  obtain ⟨n, deleting, known, deleted, duck, left⟩ :=
    @wake_removeOrder pairs rfl (buffering openedWriter) never present
  have present' : deleting.durable.catalog.columnsOf orders.name = some orderColumns := by
    rw [left, Catalog.columnsOf_rewrite]
  have never' : ∀ i, deleting.duck.rejects i = false := by
    rw [duck]
    exact never
  obtain ⟨flushed, after, ran, -, landed⟩ := orders_accept never' present'
  obtain ⟨loop, drained, stored⟩ := Loop.flushPending_single orderKey orderBatch
    ⟨deleting, known, (buffering openedWriter).loop.pending⟩ rfl fun message failed => by
      cases (congrArg Prod.fst ran).symm.trans failed
  -- the loop that does not: the ingest is stored, and the delete removes it
  obtain ⟨n', storing', known', ingested, duck', left'⟩ := storing_eq never present
  obtain ⟨m, removing, known'', removed, -, gone⟩ := @wake_removeOrder pairs.disabled rfl
    (storing openedWriter) (by rw [ingested, duck']; exact never)
    (by rw [ingested, left', Catalog.columnsOf_rewrite])
  have run : Reaches (TurnBoth pairs) (fun _ _ => True) (start openedWriter, start openedWriter)
      (⟨loop, [orderIngest, removeOrder],
          [(orderIngest, .count (.ok 0)), (removeOrder, .count (.ok n))], .stopped⟩,
        ⟨⟨removing, known'', SortedMap.empty⟩, [orderIngest, removeOrder],
          [(orderIngest, .count (.ok n')), (removeOrder, .count (.ok m))], .stopped⟩) := by
    have first : TurnBoth pairs (.command ⟨0, 0, "t0"⟩ orderIngest)
        (start openedWriter, start openedWriter) (buffering openedWriter, storing openedWriter) :=
      ⟨buffering_turns openedWriter, rfl⟩
    have second : TurnBoth pairs (.command ⟨0, 0, "t1"⟩ removeOrder)
        (buffering openedWriter, storing openedWriter) (_, _) :=
      ⟨⟨rfl, deleted.symm⟩, removed.symm⟩
    refine (((Reaches.refl _).snoc first trivial).snoc second trivial).snoc
      (show TurnBoth pairs .disconnected _ _ from ⟨⟨rfl, ?_⟩, ?_⟩) trivial
    · unfold wake run
      simp only [drained]
      rfl
    · rw [ingested]
      rfl
  refine ⟨_, run, rfl, rfl, ?_, ?_, fun same => ?_⟩
  · intro answer member
    rcases List.mem_pair.mp member with rfl | rfl
    · exact ⟨0, rfl⟩
    · exact ⟨n, rfl⟩
  · intro answer member
    rcases List.mem_pair.mp member with rfl | rfl
    · exact ⟨n', rfl⟩
    · exact ⟨m, rfl⟩
  have kept : loop.writer.durable.catalog.rowsOf orders.name =
      deleting.durable.catalog.rowsOf orders.name + orderRows := by
    rw [stored, show (ingestRaw orderKey.system orderKey.entity orderBatch.columns orderBatch.rows
      (deleting.setTenant orderBatch.tenant)).2 = after from congrArg Prod.snd ran, landed,
      Catalog.rowsOf_rewrite]
  have lost : removing.durable.catalog.rowsOf orders.name = 0 := by
    rw [gone, Catalog.rowsOf_rewrite, ingested, left', Catalog.rowsOf_rewrite, empty, erased_orders]
  have none : deleting.durable.catalog.rowsOf orders.name + orderRows = 0 :=
    kept.symm.trans (same.trans lost)
  have count := congrArg Multiset.card none
  rw [Multiset.card_add, show orderRows.card = 1 from rfl, Multiset.card_zero] at count
  omega

end Service

end ConsumerEngine.Ingestion
