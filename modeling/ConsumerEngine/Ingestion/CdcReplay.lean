import ConsumerEngine.Foundation.Entries
import ConsumerEngine.Ingestion.CdcRefinement

/-! Change batches applied again.

After a crash the source starts anywhere in the batches it has delivered. Every key is
left as its last change leaves it, every partition at its last position, and both are the
same when the end of the batches is applied a second time.
-/

set_option autoImplicit false

namespace ConsumerEngine.Ingestion

open ConsumerEngine.Core ConsumerEngine.Foundation ConsumerEngine.Storage

/-- A batch of the source that feeds a table, its rows aligned with the columns. -/
structure SourceBatch.Feeds (batch : SourceBatch) (table : KeyedTable) : Prop where
  named : batch.system = table.system ∧ batch.entity = table.entity ∧
    batch.columns = table.columns ∧ batch.key = table.key
  aligned : ∀ row ∈ batch.upserts, row.length = table.columns.length

/-- Batches applied in turn, each with the time of its application, as the pump does. -/
def applyInTurn : List (SourceBatch × String) → Session Unit
  | [] => pure ()
  | (batch, now) :: rest => do
      let _ ← batch.apply now
      applyInTurn rest

/-- A stored position without its time. -/
def positionOf (row : OffsetRow) : (String × Int) × Int := ((row.source, row.part), row.cdcOffset)

/-- The positions a catalogue records for all sources. -/
def positionsIn (catalog : Catalog) : List ((String × Int) × Int) :=
  (catalog.cdcOffsets.getD []).map positionOf

/-- The positions recorded for one source are among them. -/
theorem recorded_eq (catalog : Catalog) (source : String) :
    catalog.recorded source =
      ((positionsIn catalog).filter fun entry => entry.1.1 = source).map
        fun entry => (entry.1.2, entry.2) := by
  simp only [Catalog.recorded, positionsIn, List.filter_map, List.map_map]
  rfl

section
variable (table : KeyedTable)

/-- What a batch changes of the rows. -/
def SourceBatch.changes (tenant : String) (batch : SourceBatch) : List (Change RawRow Cell) :=
  table.puts tenant (dedupByKey batch.upserts table.keyIndex) ++ drops batch.deletes

/-- What a batch places among the positions. -/
def SourceBatch.entries (batch : SourceBatch) : List ((String × Int) × Int) :=
  batch.offsets.map fun offset => ((table.source, offset.1), offset.2)

variable {table}

theorem map_placeOffset (row : OffsetRow) (rows : List OffsetRow) :
    (placeOffset row rows).map positionOf = placeEntry (rows.map positionOf) (positionOf row) := by
  have keyed (stored : OffsetRow) : (stored.source = row.source ∧ stored.part = row.part) ↔
      (positionOf stored).1 = (positionOf row).1 := by simp [positionOf]
  have found : (rows.map positionOf).any (fun held => held.1 = (positionOf row).1) =
      rows.any fun stored => stored.source = row.source ∧ stored.part = row.part := by
    simp only [List.any_map, Function.comp_def, keyed]
  unfold placeOffset placeEntry
  rw [found]
  split
  · simp only [List.map_map]
    refine List.map_congr_left fun stored _ => ?_
    simp only [Function.comp_apply, keyed, apply_ite positionOf]
  · simp

theorem map_cdcPositions (offsets : List (Int × Int)) (now : String) (rows : List OffsetRow) :
    (table.cdcPositions offsets now rows).map positionOf =
      placeEntries (rows.map positionOf)
        (offsets.map fun offset => ((table.source, offset.1), offset.2)) := by
  unfold KeyedTable.cdcPositions placeEntries
  induction offsets generalizing rows with
  | nil => rfl
  | cons offset offsets ih =>
    rw [List.foldl_cons, ih, map_placeOffset]
    rfl

/-- An applied batch runs its changes on the table, keeps the other tables and places its
positions. -/
theorem SourceBatch.apply_changes (keyed : table.columns.contains table.key = true)
    {batch : SourceBatch} {now : String} {writer after : Writer} {written : Nat}
    (feeds : batch.Feeds table) (ran : batch.apply now writer = (.ok written, after))
    (alone : others writer.tenant (writer.durable.catalog.rowsOf table.name) = 0) :
    after.durable.catalog.rowsOf table.name =
        (table.keying keyed).runBag (batch.changes table writer.tenant)
          (writer.durable.catalog.rowsOf table.name) ∧
      (∀ other, other ≠ table.name →
        after.durable.catalog.rowsOf other = writer.durable.catalog.rowsOf other) ∧
      positionsIn after.durable.catalog =
        placeEntries (positionsIn writer.durable.catalog) (batch.entries table) ∧
      others writer.tenant (after.durable.catalog.rowsOf table.name) = 0 ∧
      after.tenant = writer.tenant := by
  obtain ⟨-, known, -, takes, rfl⟩ :=
    SourceBatch.apply_committed table feeds.named feeds.aligned ran
  obtain ⟨fits, -⟩ := KeyedTable.takes_iff.mp takes
  have rewrites := table.cdcCatalog_rewrites writer.tenant batch.upserts batch.deletes
    batch.offsets now known writer.durable.catalog
  have placed := @map_cdcPositions table batch.offsets now
    (writer.durable.catalog.cdcOffsets.getD [])
  rw [KeyedTable.afterCdc_catalog, KeyedTable.afterCdc_tenant, rewrites.target]
  refine ⟨KeyedTable.cdcRows_eq_runBag keyed fits feeds.aligned alone, rewrites.others, ?_,
    (KeyedTable.others_cdcRows keyed _ fits feeds.aligned alone).2, rfl⟩
  rw [positionsIn, KeyedTable.cdcCatalog_eq]
  exact placed

/-- Batches applied in turn run their changes and place their positions in turn. -/
theorem applyInTurn_changes (keyed : table.columns.contains table.key = true)
    (batches : List (SourceBatch × String)) {writer after : Writer}
    (feeds : ∀ batch ∈ batches, batch.1.Feeds table)
    (applied : applyInTurn batches writer = (.ok (), after))
    (alone : others writer.tenant (writer.durable.catalog.rowsOf table.name) = 0) :
    after.durable.catalog.rowsOf table.name =
        (table.keying keyed).runBag
          ((batches.map Prod.fst).flatMap (SourceBatch.changes table writer.tenant))
          (writer.durable.catalog.rowsOf table.name) ∧
      (∀ other, other ≠ table.name →
        after.durable.catalog.rowsOf other = writer.durable.catalog.rowsOf other) ∧
      positionsIn after.durable.catalog =
        placeEntries (positionsIn writer.durable.catalog)
          ((batches.map Prod.fst).flatMap (SourceBatch.entries table)) ∧
      others writer.tenant (after.durable.catalog.rowsOf table.name) = 0 ∧
      after.tenant = writer.tenant := by
  induction batches generalizing writer with
  | nil =>
    cases applied
    exact ⟨rfl, fun _ _ => rfl, rfl, alone, rfl⟩
  | cons batch batches ih =>
    obtain ⟨batch, now⟩ := batch
    obtain ⟨written, reached, ran, rest⟩ := Effect.bind_eq_ok.mp applied
    obtain ⟨rows, apart, placed, still, same⟩ :=
      SourceBatch.apply_changes keyed (feeds (batch, now) (by simp)) ran alone
    rw [← same] at still
    obtain ⟨rows', apart', placed', still', same'⟩ :=
      ih (fun other member => feeds other (List.mem_cons_of_mem _ member)) rest still
    rw [same] at rows' still' same'
    refine ⟨?_, fun other ne => (apart' other ne).trans (apart other ne), ?_, still', same'⟩
    · rw [rows', rows, List.map_cons, List.flatMap_cons, Keying.runBag_append]
    · rw [placed', placed, List.map_cons, List.flatMap_cons, placeEntries_append]

/-- A batch the table takes is applied when no statement is refused. -/
theorem SourceBatch.applies {batch : SourceBatch} (feeds : batch.Feeds table)
    {known : List String} {writer : Writer} (sound : table.sound = true)
    (ensured : writer.durable.catalog.ensured table.dataset table.columns = some known)
    (takes : table.takes batch.upserts batch.deletes known = true)
    (clear : ∀ i, writer.duck.rejects (writer.issued + i) = false) (now : String) :
    ∃ written after, batch.apply now writer = (.ok written, after) ∧
      after.durable.catalog.ensured table.dataset table.columns = some known ∧
      ∀ i, after.duck.rejects (after.issued + i) = false := by
  have commits : table.commits writer batch.upserts batch.deletes batch.offsets = true := by
    simp only [KeyedTable.commits, sound, ensured, Option.any_some, takes, Bool.true_and,
      decide_eq_true_eq]
    exact fun i _ => clear i
  obtain ⟨written, known', ensured', -, committed⟩ :=
    applyCdcBatch_committed table writer commits feeds.aligned now
  rw [ensured] at ensured'
  cases ensured'
  refine ⟨written, table.afterCdc writer batch.upserts batch.deletes batch.offsets now known,
    ?_, ?_, fun i => ?_⟩
  · rw [SourceBatch.apply, feeds.named.1, feeds.named.2.1, feeds.named.2.2.1, feeds.named.2.2.2]
    exact committed
  · rw [KeyedTable.afterCdc_catalog]
    exact Catalog.ensured_of_columnsOf (KeyedTable.columnsOf_cdcCatalog ..)
      (Catalog.ensured_tenant ensured)
  · simp only [KeyedTable.afterCdc, Nat.add_assoc]
    exact clear _

/-- An applied batch leaves a table that takes it again, and so do the batches after it. -/
theorem applyInTurn_takes (batches : List (SourceBatch × String)) {writer after : Writer}
    (feeds : ∀ batch ∈ batches, batch.1.Feeds table)
    (applied : applyInTurn batches writer = (.ok (), after)) :
    (∀ known, writer.durable.catalog.columnsOf table.name = some known → "tenant_id" ∈ known →
        after.durable.catalog.columnsOf table.name = some known ∧
        ∀ batch ∈ batches, table.takes batch.1.upserts batch.1.deletes known = true) ∧
      (batches ≠ [] → table.sound = true ∧ ∃ known,
        after.durable.catalog.columnsOf table.name = some known ∧ "tenant_id" ∈ known ∧
        ∀ batch ∈ batches, table.takes batch.1.upserts batch.1.deletes known = true) := by
  induction batches generalizing writer with
  | nil =>
    cases applied
    exact ⟨fun known present _ => ⟨present, fun batch member => absurd member List.not_mem_nil⟩,
      fun filled => absurd rfl filled⟩
  | cons batch batches ih =>
    obtain ⟨batch, now⟩ := batch
    obtain ⟨written, reached, ran, rest⟩ := Effect.bind_eq_ok.mp applied
    have here := feeds (batch, now) (by simp)
    obtain ⟨commits, known, ensured, takes, rfl⟩ :=
      SourceBatch.apply_committed table here.named here.aligned ran
    have owned := Catalog.ensured_tenant ensured
    have made : (table.afterCdc writer batch.upserts batch.deletes batch.offsets now
        known).durable.catalog.columnsOf table.name = some known := by
      rw [KeyedTable.afterCdc_catalog, KeyedTable.columnsOf_cdcCatalog]
    obtain ⟨kept, others⟩ :=
      (ih (fun other member => feeds other (List.mem_cons_of_mem _ member)) rest).1 known made owned
    have all : ∀ other ∈ (batch, now) :: batches,
        table.takes other.1.upserts other.1.deletes known = true := by
      intro other member
      rcases List.mem_cons.mp member with rfl | later
      · exact takes
      · exact others other later
    refine ⟨fun stored present tenant => ?_, fun _ => ⟨?_, known, kept, owned, all⟩⟩
    · rw [Catalog.ensured_of_columnsOf present tenant] at ensured
      cases ensured
      exact ⟨kept, all⟩
    · simp only [KeyedTable.commits, Bool.and_eq_true] at commits
      exact commits.1.1

/-- Batches a table takes are all applied when no statement is refused. -/
theorem applyInTurn_succeeds (batches : List (SourceBatch × String)) {known : List String}
    (sound : table.sound = true) (feeds : ∀ batch ∈ batches, batch.1.Feeds table)
    (takes : ∀ batch ∈ batches, table.takes batch.1.upserts batch.1.deletes known = true)
    {writer : Writer}
    (ensured : writer.durable.catalog.ensured table.dataset table.columns = some known)
    (clear : ∀ i, writer.duck.rejects (writer.issued + i) = false) :
    ∃ after, applyInTurn batches writer = (.ok (), after) := by
  induction batches generalizing writer with
  | nil => exact ⟨writer, rfl⟩
  | cons batch batches ih =>
    obtain ⟨batch, now⟩ := batch
    obtain ⟨written, reached, ran, ensured', clear'⟩ := SourceBatch.applies
      (feeds (batch, now) (by simp)) sound ensured (takes (batch, now) (by simp)) clear now
    obtain ⟨after, rest⟩ := ih (fun other member => feeds other (List.mem_cons_of_mem _ member))
      (fun other member => takes other (List.mem_cons_of_mem _ member)) ensured' clear'
    exact ⟨after, (Effect.bind_of_ok ran).trans rest⟩

end

/-- Applying the end of a source's batches again, at any times, changes no row of any table
and no position, and it succeeds where no statement is refused. -/
theorem replay_idempotent (table : KeyedTable) (batches : List (SourceBatch × String)) (i : Nat)
    (again : List (SourceBatch × String))
    (same : again.map Prod.fst = (batches.drop i).map Prod.fst)
    (feeds : ∀ batch ∈ batches, batch.1.Feeds table) (writer once : Writer)
    (single : ∀ row ∈ writer.durable.catalog.rowsOf table.name, row.tenant = some writer.tenant)
    (applied : applyInTurn batches writer = (.ok (), once)) :
    (∀ twice, applyInTurn again once = (.ok (), twice) →
        (∀ name, twice.durable.catalog.rowsOf name = once.durable.catalog.rowsOf name) ∧
        positionsIn twice.durable.catalog = positionsIn once.durable.catalog ∧
        twice.durable.catalog.recorded table.source =
          once.durable.catalog.recorded table.source) ∧
      ((∀ j, once.duck.rejects (once.issued + j) = false) →
        ∃ twice, applyInTurn again once = (.ok (), twice)) := by
  have feedsAgain : ∀ batch ∈ again, batch.1.Feeds table := by
    intro batch member
    have inDropped : batch.1 ∈ (batches.drop i).map Prod.fst := same ▸ List.mem_map_of_mem member
    obtain ⟨other, dropped, isSame⟩ := List.mem_map.mp inDropped
    exact isSame ▸ feeds other (List.mem_of_mem_drop dropped)
  have alone : others writer.tenant (writer.durable.catalog.rowsOf table.name) = 0 :=
    Multiset.filter_eq_nil.mpr fun row member => not_not_intro (single row member)
  have split : batches.map Prod.fst = (batches.take i).map Prod.fst ++ again.map Prod.fst := by
    rw [same, ← List.map_append, List.take_append_drop]
  constructor
  · intro twice replayed
    by_cases none : batches = []
    · have nothing : again = [] := by simpa [none] using same
      subst nothing
      cases replayed
      exact ⟨fun _ => rfl, rfl, rfl⟩
    have keyed := KeyedTable.sound_keyed ((applyInTurn_takes batches feeds applied).2 none).1
    obtain ⟨rows, -, placed, still, tenant⟩ :=
      applyInTurn_changes keyed batches feeds applied alone
    rw [← tenant] at still
    obtain ⟨rows', apart', placed', -, -⟩ :=
      applyInTurn_changes keyed again feedsAgain replayed still
    rw [tenant] at rows'
    have positions : positionsIn twice.durable.catalog = positionsIn once.durable.catalog := by
      rw [placed', placed, split, List.flatMap_append, placeEntries_append, placeEntries_again]
    refine ⟨fun name => ?_, positions, by rw [recorded_eq, recorded_eq, positions]⟩
    by_cases target : name = table.name
    · subst target
      rw [rows', rows, split, List.flatMap_append]
      refine Keying.runBag_replay _ _ ?_ _
      intro row member
      obtain ⟨batch, -, inBatch⟩ := List.mem_flatMap.mp member
      rcases List.mem_append.mp inBatch with written | dropped
      · exact KeyedTable.fresh_puts keyed _ row written
      · obtain ⟨key, -, isDrop⟩ := List.mem_map.mp dropped
        cases isDrop
    · exact apart' name target
  · intro clear
    by_cases none : batches = []
    · have nothing : again = [] := by simpa [none] using same
      exact ⟨once, by rw [nothing]; rfl⟩
    obtain ⟨sound, known, present, owned, takes⟩ :=
      (applyInTurn_takes batches feeds applied).2 none
    refine applyInTurn_succeeds again sound feedsAgain (fun batch member => ?_)
      (Catalog.ensured_of_columnsOf present owned) clear
    have inDropped : batch.1 ∈ (batches.drop i).map Prod.fst := same ▸ List.mem_map_of_mem member
    obtain ⟨other, dropped, isSame⟩ := List.mem_map.mp inDropped
    exact isSame ▸ takes other (List.mem_of_mem_drop dropped)

/-- A user is stored, written again and deleted; another comes and stays. -/
def userHistory : List (SourceBatch × String) :=
  [(⟨"erp", "orders", ["user_id", "sku"], "user_id", [[some "u1", some "A"]], [], [(0, 1)]⟩, "t0"),
    (⟨"erp", "orders", ["user_id", "sku"], "user_id",
      [[some "u1", some "B"], [some "u2", none], [none, some "C"]], [], [(0, 4), (1, 0)]⟩, "t1"),
    (⟨"erp", "orders", ["user_id", "sku"], "user_id", [], ["u1"], [(0, 5)]⟩, "t2")]

theorem replay_idempotent_userHistory :
    ∃ once, applyInTurn userHistory freshWriter = (.ok (), once) ∧
      (∀ twice, applyInTurn (userHistory.drop 1) once = (.ok (), twice) →
        (∀ name, twice.durable.catalog.rowsOf name = once.durable.catalog.rowsOf name) ∧
        positionsIn twice.durable.catalog = positionsIn once.durable.catalog ∧
        twice.durable.catalog.recorded "erp.orders" =
          once.durable.catalog.recorded "erp.orders") ∧
      ((∀ j, once.duck.rejects (once.issued + j) = false) →
        ∃ twice, applyInTurn (userHistory.drop 1) once = (.ok (), twice)) := by
  have feeds : ∀ batch ∈ userHistory, batch.1.Feeds ordersMapper.table := by
    intro batch member
    simp only [userHistory, List.mem_cons, List.not_mem_nil, or_false] at member
    rcases member with rfl | rfl | rfl <;> exact ⟨⟨rfl, rfl, rfl, rfl⟩, by decide⟩
  obtain ⟨once, applied⟩ := @applyInTurn_succeeds _ userHistory ["user_id", "sku", "tenant_id"]
    (by decide) feeds (by decide) freshWriter (by decide) fun _ => rfl
  exact ⟨once, applied, replay_idempotent ordersMapper.table userHistory 1 (userHistory.drop 1) rfl
    feeds freshWriter once (fun row member => absurd member (Multiset.notMem_zero row)) applied⟩

end ConsumerEngine.Ingestion
