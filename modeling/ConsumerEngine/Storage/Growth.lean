import Mathlib.Algebra.Order.Group.Multiset
import ConsumerEngine.Storage.Ingests
import ConsumerEngine.Storage.TenantFraming

/-! Writes that leave stored rows in place.

An ingest only adds rows. A keyed write leaves the rows that have none of its keys.
-/

set_option autoImplicit false

namespace ConsumerEngine.Storage

open ConsumerEngine.Core ConsumerEngine.Foundation

/-- Every stored row of the one catalogue is stored in the other. -/
def Grows (before after : Catalog) : Prop := ∀ name, before.rowsOf name ≤ after.rowsOf name

theorem Grows.refl (catalog : Catalog) : Grows catalog catalog := fun _ => le_rfl

theorem Grows.of_raw {before after : Catalog} (same : after.raw = before.raw) :
    Grows before after := fun name => by rw [Catalog.rowsOf, Catalog.rowsOf, same]

/-- Of these rows the ones stored in the one catalogue are stored in the other. -/
def Retains (rows : String → Multiset RawRow) (before after : Catalog) : Prop :=
  ∀ name, ∀ kept ≤ rows name, kept ≤ before.rowsOf name → kept ≤ after.rowsOf name

theorem Grows.retains {before after : Catalog} (grows : Grows before after)
    (rows : String → Multiset RawRow) : Retains rows before after :=
  fun name _ _ stored => stored.trans (grows name)

theorem Retains.of_rewrites {rows : String → Multiset RawRow} {before after : Catalog}
    {name : String} {change : Multiset RawRow → Multiset RawRow}
    (rewrites : Rewrites before after name change)
    (retains : ∀ kept ≤ rows name, kept ≤ before.rowsOf name → kept ≤ change (before.rowsOf name)) :
    Retains rows before after := by
  intro other kept among stored
  by_cases same : other = name
  · subst same
    rw [rewrites.target]
    exact retains kept among stored
  · rw [rewrites.others other same]
    exact stored

theorem Grows.of_rewrites {before after : Catalog} {name : String}
    {change : Multiset RawRow → Multiset RawRow} (rewrites : Rewrites before after name change)
    (grows : before.rowsOf name ≤ change (before.rowsOf name)) : Grows before after := by
  intro other
  by_cases same : other = name
  · rw [same, rewrites.target]
    exact grows
  · rw [rewrites.others other same]

theorem IngestTable.Lands.grows {table : IngestTable} {rows stored : List (List Cell)}
    {writer : Writer} {outcome : Except Error Nat × Writer}
    (lands : table.Lands rows writer outcome stored) :
    Grows writer.durable.catalog outcome.2.durable.catalog :=
  Grows.of_rewrites lands.catalog (Multiset.le_add_right _ _)

/-- A session that leaves the raw tables alone keeps their rows. -/
theorem Sending.grows {before after : Writer} (sending : Sending Statement.Aside before after)
    (idle : before.rollbackTo = none) : Grows before.durable.catalog after.durable.catalog :=
  Grows.of_raw (sending.keeps _ (undisturbed_raw _ before.durable.catalog.raw)
    ⟨rfl, fun saved some => by rw [idle] at some; cases some⟩).1

/-! ### Keyed writes that meet no stored row -/

/-- Rows no source joins stay beside what a MERGE does to the others. -/
theorem mergeRows_add {columns : List String} {key : String} {sources : List RawRow}
    {kept : Multiset RawRow} (missed : ∀ row ∈ kept, ∀ source ∈ sources,
      joins (row (foldName key)) (source (foldName key)) = false) (rows : Multiset RawRow) :
    mergeRows columns key sources (rows + kept) = mergeRows columns key sources rows + kept := by
  have same : kept.map (updated columns key sources) = kept := by
    rw [Multiset.map_congr rfl fun row member => updated_untouched (missed row member),
      Multiset.map_id']
  have unmatched (source : RawRow) (member : source ∈ sources) :
      decide (∀ target ∈ rows + kept, joins (target (foldName key)) (source (foldName key)) = false) =
        decide (∀ target ∈ rows, joins (target (foldName key)) (source (foldName key)) = false) := by
    refine decide_eq_decide.mpr ⟨fun none target inRows => none target (by simp [inRows]),
      fun none target among => ?_⟩
    rcases Multiset.mem_add.mp among with inRows | inKept
    · exact none target inRows
    · exact missed target inKept source member
  show (rows + kept).map (updated columns key sources) + _ = _
  rw [Multiset.map_add, same, List.filter_congr unmatched]
  exact add_right_comm _ _ _

namespace KeyedTable

variable {table : KeyedTable} {tenant : String}

/-- No stored row of the table has the key of one of these rows, or is of the tenant and
has one of these keys. -/
structure Spares (table : KeyedTable) (tenant : String) (upserts : List (List Cell))
    (keys : List String) (rows : Multiset RawRow) : Prop where
  upserted : ∀ row ∈ rows, ∀ source ∈ upserts,
    joins (row (foldName table.key)) (table.stamped tenant source (foldName table.key)) = false
  deleted : ∀ row ∈ rows, deletes table.key keys tenant row = false

theorem mergeAll_add {upserts : List (List Cell)} {keys : List String} {kept : Multiset RawRow}
    (spares : table.Spares tenant upserts keys kept) {pieces : List (List (List Cell))}
    (sent : ∀ piece ∈ pieces, piece ⊆ upserts) (rows : Multiset RawRow) :
    table.mergeAll tenant pieces (rows + kept) = table.mergeAll tenant pieces rows + kept := by
  induction pieces generalizing rows with
  | nil => rfl
  | cons piece pieces ih =>
    have step : table.merge tenant piece (rows + kept) = table.merge tenant piece rows + kept := by
      refine mergeRows_add (fun row member source inSources => ?_) rows
      obtain ⟨cells, inPiece, rfl⟩ := List.mem_map.mp inSources
      exact spares.upserted row member cells (sent piece (by simp) inPiece)
    rw [mergeAll, List.foldl_cons, step, ← mergeAll,
      ih fun other member => sent other (List.mem_cons_of_mem _ member)]
    rfl

theorem eraseAll_add {upserts : List (List Cell)} {keys : List String} {kept : Multiset RawRow}
    (spares : table.Spares tenant upserts keys kept) {pieces : List (List String)}
    (sent : ∀ piece ∈ pieces, piece ⊆ keys) (rows : Multiset RawRow) :
    table.eraseAll tenant pieces (rows + kept) = table.eraseAll tenant pieces rows + kept := by
  induction pieces generalizing rows with
  | nil => rfl
  | cons piece pieces ih =>
    have step : table.erase tenant piece (rows + kept) = table.erase tenant piece rows + kept := by
      have unmatched (row : RawRow) (member : row ∈ kept) :
          deletes table.key piece tenant row = false := by
        have spared := spares.deleted row member
        rw [deletes, Bool.and_eq_false_iff] at spared ⊢
        refine spared.imp_left fun apart => ?_
        rw [List.any_eq_false] at apart ⊢
        exact fun key inPiece => apart key (sent piece (by simp) inPiece)
      rw [erase, Multiset.filter_add, Multiset.filter_eq_self.mpr unmatched, erase]
    rw [eraseAll, List.foldl_cons, step, ← eraseAll,
      ih fun other member => sent other (List.mem_cons_of_mem _ member)]
    rfl

theorem le_mergeAll {upserts : List (List Cell)} {keys : List String} {kept rows : Multiset RawRow}
    (spares : table.Spares tenant upserts keys kept) {pieces : List (List (List Cell))}
    (sent : ∀ piece ∈ pieces, piece ⊆ upserts) (below : kept ≤ rows) :
    kept ≤ table.mergeAll tenant pieces rows := by
  obtain ⟨others, rfl⟩ := Multiset.le_iff_exists_add.mp below
  rw [add_comm, mergeAll_add spares sent]
  exact Multiset.le_add_left _ _

theorem le_eraseAll {upserts : List (List Cell)} {keys : List String} {kept rows : Multiset RawRow}
    (spares : table.Spares tenant upserts keys kept) {pieces : List (List String)}
    (sent : ∀ piece ∈ pieces, piece ⊆ keys) (below : kept ≤ rows) :
    kept ≤ table.eraseAll tenant pieces rows := by
  obtain ⟨others, rfl⟩ := Multiset.le_iff_exists_add.mp below
  rw [add_comm, eraseAll_add spares sent]
  exact Multiset.le_add_left _ _

theorem upsertsReaching_subset (table : KeyedTable) (writer : Writer) (rows : List (List Cell)) :
    ∀ piece ∈ table.upsertsReaching writer rows, piece ⊆ rows := by
  intro piece member row inPiece
  unfold upsertsReaching at member
  split at member
  · exact mem_of_mem_dedupByKey
      (mem_of_mem_chunks (by decide) ((landed_begins ..).subset member) inPiece)
  · cases member

theorem deletesReaching_subset (table : KeyedTable) (writer : Writer) (keys : List String) :
    ∀ piece ∈ table.deletesReaching writer keys, piece ⊆ keys := by
  intro piece member key inPiece
  unfold deletesReaching at member
  split at member
  · exact mem_of_mem_chunks (by decide) ((landed_begins ..).subset member) inPiece
  · cases member

/-- Of these rows, those that are stored are spared. -/
def SparesStored (table : KeyedTable) (tenant : String) (upserts : List (List Cell))
    (keys : List String) (rows : String → Multiset RawRow) (catalog : Catalog) : Prop :=
  ∀ kept ≤ rows table.name, kept ≤ catalog.rowsOf table.name →
    table.Spares tenant upserts keys kept

section
variable {rows : String → Multiset RawRow} (table : KeyedTable) (writer : Writer)

theorem upsertRaw_retains {upserts : List (List Cell)}
    (aligned : ∀ row ∈ upserts, row.length = table.columns.length)
    (spares : table.SparesStored writer.tenant upserts [] rows writer.durable.catalog) :
    Retains rows writer.durable.catalog (upsertRaw table.system table.entity table.columns
      table.key upserts writer).2.durable.catalog :=
  Retains.of_rewrites (upsertRaw_rewrites table writer aligned) fun kept among stored =>
    le_mergeAll (spares kept among stored) (upsertsReaching_subset table writer upserts) stored

theorem deleteRaw_retains {keys : List String}
    (spares : table.SparesStored writer.tenant [] keys rows writer.durable.catalog) :
    Retains rows writer.durable.catalog
      (deleteRaw table.system table.entity table.key keys writer).2.durable.catalog :=
  Retains.of_rewrites (deleteRaw_rewrites table writer keys) fun kept among stored =>
    le_eraseAll (spares kept among stored) (deletesReaching_subset table writer keys) stored

theorem applyCdcBatch_retains {upserts : List (List Cell)} {deletes : List String}
    (offsets : List (Int × Int)) (updatedAt : String)
    (aligned : ∀ row ∈ upserts, row.length = table.columns.length)
    (spares : table.SparesStored writer.tenant upserts deletes rows writer.durable.catalog) :
    Retains rows writer.durable.catalog (applyCdcBatch table.system table.entity table.columns
      table.key upserts deletes offsets updatedAt writer).2.durable.catalog := by
  cases commits : table.commits writer upserts deletes offsets with
  | false =>
    obtain ⟨failure, issued, rollbackTo, ran, -⟩ :=
      applyCdcBatch_rolledBack table writer commits aligned updatedAt
    rw [ran]
    exact (Grows.refl _).retains rows
  | true =>
    obtain ⟨written, known, -, -, ran⟩ :=
      applyCdcBatch_committed table writer commits aligned updatedAt
    rw [ran, afterCdc_catalog]
    refine Retains.of_rewrites (table.cdcCatalog_rewrites ..) fun kept among stored => ?_
    have spared := spares kept among stored
    refine le_eraseAll spared ?_ (le_mergeAll spared ?_ stored)
    · exact fun piece member key inPiece => mem_of_mem_chunks (by decide) member inPiece
    · exact fun piece member row inPiece =>
        mem_of_mem_dedupByKey (mem_of_mem_chunks (by decide) member inPiece)

end

end KeyedTable

end ConsumerEngine.Storage
