import ConsumerEngine.Storage.KeyedCalls

/-! What keyed writes do to the tenants that share a raw table.

The delete MERGE asks for the writer's tenant. The update-or-insert MERGE does not:
a row of another tenant with the key of an upserted row is matched, overwritten and
re-owned. Without such a row every keyed write stays inside its tenant.
-/

set_option autoImplicit false

namespace ConsumerEngine.Storage

open ConsumerEngine.Core ConsumerEngine.Foundation

/-- The rows stamped with a tenant. -/
def own (tenant : String) (rows : Multiset RawRow) : Multiset RawRow :=
  rows.filter fun row => row.tenant = some tenant

/-- The rows stamped with another tenant, or with none. -/
def others (tenant : String) (rows : Multiset RawRow) : Multiset RawRow :=
  rows.filter fun row => row.tenant ≠ some tenant

theorem own_add (tenant : String) (left right : Multiset RawRow) :
    own tenant (left + right) = own tenant left + own tenant right :=
  Multiset.filter_add _ _ _

theorem others_add (tenant : String) (left right : Multiset RawRow) :
    others tenant (left + right) = others tenant left + others tenant right :=
  Multiset.filter_add _ _ _

theorem own_own (tenant : String) (rows : Multiset RawRow) :
    own tenant (own tenant rows) = own tenant rows := by
  simp [own, Multiset.filter_filter]

theorem own_filter (tenant : String) (keep : RawRow → Bool) (rows : Multiset RawRow) :
    own tenant (rows.filter fun row => keep row) = (own tenant rows).filter fun row => keep row := by
  simp only [own, Multiset.filter_filter]
  exact Multiset.filter_congr fun row _ => and_comm

theorem mem_others {tenant : String} {rows : Multiset RawRow} {row : RawRow} :
    row ∈ others tenant rows ↔ row ∈ rows ∧ row.tenant ≠ some tenant := Multiset.mem_filter

theorem mem_own {tenant : String} {rows : Multiset RawRow} {row : RawRow} :
    row ∈ own tenant rows ↔ row ∈ rows ∧ row.tenant = some tenant := Multiset.mem_filter

/-! ### The two MERGE statements -/

section
variable {tenant : String} {columns : List String} {key : String} {sources : List RawRow}

/-- No source row is merged into this target row. -/
def Untouched (key : String) (sources : List RawRow) (target : RawRow) : Prop :=
  ∀ source ∈ sources, joins (target (foldName key)) (source (foldName key)) = false

instance (key : String) (sources : List RawRow) (target : RawRow) :
    Decidable (Untouched key sources target) :=
  inferInstanceAs (Decidable (∀ source ∈ sources, _ = false))

theorem matching_eq_none {target : RawRow} :
    matching key sources target = none ↔ Untouched key sources target := by
  simp [matching, List.find?_eq_none, Untouched]

/-- What the update half makes of a target row. -/
def updated (columns : List String) (key : String) (sources : List RawRow)
    (target : RawRow) : RawRow :=
  match matching key sources target with
  | some source => overwrite columns source target
  | none => target

theorem updated_untouched {target : RawRow} (untouched : Untouched key sources target) :
    updated columns key sources target = target := by
  rw [updated, matching_eq_none.mpr untouched]

/-- A matched row is re-owned by the tenant of the sources. -/
private theorem updated_tenant (stamped : ∀ source ∈ sources, source.tenant = some tenant)
    (owned : "tenant_id" ∈ columns.map foldName) {target : RawRow}
    (touched : ¬ Untouched key sources target) :
    (updated columns key sources target).tenant = some tenant := by
  rw [← matching_eq_none] at touched
  obtain ⟨source, found⟩ := Option.ne_none_iff_exists'.mp touched
  simp only [updated, found, RawRow.tenant, overwrite, if_pos owned]
  exact stamped source (List.mem_of_find?_eq_some found)

private theorem inserted_own (stamped : ∀ source ∈ sources, source.tenant = some tenant)
    (keep : RawRow → Bool) :
    own tenant ((sources.filter keep : List RawRow) : Multiset RawRow) = (sources.filter keep : List RawRow) ∧
      others tenant ((sources.filter keep : List RawRow) : Multiset RawRow) = 0 := by
  have all : ∀ row ∈ ((sources.filter keep : List RawRow) : Multiset RawRow),
      row.tenant = some tenant := by
    intro row member
    exact stamped row (List.mem_of_mem_filter (Multiset.mem_coe.mp member))
  exact ⟨Multiset.filter_eq_self.mpr all,
    Multiset.filter_eq_nil.mpr fun row member => not_not_intro (all row member)⟩

/-- The update-or-insert MERGE takes from the other tenants the rows it matches. -/
theorem others_mergeRows (stamped : ∀ source ∈ sources, source.tenant = some tenant)
    (owned : "tenant_id" ∈ columns.map foldName) (rows : Multiset RawRow) :
    others tenant (mergeRows columns key sources rows) =
      (others tenant rows).filter (Untouched key sources) := by
  have update : others tenant (rows.map (updated columns key sources)) =
      (others tenant rows).filter (Untouched key sources) := by
    rw [others, Multiset.filter_map, others, Multiset.filter_filter]
    have kept : ∀ target ∈ rows,
        ((updated columns key sources target).tenant ≠ some tenant ↔
          Untouched key sources target ∧ target.tenant ≠ some tenant) := by
      intro target _
      by_cases untouched : Untouched key sources target
      · simp [updated_untouched untouched, untouched]
      · simp [updated_tenant stamped owned untouched, untouched]
    refine (congrArg _ (Multiset.filter_congr kept)).trans ?_
    refine (Multiset.map_congr rfl fun target member => ?_).trans (Multiset.map_id _)
    exact updated_untouched (Multiset.mem_filter.mp member).2.1
  rw [mergeRows, others_add, (inserted_own stamped _).2, Multiset.add_zero]
  exact update

/-- Where it matches no other tenant's row, it sees its own tenant's rows only. -/
theorem own_mergeRows (stamped : ∀ source ∈ sources, source.tenant = some tenant)
    (owned : "tenant_id" ∈ columns.map foldName) {rows : Multiset RawRow}
    (apart : ∀ target ∈ others tenant rows, Untouched key sources target) :
    own tenant (mergeRows columns key sources rows) =
      mergeRows columns key sources (own tenant rows) := by
  have update : own tenant (rows.map (updated columns key sources)) =
      (own tenant rows).map (updated columns key sources) := by
    rw [own, Multiset.filter_map]
    refine congrArg _ (Multiset.filter_congr fun target member => ?_)
    by_cases untouched : Untouched key sources target
    · simp [updated_untouched untouched]
    · have mine : target.tenant = some tenant := by
        by_contra foreign
        exact untouched (apart target (mem_others.mpr ⟨member, foreign⟩))
      simp [updated_tenant stamped owned untouched, mine]
  rw [mergeRows, own_add, (inserted_own stamped _).1, mergeRows]
  refine congrArg₂ _ update (congrArg _ (List.filter_congr fun source member => ?_))
  refine decide_eq_decide.mpr ⟨fun free target mine => free target (mem_own.mp mine).1,
    fun free target inRows => ?_⟩
  by_cases mine : target.tenant = some tenant
  · exact free target (mem_own.mpr ⟨inRows, mine⟩)
  · exact apart target (mem_others.mpr ⟨inRows, mine⟩) source member

end

/-! ### The MERGEs of a whole call -/

section
variable {table : KeyedTable} {known : List String} {tenant : String}

/-- A row of the batch has the key of a stored row. -/
def Collides (table : KeyedTable) (row : List Cell) (target : RawRow) : Prop :=
  joins (target (foldName table.key)) (keyCell table.keyIndex row) = true

instance (table : KeyedTable) (row : List Cell) (target : RawRow) :
    Decidable (Collides table row target) := inferInstanceAs (Decidable (_ = true))

variable (fits : table.fits known = true) (keyed : table.columns.contains table.key = true)
include fits

private theorem stamped_sources {piece : List (List Cell)}
    (aligned : ∀ row ∈ piece, row.length = table.columns.length) :
    ∀ source ∈ piece.map (table.stamped tenant), source.tenant = some tenant := by
  intro source member
  obtain ⟨row, inPiece, rfl⟩ := List.mem_map.mp member
  exact KeyedTable.stamped_tenant tenant fits (aligned row inPiece)

omit fits in
private theorem tenant_listed : "tenant_id" ∈ (table.columns ++ ["tenant_id"]).map foldName :=
  List.mem_map.mpr ⟨"tenant_id", by simp, by decide⟩

include keyed

private theorem untouched_iff {piece : List (List Cell)}
    (aligned : ∀ row ∈ piece, row.length = table.columns.length) (target : RawRow) :
    Untouched table.key (piece.map (table.stamped tenant)) target ↔
      ∀ row ∈ piece, ¬ Collides table row target := by
  simp only [Untouched, List.mem_map, forall_exists_index, and_imp, forall_apply_eq_imp_iff₂,
    Collides, Bool.not_eq_true]
  refine forall₂_congr fun row member => ?_
  rw [KeyedTable.stamped_key tenant fits keyed (aligned row member)]

theorem KeyedTable.others_mergeAll {pieces : List (List (List Cell))}
    (aligned : ∀ piece ∈ pieces, ∀ row ∈ piece, row.length = table.columns.length)
    (rows : Multiset RawRow) :
    others tenant (table.mergeAll tenant pieces rows) =
      (others tenant rows).filter fun target => ∀ row ∈ pieces.flatten, ¬ Collides table row target := by
  induction pieces generalizing rows with
  | nil => simp [KeyedTable.mergeAll]
  | cons piece pieces ih =>
    have here := aligned piece (by simp)
    have step : others tenant (table.merge tenant piece rows) =
        (others tenant rows).filter fun target => ∀ row ∈ piece, ¬ Collides table row target := by
      rw [KeyedTable.merge, others_mergeRows (stamped_sources fits here) tenant_listed]
      exact Multiset.filter_congr fun target _ => untouched_iff fits keyed here target
    have rest := ih (fun other member => aligned other (List.mem_cons_of_mem _ member))
      (table.merge tenant piece rows)
    rw [step, Multiset.filter_filter] at rest
    refine rest.trans (Multiset.filter_congr fun target _ => ?_)
    simp only [List.flatten_cons, List.mem_append, or_imp, forall_and]
    exact and_comm

theorem KeyedTable.own_mergeAll {pieces : List (List (List Cell))}
    (aligned : ∀ piece ∈ pieces, ∀ row ∈ piece, row.length = table.columns.length)
    {rows : Multiset RawRow}
    (apart : ∀ target ∈ others tenant rows, ∀ row ∈ pieces.flatten, ¬ Collides table row target) :
    own tenant (table.mergeAll tenant pieces rows) =
      table.mergeAll tenant pieces (own tenant rows) := by
  induction pieces generalizing rows with
  | nil => rfl
  | cons piece pieces ih =>
    have here := aligned piece (by simp)
    have apartHere : ∀ target ∈ others tenant rows,
        Untouched table.key (piece.map (table.stamped tenant)) target := fun target foreign =>
      (untouched_iff fits keyed here target).mpr fun row member =>
        apart target foreign row (by simp [member])
    have step : own tenant (table.merge tenant piece rows) =
        table.merge tenant piece (own tenant rows) :=
      own_mergeRows (stamped_sources fits here) tenant_listed apartHere
    have unchanged : others tenant (table.merge tenant piece rows) = others tenant rows := by
      rw [KeyedTable.merge, others_mergeRows (stamped_sources fits here) tenant_listed]
      exact Multiset.filter_eq_self.mpr apartHere
    have rest : own tenant (table.mergeAll tenant pieces (table.merge tenant piece rows)) =
        table.mergeAll tenant pieces (own tenant (table.merge tenant piece rows)) := by
      refine ih (fun other member => aligned other (List.mem_cons_of_mem _ member)) ?_
      rw [unchanged]
      exact fun target foreign row member => apart target foreign row (by simp [member])
    rw [step] at rest
    exact rest

end

section
variable (table : KeyedTable) (tenant : String) (pieces : List (List String))

private theorem erase_others (keys : List String) (rows : Multiset RawRow) :
    others tenant (table.erase tenant keys rows) = others tenant rows := by
  rw [others, KeyedTable.erase, Multiset.filter_filter]
  refine Multiset.filter_congr fun row _ => ?_
  simp only [and_iff_left_iff_imp]
  intro foreign
  have unmatched : joins row.tenant (some tenant) = false := by
    by_contra matched
    obtain ⟨same, left, right⟩ := joins_eq_true.mp (by simpa using matched)
    exact foreign (left.trans right.symm)
  rw [deletes, unmatched, Bool.and_false]

private theorem erase_own (keys : List String) (rows : Multiset RawRow) :
    own tenant (table.erase tenant keys rows) = table.erase tenant keys (own tenant rows) :=
  Multiset.filter_comm _ _ _

/-- The delete MERGEs leave the other tenants alone. -/
theorem KeyedTable.others_eraseAll (rows : Multiset RawRow) :
    others tenant (table.eraseAll tenant pieces rows) = others tenant rows := by
  induction pieces generalizing rows with
  | nil => rfl
  | cons piece pieces ih => exact (ih _).trans (erase_others table tenant piece rows)

theorem KeyedTable.own_eraseAll (rows : Multiset RawRow) :
    own tenant (table.eraseAll tenant pieces rows) =
      table.eraseAll tenant pieces (own tenant rows) := by
  induction pieces generalizing rows with
  | nil => rfl
  | cons piece pieces ih =>
    exact (ih _).trans (congrArg (table.eraseAll tenant pieces) (erase_own table tenant piece rows))

end

/-! ### Calls -/

/-- A call of one of the three keyed writes, its rows aligned with its columns. -/
inductive KeyedCall where
  | upsert (table : KeyedTable) (rows : List (List Cell))
      (aligned : ∀ row ∈ rows, row.length = table.columns.length)
  | delete (system entity key : String) (keys : List String)
  | change (table : KeyedTable) (upserts : List (List Cell))
      (aligned : ∀ row ∈ upserts, row.length = table.columns.length) (deletes : List String)
      (offsets : List (Int × Int)) (updatedAt : String)

namespace KeyedCall

def run : KeyedCall → Session Nat
  | .upsert table rows _ => upsertRaw table.system table.entity table.columns table.key rows
  | .delete system entity key keys => deleteRaw system entity key keys
  | .change table upserts _ deletes offsets updatedAt =>
      applyCdcBatch table.system table.entity table.columns table.key upserts deletes offsets
        updatedAt

def table : KeyedCall → KeyedTable
  | .upsert table _ _ => table
  | .delete system entity key _ => ⟨system, entity, [], key⟩
  | .change table _ _ _ _ _ => table

/-- The rows a call brings into the table: of an upsert those sent before the first
refusal, of a change batch all or none. -/
def reaching (writer : Writer) : KeyedCall → List (List Cell)
  | .upsert table rows _ => (table.upsertsReaching writer rows).flatten
  | .delete _ _ _ _ => []
  | .change table upserts _ deletes offsets _ =>
      if table.commits writer upserts deletes offsets then dedupByKey upserts table.keyIndex else []

/-- What a call does to the rows of its table. -/
def effect (writer : Writer) (call : KeyedCall) (rows : Multiset RawRow) : Multiset RawRow :=
  match call with
  | .upsert table batch _ =>
      table.mergeAll writer.tenant (table.upsertsReaching writer batch) rows
  | .delete _ _ _ keys =>
      call.table.eraseAll writer.tenant (call.table.deletesReaching writer keys) rows
  | .change table upserts _ deletes offsets _ =>
      if table.commits writer upserts deletes offsets then
        table.cdcRows writer.tenant upserts deletes rows
      else rows

end KeyedCall

/-- A keyed write changes its table as said, and no other. -/
theorem KeyedCall.run_rewrites (call : KeyedCall) (writer : Writer) :
    Rewrites writer.durable.catalog (call.run writer).2.durable.catalog call.table.name
      (call.effect writer) := by
  cases call with
  | upsert table rows aligned => exact upsertRaw_rewrites table writer aligned
  | delete system entity key keys => exact deleteRaw_rewrites ⟨system, entity, [], key⟩ writer keys
  | change table upserts aligned deletes offsets updatedAt =>
    have shape : (KeyedCall.change table upserts aligned deletes offsets updatedAt).run writer =
      applyCdcBatch table.system table.entity table.columns table.key upserts deletes offsets
        updatedAt writer := rfl
    rw [shape]
    cases commits : table.commits writer upserts deletes offsets with
    | false =>
      obtain ⟨failure, issued, rollbackTo, ran, -⟩ :=
        applyCdcBatch_rolledBack table writer commits aligned updatedAt
      rw [ran]
      exact ⟨by simp [KeyedCall.effect, commits], fun _ _ => rfl⟩
    | true =>
      obtain ⟨written, known, -, -, ran⟩ :=
        applyCdcBatch_committed table writer commits aligned updatedAt
      rw [ran]
      have rewrites := table.cdcCatalog_rewrites writer.tenant upserts deletes offsets updatedAt
        known writer.durable.catalog
      exact ⟨by simpa [KeyedCall.effect, KeyedCall.table, commits] using rewrites.target,
        rewrites.others⟩

/-! ### The tenant's rows alone -/

/-- A catalogue with the raw rows of one tenant only. -/
def Catalog.alone (catalog : Catalog) (tenant : String) : Catalog :=
  { catalog with raw := fun name =>
      (catalog.raw name).map fun table => { table with rows := own tenant table.rows } }

/-- The writer over its own tenant's raw rows only. -/
def Writer.alone (writer : Writer) : Writer :=
  { writer with durable := ⟨writer.durable.catalog.alone writer.tenant, writer.durable.history⟩ }

@[simp] theorem Catalog.columnsOf_alone (catalog : Catalog) (tenant name : String) :
    (catalog.alone tenant).columnsOf name = catalog.columnsOf name := by
  cases found : catalog.raw name <;> simp [columnsOf, alone, found]

@[simp] theorem Catalog.rowsOf_alone (catalog : Catalog) (tenant name : String) :
    (catalog.alone tenant).rowsOf name = own tenant (catalog.rowsOf name) := by
  cases found : catalog.raw name <;> simp [rowsOf, alone, found, own]

@[simp] theorem Catalog.ensured_alone (catalog : Catalog) (tenant : String) (dataset : Dataset)
    (columns : List String) :
    (catalog.alone tenant).ensured dataset columns = catalog.ensured dataset columns := by
  simp only [ensured, columnsOf_alone]

/-- Which statements reach the database does not depend on any stored row. -/
theorem KeyedCall.effect_alone (call : KeyedCall) (writer : Writer) :
    call.effect writer.alone = call.effect writer := by
  have clear (count : Nat) : writer.alone.Clear count ↔ writer.Clear count := Iff.rfl
  cases call with
  | upsert table rows aligned =>
    funext stored
    simp only [effect, KeyedTable.upsertsReaching, KeyedTable.opens, KeyedTable.usable,
      Writer.alone, Catalog.ensured_alone]
    rfl
  | delete system entity key keys =>
    funext stored
    simp only [effect, KeyedTable.deletesReaching, Writer.alone, Catalog.columnsOf_alone]
  | change table upserts aligned deletes offsets updatedAt =>
    funext stored
    simp only [effect, KeyedTable.commits, Writer.alone, Catalog.ensured_alone]
    rfl

/-- Every call is some update-or-insert MERGEs and then some delete MERGEs. -/
private theorem KeyedCall.effect_shape (call : KeyedCall) (writer : Writer) :
    ∃ pieces keys, (∀ rows, call.effect writer rows =
        call.table.eraseAll writer.tenant keys (call.table.mergeAll writer.tenant pieces rows)) ∧
      pieces.flatten = call.reaching writer ∧
      (∀ piece ∈ pieces, ∀ row ∈ piece, row.length = call.table.columns.length) ∧
      (pieces ≠ [] → call.table.columns.contains call.table.key = true ∧
        ∃ known, call.table.fits known = true) := by
  cases call with
  | upsert table rows aligned =>
    refine ⟨table.upsertsReaching writer rows, [], fun _ => rfl, rfl, ?_, ?_⟩
    · intro piece member row inPiece
      unfold KeyedTable.upsertsReaching at member
      split at member
      · have cut := (landed_begins _ _ _).subset member
        exact aligned row (mem_of_mem_dedupByKey (mem_of_mem_chunks (by decide) cut inPiece))
      · cases member
    · intro some
      have opens : table.opens writer = true := by
        by_contra closed
        exact some (if_neg closed)
      simp only [KeyedTable.opens, Bool.and_eq_true, KeyedTable.usable] at opens
      obtain ⟨⟨sound, usable⟩, -⟩ := opens
      obtain ⟨known, -, fits⟩ := (Option.any_eq_true _ _).mp usable
      exact ⟨KeyedTable.sound_keyed sound, known, fits⟩
  | delete system entity key keys =>
    exact ⟨[], _, fun _ => rfl, rfl, by simp, by simp⟩
  | change table upserts aligned deletes offsets updatedAt =>
    cases commits : table.commits writer upserts deletes offsets with
    | false =>
      refine ⟨[], [], fun _ => ?_, by simp [reaching, commits], by simp, by simp⟩
      simp [effect, commits]
    | true =>
      refine ⟨chunks mergeChunk (dedupByKey upserts table.keyIndex), chunks mergeChunk deletes,
        fun _ => ?_, ?_, ?_, ?_⟩
      · simp [effect, commits, KeyedTable.cdcRows, KeyedCall.table]
      · simp [reaching, commits, chunks_flatten (show 0 < mergeChunk by decide)]
      · exact fun piece member row inPiece =>
          aligned row (mem_of_mem_dedupByKey (mem_of_mem_chunks (by decide) member inPiece))
      · intro some
        simp only [KeyedTable.commits, Bool.and_eq_true] at commits
        obtain ⟨⟨sound, taken⟩, -⟩ := commits
        obtain ⟨known, -, takes⟩ := (Option.any_eq_true _ _).mp taken
        refine ⟨KeyedTable.sound_keyed sound, known, (KeyedTable.takes_iff.mp takes).1 ?_⟩
        intro none
        exact some (by rw [none, chunks_nil])

/-! ### Framing -/

/-- A keyed write run for the writer's tenant leaves the rows of all other tenants, in
every raw table, exactly as they were, and does to the tenant's own rows what it does
where there are no others. -/
structure KeyedCall.Framed (call : KeyedCall) (writer : Writer) : Prop where
  others_kept : ∀ name, others writer.tenant ((call.run writer).2.durable.catalog.rowsOf name) =
    others writer.tenant (writer.durable.catalog.rowsOf name)
  own_alone : ∀ name, own writer.tenant ((call.run writer).2.durable.catalog.rowsOf name) =
    own writer.tenant ((call.run writer.alone).2.durable.catalog.rowsOf name)

/-- No upserted row that reaches the table has the key of a row of another tenant. -/
def KeyedCall.Apart (call : KeyedCall) (writer : Writer) : Prop :=
  ∀ target ∈ others writer.tenant (writer.durable.catalog.rowsOf call.table.name),
    ∀ row ∈ call.reaching writer, ¬ Collides call.table row target

/-- What a call leaves of the other tenants' rows: those it does not collide with. -/
theorem KeyedCall.others_effect (call : KeyedCall) (writer : Writer) (rows : Multiset RawRow) :
    others writer.tenant (call.effect writer rows) =
      (others writer.tenant rows).filter fun target =>
        ∀ row ∈ call.reaching writer, ¬ Collides call.table row target := by
  obtain ⟨pieces, keys, shape, flat, aligned, usable⟩ := call.effect_shape writer
  rw [shape, KeyedTable.others_eraseAll, ← flat]
  by_cases some : pieces = []
  · subst some
    simp
  · obtain ⟨keyed, known, fits⟩ := usable some
    exact KeyedTable.others_mergeAll fits keyed aligned rows

/-- Where it collides with no other tenant's row, a call sees its tenant's rows only. -/
theorem KeyedCall.own_effect (call : KeyedCall) (writer : Writer) {rows : Multiset RawRow}
    (apart : ∀ target ∈ others writer.tenant rows,
      ∀ row ∈ call.reaching writer, ¬ Collides call.table row target) :
    own writer.tenant (call.effect writer rows) = call.effect writer (own writer.tenant rows) := by
  obtain ⟨pieces, keys, shape, flat, aligned, usable⟩ := call.effect_shape writer
  rw [shape, shape, KeyedTable.own_eraseAll]
  by_cases some : pieces = []
  · subst some
    rfl
  · obtain ⟨keyed, known, fits⟩ := usable some
    rw [← flat] at apart
    rw [KeyedTable.own_mergeAll fits keyed aligned apart]

section
/-- A shared dimension table holding one row, of the tenant `acme`. -/
def sharedUsers : Catalog :=
  Catalog.empty.setRaw "raw_crm_users"
    ⟨["id", "name", "tenant_id"],
      {rowOf ["id", "name", "tenant_id"] [some "u1", some "Ann", some "acme"]}⟩

/-- A writer stamping the tenant `globex` over it. -/
def globexWriter : Writer where
  duck := ⟨fun _ => false, fun _ => none, fun _ => none, fun _ => none, fun _ _ _ => .ok []⟩
  durable := ⟨sharedUsers, []⟩
  rollbackTo := none
  issued := 0
  tenant := "globex"
  writeGen := 0
  maintenanceAvailable := false

/-- `globex` upserts a user of its own under the key of `acme`'s. -/
def globexUpsert : KeyedCall :=
  .upsert ⟨"crm", "users", ["id", "name"], "id"⟩ [[some "u1", some "Bob"]] (by simp)

end

end ConsumerEngine.Storage
