import ConsumerEngine.Storage.Atomicity
import ConsumerEngine.Storage.KeyedContents

/-! A batch upsert, and an upsert call for each of its rows.

Both write every row that has a key under its key, and of the writes of a key the last one
shows. A table that does not take the rows is left as it was by both.
-/

set_option autoImplicit false

namespace ConsumerEngine.Storage

open ConsumerEngine.Core ConsumerEngine.Foundation

/-- `upsert_raw`, called for one row after the other. -/
def upsertEach (table : KeyedTable) : List (List Cell) → Session Unit
  | [] => pure ()
  | row :: rest => do
      let _ ← upsertRaw table.system table.entity table.columns table.key [row]
      upsertEach table rest

/-- The rows of a batch that have a key. -/
def keyedRows (index : Nat) (rows : List (List Cell)) : List (List Cell) :=
  rows.filter fun row => (keyCell index row).isSome

section
variable {index : Nat} {rows : List (List Cell)}

theorem keyed_of_mem_keyedRows {row : List Cell} (member : row ∈ keyedRows index rows) :
    keyCell index row ≠ none := by
  have keyed := (List.mem_filter.mp member).2
  exact Option.isSome_iff_ne_none.mp keyed

/-- Rows without a key are skipped. -/
theorem dedupByKey_keyedRows (index : Nat) (rows : List (List Cell)) :
    dedupByKey (keyedRows index rows) index = dedupByKey rows index := by
  have skipped (kept : List (List Cell)) : (keyedRows index rows).foldl (dedupStep index) kept =
      rows.foldl (dedupStep index) kept := by
    induction rows generalizing kept with
    | nil => rfl
    | cons row rest ih =>
      cases keyed : keyCell index row with
      | none =>
        have same : dedupStep index kept row = kept := by simp only [dedupStep, keyed]
        rw [keyedRows, List.filter_cons_of_neg (by simp [keyed]), ← keyedRows, ih, List.foldl_cons,
          same]
      | some key =>
        rw [keyedRows, List.filter_cons_of_pos (by simp [keyed]), ← keyedRows, List.foldl_cons,
          List.foldl_cons, ih]
  exact skipped []

end

/-! ### The writer after an upsert -/

/-- The writer still stamps the same tenant. -/
def Writer.SameTenant (before after : Writer) : Prop := after.tenant = before.tenant

instance : IsPreorder Writer Writer.SameTenant where
  refl _ := rfl
  trans _ _ _ one two := Eq.trans two one

theorem ensure_keeps (condition : Bool) (failure : Error) : KeepsHandle (ensure condition failure) := by
  unfold ensure
  split
  · exact Effect.Within.pure ()
  · exact Effect.Within.throw failure

theorem KeepsHandle.sameTenant {α : Type} {act : Session α} (keeps : KeepsHandle act) :
    Effect.Within Writer.SameTenant act := fun writer => (keeps writer).tenant

theorem bumpWrite_sameTenant : Effect.Within Writer.SameTenant bumpWrite := fun _ => rfl

section
variable {table : KeyedTable} {writer : Writer} {rows : List (List Cell)} {known : List String}

theorem upsertRaw_tenant (table : KeyedTable) (rows : List (List Cell)) (writer : Writer) :
    (upsertRaw table.system table.entity table.columns table.key rows writer).2.tenant =
      writer.tenant := by
  have within : Effect.Within Writer.SameTenant
      (upsertRaw table.system table.entity table.columns table.key rows) := by
    refine (ensure_keeps _ _).sameTenant.bind fun _ => (Effect.Within.lift _).bind fun _ =>
      (Effect.Within.lift _).bind fun _ => (ensure_keeps _ _).sameTenant.bind fun _ =>
      (Effect.Within.lift _).bind fun dataset =>
      (ensureRawTable_keeps _ dataset).sameTenant.bind fun _ => ?_
    split
    · exact Effect.Within.pure 0
    · exact (mergeUpserts_keeps _ _ _ _).sameTenant.bind fun affected =>
        bumpWrite_sameTenant.bind fun _ => Effect.Within.pure affected
  exact within writer

/-- An upsert into a table that takes its rows writes those that have a key. -/
theorem upsertRaw_taken (sound : table.sound = true)
    (ensured : writer.durable.catalog.ensured table.dataset table.columns = some known)
    (fits : table.fits known = true) (never : ∀ i, writer.duck.rejects i = false)
    (aligned : ∀ row ∈ rows, row.length = table.columns.length) :
    ∃ affected after,
      upsertRaw table.system table.entity table.columns table.key rows writer = (.ok affected, after) ∧
      after.duck = writer.duck ∧ after.tenant = writer.tenant ∧
      after.durable.catalog.ensured table.dataset table.columns = some known ∧
      after.durable.catalog.rowsOf table.name =
        (table.keying (KeyedTable.sound_keyed sound)).runBag
          (table.puts writer.tenant (keyedRows table.keyIndex rows))
          (writer.durable.catalog.rowsOf table.name) := by
  obtain ⟨affected, after, ran, duck, left⟩ :=
    upsertRaw_accepts table writer sound ensured (fun _ => fits) never aligned
  have tenant := upsertRaw_tenant table rows writer
  rw [ran] at tenant
  refine ⟨affected, after, ran, duck, tenant, ?_, ?_⟩
  · exact Catalog.ensured_of_columnsOf (left ▸ Catalog.columnsOf_rewrite ..)
      (Catalog.ensured_tenant ensured)
  · have among (row : List Cell) (member : row ∈ keyedRows table.keyIndex rows) :
        row.length = table.columns.length := aligned row (List.mem_filter.mp member).1
    rw [left, Catalog.rowsOf_rewrite, ← dedupByKey_keyedRows,
      KeyedTable.mergeAll_dedup (KeyedTable.sound_keyed sound) (fun _ => fits) among,
      KeyedTable.runBag_puts_dedup _ fits among fun row member => keyed_of_mem_keyedRows member]

/-- An upsert into a table that does not take its rows leaves the stored ones. -/
theorem upsertRaw_stuck (stuck : (table.sound && table.usable writer.durable.catalog) = false)
    (aligned : ∀ row ∈ rows, row.length = table.columns.length) :
    (upsertRaw table.system table.entity table.columns table.key rows
      writer).2.durable.catalog.rowsOf table.name = writer.durable.catalog.rowsOf table.name := by
  have closed : table.opens writer = false := by
    rw [KeyedTable.opens, stuck, Bool.false_and]
  have rewrites := (upsertRaw_rewrites table writer aligned).target
  rwa [KeyedTable.upsertsReaching, closed] at rewrites

/-! ### One call for each row -/

theorem upsertEach_taken (sound : table.sound = true) (fits : table.fits known = true)
    (ensured : writer.durable.catalog.ensured table.dataset table.columns = some known)
    (never : ∀ i, writer.duck.rejects i = false)
    (aligned : ∀ row ∈ rows, row.length = table.columns.length) :
    (upsertEach table rows writer).2.durable.catalog.rowsOf table.name =
      (table.keying (KeyedTable.sound_keyed sound)).runBag
        (table.puts writer.tenant (keyedRows table.keyIndex rows))
        (writer.durable.catalog.rowsOf table.name) := by
  induction rows generalizing writer with
  | nil => rfl
  | cons row rest ih =>
    obtain ⟨here, later⟩ := List.forall_mem_cons.mp aligned
    obtain ⟨affected, after, ran, duck, tenant, ensured', written⟩ :=
      upsertRaw_taken sound ensured fits never (List.forall_mem_singleton.mpr here)
    have next := ih ensured' (duck ▸ never) later
    have split : keyedRows table.keyIndex (row :: rest) =
        keyedRows table.keyIndex [row] ++ keyedRows table.keyIndex rest :=
      List.filter_append [row] rest
    rw [upsertEach, Effect.bind_of_ok ran, next, written, tenant, split, KeyedTable.puts,
      KeyedTable.puts, KeyedTable.puts, List.map_append, Keying.runBag_append]

theorem upsertEach_stuck (stuck : (table.sound && table.usable writer.durable.catalog) = false)
    (never : ∀ i, writer.duck.rejects i = false)
    (aligned : ∀ row ∈ rows, row.length = table.columns.length) :
    (upsertEach table rows writer).2.durable.catalog.rowsOf table.name =
      writer.durable.catalog.rowsOf table.name := by
  induction rows generalizing writer with
  | nil => rfl
  | cons row rest ih =>
    obtain ⟨here, later⟩ := List.forall_mem_cons.mp aligned
    have same := upsertRaw_stuck stuck (List.forall_mem_singleton.mpr here)
    cases ran : upsertRaw table.system table.entity table.columns table.key [row] writer with
    | mk outcome after =>
      rw [ran] at same
      cases outcome with
      | error failure => rw [upsertEach, Effect.bind_of_error ran, same]
      | ok affected =>
        -- a row without a key: the table is made sure of, and still does not take rows
        obtain ⟨sound, known, ensured, fits⟩ := upsertRaw_eq_ok ran
        have misfit : table.fits known = false := by
          simpa [KeyedTable.usable, sound, ensured] using stuck
        obtain ⟨-, duck, left⟩ := (upsertRaw_accepts table writer sound ensured fits never
          (List.forall_mem_singleton.mpr here)).eq ran
        have ensured' : after.durable.catalog.ensured table.dataset table.columns = some known :=
          Catalog.ensured_of_columnsOf (left ▸ Catalog.columnsOf_rewrite ..)
            (Catalog.ensured_tenant ensured)
        have stuck' : (table.sound && table.usable after.durable.catalog) = false := by
          simp [KeyedTable.usable, ensured', misfit]
        rw [upsertEach, Effect.bind_of_ok ran, ih stuck' (duck ▸ never) later, same]

end

/-! ### What a batch leaves -/

section
variable {table : KeyedTable} {writer : Writer} {rows : List (List Cell)} {known : List String}
  {tenant : String} (keyed : table.columns.contains table.key = true)

/-- Writes leave a key they do not write alone. -/
theorem KeyedTable.bag_puts_of_notMem (fits : table.fits known = true)
    (aligned : ∀ row ∈ rows, row.length = table.columns.length) {cell : Cell}
    (absent : cell ∉ rows.map (keyCell table.keyIndex)) (stored : Multiset RawRow) :
    (table.keying keyed).bag ((table.keying keyed).runBag (table.puts tenant rows) stored) cell =
      (table.keying keyed).bag stored cell := by
  have none : (table.keying keyed).ofKey (table.puts tenant rows) cell = [] := by
    refine List.filter_eq_nil_iff.mpr fun change member same => ?_
    obtain ⟨row, inRows, rfl⟩ := List.mem_map.mp member
    have key := KeyedTable.stamped_key tenant fits keyed (aligned row inRows)
    exact absent (List.mem_map.mpr ⟨row, inRows, key.symm.trans (of_decide_eq_true same)⟩)
  rw [Keying.bag_runBag, none, List.foldl_nil]

/-- Of the writes of a key the last one shows. -/
theorem KeyedTable.bag_puts_of_last (fits : table.fits known = true)
    (aligned : ∀ row ∈ rows, row.length = table.columns.length) {text : String} {last : List Cell}
    (ends : (under table.keyIndex rows text).getLast? = some last) (stored : Multiset RawRow) :
    (table.keying keyed).bag ((table.keying keyed).runBag (table.puts tenant rows) stored)
        (some text) =
      (table.keying keyed).write (table.stamped tenant last)
        ((table.keying keyed).bag stored (some text)) := by
  have mine : (table.keying keyed).ofKey (table.puts tenant rows) (some text) =
      table.puts tenant (under table.keyIndex rows text) := by
    rw [Keying.ofKey, KeyedTable.puts, List.filter_map, KeyedTable.puts, under]
    refine congrArg _ (List.filter_congr fun row member => ?_)
    have key := KeyedTable.stamped_key tenant fits keyed (aligned row member)
    simp only [Function.comp_apply, Keying.keyOf, ← key]
    rfl
  have overwritten := fun first second freshFirst freshSecond =>
    @Keying.write_write _ _ (table.keying keyed) first second freshFirst freshSecond
  rw [Keying.bag_runBag, mine, foldl_onHeld 0 overwritten (KeyedTable.fresh_puts keyed _), settleHeld,
    KeyedTable.puts, List.getLast?_map, ends, ← KeyedTable.puts, puts_any_isDrop]
  rfl

end

/-- One batch upsert does what an upsert for each of its rows does: rows without a key change
nothing, and a key of the batch ends with the values of its last row. -/
structure UpsertsAsEach (table : KeyedTable) (writer : Writer) (rows : List (List Cell)) : Prop where
  each : (upsertRaw table.system table.entity table.columns table.key rows
      writer).2.durable.catalog.rowsOf table.name =
    (upsertEach table rows writer).2.durable.catalog.rowsOf table.name
  keyless : (upsertRaw table.system table.entity table.columns table.key rows
      writer).2.durable.catalog.rowsOf table.name =
    (upsertRaw table.system table.entity table.columns table.key (keyedRows table.keyIndex rows)
      writer).2.durable.catalog.rowsOf table.name
  others : ∀ cell, cell ∉ (keyedRows table.keyIndex rows).map (keyCell table.keyIndex) →
    ((upsertRaw table.system table.entity table.columns table.key rows
        writer).2.durable.catalog.rowsOf table.name).filter (· (foldName table.key) = cell) =
      (writer.durable.catalog.rowsOf table.name).filter (· (foldName table.key) = cell)
  last : ∀ affected after, upsertRaw table.system table.entity table.columns table.key rows writer =
      (.ok affected, after) →
    ∀ text row, (under table.keyIndex rows text).getLast? = some row →
      (∃ stored ∈ after.durable.catalog.rowsOf table.name, stored (foldName table.key) = some text) ∧
      ∀ stored ∈ after.durable.catalog.rowsOf table.name, stored (foldName table.key) = some text →
        ∀ name ∈ table.columns.map foldName,
          stored name = table.stamped writer.tenant row name

section
variable {table : KeyedTable} {writer : Writer} {rows : List (List Cell)} {known : List String}

/-- What a written key holds. -/
theorem written_values {keyed : table.columns.contains table.key = true} {stored : Multiset RawRow}
    {text : String} {source : RawRow} {after : Multiset RawRow}
    (written : (table.keying keyed).bag after (some text) = (table.keying keyed).write source stored) :
    (∃ result ∈ after, result (foldName table.key) = some text) ∧
      ∀ result ∈ after, result (foldName table.key) = some text →
        ∀ name ∈ table.columns.map foldName, result name = source name := by
  have within (result : RawRow) : result ∈ after ∧ result (foldName table.key) = some text ↔
      result ∈ (table.keying keyed).write source stored := by
    rw [← written]
    exact (table.keying keyed).mem_bag.symm
  have some_ : ∃ result, result ∈ (table.keying keyed).write source stored := by
    unfold Keying.write
    split
    · exact ⟨source, Multiset.mem_singleton_self source⟩
    · next filled =>
      obtain ⟨target, member⟩ := Multiset.card_pos_iff_exists_mem.mp (Nat.pos_of_ne_zero filled)
      exact ⟨_, Multiset.mem_map_of_mem _ member⟩
  constructor
  · obtain ⟨result, member⟩ := some_
    have both := (within result).mpr member
    exact ⟨result, both.1, both.2⟩
  · intro result member key name listed
    have inWrite := (within result).mp ⟨member, key⟩
    unfold Keying.write at inWrite
    split at inWrite
    · rw [Multiset.mem_singleton.mp inWrite]
    · obtain ⟨target, -, rfl⟩ := Multiset.mem_map.mp inWrite
      have set : name ∈ (table.columns ++ ["tenant_id"]).map foldName := by
        rw [List.map_append]
        exact List.mem_append_left _ listed
      exact if_pos set

end

end ConsumerEngine.Storage
