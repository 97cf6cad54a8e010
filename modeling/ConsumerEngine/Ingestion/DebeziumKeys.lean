import ConsumerEngine.Ingestion.CdcRefinement
import Mathlib.Data.Set.Function

/-! Key values of change envelopes, as upserts store them and as deletes ask for them.

The two are rendered apart: an upsert stores no text for a JSON null, a delete asks for
the rows under its rendering.
-/

set_option autoImplicit false

namespace ConsumerEngine.Ingestion

open ConsumerEngine.Core ConsumerEngine.Foundation ConsumerEngine.Storage

/-! ### One row, one key -/

section
variable {table : KeyedTable} {known : List String} {tenant key : String} {row : List Cell}
  {rows : Multiset RawRow}

theorem chunks_singleton {α : Type} (item : α) : chunks mergeChunk [item] = [[item]] := rfl

/-- A row without a key is skipped. -/
theorem cdcRows_unkeyed (none_ : keyCell table.keyIndex row = none) :
    table.cdcRows tenant [row] [] rows = rows := by
  have skipped : dedupByKey [row] table.keyIndex = [] := by
    simp [dedupByKey, dedupStep, none_]
  simp [KeyedTable.cdcRows, skipped, KeyedTable.mergeAll, KeyedTable.eraseAll]

theorem cdcRows_keyed (keyed : keyCell table.keyIndex row = some key) :
    table.cdcRows tenant [row] [] rows = table.merge tenant [row] rows := by
  have kept : dedupByKey [row] table.keyIndex = [row] := by
    simp [dedupByKey, dedupStep, keyed]
  simp [KeyedTable.cdcRows, kept, chunks_singleton, KeyedTable.mergeAll, KeyedTable.eraseAll]

theorem cdcRows_delete :
    table.cdcRows tenant [] [key] rows = table.erase tenant [key] rows := by
  simp [KeyedTable.cdcRows, chunks_singleton, KeyedTable.mergeAll, KeyedTable.eraseAll, dedupByKey]

theorem joins_some {cell : Cell} : joins cell (some key) = true ↔ cell = some key := by
  cases cell <;> simp [joins]

theorem merge_single (sourceKey : table.stamped tenant row (foldName table.key) = some key) :
    table.merge tenant [row] rows =
      rows.map (fun target => if target (foldName table.key) = some key
        then overwrite (table.columns ++ ["tenant_id"]) (table.stamped tenant row) target
        else target) +
      ↑([table.stamped tenant row].filter fun source => decide (∀ target ∈ rows,
        joins (target (foldName table.key)) (source (foldName table.key)) = false)) := by
  unfold KeyedTable.merge mergeRows
  refine congrArg (· + _) (Multiset.map_congr rfl fun target _ => ?_)
  simp only [List.map_cons, List.map_nil, matching, List.find?_singleton, sourceKey, joins_some]
  split <;> simp_all

/-- What an upsert of one row writes, it writes under the row's key and the tenant. -/
theorem merge_one (fits : table.fits known = true)
    (keyed : table.columns.contains table.key = true)
    (aligned : row.length = table.columns.length)
    (cell : keyCell table.keyIndex row = some key) :
    (table.merge tenant [row] rows).filter (fun stored => stored (foldName table.key) ≠ some key) =
        rows.filter (fun stored => stored (foldName table.key) ≠ some key) ∧
      ∀ stored ∈ table.merge tenant [row] rows, stored (foldName table.key) = some key →
        stored.tenant = some tenant := by
  have sourceKey : table.stamped tenant row (foldName table.key) = some key :=
    (KeyedTable.stamped_key tenant fits keyed aligned).trans cell
  have sourceTenant := KeyedTable.stamped_tenant tenant fits aligned
  have keyColumn : foldName table.key ∈ (table.columns ++ ["tenant_id"]).map foldName :=
    List.mem_map_of_mem (List.mem_append_left _ (by simpa using keyed))
  have tenantColumn : "tenant_id" ∈ (table.columns ++ ["tenant_id"]).map foldName :=
    List.mem_map.mpr ⟨"tenant_id", by simp, by decide⟩
  rw [merge_single sourceKey]
  constructor
  · have added : (↑([table.stamped tenant row].filter fun source => decide (∀ target ∈ rows,
        joins (target (foldName table.key)) (source (foldName table.key)) = false)) :
          Multiset RawRow).filter (fun stored => stored (foldName table.key) ≠ some key) = 0 := by
      refine Multiset.filter_eq_nil.mpr fun stored member => ?_
      rw [List.mem_singleton.mp (List.mem_of_mem_filter (Multiset.mem_coe.mp member))]
      exact not_not.mpr sourceKey
    rw [Multiset.filter_add, added, Multiset.add_zero, Multiset.filter_map]
    have others : rows.filter ((fun stored : RawRow => stored (foldName table.key) ≠ some key) ∘
        fun target => if target (foldName table.key) = some key
          then overwrite (table.columns ++ ["tenant_id"]) (table.stamped tenant row) target
          else target) =
        rows.filter (fun stored => stored (foldName table.key) ≠ some key) := by
      refine Multiset.filter_congr fun target _ => ?_
      by_cases same : target (foldName table.key) = some key
      · simp [same, overwrite, sourceKey]
      · simp [same]
    rw [others]
    refine (Multiset.map_congr rfl fun target member => ?_).trans (Multiset.map_id _)
    rw [if_neg (Multiset.mem_filter.mp member).2]
    rfl
  · intro stored member under
    rcases Multiset.mem_add.mp member with old | new
    · obtain ⟨target, -, rfl⟩ := Multiset.mem_map.mp old
      by_cases same : target (foldName table.key) = some key
      · simp only [same, if_true, RawRow.tenant, overwrite, tenantColumn]
        exact sourceTenant
      · rw [if_neg same] at under
        exact absurd under same
    · rw [List.mem_singleton.mp (List.mem_of_mem_filter (Multiset.mem_coe.mp new))]
      exact sourceTenant

theorem deletes_one {stored : RawRow} : deletes table.key [key] tenant stored = true ↔
    stored (foldName table.key) = some key ∧ stored.tenant = some tenant := by
  simp [deletes, joins_some]

end

/-! ### Key values -/

/-- The JSON type of a value. -/
inductive JsonType where
  | null
  | bool
  | number
  | string
  | array
  | object
  deriving DecidableEq, Repr

def typeOf : Json → JsonType
  | .null => .null
  | .bool _ => .bool
  | .number _ => .number
  | .string _ => .string
  | .array _ => .array
  | .object _ => .object

/-- The cell the tables hold for a key value; none for a value that is null or absent. -/
def DebeziumMapper.storedKey (mapper : DebeziumMapper) (value : Option Json) : Cell :=
  value.bind mapper.cellOf

/-- A delete addresses the row its upsert wrote. `rows` are those of the table before the
upsert and after it, then before the delete and after it; `seen` are the key values in use. -/
structure DebeziumMapper.Addresses (mapper : DebeziumMapper) (tenant : String) (seen : Set Json)
    (value : Option Json) (before upserted later deleted : Multiset RawRow) : Prop where
  /-- What the upsert writes is under the key value and the tenant. -/
  writes : ∀ key, mapper.storedKey value = some key →
    upserted.filter (fun row => row (foldName mapper.key) ≠ some key) =
        before.filter (fun row => row (foldName mapper.key) ≠ some key) ∧
      ∀ row ∈ upserted, row (foldName mapper.key) = some key → row.tenant = some tenant
  /-- The delete leaves none of it. -/
  gone : ∀ key, mapper.storedKey value = some key →
    ∀ row ∈ deleted, ¬ (row (foldName mapper.key) = some key ∧ row.tenant = some tenant)
  /-- It removes nothing written from another value of the type. -/
  spares : ∀ here, value = some here → ∀ other ∈ seen, typeOf other = typeOf here → other ≠ here →
    ∀ key, mapper.storedKey (some other) = some key →
      deleted.filter (fun row => row (foldName mapper.key) = some key) =
        later.filter (fun row => row (foldName mapper.key) = some key)
  /-- A value that is null or absent writes and removes nothing. -/
  skips : mapper.storedKey value = none → upserted = before ∧ deleted = later

/-- A delete asks for the text the upsert stored, except for a null. -/
theorem DebeziumMapper.keyText_eq (mapper : DebeziumMapper) {value : Json} (some_ : value ≠ .null) :
    mapper.storedKey (some value) = some (mapper.keyText value) := by
  cases value <;> first | rfl | exact absurd rfl some_

/-- Values of a type are told apart by their texts. -/
theorem DebeziumMapper.keyText_injOn {mapper : DebeziumMapper} {seen : Set Json}
    (faithful : Set.InjOn mapper.display seen) {here other : Json} (inUse : here ∈ seen)
    (inUse' : other ∈ seen) (alike : typeOf other = typeOf here)
    (same : mapper.keyText other = mapper.keyText here) : other = here := by
  cases here with
  | string s =>
    cases other with
    | string s' => exact congrArg _ same
    | _ => cases alike
  | null | bool | number | array | object =>
    cases other with
    | string s' => cases alike
    | _ => exact faithful inUse' inUse same

section
variable {mapper : DebeziumMapper} {writer after : Writer} {envelope : DebeziumEnvelope}
  {partition offset : Int} {now : String} {count : Nat}

/-- What an envelope's batch did to the rows of its table. -/
theorem map_applied (ran : (mapper.map envelope partition offset).apply now writer =
    (.ok count, after)) :
    mapper.table.sound = true ∧
      ∃ known, mapper.table.takes (mapper.changes envelope.unwrap).1
          (mapper.changes envelope.unwrap).2 known = true ∧
        after.durable.catalog.rowsOf mapper.table.name =
          mapper.table.cdcRows writer.tenant (mapper.changes envelope.unwrap).1
            (mapper.changes envelope.unwrap).2
            (writer.durable.catalog.rowsOf mapper.table.name) := by
  have aligned : ∀ row ∈ (mapper.map envelope partition offset).upserts,
      row.length = mapper.table.columns.length := by
    intro row member
    rw [show (mapper.map envelope partition offset).upserts = (mapper.changes envelope.unwrap).1
      from rfl, mapper.changes_eq] at member
    cases reported : envelope.unwrap.rowChange with
    | none => simp [reported] at member
    | some change =>
      cases change with
      | upsert after =>
        simp only [reported, List.mem_singleton] at member
        rw [member]
        exact mapper.rowFromJson_length after
      | delete before => simp [reported] at member
  obtain ⟨commits, known, -, takes, rfl⟩ :=
    SourceBatch.apply_committed mapper.table ⟨rfl, rfl, rfl, rfl⟩ aligned ran
  have sound : mapper.table.sound = true := by
    simp only [KeyedTable.commits, Bool.and_eq_true] at commits
    exact commits.1.1
  refine ⟨sound, known, takes, ?_⟩
  rw [KeyedTable.afterCdc_catalog, KeyedTable.cdcCatalog_eq]
  exact Catalog.rowsOf_rewrite _ _ known _

/-- What the upsert of a row image does. -/
theorem upsert_applied {image : Json} (reports : envelope.unwrap.rowChange = some (.upsert image))
    (ran : (mapper.map envelope partition offset).apply now writer = (.ok count, after)) :
    (mapper.storedKey (image.get mapper.key) = none →
      after.durable.catalog.rowsOf mapper.table.name =
        writer.durable.catalog.rowsOf mapper.table.name) ∧
    ∀ key, mapper.storedKey (image.get mapper.key) = some key →
      (after.durable.catalog.rowsOf mapper.table.name).filter
          (fun row => row (foldName mapper.key) ≠ some key) =
        (writer.durable.catalog.rowsOf mapper.table.name).filter
          (fun row => row (foldName mapper.key) ≠ some key) ∧
      ∀ row ∈ after.durable.catalog.rowsOf mapper.table.name,
        row (foldName mapper.key) = some key → row.tenant = some writer.tenant := by
  obtain ⟨sound, known, takes, rows⟩ := map_applied ran
  have keyed := KeyedTable.sound_keyed sound
  rw [mapper.changes_eq, reports] at takes rows
  have cell := DebeziumMapper.keyCell_rowFromJson keyed image
  constructor
  · intro none_
    rw [rows]
    exact cdcRows_unkeyed (cell.trans none_)
  · intro key stored
    have keyCell := cell.trans stored
    have fits : mapper.table.fits known = true := by
      simp only [KeyedTable.takes, Bool.and_eq_true, Bool.or_eq_true] at takes
      refine takes.1.resolve_left ?_
      simp [dedupByKey, dedupStep, keyCell]
    rw [rows, cdcRows_keyed keyCell]
    exact merge_one fits keyed (mapper.rowFromJson_length image) keyCell

/-- What the delete of a row image does. -/
theorem delete_applied {image : Json} (reports : envelope.unwrap.rowChange = some (.delete image))
    (ran : (mapper.map envelope partition offset).apply now writer = (.ok count, after)) :
    after.durable.catalog.rowsOf mapper.table.name =
      match image.get mapper.key with
      | none => writer.durable.catalog.rowsOf mapper.table.name
      | some value => (writer.durable.catalog.rowsOf mapper.table.name).filter fun row =>
          ¬ (row (foldName mapper.key) = some (mapper.keyText value) ∧
            row.tenant = some writer.tenant) := by
  obtain ⟨-, known, -, rows⟩ := map_applied ran
  have asked : mapper.changes envelope.unwrap =
      ([], ((image.get mapper.key).map mapper.keyText).toList) := by
    rw [mapper.changes_eq, reports]
  rw [asked] at rows
  cases found : image.get mapper.key with
  | none =>
    rw [found] at rows
    exact rows
  | some value =>
    rw [found] at rows
    refine rows.trans (cdcRows_delete.trans (Multiset.filter_congr fun row _ => ?_))
    exact (Bool.not_eq_true _).symm.to_iff.trans (not_congr (deletes_one))

end

/-- An upsert and a delete of one key value: the delete addresses the upsert's row exactly
if the value is not null or no row of the tenant is kept under the rendering of null. -/
theorem delete_addresses_iff {mapper : DebeziumMapper} {seen : Set Json}
    (faithful : Set.InjOn mapper.display seen) {created removed : DebeziumEnvelope}
    {image last : Json} {value : Option Json} {partition partition' offset offset' : Int}
    {now now' : String} {first second third fourth : Writer} {written erased : Nat}
    (creates : created.unwrap.rowChange = some (.upsert image))
    (removes : removed.unwrap.rowChange = some (.delete last))
    (valued : image.get mapper.key = value) (again : last.get mapper.key = value)
    (inUse : ∀ here, value = some here → here ∈ seen)
    (wrote : (mapper.map created partition offset).apply now first = (.ok written, second))
    (later : third.tenant = first.tenant)
    (erases : (mapper.map removed partition' offset').apply now' third = (.ok erased, fourth)) :
    mapper.Addresses first.tenant seen value
        (first.durable.catalog.rowsOf mapper.table.name)
        (second.durable.catalog.rowsOf mapper.table.name)
        (third.durable.catalog.rowsOf mapper.table.name)
        (fourth.durable.catalog.rowsOf mapper.table.name) ↔
      (value = some .null → ∀ row ∈ third.durable.catalog.rowsOf mapper.table.name,
        ¬ (row (foldName mapper.key) = some (mapper.display .null) ∧
          row.tenant = some first.tenant)) := by
  obtain ⟨unwritten, put⟩ := valued ▸ upsert_applied creates wrote
  have left := delete_applied removes erases
  rw [again, later] at left
  constructor
  · rintro addresses rfl row member ⟨key, tenant⟩
    rw [← (addresses.skips rfl).2, left] at member
    exact (Multiset.mem_filter.mp member).2 ⟨key, tenant⟩
  · intro unused
    cases value with
    | none =>
      exact ⟨put, fun key stored => (nomatch stored), fun here is => (nomatch is),
        fun none_ => ⟨unwritten none_, left⟩⟩
    | some here =>
      by_cases null : here = .null
      · subst null
        refine ⟨put, fun key stored => (nomatch stored), fun here is other _ alike differs => ?_,
          fun none_ => ⟨unwritten none_, left.trans ?_⟩⟩
        · obtain rfl := Option.some.inj is
          cases other <;> first | exact absurd rfl differs | cases alike
        · exact Multiset.filter_eq_self.mpr (unused rfl)
      · have text := mapper.keyText_eq null
        refine ⟨put, fun key stored row member => ?_, fun is same other inUse' alike differs key
          stored => ?_, fun none_ => ?_⟩
        · rw [left] at member
          obtain rfl := Option.some.inj (text.symm.trans stored)
          exact (Multiset.mem_filter.mp member).2
        · obtain rfl := Option.some.inj same
          have some_ : other ≠ .null := fun is => by
            subst is
            cases stored
          rw [mapper.keyText_eq some_] at stored
          obtain rfl := Option.some.inj stored
          rw [left, Multiset.filter_filter]
          refine Multiset.filter_congr fun row _ => and_iff_left_of_imp fun under both => ?_
          have texts := Option.some.inj (under.symm.trans both.1)
          exact differs (DebeziumMapper.keyText_injOn faithful (inUse _ rfl) inUse' alike texts)
        · exact absurd (text.symm.trans none_) (by simp)

/-- Orders keyed by their id; `rendered` is the compact rendering of the values below. -/
def orders : DebeziumMapper where
  system := "erp"
  entity := "orders"
  columns := ["id"]
  key := "id"
  display := rendered
where
  rendered : Json → String
    | .null => "null"
    | .number (.posInt n) => toString n.toNat
    | _ => ""

def creates (key : Json) : DebeziumEnvelope :=
  .mk (some "c") (some (.object [("id", key)])) none none

def removes (key : Json) : DebeziumEnvelope :=
  .mk (some "d") none (some (.object [("id", key)])) none

/-- A table with one order whose id is the string `"null"`. -/
def holdingNull : Writer :=
  { freshWriter with durable := ⟨Catalog.empty.setRaw orders.table.name
      ⟨["id", "tenant_id"], {orders.table.stamped "acme" [some "null"]}⟩, []⟩ }

/-- An envelope for orders is applied by a writer that refuses nothing. -/
theorem envelope_applied (envelope : DebeziumEnvelope) (writer : Writer) (known : List String)
    (now : String) (never : ∀ i, writer.duck.rejects i = false)
    (ensured : writer.durable.catalog.ensured orders.table.dataset orders.table.columns = some known)
    (takes : orders.table.takes (orders.changes envelope.unwrap).1
      (orders.changes envelope.unwrap).2 known = true)
    (aligned : ∀ row ∈ (orders.changes envelope.unwrap).1, row.length = 1) :
    ∃ count after, (orders.map envelope 0 1).apply now writer = (.ok count, after) := by
  have sound : orders.table.sound = true := by decide
  have commits : orders.table.commits writer (orders.changes envelope.unwrap).1
      (orders.changes envelope.unwrap).2 [(0, 1)] = true := by
    rw [orders.table.commits_of_never writer never, sound, ensured, Option.any_some, takes,
      Bool.and_self]
  obtain ⟨written, known, -, -, ran⟩ :=
    applyCdcBatch_committed orders.table writer commits aligned now
  exact ⟨written, _, ran⟩

theorem delete_addresses_iff_number :
    ∃ second fourth : Writer,
      orders.Addresses "acme" {.number (.posInt 7)} (some (.number (.posInt 7)))
        (freshWriter.durable.catalog.rowsOf orders.table.name)
        (second.durable.catalog.rowsOf orders.table.name)
        (holdingNull.durable.catalog.rowsOf orders.table.name)
        (fourth.durable.catalog.rowsOf orders.table.name) ↔
      (some (Json.number (.posInt 7)) = some .null →
        ∀ row ∈ holdingNull.durable.catalog.rowsOf orders.table.name,
          ¬ (row (foldName orders.key) = some (orders.display .null) ∧
            row.tenant = some "acme")) := by
  obtain ⟨written, second, wrote⟩ := envelope_applied (creates (.number (.posInt 7))) freshWriter
    ["id", "tenant_id"] "t1" (fun _ => rfl) rfl rfl (by decide)
  obtain ⟨erased, fourth, erases⟩ := envelope_applied (removes (.number (.posInt 7))) holdingNull
    ["id", "tenant_id"] "t2" (fun _ => rfl) rfl rfl (by decide)
  have upsert : (creates (.number (.posInt 7))).unwrap.rowChange =
      some (.upsert (.object [("id", .number (.posInt 7))])) := rfl
  have delete : (removes (.number (.posInt 7))).unwrap.rowChange =
      some (.delete (.object [("id", .number (.posInt 7))])) := rfl
  have valued : (Json.object [("id", .number (.posInt 7))]).get orders.key =
      some (.number (.posInt 7)) := rfl
  have tenant : holdingNull.tenant = freshWriter.tenant := rfl
  exact ⟨second, fourth, delete_addresses_iff (Set.injOn_singleton _ _) upsert delete valued valued
    (fun here is => (Option.some.inj is).symm) wrote tenant erases⟩

/-- A row image with a null key is not stored, yet its delete takes the order named `"null"`. -/
theorem null_delete_addresses_order :
    ∃ (written erased : Nat) (second fourth : Writer),
      (orders.map (creates .null) 0 1).apply "t1" freshWriter = (.ok written, second) ∧
      (orders.map (removes .null) 0 1).apply "t2" holdingNull = (.ok erased, fourth) ∧
      holdingNull.tenant = freshWriter.tenant ∧
      ¬ orders.Addresses freshWriter.tenant {.null} (some .null)
        (freshWriter.durable.catalog.rowsOf orders.table.name)
        (second.durable.catalog.rowsOf orders.table.name)
        (holdingNull.durable.catalog.rowsOf orders.table.name)
        (fourth.durable.catalog.rowsOf orders.table.name) := by
  obtain ⟨written, second, wrote⟩ := envelope_applied (creates .null) freshWriter
    ["id", "tenant_id"] "t1" (fun _ => rfl) rfl rfl (by decide)
  obtain ⟨erased, fourth, erases⟩ := envelope_applied (removes .null) holdingNull
    ["id", "tenant_id"] "t2" (fun _ => rfl) rfl rfl (by decide)
  refine ⟨written, erased, second, fourth, wrote, erases, rfl, fun addresses => ?_⟩
  have delete : (removes .null).unwrap.rowChange = some (.delete (.object [("id", .null)])) := rfl
  have left := delete_applied delete erases
  have kept := (addresses.skips rfl).2
  have held : orders.table.stamped "acme" [some "null"] ∈
      holdingNull.durable.catalog.rowsOf orders.table.name := Multiset.mem_singleton_self _
  rw [← kept, left] at held
  exact (Multiset.mem_filter.mp held).2 ⟨rfl, rfl⟩

end ConsumerEngine.Ingestion
