import ConsumerEngine.Ingestion.Debezium
import ConsumerEngine.Storage.KeyedContents

/-! Batches of changes against the same changes one at a time.

A batch applies all its upserts and then all its deletes. That is the order of the
messages for every key but one that is deleted and then written again in one batch.
-/

set_option autoImplicit false

namespace ConsumerEngine.Ingestion

open ConsumerEngine.Core ConsumerEngine.Foundation ConsumerEngine.Storage

/-- The raw table a mapper feeds. -/
def DebeziumMapper.table (mapper : DebeziumMapper) : KeyedTable where
  system := mapper.system
  entity := mapper.entity
  columns := mapper.columns
  key := mapper.key

/-- One batch as the writer applies it at a given time. -/
def SourceBatch.apply (batch : SourceBatch) (now : String) : Session Nat :=
  applyCdcBatch batch.system batch.entity batch.columns batch.key batch.upserts batch.deletes
    batch.offsets now

/-- The batch the Kafka source makes of the messages it took. -/
def batchOf (mapper : DebeziumMapper) (messages : List KafkaMessage) : Option SourceBatch :=
  (messages.foldl (Accumulated.absorb mapper) Accumulated.empty).batch mapper

/-- Batches of messages, each with the time of its application, applied in turn. -/
def applyBatches (mapper : DebeziumMapper) : List (List KafkaMessage × String) → Session Unit
  | [] => pure ()
  | (messages, now) :: rest => do
      match batchOf mapper messages with
      | none => applyBatches mapper rest
      | some batch => do
          let _ ← batch.apply now
          applyBatches mapper rest

/-! ### One message at a time -/

/-- What one message means for the table: the row of its key, or its key gone. -/
def KafkaMessage.change (mapper : DebeziumMapper) (tenant : String) (message : KafkaMessage) :
    Option (Change RawRow Cell) :=
  match message.rowChange with
  | none => none
  | some (.upsert after) => some (.put (mapper.table.stamped tenant (mapper.rowFromJson after)))
  | some (.delete before) => some (.drop ((before.get mapper.key).bind mapper.cellOf))

/-- The row image a change carries. -/
def RowChange.image : RowChange → Json
  | .upsert after => after
  | .delete before => before

/-- A message that reports a change carries a key that is not NULL. -/
def KafkaMessage.isKeyed (mapper : DebeziumMapper) (message : KafkaMessage) : Bool :=
  message.rowChange.all fun change => ((change.image.get mapper.key).bind mapper.cellOf).isSome

section
variable (mapper : DebeziumMapper) (keyed : mapper.columns.contains mapper.key = true)
  (tenant : String)

/-- Messages applied to a set of rows one at a time, in order: a create or update sets
the row of its key, a delete removes it. -/
def oneByOne (messages : List KafkaMessage) (rows : Set RawRow) : Set RawRow :=
  messages.foldl (fun rows message =>
    match message.change mapper tenant with
    | none => rows
    | some change => (mapper.table.keying keyed).step rows change) rows

/-- No key is written for the last time in a batch that also deletes it. -/
def NoRevival (batches : List (List KafkaMessage)) : Prop :=
  (mapper.table.keying keyed).Settled
    (batches.map fun batch => batch.filterMap (KafkaMessage.change mapper tenant))

theorem oneByOne_eq_run (messages : List KafkaMessage) (rows : Set RawRow) :
    oneByOne mapper keyed tenant messages rows =
      (mapper.table.keying keyed).run
        (messages.filterMap (KafkaMessage.change mapper tenant)) rows := by
  induction messages generalizing rows with
  | nil => rfl
  | cons message messages ih =>
    rw [List.filterMap_cons]
    simp only [oneByOne, List.foldl_cons] at ih ⊢
    cases found : message.change mapper tenant with
    | none => exact ih rows
    | some change => exact ih _

/-! ### One batch -/

variable {mapper} {tenant}

theorem DebeziumMapper.keyText_of_cellOf {value : Json} {text : String}
    (rendered : mapper.cellOf value = some text) : mapper.keyText value = text := by
  cases value <;> simp_all [cellOf, keyText]

include keyed in
/-- The key cell of a mapped row is the cell of the object's key. -/
theorem DebeziumMapper.keyCell_rowFromJson (object : Json) :
    keyCell mapper.table.keyIndex (mapper.rowFromJson object) =
      (object.get mapper.key).bind mapper.cellOf := by
  have member : mapper.key ∈ mapper.columns := by simpa using keyed
  have found : mapper.columns[mapper.table.keyIndex]? = some mapper.key :=
    List.getElem?_idxOf member
  rw [keyCell, rowFromJson, List.getElem?_map, found]
  rfl

/-- A message's upserts and deletes are the writes and the removals of its change. -/
private theorem KafkaMessage.change_contributes {message : KafkaMessage}
    (carried : message.isKeyed mapper = true) :
    (message.change mapper tenant).toList.filter Change.isPut =
        mapper.table.puts tenant (message.upserts mapper) ∧
      (message.change mapper tenant).toList.filter Change.isDrop =
        drops (message.deletes mapper) := by
  have contributes := message.contributes mapper
  cases reported : message.rowChange with
  | none =>
    simp only [reported, Prod.mk.injEq] at contributes
    rw [contributes.1, contributes.2]
    simp [change, reported, KeyedTable.puts, drops]
  | some reportedChange =>
    cases reportedChange with
    | upsert after =>
      simp only [reported, Prod.mk.injEq] at contributes
      rw [contributes.1, contributes.2]
      simp [change, reported, KeyedTable.puts, drops, Change.isPut, Change.isDrop]
    | delete before =>
      simp only [reported, Prod.mk.injEq] at contributes
      simp only [isKeyed, reported, Option.all_some, RowChange.image] at carried
      obtain ⟨text, rendered⟩ := Option.isSome_iff_exists.mp carried
      obtain ⟨value, found, shown⟩ := Option.bind_eq_some_iff.mp rendered
      rw [contributes.1, contributes.2]
      simp [change, reported, KeyedTable.puts, drops, Change.isPut, Change.isDrop, found, shown,
        DebeziumMapper.keyText_of_cellOf shown]

/-- A batch's upserts and deletes are the writes and the removals of its messages. -/
theorem grouped_changes {messages : List KafkaMessage}
    (carried : ∀ message ∈ messages, message.isKeyed mapper = true) :
    Keying.grouped (messages.filterMap (KafkaMessage.change mapper tenant)) =
      mapper.table.puts tenant (messages.flatMap (KafkaMessage.upserts mapper)) ++
        drops (messages.flatMap (KafkaMessage.deletes mapper)) := by
  rw [Keying.grouped, List.filterMap_eq_flatMap_toList]
  congr 1
  · rw [List.filter_flatMap, KeyedTable.puts, List.map_flatMap]
    exact List.flatMap_congr fun message member =>
      (KafkaMessage.change_contributes (carried message member)).1
  · rw [List.filter_flatMap, drops, List.map_flatMap]
    exact List.flatMap_congr fun message member =>
      (KafkaMessage.change_contributes (carried message member)).2

include keyed in
theorem upserts_keyed {messages : List KafkaMessage}
    (carried : ∀ message ∈ messages, message.isKeyed mapper = true) :
    ∀ row ∈ messages.flatMap (KafkaMessage.upserts mapper),
      keyCell mapper.table.keyIndex row ≠ none := by
  intro row member
  obtain ⟨message, inMessages, inUpserts⟩ := List.mem_flatMap.mp member
  have here := carried message inMessages
  have contributes := congrArg Prod.fst (message.contributes mapper)
  simp only at contributes
  rw [contributes] at inUpserts
  cases reported : message.rowChange with
  | none => simp [reported] at inUpserts
  | some change =>
    cases change with
    | upsert after =>
      simp only [reported, List.mem_singleton] at inUpserts
      simp only [KafkaMessage.isKeyed, reported, Option.all_some, RowChange.image] at here
      rw [inUpserts, DebeziumMapper.keyCell_rowFromJson keyed]
      exact Option.isSome_iff_ne_none.mp here
    | delete before => simp [reported] at inUpserts

theorem upserts_aligned (messages : List KafkaMessage) :
    ∀ row ∈ messages.flatMap (KafkaMessage.upserts mapper),
      row.length = mapper.table.columns.length := by
  intro row member
  obtain ⟨message, -, inUpserts⟩ := List.mem_flatMap.mp member
  exact KafkaMessage.upserts_aligned inUpserts

theorem fresh_changes (messages : List KafkaMessage) :
    (mapper.table.keying keyed).Fresh (messages.filterMap (KafkaMessage.change mapper tenant)) := by
  intro source member
  obtain ⟨message, -, changed⟩ := List.mem_filterMap.mp member
  unfold KafkaMessage.change at changed
  split at changed
  · cases changed
  · cases changed
    exact fun name absent => rowOf_of_notMem absent _
  · cases changed

/-- An applied batch has committed. -/
theorem SourceBatch.apply_committed (table : KeyedTable) {batch : SourceBatch} {now : String}
    {writer after : Writer} {written : Nat} (named : batch.system = table.system ∧
      batch.entity = table.entity ∧ batch.columns = table.columns ∧ batch.key = table.key)
    (aligned : ∀ row ∈ batch.upserts, row.length = table.columns.length)
    (ran : batch.apply now writer = (.ok written, after)) :
    table.commits writer batch.upserts batch.deletes batch.offsets = true ∧
      ∃ known, writer.durable.catalog.ensured table.dataset table.columns = some known ∧
        table.takes batch.upserts batch.deletes known = true ∧
        after = table.afterCdc writer batch.upserts batch.deletes batch.offsets now known := by
  rw [SourceBatch.apply, named.1, named.2.1, named.2.2.1, named.2.2.2] at ran
  cases commits : table.commits writer batch.upserts batch.deletes batch.offsets with
  | false =>
    obtain ⟨failure, issued, rollbackTo, failed, -⟩ :=
      applyCdcBatch_rolledBack table writer commits aligned now
    rw [failed] at ran
    cases ran
  | true =>
    obtain ⟨count, known, ensured, takes, committed⟩ :=
      applyCdcBatch_committed table writer commits aligned now
    rw [committed] at ran
    cases ran
    exact ⟨rfl, known, ensured, takes, rfl⟩

/-- A batch that failed has left nothing. -/
theorem SourceBatch.apply_refused (table : KeyedTable) {batch : SourceBatch} {now : String}
    {writer after : Writer} {failure : Error} (named : batch.system = table.system ∧
      batch.entity = table.entity ∧ batch.columns = table.columns ∧ batch.key = table.key)
    (aligned : ∀ row ∈ batch.upserts, row.length = table.columns.length)
    (ran : batch.apply now writer = (.error failure, after)) :
    after.durable = writer.durable ∧ (writer.rollbackTo = none → after.rollbackTo = none) := by
  rw [SourceBatch.apply, named.1, named.2.1, named.2.2.1, named.2.2.2] at ran
  cases commits : table.commits writer batch.upserts batch.deletes batch.offsets with
  | false =>
    obtain ⟨reason, issued, rollbackTo, failed, closed⟩ :=
      applyCdcBatch_rolledBack table writer commits aligned now
    rw [failed] at ran
    cases ran
    exact ⟨rfl, fun idle => closed.elim (fun same => same.trans idle) id⟩
  | true =>
    obtain ⟨count, known, ensured, takes, committed⟩ :=
      applyCdcBatch_committed table writer commits aligned now
    rw [committed] at ran
    cases ran

/-- A batch whose BEGIN is refused sends nothing more. -/
theorem SourceBatch.apply_unbegun (table : KeyedTable) {batch : SourceBatch} {writer : Writer}
    (named : batch.system = table.system ∧ batch.entity = table.entity ∧
      batch.columns = table.columns ∧ batch.key = table.key) (sound : table.sound = true)
    (rejected : writer.duck.rejects writer.issued = true) (now : String) :
    batch.apply now writer = (.error (.storage "statement failed"), writer.sent) := by
  have shape : batch.apply now = table.checked fun dataset =>
      transaction (table.cdcBody batch.upserts batch.deletes batch.offsets now dataset) := by
    rw [SourceBatch.apply, named.1, named.2.1, named.2.2.1, named.2.2.2]
    rfl
  rw [shape, KeyedTable.checked_of_sound sound]
  exact transaction_unbegun rejected _

/-- The last offset of each partition among some messages. -/
def positions (messages : List KafkaMessage) : SortedMap Int Int :=
  messages.foldl (fun offsets message => offsets.insert message.partition message.offset)
    SortedMap.empty

/-- What the source makes a batch of. -/
theorem batchOf_eq (messages : List KafkaMessage) :
    batchOf mapper messages =
      let upserts := messages.flatMap (KafkaMessage.upserts mapper)
      let deletes := messages.flatMap (KafkaMessage.deletes mapper)
      if upserts.isEmpty && deletes.isEmpty && (positions messages).entries.isEmpty then none
      else some ⟨mapper.system, mapper.entity, mapper.columns, mapper.key, upserts, deletes,
        (positions messages).entries⟩ := by
  obtain ⟨upserts, deletes, offsets⟩ := Accumulated.foldl_absorb mapper Accumulated.empty messages
  rw [batchOf, Accumulated.batch, upserts, deletes, offsets]
  rfl

/-- One applied batch runs its grouped changes on the table. -/
theorem SourceBatch.apply_contents {messages : List KafkaMessage} {batch : SourceBatch}
    {now : String} {writer after : Writer} {written : Nat}
    (made : batchOf mapper messages = some batch)
    (carried : ∀ message ∈ messages, message.isKeyed mapper = true)
    (ran : batch.apply now writer = (.ok written, after))
    (single : others writer.tenant (writer.durable.catalog.rowsOf mapper.table.name) = 0) :
    contents (after.durable.catalog.rowsOf mapper.table.name) =
        (mapper.table.keying keyed).run
          (Keying.grouped (messages.filterMap (KafkaMessage.change mapper writer.tenant)))
          (contents (writer.durable.catalog.rowsOf mapper.table.name)) ∧
      others writer.tenant (after.durable.catalog.rowsOf mapper.table.name) = 0 ∧
      after.tenant = writer.tenant := by
  rw [batchOf_eq] at made
  simp only at made
  split at made
  · cases made
  · cases made
    obtain ⟨-, known, -, takes, rfl⟩ :=
      SourceBatch.apply_committed mapper.table ⟨rfl, rfl, rfl, rfl⟩ (upserts_aligned messages) ran
    obtain ⟨fits, -⟩ := KeyedTable.takes_iff.mp takes
    rw [KeyedTable.afterCdc_catalog, KeyedTable.afterCdc_tenant,
      (KeyedTable.cdcCatalog_rewrites ..).target, grouped_changes carried]
    exact ⟨KeyedTable.contents_cdcRows keyed fits (upserts_aligned messages)
        (upserts_keyed keyed carried) single,
      (KeyedTable.others_cdcRows keyed _ fits (upserts_aligned messages) single).2, rfl⟩

/-- Applied batches run their changes batch by batch, each batch grouped. -/
theorem applyBatches_contents (batches : List (List KafkaMessage × String))
    {writer after : Writer} (carried : ∀ batch ∈ batches, ∀ message ∈ batch.1, message.isKeyed mapper = true)
    (applied : applyBatches mapper batches writer = (.ok (), after))
    (single : others writer.tenant (writer.durable.catalog.rowsOf mapper.table.name) = 0) :
    contents (after.durable.catalog.rowsOf mapper.table.name) =
      (mapper.table.keying keyed).runGrouped
        (batches.map fun batch => batch.1.filterMap (KafkaMessage.change mapper writer.tenant))
        (contents (writer.durable.catalog.rowsOf mapper.table.name)) := by
  induction batches generalizing writer with
  | nil =>
    cases applied
    rfl
  | cons batch batches ih =>
    obtain ⟨messages, now⟩ := batch
    have carriedRest := fun batch member => carried batch (List.mem_cons_of_mem _ member)
    have carriedHere := carried (messages, now) (by simp)
    rw [applyBatches] at applied
    cases made : batchOf mapper messages with
    | none =>
      simp only [made] at applied
      have nothing : Keying.grouped (messages.filterMap
          (KafkaMessage.change mapper writer.tenant)) = [] := by
        rw [batchOf_eq] at made
        simp only [ite_eq_left_iff, reduceCtorEq, imp_false, not_not, Bool.and_eq_true,
          List.isEmpty_iff] at made
        rw [grouped_changes carriedHere, made.1.1, made.1.2]
        rfl
      rw [ih carriedRest applied single, List.map_cons]
      simp only [Keying.runGrouped, List.foldl_cons, nothing]
      rfl
    | some batch =>
      simp only [made] at applied
      obtain ⟨written, reached, ran, rest⟩ := Effect.bind_eq_ok.mp applied
      obtain ⟨step, still, tenant⟩ :=
        SourceBatch.apply_contents keyed made carriedHere ran single
      rw [← tenant] at still
      rw [ih carriedRest rest still, List.map_cons, tenant, step]
      rfl

end

/-- A batch is applied when the table takes the mapped rows and no statement from now on
is refused. -/
theorem SourceBatch.apply_succeeds {mapper : DebeziumMapper} {messages : List KafkaMessage}
    {batch : SourceBatch} (made : batchOf mapper messages = some batch) {writer : Writer}
    (sound : mapper.table.sound = true)
    (usable : mapper.table.usable writer.durable.catalog = true)
    (clear : ∀ i, writer.duck.rejects (writer.issued + i) = false) (now : String) :
    ∃ written known, writer.durable.catalog.ensured mapper.table.dataset mapper.table.columns =
        some known ∧ mapper.table.fits known = true ∧
      batch.apply now writer = (.ok written, mapper.table.afterCdc writer batch.upserts
        batch.deletes batch.offsets now known) := by
  obtain ⟨known, ensured, fits⟩ := (Option.any_eq_true _ _).mp usable
  rw [batchOf_eq] at made
  simp only [Option.ite_none_left_eq_some, Option.some.injEq] at made
  obtain ⟨-, rfl⟩ := made
  have takes : mapper.table.takes (messages.flatMap (KafkaMessage.upserts mapper))
      (messages.flatMap (KafkaMessage.deletes mapper)) known = true :=
    KeyedTable.takes_iff.mpr ⟨fun _ => fits, fun _ => KeyedTable.fits_key fits⟩
  have commits : mapper.table.commits writer (messages.flatMap (KafkaMessage.upserts mapper))
      (messages.flatMap (KafkaMessage.deletes mapper)) (positions messages).entries = true := by
    simp only [KeyedTable.commits, sound, ensured, Option.any_some, takes, Bool.true_and,
      decide_eq_true_eq]
    exact fun i _ => clear i
  obtain ⟨written, known', ensured', -, committed⟩ :=
    applyCdcBatch_committed mapper.table writer commits (upserts_aligned messages) now
  rw [ensured] at ensured'
  cases ensured'
  exact ⟨written, known, ensured, fits, committed⟩

/-- Against a database that refuses nothing and a table that takes the mapped rows,
every batch is applied. -/
theorem applyBatches_succeeds {mapper : DebeziumMapper} (batches : List (List KafkaMessage × String))
    (writer : Writer) (sound : mapper.table.sound = true)
    (usable : mapper.table.usable writer.durable.catalog = true)
    (never : ∀ i, writer.duck.rejects i = false) :
    ∃ after, applyBatches mapper batches writer = (.ok (), after) := by
  induction batches generalizing writer with
  | nil => exact ⟨writer, rfl⟩
  | cons batch batches ih =>
    obtain ⟨messages, now⟩ := batch
    rw [applyBatches]
    cases made : batchOf mapper messages with
    | none => exact ih writer usable never
    | some batch =>
      obtain ⟨written, known, ensured, fits, committed⟩ :=
        SourceBatch.apply_succeeds made sound usable (fun _ => never _) now
      have again : mapper.table.usable (mapper.table.afterCdc writer batch.upserts batch.deletes
          batch.offsets now known).durable.catalog = true := by
        rw [KeyedTable.usable, KeyedTable.afterCdc_catalog, Catalog.ensured_of_columnsOf
          (KeyedTable.columnsOf_cdcCatalog ..) (Catalog.ensured_tenant ensured), Option.any_some,
          fits]
      obtain ⟨after, rest⟩ := ih _ again never
      exact ⟨after, (Effect.bind_of_ok committed).trans rest⟩

/-- Batches of changes of one tenant leave the table as the same changes one at a time
would, exactly when no key is written for the last time in a batch that also deletes it. -/
theorem applyBatches_refines_iff (mapper : DebeziumMapper)
    (keyed : mapper.columns.contains mapper.key = true)
    (batches : List (List KafkaMessage × String)) (writer after : Writer)
    (carried : ∀ batch ∈ batches, ∀ message ∈ batch.1, message.isKeyed mapper = true)
    (single : ∀ row ∈ writer.durable.catalog.rowsOf mapper.table.name,
      row.tenant = some writer.tenant)
    (applied : applyBatches mapper batches writer = (.ok (), after)) :
    contents (after.durable.catalog.rowsOf mapper.table.name) =
        oneByOne mapper keyed writer.tenant (batches.flatMap Prod.fst)
          (contents (writer.durable.catalog.rowsOf mapper.table.name)) ↔
      NoRevival mapper keyed writer.tenant (batches.map Prod.fst) := by
  have alone : others writer.tenant (writer.durable.catalog.rowsOf mapper.table.name) = 0 :=
    Multiset.filter_eq_nil.mpr fun row member => not_not_intro (single row member)
  have inOrder : (batches.flatMap Prod.fst).filterMap (KafkaMessage.change mapper writer.tenant) =
      (batches.map fun batch =>
        batch.1.filterMap (KafkaMessage.change mapper writer.tenant)).flatten := by
    rw [List.filterMap_flatMap, List.flatMap_def]
  have fresh : ∀ changes ∈ batches.map fun batch =>
      batch.1.filterMap (KafkaMessage.change mapper writer.tenant),
      (mapper.table.keying keyed).Fresh changes := by
    intro changes member
    obtain ⟨batch, -, rfl⟩ := List.mem_map.mp member
    exact fresh_changes keyed batch.1
  rw [applyBatches_contents keyed batches carried applied alone, oneByOne_eq_run, inOrder,
    (mapper.table.keying keyed).runGrouped_eq_run_iff fresh, NoRevival, List.map_map]
  rfl

/-! ### A key deleted and written again -/

/-- A source of orders keyed by user. -/
def ordersMapper : DebeziumMapper where
  system := "erp"
  entity := "orders"
  columns := ["user_id", "sku"]
  key := "user_id"
  display := fun _ => "null"

def createOf (offset : Int) (user sku : String) : KafkaMessage :=
  ⟨0, offset, .envelope (.mk (some "c")
    (some (.object [("user_id", .string user), ("sku", .string sku)])) none none)⟩

def deleteOf (offset : Int) (user : String) : KafkaMessage :=
  ⟨0, offset, .envelope (.mk (some "d") none (some (.object [("user_id", .string user)])) none)⟩

/-- An order arrives; the next batch deletes it and creates it again. -/
def recreation : List (List KafkaMessage × String) :=
  [([createOf 0 "u1" "A"], "t0"), ([deleteOf 1 "u1", createOf 2 "u1" "B"], "t1")]

/-- Its batches are applied. -/
private theorem orders_applied (batches : List (List KafkaMessage × String)) :
    ∃ after, applyBatches ordersMapper batches freshWriter = (.ok (), after) :=
  applyBatches_succeeds batches freshWriter (by decide) (by decide) fun _ => rfl

theorem applyBatches_refines_iff_updates :
    ∃ after, applyBatches ordersMapper
          [([createOf 0 "u1" "A"], "t0"), ([createOf 1 "u1" "B"], "t1")] freshWriter =
        (.ok (), after) ∧
      (contents (after.durable.catalog.rowsOf ordersMapper.table.name) =
          oneByOne ordersMapper (by decide) "acme" [createOf 0 "u1" "A", createOf 1 "u1" "B"]
            (contents (freshWriter.durable.catalog.rowsOf ordersMapper.table.name)) ↔
        NoRevival ordersMapper (by decide) "acme" [[createOf 0 "u1" "A"], [createOf 1 "u1" "B"]]) := by
  obtain ⟨after, applied⟩ := orders_applied
    [([createOf 0 "u1" "A"], "t0"), ([createOf 1 "u1" "B"], "t1")]
  have single : ∀ row ∈ freshWriter.durable.catalog.rowsOf ordersMapper.table.name,
      row.tenant = some freshWriter.tenant := fun row member =>
    absurd member (Multiset.notMem_zero row)
  have carried : ∀ batch ∈ [([createOf 0 "u1" "A"], "t0"), ([createOf 1 "u1" "B"], "t1")],
      ∀ message ∈ batch.1, message.isKeyed ordersMapper = true := by
    intro batch member message inBatch
    simp only [List.mem_cons, List.not_mem_nil, or_false] at member
    rcases member with rfl | rfl <;>
    · rw [List.mem_singleton.mp inBatch]
      decide
  exact ⟨after, applied,
    applyBatches_refines_iff ordersMapper (by decide) _ freshWriter after carried single applied⟩

/-- The order created again is gone from the table. -/
theorem recreated_row_lost :
    ∃ after, applyBatches ordersMapper recreation freshWriter = (.ok (), after) ∧
      contents (after.durable.catalog.rowsOf ordersMapper.table.name) ≠
        oneByOne ordersMapper (by decide) "acme" (recreation.flatMap Prod.fst)
          (contents (freshWriter.durable.catalog.rowsOf ordersMapper.table.name)) := by
  obtain ⟨after, applied⟩ := orders_applied recreation
  have carried : ∀ batch ∈ recreation, ∀ message ∈ batch.1, message.isKeyed ordersMapper = true := by
    intro batch member message inBatch
    simp only [recreation, List.mem_cons, List.not_mem_nil, or_false] at member
    rcases member with rfl | rfl <;> simp only [List.mem_cons, List.not_mem_nil, or_false] at inBatch
    · rw [inBatch]
      decide
    · rcases inBatch with rfl | rfl <;> decide
  refine ⟨after, applied, ?_⟩
  have keyed : ordersMapper.columns.contains ordersMapper.key = true := by decide
  have ran := applyBatches_contents keyed recreation carried applied rfl
  rw [ran, oneByOne_eq_run]
  intro same
  have settled := (Keying.runGrouped_eq_run_iff (ordersMapper.table.keying keyed)
    (fun changes member => by
      obtain ⟨batch, -, rfl⟩ := List.mem_map.mp member
      exact fresh_changes keyed batch.1) _).mp same
  have revived : (ordersMapper.table.keying keyed).revives
      ([deleteOf 1 "u1", createOf 2 "u1" "B"].filterMap (KafkaMessage.change ordersMapper "acme"))
      (some "u1") = true := by rfl
  have calm : (ordersMapper.table.keying keyed).revives
      ([deleteOf 1 "u1", createOf 2 "u1" "B"].filterMap (KafkaMessage.change ordersMapper "acme"))
      (some "u1") = false := settled (some "u1") _ rfl
  rw [revived] at calm
  cases calm

end ConsumerEngine.Ingestion
