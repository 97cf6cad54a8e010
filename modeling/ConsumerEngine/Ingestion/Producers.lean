import Mathlib.Data.Multiset.Basic
import Mathlib.Data.Multiset.Dedup
import Mathlib.Data.Multiset.Sort
import ConsumerEngine.Storage.Features
import ConsumerEngine.Storage.TenantFraming

/-! Feature producers: a read of a raw table, a score for each user, a stamped write.

The read of the cadence producer has no tenant in it. Its scores are computed from the
events of all tenants and stored under the tenant that asked, so a run is free of the
other tenants' rows only where it stores nothing whatever they are.
-/

set_option autoImplicit false

namespace ConsumerEngine.Ingestion

open ConsumerEngine.Core ConsumerEngine.Foundation ConsumerEngine.Storage

/-! ### The cadence producer -/

/-- chrono's parsers and the `f64` operations the score is made of. -/
structure Numerics where
  parseRfc3339 : String → Option Int
  parseDateTime : String → Option Int
  parseDate : String → Option Int
  ofInt : Int → F64
  add : F64 → F64 → F64
  sub : F64 → F64 → F64
  mul : F64 → F64 → F64
  div : F64 → F64 → F64
  sqrt : F64 → F64

namespace Numerics

variable (numerics : Numerics)

/-- `parse_epoch`. -/
def parseEpoch (ts : String) : Option Int :=
  numerics.parseRfc3339 ts <|> numerics.parseDateTime ts <|> numerics.parseDate ts

/-- `regularity` of sorted event times. -/
def regularity (times : List Int) : F64 :=
  if times.length < 2 then 0
  else
    let intervals := (times.zip times.tail).map fun pair => numerics.ofInt (pair.2 - pair.1)
    let n := numerics.ofInt intervals.length
    let mean := numerics.div (intervals.foldl numerics.add 0) n
    if mean = 0 then 0
    else
      let squares := intervals.map fun x => numerics.mul (numerics.sub x mean) (numerics.sub x mean)
      let variance := numerics.div (squares.foldl numerics.add 0) n
      let cv := numerics.div (numerics.sqrt variance) mean
      max (numerics.sub 1 cv) 0

end Numerics

/-- `LIMIT` without an order: how many rows are returned is said, not which. -/
structure RowLimit where
  take : Nat → Multiset RawRow → Multiset RawRow
  take_le : ∀ limit rows, take limit rows ≤ rows
  card_take : ∀ limit rows, (take limit rows).card = min limit rows.card

theorem RowLimit.take_eq_self (rowLimit : RowLimit) {limit : Nat} {rows : Multiset RawRow}
    (few : rows.card ≤ limit) : rowLimit.take limit rows = rows :=
  Multiset.eq_of_le_of_card_le (rowLimit.take_le limit rows)
    (by rw [rowLimit.card_take, min_eq_right few])

/-- `SCAN_ROW_CAP`. -/
def scanRowCap : Nat := 1000000

/-- `FEATURE_NAME`. -/
def cadenceFeatureName : String := "cadence.regularity"

structure CadenceRegularityProducer where
  orders : Dataset
  producerId : String

/-- The row passes `WHERE ts <= ?`; a NULL `ts` does not. -/
def notAfter (asOf : String) (row : RawRow) : Bool :=
  match row "ts" with
  | some ts => decide (ts ≤ asOf)
  | none => false

/-- The columns the scan names are there. -/
def scannable (columns : List String) : Bool :=
  columns.contains "user_id" && columns.contains "ts"

namespace CadenceRegularityProducer

variable (numerics : Numerics) (rowLimit : RowLimit) (producer : CadenceRegularityProducer)

/-- The rows of `SELECT user_id, ts FROM … WHERE ts <= ? LIMIT …`. -/
def scan (catalog : Catalog) (asOf : String) : Except Error (Multiset RawRow) :=
  match catalog.raw (rawName producer.orders) with
  | none => .error (.execution "table does not exist")
  | some table =>
      if scannable table.columns then
        .ok (rowLimit.take (scanRowCap + 1) (table.rows.filter fun row => notAfter asOf row))
      else .error (.execution "column does not exist")

/-- A user and the time of one event; a row without either is skipped. -/
def event (row : RawRow) : Option (String × Int) := do
  let user ← row "user_id"
  let ts ← row "ts"
  let epoch ← numerics.parseEpoch ts
  return (user, epoch)

/-- The feature rows, one for each user. The order of the hash map is not modelled: users
are visited in the order of their names. -/
def scores (asOf : String) (events : Multiset (String × Int)) : List FeatureRow :=
  (events.map Prod.fst).dedup.sort.map fun user =>
    ⟨user, cadenceFeatureName,
      numerics.regularity ((events.filter fun event => event.1 = user).map Prod.snd).sort,
      asOf, producer.producerId⟩

def tooManyRows (asOf : String) : Error :=
  .invalidInput (producer.orders.system ++ "." ++ producer.orders.entity ++ " has >" ++
    toString scanRowCap ++ " matching rows at as_of " ++ asOf ++
    "; raise the producer scan cap or narrow as_of")

/-- `FeatureProducer::run`. -/
def run (catalog : Catalog) (asOf : String) : Except Error (List FeatureRow) := do
  validateIdent producer.orders.system
  validateIdent producer.orders.entity
  let rows ← producer.scan rowLimit catalog asOf
  if scanRowCap < rows.card then throw (producer.tooManyRows asOf)
  return producer.scores numerics asOf (rows.filterMap (event numerics))

end CadenceRegularityProducer

/-! ### The registry -/

/-- `ProducerRegistry`: producers under their own id. -/
structure ProducerRegistry where
  producers : SortedMap String CadenceRegularityProducer
  registered : ∀ entry ∈ producers.entries,
    entry.2.producerId = entry.1 ∧ isFeatureName entry.1 = true

namespace ProducerRegistry

def empty : ProducerRegistry where
  producers := SortedMap.empty
  registered := fun _ member => absurd member List.not_mem_nil

def get (registry : ProducerRegistry) (id : String) : Option CadenceRegularityProducer :=
  registry.producers.get id

theorem get_registered {registry : ProducerRegistry} {id : String}
    {producer : CadenceRegularityProducer} (found : registry.get id = some producer) :
    isFeatureName producer.producerId = true := by
  obtain ⟨own, valid⟩ := registry.registered _ (SortedMap.get_eq_some.mp found)
  rw [own]
  exact valid

/-- `ProducerRegistry::register`. -/
def register (registry : ProducerRegistry) (producer : CadenceRegularityProducer) :
    Except Error ProducerRegistry :=
  match named : labelled "producer id: " (validateFeatureName producer.producerId) with
  | .error failure => .error failure
  | .ok () =>
      if (registry.get producer.producerId).isSome then
        .error (.invalidInput
          ("producer " ++ debugQuoted producer.producerId ++ " is already registered"))
      else
        .ok { producers := registry.producers.insert producer.producerId producer
              registered := by
                intro entry member
                rcases SortedMap.mem_insert.mp member with same | before
                · subst same
                  exact ⟨rfl, validateFeatureName_eq_ok.mp (labelled_eq_ok.mp named)⟩
                · exact registry.registered entry before.2 }

end ProducerRegistry

namespace CadenceRegularityProducer

variable {numerics : Numerics} {rowLimit : RowLimit} {producer : CadenceRegularityProducer}
  {asOf : String}

/-- The dataset is named well and its table has the columns the scan names. -/
def sound (producer : CadenceRegularityProducer) (catalog : Catalog) : Bool :=
  isIdent producer.orders.system && isIdent producer.orders.entity &&
    (catalog.columnsOf (rawName producer.orders)).any scannable

/-- The rows of the producer's table the scan is for. -/
def matchingRows (producer : CadenceRegularityProducer) (catalog : Catalog) (asOf : String) :
    Multiset RawRow :=
  (catalog.rowsOf (rawName producer.orders)).filter fun row => notAfter asOf row

theorem scan_sound {catalog : Catalog} (sound : producer.sound catalog = true) :
    producer.scan rowLimit catalog asOf =
      .ok (rowLimit.take (scanRowCap + 1) (producer.matchingRows catalog asOf)) := by
  simp only [CadenceRegularityProducer.sound, Bool.and_eq_true, Catalog.columnsOf] at sound
  obtain ⟨-, scans⟩ := sound
  unfold scan matchingRows Catalog.rowsOf
  cases found : catalog.raw (rawName producer.orders) with
  | none => simp [found] at scans
  | some table =>
    simp only [found, Option.map_some, Option.any_some] at scans
    simp only [if_pos scans]

theorem named_sound {catalog : Catalog} (sound : producer.sound catalog = true) :
    validateIdent producer.orders.system = .ok () ∧
      validateIdent producer.orders.entity = .ok () := by
  simp only [CadenceRegularityProducer.sound, Bool.and_eq_true] at sound
  exact ⟨validateIdent_eq_ok.mpr sound.1.1, validateIdent_eq_ok.mpr sound.1.2⟩

/-- A scan below the cap is scored whole. -/
theorem run_few {catalog : Catalog} (sound : producer.sound catalog = true)
    (few : (producer.matchingRows catalog asOf).card ≤ scanRowCap) :
    producer.run numerics rowLimit catalog asOf =
      .ok (scores numerics producer asOf
        ((producer.matchingRows catalog asOf).filterMap (event numerics))) := by
  obtain ⟨system, entity⟩ := named_sound sound
  have whole : rowLimit.take (scanRowCap + 1) (producer.matchingRows catalog asOf) =
      producer.matchingRows catalog asOf := rowLimit.take_eq_self (by omega)
  simp only [run, system, entity, scan_sound sound, whole, bind, Except.bind]
  rw [if_neg (by omega)]
  rfl

/-- A longer one is refused, whichever rows the limit lets through. -/
theorem run_many {catalog : Catalog} (sound : producer.sound catalog = true)
    (many : scanRowCap < (producer.matchingRows catalog asOf).card) :
    producer.run numerics rowLimit catalog asOf = .error (producer.tooManyRows asOf) := by
  obtain ⟨system, entity⟩ := named_sound sound
  have longer : scanRowCap <
      (rowLimit.take (scanRowCap + 1) (producer.matchingRows catalog asOf)).card := by
    rw [rowLimit.card_take]
    omega
  simp only [run, system, entity, scan_sound sound, bind, Except.bind]
  rw [if_pos longer]
  rfl

theorem run_unsound {catalog : Catalog} (unsound : producer.sound catalog = false) :
    ∃ failure, producer.run numerics rowLimit catalog asOf = .error failure := by
  unfold run
  cases system : validateIdent producer.orders.system with
  | error failure => exact ⟨failure, rfl⟩
  | ok =>
    cases entity : validateIdent producer.orders.entity with
    | error failure => exact ⟨failure, rfl⟩
    | ok =>
      have unscannable : (catalog.columnsOf (rawName producer.orders)).any scannable = false := by
        simpa [CadenceRegularityProducer.sound, validateIdent_eq_ok.mp system,
          validateIdent_eq_ok.mp entity] using unsound
      unfold scan
      unfold Catalog.columnsOf at unscannable
      cases found : catalog.raw (rawName producer.orders) with
      | none => exact ⟨_, rfl⟩
      | some table =>
        simp only [found, Option.map_some, Option.any_some] at unscannable
        simp only [unscannable, Bool.false_eq_true, if_false, bind, Except.bind]
        exact ⟨_, rfl⟩

theorem scores_eq_nil {events : Multiset (String × Int)} :
    scores numerics producer asOf events = [] ↔ events = 0 := by
  rw [scores, List.map_eq_nil_iff, ← List.length_eq_zero_iff, Multiset.length_sort,
    Multiset.card_eq_zero, Multiset.dedup_eq_zero, Multiset.map_eq_zero]

/-- The scores of a run are a batch of one feature. -/
def batch (producer : CadenceRegularityProducer) (numerics : Numerics)
    (valid : isFeatureName producer.producerId = true) (asOf : String)
    (events : Multiset (String × Int)) : FeatureBatch where
  family := "cadence"
  short := "regularity"
  name := cadenceFeatureName
  asOf := asOf
  rows := scores numerics producer asOf events
  split := by decide
  valid := by decide
  named := fun row member => by
    obtain ⟨user, -, rfl⟩ := List.mem_map.mp member
    rfl
  produced := fun row member => by
    obtain ⟨user, -, rfl⟩ := List.mem_map.mp member
    exact valid
  dated := fun row member => by
    obtain ⟨user, -, rfl⟩ := List.mem_map.mp member
    rfl

end CadenceRegularityProducer

/-! ### A run -/

section
variable (registry : ProducerRegistry) (numerics : Numerics) (rowLimit : RowLimit)
  (id asOf tenant : String)

/-- `IngestionHandle::run_producer`: the read on the caller's task sees the committed
catalogue; the rows are then written for the tenant. -/
def runProducer : Session Nat :=
  match registry.get id with
  | none => Effect.throw (.invalidInput ("unknown producer " ++ debugQuoted id))
  | some producer => do
      let writer ← Effect.get
      let rows ← Effect.lift (producer.run numerics rowLimit writer.committed.catalog asOf)
      Effect.modify fun writer => writer.setTenant tenant
      writeFeaturesAndRefresh rows

/-- The feature rows the tenant has after a run; none if the run failed. -/
def featuresAfter (writer : Writer) : Option (Multiset StoredFeature) :=
  match runProducer registry numerics rowLimit id asOf tenant writer with
  | (.ok _, after) => some (((FeatureBatch.stored after.durable.catalog : List StoredFeature) :
      Multiset StoredFeature).filter fun row => row.tenantId = some tenant)
  | (.error _, _) => none

/-- The writer with other rows in one raw table. -/
def withRows (writer : Writer) (name : String)
    (rows : Multiset RawRow) : Writer :=
  { writer with durable :=
      { writer.durable with catalog := writer.durable.catalog.mapRows name fun _ => rows } }

/-- The run has the same outcome whatever rows other tenants have instead. -/
def Confined (writer : Writer) : Prop :=
  ∀ name rows, own tenant rows = own tenant (writer.durable.catalog.rowsOf name) →
    featuresAfter registry numerics rowLimit id asOf tenant (withRows writer name rows) =
      featuresAfter registry numerics rowLimit id asOf tenant writer

end

/-- A writer between two commands, over a database that refuses no statement. -/
structure Ready (writer : Writer) : Prop where
  idle : writer.rollbackTo = none
  never : ∀ i, writer.duck.rejects i = false

section
variable {registry : ProducerRegistry} {numerics : Numerics} {rowLimit : RowLimit}
  {id asOf tenant : String} {writer : Writer} {producer : CadenceRegularityProducer}

theorem featuresAfter_unknown (unknown : registry.get id = none) :
    featuresAfter registry numerics rowLimit id asOf tenant writer = none := by
  simp only [featuresAfter, runProducer, unknown, Effect.throw_apply]

theorem Ready.withRows (ready : Ready writer) (name : String) (rows : Multiset RawRow) :
    Ready (withRows writer name rows) := ⟨ready.idle, ready.never⟩

section
variable (ready : Ready writer) (found : registry.get id = some producer)

include ready found

/-- What a known producer's run comes to: its rows, written for the tenant. -/
theorem runProducer_known :
    runProducer registry numerics rowLimit id asOf tenant writer =
      (Effect.lift (producer.run numerics rowLimit writer.durable.catalog asOf) >>= fun rows =>
        Effect.modify (fun writer => writer.setTenant tenant) >>= fun _ =>
          writeFeaturesAndRefresh rows) writer := by
  have view : writer.committed = writer.durable := by rw [Writer.committed, ready.idle]; rfl
  simp only [runProducer, found]
  rw [Effect.bind_of_ok (Effect.get_apply writer), view]

theorem featuresAfter_error {failure : Error}
    (refused : producer.run numerics rowLimit writer.durable.catalog asOf = .error failure) :
    featuresAfter registry numerics rowLimit id asOf tenant writer = none := by
  simp only [featuresAfter, runProducer_known ready found, Effect.bind_apply, Effect.lift_apply,
    refused]

theorem featuresAfter_ok {rows : List FeatureRow}
    (ran : producer.run numerics rowLimit writer.durable.catalog asOf = .ok rows) :
    featuresAfter registry numerics rowLimit id asOf tenant writer =
      match writeFeaturesAndRefresh rows (writer.setTenant tenant) with
      | (.ok _, after) => some (((FeatureBatch.stored after.durable.catalog : List StoredFeature) :
          Multiset StoredFeature).filter fun row => row.tenantId = some tenant)
      | (.error _, _) => none := by
  simp only [featuresAfter, runProducer_known ready found, Effect.bind_apply, Effect.lift_apply,
    ran, Effect.modify_apply]

/-- Nothing to write is written. -/
theorem featuresAfter_nothing
    (ran : producer.run numerics rowLimit writer.durable.catalog asOf = .ok []) :
    (featuresAfter registry numerics rowLimit id asOf tenant writer).isSome = true := by
  rw [featuresAfter_ok ready found ran]
  rfl

variable {rows : Multiset RawRow}

/-- The write is bound to fail, if there is anything to write. -/
def Unwritable (duck : DuckDb) (catalog : Catalog) (asOf : String) : Prop :=
  duck.castTimestamptz asOf = none ∨
    ¬ FeatureBatch.Named "cadence" (FeatureBatch.stored catalog)

/-- The scores are stored for the tenant, next to what it had. -/
theorem featuresAfter_stored {events : Multiset (String × Int)} {instant : Int}
    (ran : producer.run numerics rowLimit writer.durable.catalog asOf =
      .ok (CadenceRegularityProducer.scores numerics producer asOf events))
    (casts : writer.duck.castTimestamptz asOf = some instant)
    (named : FeatureBatch.Named "cadence" (FeatureBatch.stored writer.durable.catalog)) :
    featuresAfter registry numerics rowLimit id asOf tenant writer =
      some (((FeatureBatch.stored writer.durable.catalog ++ FeatureBatch.store tenant instant
        (CadenceRegularityProducer.scores numerics producer asOf events) : List StoredFeature) :
          Multiset StoredFeature).filter fun row => row.tenantId = some tenant) := by
  have valid := ProducerRegistry.get_registered found
  by_cases empty : CadenceRegularityProducer.scores numerics producer asOf events = []
  · rw [empty] at ran ⊢
    rw [featuresAfter_ok ready found ran, FeatureBatch.store, List.map_nil, List.append_nil]
    rfl
  · obtain ⟨catalog, ⟨n, after, wrote, -, rfl⟩, left⟩ :=
      @FeatureBatch.writeFeaturesAndRefresh_accepts (producer.batch numerics valid asOf events)
        (writer.setTenant tenant) empty ready.never instant casts named
    rw [featuresAfter_ok ready found ran, show writeFeaturesAndRefresh
      (CadenceRegularityProducer.scores numerics producer asOf events) (writer.setTenant tenant) =
        (.ok n, after) from wrote]
    simp only [FeatureBatch.stored, left, Option.getD_some]
    rfl

theorem featuresAfter_writable {events : Multiset (String × Int)}
    (ran : producer.run numerics rowLimit writer.durable.catalog asOf =
      .ok (CadenceRegularityProducer.scores numerics producer asOf events))
    (writable : events = 0 ∨ ¬ Unwritable writer.duck writer.durable.catalog asOf) :
    (featuresAfter registry numerics rowLimit id asOf tenant writer).isSome = true := by
  rcases writable with none | writable
  · rw [CadenceRegularityProducer.scores_eq_nil.mpr none] at ran
    exact featuresAfter_nothing ready found ran
  · rw [Unwritable, not_or, not_not] at writable
    obtain ⟨instant, casts⟩ := Option.ne_none_iff_exists'.mp writable.1
    rw [featuresAfter_stored ready found ran casts writable.2]
    rfl

theorem featuresAfter_unwritable {events : Multiset (String × Int)} (filled : events ≠ 0)
    (ran : producer.run numerics rowLimit writer.durable.catalog asOf =
      .ok (CadenceRegularityProducer.scores numerics producer asOf events))
    (unwritable : Unwritable writer.duck writer.durable.catalog asOf) :
    featuresAfter registry numerics rowLimit id asOf tenant writer = none := by
  have valid := ProducerRegistry.get_registered found
  obtain ⟨failure, issued, rollbackTo, wrote, -⟩ :=
    @FeatureBatch.writeFeaturesAndRefresh_rollsBack (producer.batch numerics valid asOf events)
      (writer.setTenant tenant) (mt CadenceRegularityProducer.scores_eq_nil.mp filled) ready.never
      unwritable
  rw [featuresAfter_ok ready found ran, show writeFeaturesAndRefresh
    (CadenceRegularityProducer.scores numerics producer asOf events) (writer.setTenant tenant) =
      (.error failure, _) from wrote]

end

/-! ### What the tenant's own rows decide -/

/-- The run fails for a reason to be found in the tenant's own rows: the producer is not
known, its table cannot be scanned, the own rows pass the cap, or they have an event
while the feature rows cannot be written. -/
def BoundToFail (registry : ProducerRegistry) (numerics : Numerics) (id asOf tenant : String)
    (writer : Writer) : Prop :=
  ∀ producer, registry.get id = some producer →
    producer.sound writer.durable.catalog = false ∨
    scanRowCap < (own tenant (producer.matchingRows writer.durable.catalog asOf)).card ∨
    (∃ row ∈ own tenant (producer.matchingRows writer.durable.catalog asOf),
      (CadenceRegularityProducer.event numerics row).isSome = true) ∧
        Unwritable writer.duck writer.durable.catalog asOf

theorem sound_withRows (name : String) (rows : Multiset RawRow) :
    producer.sound (withRows writer name rows).durable.catalog =
      producer.sound writer.durable.catalog := by
  simp only [CadenceRegularityProducer.sound, withRows, Catalog.columnsOf_mapRows]

theorem stored_withRows (name : String) (rows : Multiset RawRow) :
    FeatureBatch.stored (withRows writer name rows).durable.catalog =
      FeatureBatch.stored writer.durable.catalog := by
  unfold FeatureBatch.stored withRows Catalog.mapRows
  cases writer.durable.catalog.raw name <;> rfl

theorem matchingRows_withRows {known : List String}
    (present : writer.durable.catalog.columnsOf (rawName producer.orders) = some known)
    (rows : Multiset RawRow) :
    producer.matchingRows (withRows writer (rawName producer.orders) rows).durable.catalog asOf =
      rows.filter fun row => notAfter asOf row := by
  rw [CadenceRegularityProducer.matchingRows, withRows, Catalog.rowsOf_mapRows_self present]

/-- Another tenant's rows are not among the own rows of the scan. -/
theorem own_matchingRows {name : String} {rows : Multiset RawRow}
    (same : own tenant rows = own tenant (writer.durable.catalog.rowsOf name)) :
    own tenant (producer.matchingRows (withRows writer name rows).durable.catalog asOf) =
      own tenant (producer.matchingRows writer.durable.catalog asOf) := by
  unfold CadenceRegularityProducer.matchingRows
  rw [own_filter, own_filter]
  by_cases table : rawName producer.orders = name
  · subst table
    cases present : writer.durable.catalog.columnsOf (rawName producer.orders) with
    | some known => rw [withRows, Catalog.rowsOf_mapRows_self present, same]
    | none =>
      have missing : writer.durable.catalog.raw (rawName producer.orders) = none := by
        simpa [Catalog.columnsOf] using present
      rw [withRows, Catalog.mapRows, missing]
  · rw [withRows, Catalog.rowsOf_mapRows_of_ne _ table]

theorem boundToFail_withRows {name : String} {rows : Multiset RawRow}
    (same : own tenant rows = own tenant (writer.durable.catalog.rowsOf name)) :
    BoundToFail registry numerics id asOf tenant (withRows writer name rows) ↔
      BoundToFail registry numerics id asOf tenant writer := by
  simp only [BoundToFail, sound_withRows, own_matchingRows same, Unwritable, stored_withRows]
  rfl

/-- A run bound to fail does, whatever rows other tenants have. -/
theorem featuresAfter_of_boundToFail (ready : Ready writer)
    (bound : BoundToFail registry numerics id asOf tenant writer) :
    featuresAfter registry numerics rowLimit id asOf tenant writer = none := by
  cases found : registry.get id with
  | none => exact featuresAfter_unknown found
  | some producer =>
    cases sound : producer.sound writer.durable.catalog with
    | false =>
      obtain ⟨failure, refused⟩ := CadenceRegularityProducer.run_unsound sound
      exact featuresAfter_error ready found refused
    | true =>
      by_cases many : scanRowCap < (producer.matchingRows writer.durable.catalog asOf).card
      · exact featuresAfter_error ready found (CadenceRegularityProducer.run_many sound many)
      · rcases bound producer found with unsound | ownMany | ⟨⟨row, member, scored⟩, unwritable⟩
        · rw [sound] at unsound
          cases unsound
        · exact absurd (ownMany.trans_le (Multiset.card_le_card (Multiset.filter_le _ _))) many
        · refine featuresAfter_unwritable ready found ?_
            (CadenceRegularityProducer.run_few sound (Nat.le_of_not_lt many)) unwritable
          obtain ⟨event, scores⟩ := Option.isSome_iff_exists.mp scored
          have among := (Multiset.mem_filterMap _ _).mpr ⟨row, (mem_own.mp member).1, scores⟩
          exact fun nothing => Multiset.notMem_zero event (nothing ▸ among)

/-- A row of some other tenant that the scan finds. -/
def stranger (tenant asOf : String) : RawRow := fun name =>
  if name = "tenant_id" then some ("not " ++ tenant) else if name = "ts" then some asOf else none

theorem own_strangers (tenant asOf : String) (count : Nat) (rows : Multiset RawRow) :
    own tenant (own tenant rows + Multiset.replicate count (stranger tenant asOf)) =
      own tenant rows := by
  have foreign : own tenant (Multiset.replicate count (stranger tenant asOf)) = 0 := by
    refine Multiset.filter_eq_nil.mpr fun row member => ?_
    rw [Multiset.eq_of_mem_replicate member]
    simp [stranger, RawRow.tenant]
  rw [own_add, own_own, foreign, Multiset.add_zero]

theorem strangers_pass {known : List String}
    (present : writer.durable.catalog.columnsOf (rawName producer.orders) = some known)
    (mine : Multiset RawRow) :
    scanRowCap < (producer.matchingRows (withRows writer (rawName producer.orders)
      (mine + Multiset.replicate (scanRowCap + 1) (stranger tenant asOf))).durable.catalog
        asOf).card := by
  have found : (Multiset.replicate (scanRowCap + 1) (stranger tenant asOf)).filter
      (fun row => notAfter asOf row) = Multiset.replicate (scanRowCap + 1) (stranger tenant asOf) := by
    refine Multiset.filter_eq_self.mpr fun row member => ?_
    rw [Multiset.eq_of_mem_replicate member]
    simp [stranger, notAfter]
  rw [matchingRows_withRows present, Multiset.filter_add, found, Multiset.card_add,
    Multiset.card_replicate]
  omega

/-- A run is free of the other tenants' rows exactly if it is bound to fail: their rows
alone can push any other one past the cap. -/
theorem run_confined_iff (ready : Ready writer) :
    Confined registry numerics rowLimit id asOf tenant writer ↔
      BoundToFail registry numerics id asOf tenant writer := by
  constructor
  · intro confined producer found
    by_contra passes
    simp only [not_or, not_and, Bool.not_eq_false, not_lt] at passes
    obtain ⟨sound, few, writable⟩ := passes
    have scans := sound
    simp only [CadenceRegularityProducer.sound, Bool.and_eq_true, Option.any_eq_true] at scans
    obtain ⟨-, known, present, -⟩ := scans
    let alone := withRows writer (rawName producer.orders)
      (own tenant (writer.durable.catalog.rowsOf (rawName producer.orders)))
    let flooded := withRows writer (rawName producer.orders)
      (own tenant (writer.durable.catalog.rowsOf (rawName producer.orders)) +
        Multiset.replicate (scanRowCap + 1) (stranger tenant asOf))
    have mine : producer.matchingRows alone.durable.catalog asOf =
        own tenant (producer.matchingRows writer.durable.catalog asOf) := by
      rw [matchingRows_withRows present, ← own_filter]
      rfl
    -- On its own rows alone the run succeeds.
    have succeeds : (featuresAfter registry numerics rowLimit id asOf tenant alone).isSome = true := by
      have ran : producer.run numerics rowLimit alone.durable.catalog asOf = .ok _ :=
        CadenceRegularityProducer.run_few ((sound_withRows _ _).trans sound) (by rw [mine]; exact few)
      refine featuresAfter_writable (ready.withRows _ _) found ran ?_
      rw [mine, Unwritable, stored_withRows]
      by_cases scored : ∃ row ∈ own tenant (producer.matchingRows writer.durable.catalog asOf),
          (CadenceRegularityProducer.event numerics row).isSome = true
      · exact Or.inr (writable scored)
      · refine Or.inl (Multiset.eq_zero_iff_forall_notMem.mpr fun event member => ?_)
        obtain ⟨row, among, scores⟩ := (Multiset.mem_filterMap _ _).mp member
        exact scored ⟨row, among, by rw [scores]; rfl⟩
    -- With enough rows of another tenant it does not.
    have fails : featuresAfter registry numerics rowLimit id asOf tenant flooded = none :=
      featuresAfter_error (ready.withRows _ _) found (CadenceRegularityProducer.run_many
        ((sound_withRows _ _).trans sound) (strangers_pass present _))
    rw [confined _ _ (own_own tenant _), ← confined _ _ (own_strangers tenant asOf _ _)] at succeeds
    rw [fails] at succeeds
    cases succeeds
  · intro bound name rows same
    rw [featuresAfter_of_boundToFail ready bound, featuresAfter_of_boundToFail
      (ready.withRows name rows) ((boundToFail_withRows same).mpr bound)]

end

/-! ### Two tenants -/

/-- Some of the rows, as many as asked for. -/
noncomputable def someRows : RowLimit where
  take limit rows := (rows.toList.take limit : List RawRow)
  take_le limit rows := by
    conv_rhs => rw [← Multiset.coe_toList rows]
    exact Multiset.coe_le.mpr (List.take_sublist _ _).subperm
  card_take limit rows := by
    rw [Multiset.coe_card, List.length_take, Multiset.length_toList]

def newYear : String := "2025-01-01T00:00:00Z"

/-- Exact arithmetic, over a calendar of one day. -/
def exactNumerics : Numerics where
  parseRfc3339 ts := if ts = newYear then some 1735689600 else none
  parseDateTime _ := none
  parseDate _ := none
  ofInt n := n
  add x y := x + y
  sub x y := x - y
  mul x y := x * y
  div x y := x / y
  sqrt x := (Nat.sqrt (x.num.toNat * x.den) : ℚ) / x.den

def cadence : CadenceRegularityProducer := ⟨⟨"erp", "orders"⟩, "cadence_sql"⟩

def cadenceRegistry : ProducerRegistry where
  producers := SortedMap.empty.insert "cadence_sql" cadence
  registered := by
    intro entry member
    rcases SortedMap.mem_insert.mp member with rfl | ⟨-, none⟩
    · exact ⟨rfl, by decide⟩
    · exact absurd none List.not_mem_nil

/-- A catalogue of one events table. -/
def eventsWriter (rows : Multiset RawRow) : Writer :=
  { freshWriter with
    duck := { freshWriter.duck with castTimestamptz := fun _ => some 0 }
    durable := ⟨Catalog.empty.setRaw "raw_erp_orders" ⟨["user_id", "ts", "tenant_id"], rows⟩, []⟩ }

theorem eventsWriter_ready (rows : Multiset RawRow) : Ready (eventsWriter rows) :=
  ⟨rfl, fun _ => rfl⟩

theorem run_confined_iff_events :
    Confined cadenceRegistry exactNumerics someRows "cadence_sql" newYear "acme" (eventsWriter 0) ↔
      BoundToFail cadenceRegistry exactNumerics "cadence_sql" newYear "acme" (eventsWriter 0) :=
  run_confined_iff (eventsWriter_ready 0)

def globexOrder : RawRow :=
  rowOf ["user_id", "ts", "tenant_id"] [some "u1", some newYear, some "globex"]

theorem featuresAfter_events (rows : Multiset RawRow) (few : rows.card ≤ 1) :
    featuresAfter cadenceRegistry exactNumerics someRows "cadence_sql" newYear "acme"
        (eventsWriter rows) =
      some (((FeatureBatch.store "acme" 0 (CadenceRegularityProducer.scores exactNumerics cadence
        newYear ((rows.filter fun row => notAfter newYear row).filterMap
          (CadenceRegularityProducer.event exactNumerics))) : List StoredFeature) :
            Multiset StoredFeature).filter fun row => row.tenantId = some "acme") := by
  have found : cadenceRegistry.get "cadence_sql" = some cadence := SortedMap.get_insert_self _ _ _
  have table : rawName cadence.orders = "raw_erp_orders" := by decide
  have present : (eventsWriter rows).durable.catalog.raw "raw_erp_orders" =
      some ⟨["user_id", "ts", "tenant_id"], rows⟩ := Catalog.setRaw_self _ _ _
  have matched : cadence.matchingRows (eventsWriter rows).durable.catalog newYear =
      rows.filter fun row => notAfter newYear row := by
    rw [CadenceRegularityProducer.matchingRows, table, Catalog.rowsOf, present]
  have sound : cadence.sound (eventsWriter rows).durable.catalog = true := by
    rw [CadenceRegularityProducer.sound, table, Catalog.columnsOf, present, Option.map_some]
    exact (by decide : (isIdent "erp" && isIdent "orders" &&
      scannable ["user_id", "ts", "tenant_id"]) = true)
  have ran : cadence.run exactNumerics someRows (eventsWriter rows).durable.catalog newYear = _ :=
    CadenceRegularityProducer.run_few sound (by
      rw [matched]
      exact (Multiset.card_le_card (Multiset.filter_le _ _)).trans (few.trans (by decide)))
  rw [featuresAfter_stored (eventsWriter_ready rows) found ran rfl
    (fun row member => absurd member List.not_mem_nil), matched]
  rfl

/-- The user of another tenant is scored and stored for the one that asked. -/
theorem globex_user_scored :
    ¬ Confined cadenceRegistry exactNumerics someRows "cadence_sql" newYear "acme"
      (eventsWriter 0) := by
  intro confined
  have foreign : own "acme" {globexOrder} = 0 :=
    Multiset.filter_eq_nil.mpr fun row member => by
      rw [Multiset.mem_singleton.mp member]
      decide
  have moved : withRows (eventsWriter 0) "raw_erp_orders" {globexOrder} =
      eventsWriter {globexOrder} := by
    simp [withRows, eventsWriter, Catalog.mapRows, Catalog.setRaw]
  have same := confined "raw_erp_orders" {globexOrder} (by
    rw [foreign, Catalog.rowsOf, show (eventsWriter 0).durable.catalog.raw "raw_erp_orders" =
      some ⟨["user_id", "ts", "tenant_id"], 0⟩ from Catalog.setRaw_self _ _ _]
    rfl)
  rw [moved, featuresAfter_events _ (by simp), featuresAfter_events _ (by simp)] at same
  have scored : (({globexOrder} : Multiset RawRow).filter fun row => notAfter newYear row).filterMap
      (CadenceRegularityProducer.event exactNumerics) = {("u1", 1735689600)} := by
    have passes : notAfter newYear globexOrder = true := by
      simp [notAfter, globexOrder, rowOf, foldName]
    rw [Multiset.filter_singleton, if_pos passes]
    rfl
  have nothing : ((0 : Multiset RawRow).filter fun row => notAfter newYear row).filterMap
      (CadenceRegularityProducer.event exactNumerics) = 0 := rfl
  rw [scored, nothing] at same
  simp [FeatureBatch.store, CadenceRegularityProducer.scores] at same

end ConsumerEngine.Ingestion
