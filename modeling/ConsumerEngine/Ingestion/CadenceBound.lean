import ConsumerEngine.Ingestion.Producers

/-! The bound of the cadence producer: a comparison of texts for a comparison of times.

The scan keeps the rows whose `ts` is not after `as_of` as a text, and the score is made of parsed
times. Both agree on every table exactly where they agree on each text of a `ts`.
-/

set_option autoImplicit false

namespace ConsumerEngine.Ingestion

open ConsumerEngine.Core ConsumerEngine.Foundation ConsumerEngine.Storage

namespace CadenceRegularityProducer

/-! ### Events in time -/

section
variable (numerics : Numerics)

/-- The events at or before a time. -/
def timely (limit : Int) (rows : Multiset RawRow) : Multiset (String × Int) :=
  (rows.filterMap (event numerics)).filter fun event => event.2 ≤ limit

/-- The times of a user's events. -/
def timesOf (user : String) (events : Multiset (String × Int)) : Multiset Int :=
  (events.filter fun event => event.1 = user).map Prod.snd

/-- The feature rows are those of the users with an event in time, each scored by its events in
time. -/
structure BoundedInTime (limit : Int) (rows : Multiset RawRow) (scored : List FeatureRow) : Prop where
  emitted : ∀ user, (∃ row ∈ scored, row.userId = user) ↔
    ∃ time, (user, time) ∈ timely numerics limit rows
  regular : ∀ row ∈ scored, ∃ times : List Int,
    (times : Multiset Int) = timesOf row.userId (timely numerics limit rows) ∧
      times.Pairwise (· ≤ ·) ∧ row.numValue = numerics.regularity times

/-- A producer's table whose `ts` values are among these texts, below the scan cap. -/
structure Scannable (producer : CadenceRegularityProducer) (texts : Set String) (asOf : String)
    (catalog : Catalog) : Prop where
  sound : producer.sound catalog = true
  dated : ∀ row ∈ catalog.rowsOf (rawName producer.orders), ∃ ts ∈ texts, row "ts" = some ts
  few : (producer.matchingRows catalog asOf).card ≤ scanRowCap

/-- The text is not after `as_of` exactly if its time is not. -/
def Comparable (asOf : String) (limit : Int) (ts : String) : Prop :=
  ts ≤ asOf ↔ ∃ epoch, numerics.parseEpoch ts = some epoch ∧ epoch ≤ limit

end

section
variable {numerics : Numerics} {rowLimit : RowLimit} {producer : CadenceRegularityProducer}
  {asOf ts : String} {limit : Int} {texts : Set String} {catalog : Catalog}

/-- The scores of events are those of their users. -/
theorem scores_bounded {rows : Multiset RawRow} {events : Multiset (String × Int)}
    (timelyOnly : events = timely numerics limit rows) :
    BoundedInTime numerics limit rows (scores numerics producer asOf events) := by
  subst timelyOnly
  constructor
  · intro user
    simp only [scores, List.mem_map, Multiset.mem_sort, Multiset.mem_dedup, Multiset.mem_map,
      Prod.exists, exists_and_right, exists_eq_right, exists_exists_and_eq_and]
  · intro row member
    obtain ⟨user, -, rfl⟩ := List.mem_map.mp member
    exact ⟨_, Multiset.sort_eq _ _, Multiset.pairwise_sort _ _, rfl⟩

theorem filterMap_congr {α β : Type} {first second : α → Option β} {items : Multiset α}
    (same : ∀ item ∈ items, first item = second item) :
    items.filterMap first = items.filterMap second := by
  induction items using Quotient.inductionOn with
  | h list => exact congrArg Multiset.ofList (List.filterMap_congr same)

/-- Where the texts compare as their times do, the scan lets the events in time through. -/
theorem scanned_timely (comparable : ∀ ts ∈ texts, Comparable numerics asOf limit ts)
    (dated : ∀ row ∈ catalog.rowsOf (rawName producer.orders), ∃ ts ∈ texts, row "ts" = some ts) :
    (producer.matchingRows catalog asOf).filterMap (event numerics) =
      timely numerics limit (catalog.rowsOf (rawName producer.orders)) := by
  unfold matchingRows timely
  rw [Multiset.filterMap_filter, Multiset.filter_filterMap]
  refine filterMap_congr fun row member => ?_
  obtain ⟨ts, among, found⟩ := dated row member
  have passes : notAfter asOf row = true ↔ ts ≤ asOf := by
    rw [notAfter, found]
    exact decide_eq_true_iff
  have compares := comparable ts among
  unfold event
  rw [found]
  cases row "user_id" with
  | none => simp
  | some user =>
    cases parsed : numerics.parseEpoch ts with
    | none => simp [parsed]
    | some epoch =>
      rw [Comparable, parsed] at compares
      by_cases inTime : epoch ≤ limit
      · have kept : notAfter asOf row = true := passes.mpr (compares.mpr ⟨epoch, rfl, inTime⟩)
        simp [parsed, kept, Option.filter_some, inTime]
      · have dropped : ¬ notAfter asOf row = true := fun kept => by
          obtain ⟨_, ⟨⟩, early⟩ := compares.mp (passes.mp kept)
          exact inTime early
        simp [parsed, dropped, Option.filter_some, inTime]

/-- The order of a user at some time. -/
def orderAt (ts : String) : RawRow :=
  rowOf ["user_id", "ts", "tenant_id"] [some "u1", some ts, some "acme"]

theorem orderAt_user (ts : String) : orderAt ts "user_id" = some "u1" := by
  simp [orderAt, rowOf, foldName]

theorem orderAt_ts (ts : String) : orderAt ts "ts" = some ts := by
  simp [orderAt, rowOf, foldName]

/-- A table of one event. -/
def oneEvent (producer : CadenceRegularityProducer) (ts : String) : Catalog :=
  Catalog.empty.setRaw (rawName producer.orders) ⟨["user_id", "ts", "tenant_id"], {orderAt ts}⟩

theorem rowsOf_oneEvent : (oneEvent producer ts).rowsOf (rawName producer.orders) = {orderAt ts} := by
  rw [Catalog.rowsOf, oneEvent, Catalog.setRaw_self]

theorem scannable_oneEvent (system : isIdent producer.orders.system = true)
    (entity : isIdent producer.orders.entity = true) (member : ts ∈ texts) :
    Scannable producer texts asOf (oneEvent producer ts) where
  sound := by
    rw [sound, system, entity, Catalog.columnsOf, oneEvent, Catalog.setRaw_self]
    rfl
  dated row inside := by
    rw [rowsOf_oneEvent, Multiset.mem_singleton] at inside
    exact ⟨ts, member, inside ▸ orderAt_ts ts⟩
  few := by
    unfold matchingRows
    rw [rowsOf_oneEvent]
    refine (Multiset.card_le_card (Multiset.filter_le _ _)).trans ?_
    rw [Multiset.card_singleton]
    decide

theorem filterMap_orderAt {epoch : Int} (parsed : numerics.parseEpoch ts = some epoch) :
    ({orderAt ts} : Multiset RawRow).filterMap (event numerics) = {("u1", epoch)} := by
  have read : event numerics (orderAt ts) = some ("u1", epoch) := by
    simp [event, orderAt_user, orderAt_ts, parsed]
  rw [← Multiset.cons_zero, Multiset.filterMap_cons_some _ _ _ read, Multiset.filterMap_zero]
  rfl

/-- The one user is scored if the text of the event is not after `as_of`. -/
theorem scored_oneEvent {epoch : Int} (parsed : numerics.parseEpoch ts = some epoch) :
    (∃ row ∈ scores numerics producer asOf
        ((producer.matchingRows (oneEvent producer ts) asOf).filterMap (event numerics)),
      row.userId = "u1") ↔ ts ≤ asOf := by
  have passes : notAfter asOf (orderAt ts) = true ↔ ts ≤ asOf := by
    rw [notAfter, orderAt_ts]
    exact decide_eq_true_iff
  rw [matchingRows, rowsOf_oneEvent]
  by_cases early : ts ≤ asOf
  · rw [Multiset.filter_singleton, if_pos (passes.mpr early)]
    refine iff_of_true ?_ early
    simp [scores, filterMap_orderAt parsed]
  · rw [Multiset.filter_singleton, if_neg (mt passes.mp early)]
    refine iff_of_false ?_ early
    simp [scores]

/-- The producer is bounded in time on every table with these texts exactly if each of them
compares with `as_of` as its time does. -/
theorem bounded_iff (_instant : numerics.parseRfc3339 asOf = some limit)
    (system : isIdent producer.orders.system = true)
    (entity : isIdent producer.orders.entity = true)
    (accepted : ∀ ts ∈ texts, (numerics.parseEpoch ts).isSome = true) :
    (∀ catalog, Scannable producer texts asOf catalog → ∃ scored,
        producer.run numerics rowLimit catalog asOf = .ok scored ∧
          BoundedInTime numerics limit (catalog.rowsOf (rawName producer.orders)) scored) ↔
      ∀ ts ∈ texts, Comparable numerics asOf limit ts := by
  constructor
  · intro bounded ts member
    have scannable := @scannable_oneEvent producer asOf ts texts system entity member
    obtain ⟨scored, ran, ⟨emitted, -⟩⟩ := bounded _ scannable
    rw [run_few scannable.sound scannable.few, Except.ok.injEq] at ran
    obtain ⟨epoch, parsed⟩ := Option.isSome_iff_exists.mp (accepted ts member)
    have inTime : (∃ time, ("u1", time) ∈ timely numerics limit {orderAt ts}) ↔ epoch ≤ limit := by
      simp only [timely, filterMap_orderAt parsed, Multiset.filter_singleton]
      split
      · next early => simp [early]
      · next late => simp [late]
    rw [Comparable, ← @scored_oneEvent numerics producer asOf ts epoch parsed, ran, emitted "u1",
      rowsOf_oneEvent, inTime, parsed]
    exact ⟨fun early => ⟨epoch, rfl, early⟩, fun ⟨_, same, early⟩ => Option.some.inj same ▸ early⟩
  · intro comparable catalog scannable
    exact ⟨_, run_few scannable.sound scannable.few,
      scores_bounded (scanned_timely comparable scannable.dated)⟩

end

/-! ### An event with an offset -/

theorem bounded_iff_newYear :
    (∀ catalog, Scannable cadence {newYear} newYear catalog → ∃ scored,
        cadence.run exactNumerics someRows catalog newYear = .ok scored ∧
          BoundedInTime exactNumerics 1735689600 (catalog.rowsOf (rawName cadence.orders)) scored) ↔
      ∀ ts ∈ ({newYear} : Set String), Comparable exactNumerics newYear 1735689600 ts :=
  bounded_iff rfl (by decide) (by decide) (fun _ member => by
    rw [Set.mem_singleton_iff.mp member]
    rfl)

def noon : String := "2025-06-01T12:00:00Z"

/-- Half past four in the afternoon, as `noon` counts. -/
def offsetMorning : String := "2025-06-01T11:30:00-05:00"

def zonedNumerics : Numerics :=
  { exactNumerics with
    parseRfc3339 := fun ts =>
      if ts = noon then some 1748779200 else if ts = offsetMorning then some 1748795400 else none }

/-- The user of a later event is scored, for the text of its time is the lower one. -/
theorem later_event_scored : ∃ scored,
    cadence.run zonedNumerics someRows (oneEvent cadence offsetMorning) noon = .ok scored ∧
      Scannable cadence {offsetMorning} noon (oneEvent cadence offsetMorning) ∧
      zonedNumerics.parseEpoch noon = some 1748779200 ∧
      zonedNumerics.parseEpoch offsetMorning = some 1748795400 ∧
      ¬ BoundedInTime zonedNumerics 1748779200
        ((oneEvent cadence offsetMorning).rowsOf (rawName cadence.orders)) scored := by
  have scannable : Scannable cadence {offsetMorning} noon (oneEvent cadence offsetMorning) :=
    scannable_oneEvent (by decide) (by decide) rfl
  have parsed : zonedNumerics.parseEpoch offsetMorning = some 1748795400 := by decide
  refine ⟨_, run_few scannable.sound scannable.few, scannable, by decide, parsed, fun bounded => ?_⟩
  obtain ⟨time, inTime⟩ := (bounded.emitted "u1").mp ((scored_oneEvent parsed).mpr (by decide))
  rw [rowsOf_oneEvent, timely, filterMap_orderAt parsed, Multiset.filter_singleton,
    if_neg (by decide)] at inTime
  exact Multiset.notMem_zero _ inTime

end CadenceRegularityProducer

end ConsumerEngine.Ingestion
