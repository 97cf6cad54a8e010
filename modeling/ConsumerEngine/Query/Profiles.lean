import ConsumerEngine.Query.Metrics

/-! What the three queries of a profile answer, over a segment's users and the events of the tenant.

Each event row is joined with at most one user of the segment, so that it counts once.
-/

set_option autoImplicit false

namespace ConsumerEngine.Query

open ConsumerEngine.Core ConsumerEngine.Sql ConsumerEngine.Storage

/-- The user of the event is in the segment. -/
def InSegment (users : Finset Cell) (row : RawRow) : Prop :=
  row "user_id" ≠ none ∧ row "user_id" ∈ users

instance (users : Finset Cell) (row : RawRow) : Decidable (InSegment users row) :=
  inferInstanceAs (Decidable (_ ∧ _))

/-! ### Figures -/

section
variable {V : Type} (E : Engine V)

/-- The cell of an event that a figure is drawn from, as the profile reads it. -/
def Engine.drawn (of : Figure) (column : String) (row : RawRow) : Option V :=
  match of with
  | .metrics => E.cast "double" (E.cell (row (foldName column)))
  | .recency => E.cast "timestamp" (E.cell (row (foldName column)))
  | .categories => some (E.cell (row (foldName column)))

def Engine.ratioOf (first second : Option V) : Option V := do
  let value ← first
  let product ← E.arithmetic false value (E.numeral "1.0")
  let other ← second
  let divisor ← E.call "nullif" [other, E.numeral "0"]
  E.arithmetic true product divisor

def Engine.daysSince (last : V) : Option V := do
  let now ← (E.call "now" []).bind (E.cast "timestamp")
  let span ← E.minus now last
  let seconds ← E.extract "epoch" span
  E.arithmetic true seconds (E.numeral "86400.0")

variable [DecidableEq V]

/-- The distinct users of some events. -/
def Engine.usersOf (events : Multiset RawRow) : Option V :=
  E.aggregate "count" (events.map fun row => [E.cell (row "user_id")]).dedup

/-- The average amount of an event. -/
def Engine.orderValue (column : String) (events : Multiset RawRow) : Option V :=
  E.ratioOf (E.summedUp "sum" column events) (some (E.bigint events.card))

/-- The events of a user. -/
def Engine.frequency (events : Multiset RawRow) : Option V :=
  E.ratioOf (some (E.bigint events.card)) (E.usersOf events)

/-- When the user had the last event. -/
def Engine.lastSeen (column : String) (events : Multiset RawRow) (user : Cell) : Option V :=
  (mapAll (fun row => (E.drawn .recency column row).map ([·]))
    (events.filter fun row => row "user_id" = user)).bind (E.aggregate "max")

/-- The average over the users of the days since their last event. -/
def Engine.recencyOf (column : String) (events : Multiset RawRow) : Option V :=
  (mapAll (fun user => ((E.lastSeen column events user).bind E.daysSince).map ([·]))
    (events.map fun row => row "user_id").dedup).bind (E.aggregate "avg")

/-- What a profile says of a segment's users, given their events and those of everyone. -/
def Engine.profiled (column : String) (users : Finset Cell) (events : Multiset RawRow) :
    Figure → Option (Table V)
  | .metrics => do
      let mine := eventsOf users events
      let baseUsers ← E.usersOf events
      let segAov ← E.orderValue column mine
      let baseAov ← E.orderValue column events
      let segFreq ← E.frequency mine
      let baseFreq ← E.frequency events
      return ⟨["seg_users", "base_users", "seg_aov", "base_aov", "seg_freq", "base_freq",
          "seg_orders", "base_orders"],
        {[E.bigint users.card, baseUsers, segAov, baseAov, segFreq, baseFreq,
          E.bigint mine.card, E.bigint events.card]}⟩
  | .recency => do
      let segment ← E.recencyOf column (eventsOf users events)
      let baseline ← E.recencyOf column events
      return ⟨["seg_recency_days", "base_recency_days"], {[segment, baseline]}⟩
  | .categories =>
      let counted (category : Cell) (events : Multiset RawRow) : V :=
        E.bigint (events.filter fun row => row (foldName column) = category).card
      some ⟨["category", "seg_n", "base_n"], E.cut ["category", "seg_n", "base_n"] (some "seg_n") "3"
        ((events.map fun row => row (foldName column)).dedup.map fun category =>
          [E.cell category, counted category (eventsOf users events), counted category events])⟩

end

/-! ### Event rows -/

section
variable {V : Type} [DecidableEq V] {E : Engine V} {opts : CompileOptions} {catalog : Catalog}
  {env : Env V} {users : Finset Cell} {event : Dataset} {columns : List String} {row : RawRow}

/-- The rows in scope of a profile's event row: the event, and its user in the segment or nulls. -/
def profileFrame (E : Engine V) (columns : List String) (users : Finset Cell) (row : RawRow) :
    Frame V :=
  [⟨"e", columns, E.cells row⟩, ⟨"s", ["user_id"],
    if InSegment users row then E.listed [("user_id", E.cell (row "user_id"))] else fun _ => E.null⟩]

theorem segmentJoin_eval (columns : List String) (user : Cell) (row : RawRow) :
    (Ast.only (.compare .eq (columnTerm "s" "user_id") (columnTerm "e" "user_id"))).eval E.toScalars
        (env.enter ([⟨"e", columns, E.cells row⟩] ++
          [⟨"s", ["user_id"], E.listed [("user_id", E.cell user)]⟩])) = alike user (row "user_id") := by
  simp only [Ast.eval, columnTerm_eval, compared]
  simp [Env.column, Env.enter, Engine.listed, Engine.cells, E.compare_cell]

/-- An event is joined with the one user of the segment whose it is, or with nulls. -/
theorem joinRows_segment (columns : List String) (users : Finset Cell) (row : RawRow) :
    joinRows E.toScalars true "s" ((E.keyTable "user_id" users).stored E.null)
        (fun frame => (Ast.only (.compare .eq (columnTerm "s" "user_id")
          (columnTerm "e" "user_id"))).eval E.toScalars (env.enter frame))
        ([⟨"e", columns, E.cells row⟩], .yes) =
      {(profileFrame E columns users row, .yes)} := by
  have met (user : Cell) : alike user (row "user_id") = .yes ∨ alike user (row "user_id") = .failed ↔
      user = row "user_id" ∧ row "user_id" ≠ none := by
    rw [or_iff_left (alike_ne_failed _ _), alike_eq_yes, joins_iff]
    constructor
    · rintro ⟨some_, rfl⟩
      exact ⟨rfl, some_⟩
    · rintro ⟨rfl, some_⟩
      exact ⟨some_, rfl⟩
  have mine : (users.val.filter fun user => user = row "user_id" ∧ row "user_id" ≠ none) =
      if InSegment users row then {row "user_id"} else 0 := by
    by_cases inside : InSegment users row
    · rw [if_pos inside]
      simp only [inside.1, ne_eq, not_false_eq_true, and_true]
      rw [Multiset.filter_eq', Multiset.count_eq_one_of_mem users.nodup inside.2]
      exact Multiset.replicate_one _
    · rw [if_neg inside]
      refine Multiset.filter_eq_nil.mpr fun user member both => inside ⟨both.2, ?_⟩
      rw [← both.1]
      exact member
  rw [stored_keys]
  simp only [joinRows, Multiset.map_map, Function.comp_def, segmentJoin_eval, Multiset.filter_map,
    met, mine, true_and]
  by_cases inside : InSegment users row
  · have same : alike (row "user_id") (row "user_id") = .yes :=
      alike_eq_yes.mpr (joins_iff.mpr ⟨inside.1, rfl⟩)
    simp [profileFrame, inside, same]
  · simp [profileFrame, inside]

omit [DecidableEq V] in
theorem profileFrame_event (name : String) :
    (env.enter (profileFrame E columns users row)).column E.null "e" name = E.cell (row name) := by
  simp [Env.column, Env.enter, profileFrame, Engine.cells]

theorem profileFrame_inSegment :
    (Ast.product (.present (columnTerm "s" "user_id")) .done).eval E.toScalars
        (env.enter (profileFrame E columns users row)) =
      some (E.boolean (decide (InSegment users row))) := by
  have user : (env.enter (profileFrame E columns users row)).column E.null "s" "user_id" =
      if InSegment users row then E.cell (row "user_id") else E.null := by
    by_cases inside : InSegment users row <;>
      simp [Env.column, Env.enter, profileFrame, Engine.listed, inside]
  simp only [Ast.eval, columnTerm_eval, user, Option.map_some, Option.bind_eq_bind, Option.bind_some]
  by_cases inside : InSegment users row
  · have present : E.cell (row "user_id") ≠ E.null := fun same => inside.1 (E.cell_inj.mp same)
    simp [inside, present]
  · simp [inside]

theorem profileSource_eval
    (named : env.named.lookup "segment" = some (E.keyTable "user_id" users))
    (there : env.tables opts.catalog (rawName event) =
      some ⟨columns, (catalog.rowsOf (rawName event)).map E.cells⟩) :
    (Ast.from (rawAliased event opts.catalogAlias "e").phrase
      (.join true (.named "segment" (some "s"))
        (.only (.compare .eq (columnTerm "s" "user_id") (columnTerm "e" "user_id")))
          .noJoin)).eval E.toScalars env =
      some ((catalog.rowsOf (rawName event)).map fun row =>
        (profileFrame E columns users row, .yes)) := by
  have there' : env.tables (rawAliased event opts.catalogAlias "e").catalog
      (rawAliased event opts.catalogAlias "e").table =
        some ⟨columns, (catalog.rowsOf (rawName event)).map E.cells⟩ := there
  simp only [Ast.eval, named, Option.map_some, Aliased.phrase, there', Option.getD_some,
    Option.bind_eq_bind, Option.bind_some, Multiset.bind_map]
  refine congrArg some ?_
  rw [← Multiset.bind_singleton]
  exact Multiset.bind_congr fun row _ => joinRows_segment columns users row

/-- The rows of `ev`, from the events and what is drawn from each. -/
def eventTable (E : Engine V) (of : Figure) (users : Finset Cell) (pairs : Multiset (RawRow × V)) :
    Table V :=
  ⟨["user_id", of.label, "in_seg"], pairs.map fun pair =>
    [E.cell (pair.1 "user_id"), pair.2, E.boolean (decide (InSegment users pair.1))]⟩

theorem eventsPhrase_eval {tsColumn monetaryColumn categoryColumn : String} (of : Figure)
    (tables : env.tables = E.tables opts.catalog catalog)
    (present : (catalog.raw (rawName event)).isSome = true)
    (named : env.named.lookup "segment" = some (E.keyTable "user_id" users)) :
    (eventsPhrase (of.value tsColumn monetaryColumn categoryColumn) of.label event opts.catalogAlias
        opts.tenant).eval E.toScalars env =
      (mapAll (fun row => (E.drawn of (of.column tsColumn monetaryColumn categoryColumn) row).map
        (Prod.mk row)) (ownRows catalog opts.tenant event)).map (eventTable E of users) := by
  obtain ⟨columns, there⟩ := @tables_raw _ E opts catalog event present
  have source := @profileSource_eval _ _ E opts catalog env users event columns named (tables ▸ there)
  have mine (row : RawRow) : (tenantTest "e" opts.tenant).eval E.toScalars
      (env.enter (profileFrame E columns users row)) = alike row.tenant (some opts.tenant) :=
    tenantTest_eval opts.tenant (profileFrame_event "tenant_id")
  have value (row : RawRow) : (of.value tsColumn monetaryColumn categoryColumn).eval E.toScalars
      (env.enter (profileFrame E columns users row)) =
        E.drawn of (of.column tsColumn monetaryColumn categoryColumn) row := by
    cases of <;>
      simp [Figure.value, Figure.column, castTerm, Ast.eval, Engine.drawn, profileFrame_event]
  have plain : (Ast.itemThen (columnTerm "e" "user_id") none
      (.itemThen (of.value tsColumn monetaryColumn categoryColumn) (some of.label)
        (.item (.product (.present (columnTerm "s" "user_id")) .done) (some "in_seg")))).sums =
          false := by
    cases of <;> rfl
  have own : (catalog.rowsOf (rawName event)).filter
      (fun row => alike row.tenant (some opts.tenant) = .yes) = ownRows catalog opts.tenant event :=
    Multiset.filter_congr fun row _ => alike_owner
  have decided : keep (fun row : RawRow => alike row.tenant (some opts.tenant))
      (catalog.rowsOf (rawName event)) = some (ownRows catalog opts.tenant event) :=
    keep_eq_some.mpr ⟨fun row _ => alike_ne_failed _ _, own⟩
  have items (row : RawRow) : (Ast.itemThen (columnTerm "e" "user_id") none
      (.itemThen (of.value tsColumn monetaryColumn categoryColumn) (some of.label)
        (.item (.product (.present (columnTerm "s" "user_id")) .done) (some "in_seg")))).eval
          E.toScalars (env.enter (profileFrame E columns users row)) =
      ((E.drawn of (of.column tsColumn monetaryColumn categoryColumn) row).map (Prod.mk row)).map
        fun pair => [E.cell (pair.1 "user_id"), pair.2,
          E.boolean (decide (InSegment users pair.1))] := by
    rw [eval_itemThen, eval_itemThen, eval_item, columnTerm_eval, profileFrame_event, value,
      profileFrame_inSegment]
    cases E.drawn of (of.column tsColumn monetaryColumn categoryColumn) row <;> rfl
  rw [eventsPhrase, Ast.eval, eval_select_plain plain source]
  simp only [items]
  simp only [Ast.eval, mine, decided, Option.bind_some]
  rw [mapAll_after, Option.map_map]
  rfl

end

end ConsumerEngine.Query
