import Mathlib.Data.Multiset.MapFold
import ConsumerEngine.Query.Agreement
import ConsumerEngine.Query.FeatureViews
import ConsumerEngine.Sql.Selects

/-! The tables a compiled query is run on: what the catalogue stores, as the engine that is
attached to it shows it.
-/

set_option autoImplicit false

namespace ConsumerEngine.Query

open ConsumerEngine.Core ConsumerEngine.Sql ConsumerEngine.Storage FeatureBatch

/-- The values of the attached engine. `newest` is `arg_max(num_value, as_of_ts)`, whichever way
the rows are reached. -/
structure Engine (V : Type) extends Scalars Value V where
  instant : Int → V
  castTimestamptz : String → Option Int
  newest : Multiset (F64 × Int) → V
  bound_text : ∀ s, bound (.text s) = text s
  cast_timestamptz : ∀ s, cast "timestamptz" (text s) = (castTimestamptz s).map instant
  compare_instant : ∀ a b, compare .le (instant a) (instant b) = .ofBool (decide (a ≤ b))
  newest_none : newest 0 = null
  aggregate_newest : ∀ rows : Multiset (F64 × Int),
    aggregate "arg_max" (rows.map fun row => [bound (.double row.1), instant row.2]) =
      some (newest rows)

section
variable {V : Type} (E : Engine V)

/-- A VARCHAR cell. -/
def Engine.cell (cell : Cell) : V := cell.elim E.null E.text

def Engine.viewCells : ViewCells V := ⟨E.null, E.text, E.newest⟩

/-- The cells of a row, listed under their columns. -/
def Engine.listed (row : List (String × V)) (column : String) : V :=
  (row.lookup column).getD E.null

/-- The cells of a raw row. -/
def Engine.cells (row : RawRow) (column : String) : V := E.cell (row column)

def Engine.rawStored (table : RawTable) : Stored V where
  columns := table.columns
  rows := table.rows.map E.cells

def Engine.featureRow (row : StoredFeature) : List (String × V) :=
  [("user_id", E.text row.userId), ("feature_name", E.text row.featureName),
    ("num_value", E.bound (.double row.numValue)), ("as_of_ts", E.instant row.asOfTs),
    ("producer_id", E.text row.producerId), ("tenant_id", E.cell row.tenantId)]

def Engine.featureStored (rows : List StoredFeature) : Stored V where
  columns := ["user_id", "feature_name", "num_value", "as_of_ts", "producer_id", "tenant_id"]
  rows := (rows : Multiset StoredFeature).map fun row => E.listed (E.featureRow row)

def Engine.suppressionRow (row : StoredSuppression) : List (String × V) :=
  [("suppression_id", E.text row.suppressionId), ("campaign_id", E.text row.campaignId),
    ("user_id", E.text row.userId), ("channel", E.text row.channel), ("action", E.text row.action),
    ("occurred_ts", E.instant row.occurredTs), ("received_ts", E.instant row.receivedTs),
    ("tenant_id", E.cell row.tenantId)]

def Engine.suppressionStored (rows : List StoredSuppression) : Stored V where
  columns := ["suppression_id", "campaign_id", "user_id", "channel", "action", "occurred_ts",
    "received_ts", "tenant_id"]
  rows := (rows : Multiset StoredSuppression).map fun row => E.listed (E.suppressionRow row)

/-- The users and tenants with a row of the family. -/
def viewKeys (family : String) (rows : List StoredFeature) : Multiset (String × Option String) :=
  (((rows.filter fun row => (family ++ ".").toList.isPrefixOf row.featureName.toList).map
    fun row => (row.userId, row.tenantId) : List _) : Multiset _).dedup

/-- The cell of a view under a column, for one user of one tenant. -/
def Engine.viewCell (view : String × List String) (rows : List StoredFeature)
    (key : String × Option String) (column : String) : V :=
  (cellAt (viewRow E.viewCells view key.1 key.2 (groupOf view.1 key.1 key.2 rows)) column).getD
    E.null

def Engine.viewStored (view : String × List String) (rows : List StoredFeature) : Stored V where
  columns := "user_id" :: "tenant_id" :: view.2.map foldName
  rows := (viewKeys view.1 rows).map (E.viewCell view rows)

/-- The table a folded name stands for. -/
def Engine.table (catalog : Catalog) (name : String) : Option (Stored V) :=
  if name = "feature_store" then catalog.featureStore.map E.featureStored
  else if name = "suppression" then catalog.suppression.map E.suppressionStored
  else if isRawName name then (catalog.raw name).map E.rawStored
  else (catalog.featureViews.find? fun view => wideTable view.1 = name).map fun view =>
    E.viewStored view (stored catalog)

/-- The tables of a catalogue attached under a name. -/
def Engine.tables (attached : String) (catalog : Catalog) : Tables V := fun name table =>
  if name = attached then E.table catalog table else none

end

/-! ### Values -/

section
variable {V : Type} {E : Engine V}

theorem Engine.text_inj {a b : String} : E.text a = E.text b ↔ a = b := by
  refine ⟨fun same => ?_, congrArg _⟩
  have alike : Truth.ofBool (decide (a = b)) = Truth.ofBool (decide (a = a)) := by
    rw [← E.compare_text, ← E.compare_text, same]
  rw [decide_eq_true rfl] at alike
  exact of_decide_eq_true (Truth.ofBool_eq_yes.mp alike)

theorem Engine.text_ne_null (s : String) : E.text s ≠ E.null := by
  intro same
  have known := E.compare_text s s
  have unknown := (E.compare_null .eq (E.text s)).1
  rw [← same, known, decide_eq_true rfl] at unknown
  cases unknown

theorem Engine.cell_inj {a b : Cell} : E.cell a = E.cell b ↔ a = b := by
  cases a with
  | none =>
    cases b with
    | none => exact ⟨fun _ => rfl, fun _ => rfl⟩
    | some right => exact ⟨fun same => absurd same.symm (E.text_ne_null right), fun same => nomatch same⟩
  | some left =>
    cases b with
    | none => exact ⟨fun same => absurd same (E.text_ne_null left), fun same => nomatch same⟩
    | some right => exact E.text_inj.trans (Option.some_inj).symm

/-- `=` between VARCHAR cells. -/
def alike : Cell → Cell → Truth
  | some left, some right => .ofBool (decide (left = right))
  | _, _ => .unknown

theorem Engine.compare_cell (a b : Cell) : E.compare .eq (E.cell a) (E.cell b) = alike a b := by
  cases a with
  | none => exact (E.compare_null .eq (E.cell b)).1
  | some left =>
    cases b with
    | none => exact (E.compare_null .eq (E.text left)).2
    | some right => exact E.compare_text left right

theorem alike_eq_yes {a b : Cell} : alike a b = .yes ↔ joins a b = true := by
  cases a <;> cases b <;> simp [alike, joins, Truth.ofBool_eq_yes]

theorem alike_ne_failed (a b : Cell) : alike a b ≠ .failed := by
  cases a with
  | none => exact fun failed => nomatch failed
  | some left =>
    cases b with
    | none => exact fun failed => nomatch failed
    | some right =>
      rw [alike]
      by_cases same : left = right <;> simp [same, Truth.ofBool]

/-! ### Tables -/

variable {catalog : Catalog}

theorem Engine.table_featureStore :
    E.table catalog "feature_store" = catalog.featureStore.map E.featureStored := if_pos rfl

theorem Engine.table_suppression :
    E.table catalog "suppression" = catalog.suppression.map E.suppressionStored := by
  rw [table, if_neg (by decide), if_pos rfl]

theorem wideTable_inj {family other : String} :
    wideTable family = wideTable other ↔ foldName family = foldName other := by
  rw [wideTable_eq, wideTable_eq]
  exact ⟨wide_inj, congrArg _⟩

theorem Engine.table_raw (d : Dataset) :
    E.table catalog (rawName d) = (catalog.raw (rawName d)).map E.rawStored := by
  have raw := rawName_isRaw d
  have other {name : String} (notRaw : isRawName name = false) : rawName d ≠ name := by
    rintro rfl
    rw [notRaw] at raw
    cases raw
  rw [table, if_neg (other store_notRaw), if_neg (other suppression_notRaw), if_pos raw]

theorem Engine.table_wide (family : String) :
    E.table catalog (wideTable family) =
      (catalog.wideView family).map fun view => E.viewStored view (stored catalog) := by
  have found : catalog.featureViews.find? (fun view => wideTable view.1 = wideTable family) =
      catalog.wideView family := by
    rw [Catalog.wideView]
    exact congrArg (fun test => List.find? test _) (funext fun view => by simp only [wideTable_inj])
  have notStore : wideTable family ≠ "feature_store" := by
    rw [wideTable_eq]
    intro same
    have first := congrArg (fun name => name.toList.take 9) same
    rw [String.toList_append] at first
    revert first
    rw [List.take_append_of_le_length (by decide)]
    decide
  have notSuppression : wideTable family ≠ "suppression" := by
    rw [wideTable_eq]
    intro same
    have first := congrArg (fun name => name.toList.take 9) same
    rw [String.toList_append] at first
    revert first
    rw [List.take_append_of_le_length (by decide)]
    decide
  rw [table, if_neg notStore, if_neg notSuppression,
    if_neg (by rw [wideTable_notRaw]; exact Bool.false_ne_true), found]

end

end ConsumerEngine.Query
