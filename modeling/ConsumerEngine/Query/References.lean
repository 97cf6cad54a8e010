import ConsumerEngine.Query.Validation

/-! The raw columns and the features a segment references. -/

set_option autoImplicit false

namespace ConsumerEngine.Query

open ConsumerEngine.Core

/-- `ReferencedColumn`. -/
structure ReferencedColumn where
  system : String
  entity : String
  column : String
  deriving DecidableEq

def columnOf (d : Dataset) (column : String) : ReferencedColumn := ⟨d.system, d.entity, column⟩

/-- The columns of an event window. -/
def windowColumns (event : Dataset) (userKey tsColumn : String) (predicate : Option Predicate) :
    List ReferencedColumn :=
  [columnOf event userKey, columnOf event tsColumn] ++
    (predicate.map fun p => columnOf event p.column).toList

mutual

/-- `referenced_columns`. -/
def referencedColumns (q : SegmentQuery) : List ReferencedColumn :=
  match q with
  | ⟨source, key, ops, _⟩ => columnOf source key :: collectColumns source ops
termination_by structural q

/-- The loop of `collect_columns`. -/
def collectColumns (source : Dataset) (ops : List Op) : List ReferencedColumn :=
  match ops with
  | [] => []
  | op :: rest => opColumns source op ++ collectColumns source rest
termination_by structural ops

def opColumns (source : Dataset) (op : Op) : List ReferencedColumn :=
  match op with
  | .filter predicate => [columnOf source predicate.column]
  | .recency event userKey tsColumn _ predicate | .lapsed event userKey tsColumn _ predicate =>
      windowColumns event userKey tsColumn predicate
  | .setOp _ other => referencedColumns other
  | .derive _ metric =>
      -- the event table is read by its `user_id`, the join key
      columnOf (metricEvent metric) "user_id" ::
        ((metricColumn metric).map (columnOf (metricEvent metric))).toList
  | .feature .. | .exclude _ | .similar => []
  | .characterize event tsColumn monetaryColumn categoryColumn =>
      ["user_id", tsColumn, monetaryColumn, categoryColumn].map (columnOf event)
termination_by structural op

end

mutual

/-- `referenced_features`. -/
def referencedFeatures (q : SegmentQuery) : List String :=
  match q with
  | ⟨_, _, ops, _⟩ => collectFeatures ops
termination_by structural q

/-- The loop of `collect_features`. -/
def collectFeatures (ops : List Op) : List String :=
  match ops with
  | [] => []
  | op :: rest => opFeatures op ++ collectFeatures rest
termination_by structural ops

def opFeatures (op : Op) : List String :=
  match op with
  | .feature name _ _ => [name]
  | .setOp _ other => referencedFeatures other
  | _ => []
termination_by structural op

end

theorem mem_collectColumns {source : Dataset} {ops : List Op} {r : ReferencedColumn} :
    r ∈ collectColumns source ops ↔ ∃ op ∈ ops, r ∈ opColumns source op := by
  induction ops with
  | nil => simp only [collectColumns, List.not_mem_nil, false_and, exists_false]
  | cons op rest ih => simp only [collectColumns, List.mem_append, ih, List.exists_mem_cons_iff]

theorem mem_collectFeatures {ops : List Op} {name : String} :
    name ∈ collectFeatures ops ↔ ∃ op ∈ ops, name ∈ opFeatures op := by
  induction ops with
  | nil => simp only [collectFeatures, List.not_mem_nil, false_and, exists_false]
  | cons op rest ih => simp only [collectFeatures, List.mem_append, ih, List.exists_mem_cons_iff]

theorem referencedColumns_ne_nil (q : SegmentQuery) : referencedColumns q ≠ [] := by
  obtain ⟨source, key, ops, asOf⟩ := q
  rw [referencedColumns]
  exact List.cons_ne_nil _ _

end ConsumerEngine.Query
