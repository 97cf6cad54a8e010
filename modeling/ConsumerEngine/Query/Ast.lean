import ConsumerEngine.Core.Values

/-! The DSL: segment queries and their operations. -/

set_option autoImplicit false

namespace ConsumerEngine.Query

open ConsumerEngine.Core

/-- `QueryError`. -/
inductive QueryError where
  | invalidDsl (message : String)
  | guardrail (rule limit : String)
  | tooLarge
  | survivorUnbounded
  | execution (source : Error)
  deriving DecidableEq, Repr

/-- Comparison operators. -/
inductive Cmp where
  | eq | ne | lt | le | gt | ge | isIn | notIn | like | notLike
  deriving DecidableEq, Repr

inductive SetOpKind where
  | intersect | union | minus
  deriving DecidableEq, Repr

/-- A comparison predicate; its value is bound, not rendered. -/
structure Predicate where
  column : String
  op : Cmp
  value : Json

/-- A metric over the event rows of the survivors. -/
inductive JitMetric where
  | count (event : Dataset)
  | sum (event : Dataset) (column : String)
  | avg (event : Dataset) (column : String)
  | min (event : Dataset) (column : String)
  | max (event : Dataset) (column : String)
  deriving DecidableEq

mutual

/-- One operation. -/
inductive Op where
  | filter (predicate : Predicate)
  | recency (event : Dataset) (userKey tsColumn : String) (withinDays : Nat)
      (predicate : Option Predicate)
  | lapsed (event : Dataset) (userKey tsColumn : String) (withinDays : Nat)
      (predicate : Option Predicate)
  | setOp (op : SetOpKind) (other : SegmentQuery)
  | exclude (campaignId : String)
  | feature (name : String) (op : Cmp) (value : F64)
  | derive (name : String) (metric : JitMetric)
  | similar
  | characterize (event : Dataset) (tsColumn monetaryColumn categoryColumn : String)

/-- The `key` values of `source` that the operations leave. -/
structure SegmentQuery where
  source : Dataset
  key : String
  ops : List Op
  asOf : Option String

end

/-- `has_derive`. -/
def hasDerive (q : SegmentQuery) : Bool :=
  q.ops.any fun
    | .derive .. => true
    | _ => false

/-- `has_characterize`. -/
def hasCharacterize (q : SegmentQuery) : Bool :=
  q.ops.any fun
    | .characterize .. => true
    | _ => false

/-- Induction over the nesting of set operations. -/
@[elab_as_elim] theorem SegmentQuery.nested {holds : SegmentQuery → Prop}
    (step : ∀ q : SegmentQuery, (∀ kind other, Op.setOp kind other ∈ q.ops → holds other) → holds q)
    (q : SegmentQuery) : holds q := by
  refine @SegmentQuery.rec (fun op => ∀ kind other, op = .setOp kind other → holds other) holds
    (fun ops => ∀ kind other, Op.setOp kind other ∈ ops → holds other)
    ?filter ?recency ?lapsed ?setOp ?exclude ?feature ?derive ?similar ?characterize ?query ?nil
    ?cons q
  case setOp =>
    intro kind other inner _ _ same
    cases same
    exact inner
  case query => exact fun source key ops asOf inner => step ⟨source, key, ops, asOf⟩ inner
  case nil => exact fun _ _ member => absurd member List.not_mem_nil
  case cons =>
    intro op ops head tail kind other member
    rcases List.mem_cons.mp member with same | later
    · exact head kind other same.symm
    · exact tail kind other later
  all_goals
    intros
    contradiction

/-- A segment inside a query, and how many set operations deep it stands. -/
inductive Nested : SegmentQuery → Nat → SegmentQuery → Prop where
  | here (q : SegmentQuery) : Nested q 0 q
  | branch {q other inner : SegmentQuery} {kind : SetOpKind} {depth : Nat}
      (member : Op.setOp kind other ∈ q.ops) (below : Nested other depth inner) :
      Nested q (depth + 1) inner

theorem forall_nested {holds : Nat → SegmentQuery → Prop} {q : SegmentQuery} :
    (∀ depth inner, Nested q depth inner → holds depth inner) ↔
      holds 0 q ∧ ∀ kind other, Op.setOp kind other ∈ q.ops →
        ∀ depth inner, Nested other depth inner → holds (depth + 1) inner := by
  constructor
  · intro all
    exact ⟨all 0 q (.here q), fun kind other member depth inner below =>
      all (depth + 1) inner (.branch member below)⟩
  · rintro ⟨here, branches⟩ depth inner nested
    cases nested with
    | here => exact here
    | branch member below => exact branches _ _ member _ _ below

end ConsumerEngine.Query
