import Mathlib.Data.Finset.Dedup
import Mathlib.Data.Finset.Image
import Mathlib.Data.Finset.SDiff
import ConsumerEngine.Query.Database

/-! What a query asks for, over the rows of one tenant.

A survivor is a key of a base row that meets every operation of its level; set operations combine
survivors, and a metric sums up the events of the survivors.
-/

set_option autoImplicit false

namespace ConsumerEngine.Query

open ConsumerEngine.Core ConsumerEngine.Sql ConsumerEngine.Storage

/-! ### Conditions on one row -/

section
variable {V : Type} (E : Engine V)

def Engine.among (value : V) (items : List Json) : Truth :=
  Truth.any (items.map fun item => E.compare .eq value (E.bound (valueOf item)))

def Engine.predicate (p : Predicate) (row : RawRow) : Truth :=
  let value := E.cell (row (foldName p.column))
  match p.op with
  | .isIn => E.among value ((asArray p.value).getD [])
  | .notIn => (E.among value ((asArray p.value).getD [])).negate
  | op => E.compare op.comparison value (E.bound (valueOf p.value))

/-- The start of a window of days that ends now. -/
def Engine.daysAgo (days : Nat) : Option V := do
  let now ← (E.call "now" []).bind (E.cast "timestamp")
  E.minus now (E.interval (toString days) "day")

/-- Instants, and counts, compared as the engine compares them; `start` is when a window of
some days that ends now begins. -/
structure Clock (E : Engine V) where
  start : Nat → Int
  days_ago : ∀ days, (E.daysAgo days).bind (E.cast "timestamptz") = some (E.instant (start days))
  compare_instant : ∀ a b, E.compare .ge (E.instant a) (E.instant b) = .ofBool (decide (b ≤ a))
  compare_count : ∀ n m : Nat,
    E.compare .ge (E.bigint n) (E.bound (.bigInt m)) = .ofBool (decide (m ≤ n))

def Engine.within (tsColumn : String) (comparison : Comparison) (days : Nat) (row : RawRow) :
    Truth :=
  compared E.toScalars comparison (E.cast "timestamp" (E.cell (row (foldName tsColumn))))
    (E.daysAgo days)

/-- Whether the user has an event that meets the predicate and the window. -/
def Engine.happened (events : Multiset RawRow) (userKey tsColumn : String) (comparison : Comparison)
    (days : Nat) (predicate : Option Predicate) (user : Cell) : Truth :=
  found (keep (fun row => Truth.all ((predicate.map (E.predicate · row)).toList ++
      [E.within tsColumn comparison days row]))
    (events.filter fun row => joins (row (foldName userKey)) user))

/-! ### Survivors -/

/-- The data of one tenant, as the operations see it: the rows of a dataset, the users an exclusion
spares, the users with a feature that compares as asked, by the cut-off. -/
structure Population where
  rows : Dataset → Multiset RawRow
  spares : String → Cell → Truth
  featured : Option String → String → Cmp → F64 → Cell → Truth

namespace Population

variable (population : Population)

/-- Whether a row and its user meet an operation. -/
def meets (asOf : Option String) (row : RawRow) (user : Cell) : Op → Truth
  | .filter predicate => E.predicate predicate row
  | .recency event userKey tsColumn withinDays predicate =>
      E.happened (population.rows event) userKey tsColumn .ge withinDays predicate user
  | .lapsed event userKey tsColumn withinDays predicate =>
      (E.happened (population.rows event) userKey tsColumn .lt withinDays predicate user).both
        (E.happened (population.rows event) userKey tsColumn .ge withinDays predicate user).negate
  | .feature name op value => population.featured asOf name op value user
  | .exclude campaignId => population.spares campaignId user
  | .setOp .. | .derive .. | .similar | .characterize .. => .yes

/-- The keys of the rows that meet every operation. -/
def level (source : Dataset) (key : String) (asOf : Option String) (ops : List Op) :
    Option (Finset Cell) :=
  (keep (fun row => Truth.all (ops.map (population.meets E asOf row (row (foldName key)))))
    (population.rows source)).map fun kept => (kept.map fun row => row (foldName key)).toFinset

/-- What a set operation makes of the survivors of its two sides. -/
def combined : SetOpKind → Finset Cell → Finset Cell → Finset Cell
  | .intersect, mine, others => mine ∩ others
  | .union, mine, others => mine ∪ others
  | .minus, mine, others => mine \ others

mutual

/-- The survivors of a query. -/
def survivors (q : SegmentQuery) : Option (Finset Cell) :=
  match q with
  | ⟨source, key, ops, asOf⟩ =>
      (population.level E source key asOf ops).bind fun mine => closing mine ops
termination_by structural q

/-- The survivors of a level, combined with those of its set operation. -/
def closing (mine : Finset Cell) (ops : List Op) : Option (Finset Cell) :=
  match ops with
  | [] => some mine
  | .setOp kind other :: _ => (survivors other).map (combined kind mine)
  | _ :: rest => closing mine rest
termination_by structural ops

end

/-! ### Answers -/

end Population

/-- An aggregate over a column. -/
def Engine.summedUp (function column : String) (events : Multiset RawRow) : Option V :=
  (mapAll (fun row => (E.cast "double" (E.cell (row (foldName column)))).map ([·])) events).bind
    (E.aggregate function)

def Engine.metric (metric : JitMetric) (events : Multiset RawRow) : Option V :=
  match metric with
  | .count _ => E.aggregate "count" (events.map fun _ => [])
  | .sum _ column => E.summedUp "sum" column events
  | .avg _ column => E.summedUp "avg" column events
  | .min _ column => E.summedUp "min" column events
  | .max _ column => E.summedUp "max" column events

/-- The events of some users, each once. -/
def eventsOf (users : Finset Cell) (events : Multiset RawRow) : Multiset RawRow :=
  events.filter fun row => row "user_id" ≠ none ∧ row "user_id" ∈ users

def Engine.metricTable (name : String) (value : V) : Table V :=
  ⟨["name", "value"], {[E.bound (.text name), value]}⟩

def Engine.keyTable (column : String) (users : Finset Cell) : Table V :=
  ⟨[column], users.val.map fun user => [E.cell user]⟩

/-- The answer to a query: a metric over the events of the survivors, or the survivors. -/
def Population.answer (population : Population) (q : SegmentQuery) : Option (Table V) := do
  let users ← population.survivors E q
  match q.ops.getLast? with
  | some (.derive name metric) =>
      let value ← E.metric metric (eventsOf users (population.rows (metricEvent metric)))
      return E.metricTable name value
  | _ => return E.keyTable (foldName q.key) users

end

/-! ### Populations that agree -/

section
variable {V : Type} {E : Engine V} {population other : Population}

/-- A feature, as some level of a query asks for it. -/
def Asks (q : SegmentQuery) (asOf : Option String) (name : String) (op : Cmp) (value : F64) : Prop :=
  ∃ depth inner, Nested q depth inner ∧ inner.asOf = asOf ∧ Op.feature name op value ∈ inner.ops

/-- Populations that a query cannot tell apart. -/
structure Indistinct (population other : Population) (q : SegmentQuery) : Prop where
  rows : population.rows = other.rows
  spares : population.spares = other.spares
  featured : ∀ asOf name op value, Asks q asOf name op value →
    population.featured asOf name op value = other.featured asOf name op value

theorem Indistinct.branch {q inner : SegmentQuery} {kind : SetOpKind}
    (same : Indistinct population other q) (member : Op.setOp kind inner ∈ q.ops) :
    Indistinct population other inner where
  rows := same.rows
  spares := same.spares
  featured := by
    rintro asOf name op value ⟨depth, level, nested, found⟩
    exact same.featured asOf name op value ⟨depth + 1, level, .branch member nested, found⟩

theorem Indistinct.level {q : SegmentQuery} (same : Indistinct population other q) :
    population.level E q.source q.key q.asOf q.ops = other.level E q.source q.key q.asOf q.ops := by
  have meets (row : RawRow) (user : Cell) : ∀ op ∈ q.ops,
      population.meets E q.asOf row user op = other.meets E q.asOf row user op := by
    intro op member
    cases op with
    | recency | lapsed => simp only [Population.meets, same.rows]
    | exclude => simp only [Population.meets, same.spares]
    | feature name op value =>
      simp only [Population.meets]
      rw [same.featured q.asOf name op value ⟨0, q, .here q, rfl, member⟩]
    | _ => rfl
  unfold Population.level
  rw [same.rows]
  refine congrArg (Option.map _) (keep_congr fun row _ => congrArg Truth.all ?_)
  exact List.map_congr_left (meets row _)

theorem closing_congr {ops : List Op} (same : ∀ kind inner, Op.setOp kind inner ∈ ops →
    population.survivors E inner = other.survivors E inner) (mine : Finset Cell) :
    population.closing E mine ops = other.closing E mine ops := by
  induction ops with
  | nil => rfl
  | cons op rest ih =>
    have later := ih fun kind inner member => same kind inner (List.mem_cons_of_mem _ member)
    cases op with
    | setOp kind inner =>
      rw [Population.closing, Population.closing, same kind inner List.mem_cons_self]
    | _ => exact later

theorem Indistinct.survivors (q : SegmentQuery) (same : Indistinct population other q) :
    population.survivors E q = other.survivors E q := by
  induction q using SegmentQuery.nested with
  | step q branches =>
    have level := @Indistinct.level _ E _ _ _ same
    have closes := @closing_congr _ E _ _ _ fun kind inner member =>
      branches kind inner member (same.branch member)
    obtain ⟨source, key, ops, asOf⟩ := q
    rw [Population.survivors, Population.survivors, level]
    exact congrArg _ (funext closes)

/-- Populations that a query cannot tell apart answer alike. -/
theorem Indistinct.answer {q : SegmentQuery} (same : Indistinct population other q) :
    population.answer E q = other.answer E q := by
  unfold Population.answer
  rw [same.survivors, same.rows]

/-! ### The survivors of each shape -/

variable {source : Dataset} {key : String} {asOf : Option String} {ops : List Op}

theorem closing_narrowing {mine : Finset Cell} (last : List Op)
    (narrows : ∀ op ∈ ops, op.narrows = true) :
    population.closing E mine (ops ++ last) = population.closing E mine last := by
  induction ops with
  | nil => rfl
  | cons op rest ih =>
    obtain ⟨here, later⟩ := List.forall_mem_cons.mp narrows
    rw [List.cons_append, ← ih later]
    cases op with
    | setOp => cases here
    | _ => rfl

theorem level_concat {op : Op} (wide : ∀ row user, population.meets E asOf row user op = .yes) :
    population.level E source key asOf (ops ++ [op]) = population.level E source key asOf ops := by
  unfold Population.level
  simp only [List.map_append, Truth.all_append, List.map_cons, List.map_nil, wide, Truth.all_cons,
    Truth.all_nil, Truth.both_yes]

theorem survivors_level (narrows : ∀ op ∈ ops, op.narrows = true) :
    population.survivors E ⟨source, key, ops, asOf⟩ = population.level E source key asOf ops := by
  have closes (mine : Finset Cell) : population.closing E mine ops = some mine := by
    have all := @closing_narrowing _ E population ops mine [] narrows
    rwa [List.append_nil] at all
  rw [Population.survivors, funext closes, Option.bind_fun_some]

theorem survivors_setOp {kind : SetOpKind} {inner : SegmentQuery}
    (narrows : ∀ op ∈ ops, op.narrows = true) :
    population.survivors E ⟨source, key, ops ++ [.setOp kind inner], asOf⟩ =
      (population.level E source key asOf ops).bind fun mine =>
        (population.survivors E inner).map (Population.combined kind mine) := by
  rw [Population.survivors, level_concat fun _ _ => rfl]
  exact congrArg _ (funext fun mine => (closing_narrowing _ narrows).trans rfl)

theorem survivors_derive {name : String} {metric : JitMetric}
    (narrows : ∀ op ∈ ops, op.narrows = true) :
    population.survivors E ⟨source, key, ops ++ [.derive name metric], asOf⟩ =
      population.level E source key asOf ops := by
  have closes (mine : Finset Cell) :
      population.closing E mine (ops ++ [.derive name metric]) = some mine :=
    (closing_narrowing _ narrows).trans rfl
  rw [Population.survivors, level_concat fun _ _ => rfl, funext closes, Option.bind_fun_some]

end

end ConsumerEngine.Query
