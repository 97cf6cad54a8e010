import ConsumerEngine.Query.Answers
import ConsumerEngine.Query.PlainEngine

/-! Users by the age of their events: those with a recent one, and those with older ones only. -/

set_option autoImplicit false

namespace ConsumerEngine.Query

open ConsumerEngine.Core ConsumerEngine.Sql ConsumerEngine.Storage

/-- A query with one more operation. -/
def SegmentQuery.also (q : SegmentQuery) (op : Op) : SegmentQuery := { q with ops := q.ops ++ [op] }

section
variable {V : Type}

/-- A timestamp is null only where its text is, and lies before the start of a window or not. -/
structure Timeline (E : Engine V) : Prop where
  cast_null : E.cast "timestamp" E.null = some E.null
  beside : ∀ s time days start, E.cast "timestamp" (E.text s) = some time →
    E.daysAgo days = some start → ∃ late : Bool,
      E.compare .ge time start = .ofBool late ∧ E.compare .lt time start = .ofBool !late

/-- The text an accepted query compiles to returns a table. -/
structure Answered [DecidableEq V] (isRfc3339 : String → Bool) (E : Engine V)
    (opts : CompileOptions) (catalog : Catalog) (q : SegmentQuery) (table : Table V) : Prop where
  valid : validate isRfc3339 q = .ok ()
  ran : ∃ compiled, compileWithOpts q opts = .ok compiled ∧
    Sql.execute E.toScalars (E.tables opts.catalog catalog) compiled.sql compiled.params = some table

/-- The user has an event that meets the predicate and has a time. -/
def Engine.active (E : Engine V) (events : Multiset RawRow) (userKey tsColumn : String)
    (predicate : Option Predicate) (user : Cell) : Prop :=
  ∃ row ∈ events, joins (row (foldName userKey)) user = true ∧
    (∀ p ∈ predicate, E.predicate p row = .yes) ∧ row (foldName tsColumn) ≠ none

variable {E : Engine V} {events : Multiset RawRow} {userKey tsColumn : String}
  {predicate : Option Predicate} {user : Cell} {days : Nat}

theorem within_dated (timeline : Timeline E) {comparison : Comparison} {row : RawRow}
    (yes : E.within tsColumn comparison days row = .yes) : row (foldName tsColumn) ≠ none := by
  intro empty
  rw [Engine.within, empty, Engine.cell, Option.elim_none, timeline.cast_null] at yes
  cases start : E.daysAgo days with
  | none =>
    rw [start] at yes
    cases yes
  | some start_ =>
    rw [start, compared, (E.compare_null comparison start_).1] at yes
    cases yes

/-- An event with a time, where neither comparison fails, is on one side of the start. -/
theorem within_beside (timeline : Timeline E) {row : RawRow} (dated : row (foldName tsColumn) ≠ none)
    (runs : E.within tsColumn .ge days row ≠ .failed) : ∃ late : Bool,
      E.within tsColumn .ge days row = .ofBool late ∧
        E.within tsColumn .lt days row = .ofBool !late := by
  obtain ⟨s, text⟩ := Option.ne_none_iff_exists'.mp dated
  rw [Engine.within, text] at runs
  rw [Engine.within, Engine.within, text]
  simp only [Engine.cell, Option.elim_some] at runs ⊢
  cases time : E.cast "timestamp" (E.text s) with
  | none =>
    rw [time] at runs
    exact absurd rfl runs
  | some time_ =>
    cases start : E.daysAgo days with
    | none =>
      rw [time, start] at runs
      exact absurd rfl runs
    | some start_ => exact timeline.beside s time_ days start_ time start

/-- What an event has to meet besides its user. -/
def Engine.counts (E : Engine V) (tsColumn : String) (comparison : Comparison) (days : Nat)
    (predicate : Option Predicate) (row : RawRow) : Truth :=
  Truth.all ((predicate.map (E.predicate · row)).toList ++ [E.within tsColumn comparison days row])

theorem counts_eq {comparison : Comparison} {row : RawRow} :
    E.counts tsColumn comparison days predicate row =
      (Truth.all (predicate.map (E.predicate · row)).toList).both
        (E.within tsColumn comparison days row) := by
  rw [Engine.counts, Truth.all_append, Truth.all_cons, Truth.all_nil, Truth.both_yes]

theorem meets_predicate {row : RawRow} :
    Truth.all (predicate.map (E.predicate · row)).toList = .yes ↔
      ∀ p ∈ predicate, E.predicate p row = .yes := by
  cases predicate with
  | none => exact iff_of_true rfl fun p present => (by cases present)
  | some p => simp only [Option.map_some, Option.toList_some, Truth.all_cons, Truth.all_nil,
      Truth.both_yes, Option.mem_def, Option.some.injEq, forall_eq']

theorem happened_yes {comparison : Comparison} :
    E.happened events userKey tsColumn comparison days predicate user = .yes ↔
      E.happened events userKey tsColumn comparison days predicate user ≠ .failed ∧
        ∃ row ∈ events, joins (row (foldName userKey)) user = true ∧
          E.counts tsColumn comparison days predicate row = .yes := by
  rw [Engine.happened, found_eq_yes, found_ne_failed]
  refine and_congr_right fun _ => exists_congr fun row => ?_
  rw [Multiset.mem_filter, and_assoc]
  rfl

theorem active_of_happened (timeline : Timeline E) {comparison : Comparison}
    (yes : E.happened events userKey tsColumn comparison days predicate user = .yes) :
    E.active events userKey tsColumn predicate user := by
  obtain ⟨-, row, member, joined, counted⟩ := happened_yes.mp yes
  rw [counts_eq, Truth.both_eq_yes, meets_predicate] at counted
  exact ⟨row, member, joined, counted.1, within_dated timeline counted.2⟩

/-- Of an active user, a recent event is found, or only older ones are. -/
theorem happened_of_active (timeline : Timeline E)
    (active : E.active events userKey tsColumn predicate user)
    (recent : E.happened events userKey tsColumn .ge days predicate user ≠ .failed) :
    E.happened events userKey tsColumn .ge days predicate user = .yes ∨
      (E.happened events userKey tsColumn .lt days predicate user ≠ .failed →
        E.happened events userKey tsColumn .lt days predicate user = .yes) := by
  obtain ⟨row, member, joined, meets, dated⟩ := active
  have whole (comparison : Comparison) : E.counts tsColumn comparison days predicate row =
      E.within tsColumn comparison days row := by
    rw [counts_eq, meets_predicate.mpr meets, Truth.yes_both]
  have runs := found_ne_failed.mp recent row (Multiset.mem_filter.mpr ⟨member, joined⟩)
  obtain ⟨late, after, before⟩ := within_beside timeline dated ((whole .ge).symm.trans_ne runs)
  cases late with
  | true => exact .inl (happened_yes.mpr ⟨recent, row, member, joined, (whole .ge).trans after⟩)
  | false =>
    exact .inr fun runs => happened_yes.mpr ⟨runs, row, member, joined, (whole .lt).trans before⟩

end

section
variable {V : Type} {E : Engine V} {population : Population} {source : Dataset} {key : String}
  {asOf : Option String} {ops : List Op}

/-- The survivors of one level, and that no condition fails of any row. -/
theorem mem_level {users : Finset Cell} (selected : population.level E source key asOf ops = some users) :
    (∀ row ∈ population.rows source,
      Truth.all (ops.map (population.meets E asOf row (row (foldName key)))) ≠ .failed) ∧
    ∀ user, user ∈ users ↔ ∃ row ∈ population.rows source, row (foldName key) = user ∧
      Truth.all (ops.map (population.meets E asOf row user)) = .yes := by
  obtain ⟨kept, keeps, rfl⟩ := Option.map_eq_some_iff.mp selected
  obtain ⟨runs, rfl⟩ := keep_eq_some.mp keeps
  refine ⟨runs, fun user => ?_⟩
  simp only [Multiset.mem_toFinset, Multiset.mem_map, Multiset.mem_filter]
  constructor
  · rintro ⟨row, ⟨member, yes⟩, rfl⟩
    exact ⟨row, member, rfl, yes⟩
  · rintro ⟨row, member, rfl, yes⟩
    exact ⟨row, ⟨member, yes⟩, rfl⟩

theorem all_concat {op : Op} {row : RawRow} {user : Cell} :
    Truth.all ((ops ++ [op]).map (population.meets E asOf row user)) =
      (Truth.all (ops.map (population.meets E asOf row user))).both
        (population.meets E asOf row user op) := by
  rw [List.map_append, Truth.all_append, List.map_singleton, Truth.all_cons, Truth.all_nil,
    Truth.both_yes]

/-- The survivors of a level with one more operation, which asks for nothing but the user. -/
theorem mem_level_also {op : Op} {users more : Finset Cell} (met : Cell → Truth)
    (byUser : ∀ row user, population.meets E asOf row user op = met user)
    (selected : population.level E source key asOf ops = some users)
    (narrowed : population.level E source key asOf (ops ++ [op]) = some more) :
    (∀ user, user ∈ more ↔ user ∈ users ∧ met user = .yes) ∧ ∀ user ∈ users, met user ≠ .failed := by
  obtain ⟨-, own⟩ := mem_level selected
  obtain ⟨runs, both⟩ := mem_level narrowed
  refine ⟨fun user => ?_, fun user member => ?_⟩
  · rw [both, own]
    simp only [all_concat, byUser, Truth.both_eq_yes]
    constructor
    · rintro ⟨row, member, same, yes, met⟩
      exact ⟨⟨row, member, same, yes⟩, met⟩
    · rintro ⟨⟨row, member, same, yes⟩, met⟩
      exact ⟨row, member, same, yes, met⟩
  · obtain ⟨row, stored, rfl, yes⟩ := (own user).mp member
    have whole := runs row stored
    rwa [all_concat, yes, Truth.yes_both, byUser] at whole

/-- Every operation in front of another one narrows. -/
theorem narrows_before {op : Op}
    (positions : validatePositions false (ops ++ [op]) = .ok ()) : ∀ op ∈ ops, op.narrows = true := by
  obtain ⟨narrowing, last, split, each, ending⟩ := validatePositions_ok positions
  rcases ending with rfl | ⟨only, rfl, placed⟩
  · rw [List.append_nil] at split
    exact fun other member => each other (split ▸ List.mem_append_left _ member)
  · obtain ⟨rfl, same⟩ := List.append_inj' split rfl
    exact each

theorem Answered.level [DecidableEq V] {isRfc3339 : String → Bool} {opts : CompileOptions}
    {catalog : Catalog} {q : SegmentQuery} {table : Table V}
    (answered : Answered isRfc3339 E opts catalog q table)
    (narrows : ∀ op ∈ q.ops, op.narrows = true) :
    ∃ users, (E.population opts catalog).level E q.source q.key q.asOf q.ops = some users ∧
      table = E.keyTable (foldName q.key) users := by
  obtain ⟨source, key, ops, asOf⟩ := q
  obtain ⟨compiled, returned, ran⟩ := answered.ran
  rw [execute_rows answered.valid returned (hasDerive_narrowing narrows)] at ran
  split at ran
  · rw [survivors_level narrows] at ran
    obtain ⟨users, selected, rfl⟩ := Option.map_eq_some_iff.mp ran
    exact ⟨users, selected, rfl⟩
  · cases ran

end

/-- The users with a recent event and those with older ones only share no user, and together are
the users with an event at all. -/
theorem recency_lapsed_partition {V : Type} [DecidableEq V] {E : Engine V} (timeline : Timeline E)
    {isRfc3339 : String → Bool} {opts : CompileOptions} {catalog : Catalog} {q : SegmentQuery}
    {event : Dataset} {userKey tsColumn : String} {days : Nat} {predicate : Option Predicate}
    {all recent lapsed : Table V} (base : Answered isRfc3339 E opts catalog q all)
    (within : Answered isRfc3339 E opts catalog
      (q.also (.recency event userKey tsColumn days predicate)) recent)
    (before : Answered isRfc3339 E opts catalog
      (q.also (.lapsed event userKey tsColumn days predicate)) lapsed) :
    ∃ users recentUsers lapsedUsers : Finset Cell,
      all = E.keyTable (foldName q.key) users ∧
      recent = E.keyTable (foldName q.key) recentUsers ∧
      lapsed = E.keyTable (foldName q.key) lapsedUsers ∧
      Disjoint recentUsers lapsedUsers ∧
      ∀ user, user ∈ recentUsers ∪ lapsedUsers ↔ user ∈ users ∧
        E.active (ownRows catalog opts.tenant event) userKey tsColumn predicate user := by
  have own := narrows_before (validate_ok within.valid).positions
  have narrows {op : Op} (narrow : op.narrows = true) :
      ∀ each ∈ (q.also op).ops, each.narrows = true :=
    List.forall_mem_append.mpr ⟨own, List.forall_mem_singleton.mpr narrow⟩
  obtain ⟨users, selected, rfl⟩ := base.level own
  obtain ⟨recentUsers, gathered, rfl⟩ := within.level (narrows rfl)
  obtain ⟨lapsedUsers, left, rfl⟩ := before.level (narrows rfl)
  obtain ⟨isRecent, recentRuns⟩ := mem_level_also
    (E.happened (ownRows catalog opts.tenant event) userKey tsColumn .ge days predicate)
    (fun row user => rfl) selected gathered
  obtain ⟨isLapsed, lapsedRuns⟩ := mem_level_also (fun user =>
    (E.happened (ownRows catalog opts.tenant event) userKey tsColumn .lt days predicate user).both
      (E.happened (ownRows catalog opts.tenant event) userKey tsColumn .ge days predicate user).negate)
    (fun row user => rfl) selected left
  refine ⟨users, recentUsers, lapsedUsers, rfl, rfl, rfl, ?_, fun user => ?_⟩
  · refine Finset.disjoint_left.mpr fun user recent lapsed => ?_
    have found := ((isRecent user).mp recent).2
    have missed := (Truth.both_eq_yes.mp ((isLapsed user).mp lapsed).2).2
    rw [found] at missed
    cases missed
  · rw [Finset.mem_union, isRecent, isLapsed, ← and_or_left]
    refine and_congr_right fun member => ⟨?_, fun active => ?_⟩
    · rintro (recent | lapsed)
      · exact active_of_happened timeline recent
      · exact active_of_happened timeline (Truth.both_eq_yes.mp lapsed).1
    · have runs := recentRuns user member
      have whole := lapsedRuns user member
      cases recent : E.happened (ownRows catalog opts.tenant event) userKey tsColumn .ge days predicate
          user with
      | failed => exact absurd recent runs
      | unknown => exact absurd recent found_ne_unknown
      | yes => exact .inl rfl
      | no =>
        have older := (happened_of_active timeline active runs).resolve_left fun yes =>
          Truth.noConfusion (recent.symm.trans yes)
        simp only [recent, Truth.negate, Truth.both_yes] at whole ⊢
        exact .inr (older whole)

theorem plain_daysAgo (now : Int) (read : String → Option Int) (days : Nat) :
    ∃ start, (plainEngine now read).daysAgo days = some (.timestamp start) := by
  refine ⟨now - days * Datum.microsPerDay, ?_⟩
  simp [Engine.daysAgo, plainEngine, plainScalars, Datum.call, Datum.cast, Datum.minus,
    Nat.toNat?_repr]

theorem plain_timeline (now : Int) (read : String → Option Int) : Timeline (plainEngine now read) where
  cast_null := rfl
  beside := by
    intro s time days start cast ago
    obtain ⟨micros, -, rfl⟩ : ∃ micros, read s = some micros ∧ Datum.timestamp micros = time := by
      simpa [plainEngine, plainScalars, Datum.cast] using cast
    obtain ⟨began, same⟩ := plain_daysAgo now read days
    rw [same] at ago
    cases ago
    refine ⟨_, rfl, ?_⟩
    simp [plainEngine, plainScalars, Datum.compare, Datum.ordered]

/-- One user with one order, at the time the queries run. -/
def orderedToday : Catalog :=
  Catalog.empty.setRaw "raw_erp_orders" ⟨["user_id", "tenant_id", "ts"],
    {rowOf ["user_id", "tenant_id", "ts"] [some "u1", some "acme", some "today"]}⟩

def orderers : SegmentQuery := ⟨⟨"erp", "orders"⟩, "user_id", [], none⟩

/-- Where every text is a time, no window fails of any row. -/
theorem plain_within {tsColumn : String} {comparison : Comparison}
    (sided : comparison = .ge ∨ comparison = .lt) {days : Nat} {row : RawRow} :
    (plainEngine 0 fun _ => some 0).within tsColumn comparison days row ≠ .failed := by
  obtain ⟨began, same⟩ := plain_daysAgo 0 (fun _ => some 0) days
  rw [Engine.within, same]
  cases row (foldName tsColumn) with
  | none => exact Truth.noConfusion
  | some s => rcases sided with rfl | rfl <;> exact Truth.ofBool_ne_failed _

theorem plain_happened {events : Multiset RawRow} {userKey tsColumn : String}
    {comparison : Comparison} (sided : comparison = .ge ∨ comparison = .lt) {days : Nat} {user : Cell} :
    ∃ b, (plainEngine 0 fun _ => some 0).happened events userKey tsColumn comparison days none user =
      .ofBool b := by
  rw [Engine.happened, keep_eq_some.mpr ⟨fun row _ => ?_, rfl⟩]
  · exact ⟨_, rfl⟩
  · rw [Option.map_none, Option.toList_none, List.nil_append, Truth.all_cons, Truth.all_nil,
      Truth.both_yes]
    exact plain_within sided

/-- A query over the orders runs where no condition fails. -/
theorem orderers_answered {ops : List Op} (narrows : ∀ op ∈ ops, op.narrows = true)
    (valid : validate (fun _ => true) { orderers with ops } = .ok ())
    (compiles : ∃ compiled, compileWithOpts { orderers with ops } (readOptions "acme") = .ok compiled)
    (named : isScoped ((plainEngine 0 fun _ => some 0).tables (readOptions "acme").catalog orderedToday)
      (phraseAt (readOptions "acme") { orderers with ops }) = true)
    (runs : ∀ row user, Truth.all (ops.map (((plainEngine 0 fun _ => some 0).population
      (readOptions "acme") orderedToday).meets (plainEngine 0 fun _ => some 0) none row user)) ≠
        .failed) :
    ∃ table, Answered (fun _ => true) (plainEngine 0 fun _ => some 0) (readOptions "acme") orderedToday
      { orderers with ops } table := by
  obtain ⟨compiled, returned⟩ := compiles
  have ran := @execute_rows _ _ (plainEngine 0 fun _ => some 0) (readOptions "acme") orderedToday _ _ _
    _ valid returned (hasDerive_narrowing narrows)
  rw [if_pos named, orderers, survivors_level narrows, Population.level,
    keep_eq_some.mpr ⟨fun row _ => runs row _, rfl⟩] at ran
  exact ⟨_, valid, compiled, returned, ran⟩

/-- Both windows over the orders of one user. -/
theorem recency_lapsed_partition_orderers : ∃ users recentUsers lapsedUsers : Finset Cell,
    Disjoint recentUsers lapsedUsers ∧
      ∀ user, user ∈ recentUsers ∪ lapsedUsers ↔ user ∈ users ∧
        (plainEngine 0 fun _ => some 0).active (ownRows orderedToday "acme" ⟨"erp", "orders"⟩)
          "user_id" "ts" none user := by
  obtain ⟨all, base⟩ := @orderers_answered [] (by decide) rfl ⟨_, rfl⟩ rfl
    fun row user => Truth.noConfusion
  obtain ⟨recent, within⟩ := @orderers_answered
    [.recency ⟨"erp", "orders"⟩ "user_id" "ts" 30 none] (by simp [Op.narrows]) rfl ⟨_, rfl⟩ rfl
    fun row user => by
      obtain ⟨b, same⟩ := plain_happened (.inl rfl)
      rw [List.map_singleton, Truth.all_cons, Truth.all_nil, Truth.both_yes, Population.meets, same]
      exact Truth.ofBool_ne_failed b
  obtain ⟨lapsed, before⟩ := @orderers_answered
    [.lapsed ⟨"erp", "orders"⟩ "user_id" "ts" 30 none] (by simp [Op.narrows]) rfl ⟨_, rfl⟩ rfl
    fun row user => by
      obtain ⟨early, same⟩ := plain_happened (.inr rfl)
      obtain ⟨late, other⟩ := plain_happened (.inl rfl)
      rw [List.map_singleton, Truth.all_cons, Truth.all_nil, Truth.both_yes, Population.meets, same,
        other, Truth.negate_ofBool, Truth.both_ofBool]
      exact Truth.ofBool_ne_failed _
  obtain ⟨users, recentUsers, lapsedUsers, -, -, -, apart, together⟩ :=
    recency_lapsed_partition (plain_timeline 0 fun _ => some 0) (q := orderers) base within before
  exact ⟨users, recentUsers, lapsedUsers, apart, together⟩

end ConsumerEngine.Query
