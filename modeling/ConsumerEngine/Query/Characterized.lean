import ConsumerEngine.Query.Figures
import ConsumerEngine.Query.PlainEngine
import ConsumerEngine.Query.Positions

/-! Profiles of segments: what the three queries of a profile report, and where they can be asked.

The queries join the segment by a column that it must have been selected under.
-/

set_option autoImplicit false

namespace ConsumerEngine.Query

open ConsumerEngine.Core ConsumerEngine.Foundation ConsumerEngine.Sql ConsumerEngine.Storage

/-! ### The segment -/

section
variable {isRfc3339 : String → Bool} {q : SegmentQuery} {narrowing : List Op} {op : Op}

/-- The narrowing before the last operation is accepted where the whole is. -/
theorem validate_stripLastOp (valid : validate isRfc3339 q = .ok ()) (split : q.ops = narrowing ++ [op])
    (narrows : ∀ op ∈ narrowing, op.narrows = true) : validate isRfc3339 (stripLastOp q) = .ok () := by
  obtain ⟨source, key, ops, asOf⟩ := q
  obtain rfl : ops = _ := split
  have level := validate_ok valid
  have early := validateOps_ok.mpr fun op member => level.ops op (List.mem_append_left _ member)
  have positions : validatePositions false narrowing = .ok () :=
    validatePositions_iff.mpr ⟨narrowing, [], (List.append_nil _).symm, narrows, .inl rfl⟩
  rw [stripLastOp, List.dropLast_concat]
  rw [validate] at valid ⊢
  obtain ⟨⟨⟩, system, rest⟩ := except_bind_eq_ok.mp valid
  obtain ⟨⟨⟩, entity, rest⟩ := except_bind_eq_ok.mp rest
  obtain ⟨⟨⟩, named, rest⟩ := except_bind_eq_ok.mp rest
  refine except_bind_eq_ok.mpr ⟨(), system, except_bind_eq_ok.mpr ⟨(), entity,
    except_bind_eq_ok.mpr ⟨(), named, ?_⟩⟩⟩
  have checked : (do validateOps isRfc3339 narrowing; validatePositions false narrowing) = .ok () :=
    except_bind_eq_ok.mpr ⟨(), early, positions⟩
  have fewer : narrowing.length ≤ (narrowing ++ [op]).length := by simp
  cases asOf with
  | none =>
    dsimp only at rest ⊢
    split at rest
    · cases rest
    · next few =>
      rw [if_neg (by omega)]
      exact checked
  | some ts =>
    dsimp only at rest ⊢
    split at rest
    · cases rest
    · next dated =>
      rw [if_neg dated]
      split at rest
      · cases rest
      · next few =>
        rw [if_neg (by omega)]
        exact checked

end

/-! ### Users of the segment -/

/-- `bool_or` of rows that agree. -/
def OrsBooleans {V : Type} (E : Engine V) : Prop :=
  ∀ (b : Bool) (rows : Multiset (List V)), rows ≠ 0 → (∀ row ∈ rows, row = [E.boolean b]) →
    E.aggregate "bool_or" rows = some (E.boolean b)

section
variable {V : Type} [DecidableEq V] {E : Engine V} {users : Finset Cell} {column : String}
  {pairs : Multiset (RawRow × V)}

omit [DecidableEq V] in
/-- The last event of a user, from what is drawn of the events. -/
theorem lastSeen_eq (drawn : ∀ pair ∈ pairs, E.drawn .recency column pair.1 = some pair.2) (user : Cell) :
    E.lastSeen column (pairs.map Prod.fst) user =
      E.aggregate "max" ((pairs.filter fun pair => pair.1 "user_id" = user).map fun pair => [pair.2]) := by
  have own : mapAll (fun row => (E.drawn .recency column row).map ([·]))
      ((pairs.map Prod.fst).filter fun row => row "user_id" = user) =
        some ((pairs.filter fun pair => pair.1 "user_id" = user).map fun pair => [pair.2]) := by
    rw [Multiset.filter_map, mapAll_map, ← mapAll_some]
    refine mapAll_congr fun pair member => ?_
    rw [drawn pair (Multiset.mem_of_mem_filter member), Option.map_some]
  rw [Engine.lastSeen, own, Option.bind_some]

omit [DecidableEq V] in
theorem perUser_eq (ors : OrsBooleans E)
    (drawn : ∀ pair ∈ pairs, E.drawn .recency column pair.1 = some pair.2) {user : Cell}
    (seen : user ∈ pairs.map fun pair => pair.1 "user_id") :
    E.perUser users pairs user = (E.lastSeen column (pairs.map Prod.fst) user).map fun last =>
      (E.boolean (decide (user ≠ none ∧ user ∈ users)), last) := by
  have some_ : (pairs.filter fun pair => pair.1 "user_id" = user).map
      (fun pair => [E.boolean (decide (InSegment users pair.1))]) ≠ 0 := by
    obtain ⟨pair, member, own⟩ := Multiset.mem_map.mp seen
    intro empty
    have none_ := Multiset.map_eq_zero.mp empty
    exact Multiset.filter_eq_nil.mp none_ pair member own
  have alike_ : ∀ row ∈ (pairs.filter fun pair => pair.1 "user_id" = user).map
      (fun pair => [E.boolean (decide (InSegment users pair.1))]),
        row = [E.boolean (decide (user ≠ none ∧ user ∈ users))] := by
    intro row member
    obtain ⟨pair, among, rfl⟩ := Multiset.mem_map.mp member
    obtain rfl := (Multiset.mem_filter.mp among).2
    rfl
  rw [Engine.perUser, ors _ _ some_ alike_, lastSeen_eq drawn]
  simp only [Option.bind_eq_bind, Option.bind_some, Option.pure_def, Option.map_eq_bind,
    Function.comp_def]

omit [DecidableEq V] in
/-- The average over users of `per_user` is that over their last events. -/
theorem averageDays_eq {events : Multiset RawRow} {rows : Multiset (Cell × V × V)}
    (seen : ∀ row ∈ rows, E.lastSeen column events row.1 = some row.2.2) :
    E.averageDays rows =
      (mapAll (fun user => ((E.lastSeen column events user).bind E.daysSince).map ([·]))
        (rows.map Prod.fst)).bind (E.aggregate "avg") := by
  rw [Engine.averageDays, mapAll_map]
  refine congrArg (fun rows => Option.bind rows (E.aggregate "avg")) (mapAll_congr fun row member => ?_)
  rw [seen row member, Option.bind_some]

/-- The users of the segment's events are the segment's among all users of events. -/
theorem usersOf_segment (users : Finset Cell) (events : Multiset RawRow) :
    ((eventsOf users events).map fun row => row "user_id").dedup =
      (events.map fun row => row "user_id").dedup.filter fun user => user ≠ none ∧ user ∈ users := by
  have mine : (eventsOf users events).map (fun row => row "user_id") =
      (events.map fun row => row "user_id").filter fun user => user ≠ none ∧ user ∈ users := by
    rw [eventsOf, Multiset.filter_map]
    rfl
  rw [mine]
  refine (Multiset.Nodup.ext (Multiset.nodup_dedup _) ((Multiset.nodup_dedup _).filter _)).mpr ?_
  intro user
  rw [Multiset.mem_dedup, Multiset.mem_filter, Multiset.mem_filter, Multiset.mem_dedup]

omit [DecidableEq V] in
theorem recencyOf_segment (events : Multiset RawRow) :
    E.recencyOf column (eventsOf users events) =
      (mapAll (fun user => ((E.lastSeen column events user).bind E.daysSince).map ([·]))
        ((events.map fun row => row "user_id").dedup.filter
          fun user => user ≠ none ∧ user ∈ users)).bind (E.aggregate "avg") := by
  rw [Engine.recencyOf, usersOf_segment]
  refine congrArg (fun rows => Option.bind rows (E.aggregate "avg")) (mapAll_congr fun user member => ?_)
  have own : (eventsOf users events).filter (fun row => row "user_id" = user) =
      events.filter fun row => row "user_id" = user := by
    rw [eventsOf, Multiset.filter_filter]
    refine Multiset.filter_congr fun row _ => and_iff_left_of_imp ?_
    rintro rfl
    exact (Multiset.mem_filter.mp member).2
  rw [Engine.lastSeen, own, Engine.lastSeen]

omit [DecidableEq V] in
theorem recencyOf_none {events : Multiset RawRow} {row : RawRow} (member : row ∈ events)
    (unseen : E.lastSeen column events (row "user_id") = none) : E.recencyOf column events = none := by
  have fails : mapAll (fun user => ((E.lastSeen column events user).bind E.daysSince).map ([·]))
      (events.map fun row => row "user_id").dedup = none := by
    refine mapAll_eq_none.mpr ⟨row "user_id", ?_, by rw [unseen]; rfl⟩
    exact Multiset.mem_dedup.mpr (Multiset.mem_map_of_mem (fun row : RawRow => row "user_id") member)
  rw [Engine.recencyOf, fails, Option.bind_none]

omit [DecidableEq V] in
theorem lastSeen_none {events : Multiset RawRow} {row : RawRow} (member : row ∈ events)
    (fails : E.drawn .recency column row = none) :
    E.lastSeen column events (row "user_id") = none := by
  have none_ : mapAll (fun row => (E.drawn .recency column row).map ([·]))
      (events.filter fun other => other "user_id" = row "user_id") = none :=
    mapAll_eq_none.mpr ⟨row, Multiset.mem_filter.mpr ⟨member, rfl⟩, by rw [fails]; rfl⟩
  rw [Engine.lastSeen, none_, Option.bind_none]

/-- Where the average over all users fails, so does the row of averages. -/
theorem profiled_recency_none {events : Multiset RawRow}
    (fails : E.recencyOf column events = none) :
    E.profiled column users events .recency = none := by
  rw [Engine.profiled, fails]
  cases E.recencyOf column (eventsOf users events) <;> rfl

/-- The averages over `per_user`, where it has the users of the events and their last ones. -/
theorem recencyRow_eq {events : Multiset RawRow} {rows : Multiset (Cell × V × V)}
    (keys : rows.map Prod.fst = (events.map fun row => row "user_id").dedup)
    (held : ∀ row ∈ rows, row.2.1 = E.boolean (decide (row.1 ≠ none ∧ row.1 ∈ users)) ∧
      E.lastSeen column events row.1 = some row.2.2) :
    E.recencyRow rows = E.profiled column users events .recency := by
  have kept : keep (fun row => E.truth row.2.1) rows =
      some (rows.filter fun row => row.1 ≠ none ∧ row.1 ∈ users) := by
    rw [← keep_ofBool]
    refine keep_congr fun row member => ?_
    rw [(held row member).1, E.truth_boolean]
  have mine : (rows.filter fun row => row.1 ≠ none ∧ row.1 ∈ users).map Prod.fst =
      (events.map fun row => row "user_id").dedup.filter fun user => user ≠ none ∧ user ∈ users := by
    rw [← keys, Multiset.filter_map]
    rfl
  rw [Engine.recencyRow, kept, Option.bind_eq_bind, Option.bind_some,
    averageDays_eq fun row member => (held row member).2,
    averageDays_eq fun row member => (held row (Multiset.mem_of_mem_filter member)).2, keys, mine,
    ← recencyOf_segment]
  rfl

/-- Each figure is reported over the segment's events and over all. -/
theorem reported_eq (ors : OrsBooleans E) (users : Finset Cell) (events : Multiset RawRow)
    (of : Figure) : E.reported column users events of = E.profiled column users events of := by
  cases of with
  | metrics | categories => rfl
  | recency =>
    rw [Engine.reported]
    cases made : mapAll (fun row => (E.drawn .recency column row).map (Prod.mk row)) events with
    | none =>
      obtain ⟨row, member, nothing⟩ := mapAll_eq_none.mp made
      have unseen := lastSeen_none member (Option.map_eq_none_iff.mp nothing)
      exact (profiled_recency_none (recencyOf_none member unseen)).symm
    | some pairs =>
      obtain ⟨whole, drawn⟩ := mapAll_paired made
      subst whole
      rw [Option.bind_some]
      cases grouped : mapAll (fun user => (E.perUser users pairs user).map (Prod.mk user))
          (pairs.map fun pair => pair.1 "user_id").dedup with
      | none =>
        obtain ⟨user, among, nothing⟩ := mapAll_eq_none.mp grouped
        have seen := Multiset.mem_dedup.mp among
        rw [Option.map_eq_none_iff, perUser_eq ors drawn seen, Option.map_eq_none_iff] at nothing
        obtain ⟨pair, member, rfl⟩ := Multiset.mem_map.mp seen
        have unseen := recencyOf_none (Multiset.mem_map_of_mem Prod.fst member) nothing
        exact (profiled_recency_none unseen).symm
      | some rows =>
        obtain ⟨keys, shown⟩ := mapAll_paired grouped
        have users_ : (rows.map Prod.fst) = ((pairs.map Prod.fst).map fun row => row "user_id").dedup := by
          rw [keys, Multiset.map_map]
          rfl
        have held : ∀ row ∈ rows, row.2.1 = E.boolean (decide (row.1 ≠ none ∧ row.1 ∈ users)) ∧
            E.lastSeen column (pairs.map Prod.fst) row.1 = some row.2.2 := by
          intro row member
          have seen : row.1 ∈ pairs.map fun pair => pair.1 "user_id" := by
            rw [← Multiset.mem_dedup, ← keys]
            exact Multiset.mem_map_of_mem Prod.fst member
          have made := shown row member
          rw [perUser_eq ors drawn seen] at made
          obtain ⟨last, found, same⟩ := Option.map_eq_some_iff.mp made
          rw [← same]
          exact ⟨rfl, found⟩
        exact recencyRow_eq users_ held

end

/-! ### Reported numbers -/

/-- `Value::as_f64`. -/
def jsonAsF64 : Json → Option F64
  | .number n => n.asF64
  | _ => none

/-- A cell of a result, as `assemble_profile` reads it: what is not a number counts as zero. -/
def profileCell (row : List Json) (i : Nat) : F64 := ((row[i]?).bind jsonAsF64).getD 0

/-- `x as u64`: the whole part, within bounds. -/
def asU64 (x : F64) : Nat := min x.floor.toNat (UInt64.size - 1)

/-- The number of segment users in the profile. -/
def profileUsers (metrics : List (List Json)) : Nat := asU64 (profileCell (metrics.headD []) 0)

theorem natAsF64_whole (n : Nat) : ∃ m : Nat, natAsF64 n = m := by
  unfold natAsF64
  split
  · exact ⟨n, rfl⟩
  · exact ⟨_, rfl⟩

/-- A count is reported as it is exactly if it is one that an `f64` holds. -/
theorem asU64_count {n : Nat} (few : n < 2 ^ 63) : asU64 (natAsF64 n) = n ↔ natAsF64 n = n := by
  obtain ⟨m, whole⟩ := natAsF64_whole n
  have bound : UInt64.size - 1 = 2 ^ 64 - 1 := rfl
  have floor : Rat.floor (m : F64) = m := by rw [← Int.cast_natCast, Rat.floor_intCast]
  rw [whole, asU64, floor, Int.toNat_natCast, Nat.cast_inj, bound]
  omega

/-- A count is shown as an integer. -/
def CountsAsJson {V : Type} (E : Engine V) (toJson : V → Json) : Prop :=
  ∀ n : Nat, n < 2 ^ 63 → toJson (E.bigint n) = .number (.posInt (UInt64.ofNat n))

/-! ### Whom a profile is of -/

section
variable {V : Type} [DecidableEq V] (E : Engine V) (toJson : V → Json) (opts : CompileOptions)
  (catalog : Catalog) (q : SegmentQuery) (event : Dataset)
  (tsColumn monetaryColumn categoryColumn : String) (profile : CharacterizeQueries)

/-- What the narrowing query selects. -/
def SegmentOf (users : Finset Cell) : Prop :=
  ∃ narrowed, compileWithOpts (stripLastOp q) opts = .ok narrowed ∧
    Sql.execute E.toScalars (E.tables opts.catalog catalog) narrowed.sql narrowed.params =
      some (E.keyTable (foldName q.key) users)

/-- The columns that the query names exist: those of its narrowing, and those of the events. -/
structure NamedThere : Prop where
  narrowing : isScoped (E.tables opts.catalog catalog) (phraseAt opts (stripLastOp q)) = true
  event : ∃ table, E.tables opts.catalog catalog opts.catalog (rawName event) = some table ∧
    ∀ name ∈ ["user_id", "tenant_id", foldName tsColumn, foldName monetaryColumn,
      foldName categoryColumn], name ∈ table.columns

/-- The three queries resolve, report the figures over the events of the segment's users and over all
events of the tenant, and the size of the segment. -/
structure ProfilesSegment : Prop where
  resolves : ∀ of : Figure, ∃ query,
    statement (profile.figure of).sql (profile.figure of).params = some query ∧
      isScoped (E.tables opts.catalog catalog) query = true
  figures : ∀ users, SegmentOf E opts catalog q users → ∀ of : Figure,
    Sql.execute E.toScalars (E.tables opts.catalog catalog) (profile.figure of).sql
        (profile.figure of).params =
      E.profiled (of.column tsColumn monetaryColumn categoryColumn) users
        (ownRows catalog opts.tenant event) of
  users : ∀ users, SegmentOf E opts catalog q users → ∀ columns (rows : List (List V)),
    Sql.execute E.toScalars (E.tables opts.catalog catalog) profile.metrics.sql
        profile.metrics.params = some ⟨columns, rows⟩ →
      profileUsers (rows.map (·.map toJson)) = users.card

end

section
variable {V : Type} [DecidableEq V] {E : Engine V} {toJson : V → Json} {opts : CompileOptions}
  {catalog : Catalog} {isRfc3339 : String → Bool} {q : SegmentQuery} {narrowing : List Op}
  {event : Dataset} {tsColumn monetaryColumn categoryColumn : String} {profile : CharacterizeQueries}

/-- The narrowing query selects the survivors. -/
theorem segmentOf_iff
    (profiled : Profiled isRfc3339 q narrowing event tsColumn monetaryColumn categoryColumn)
    (valid : validate isRfc3339 q = .ok ()) (returned : compileCharacterize q opts = .ok profile)
    (named : isScoped (E.tables opts.catalog catalog) (phraseAt opts (stripLastOp q)) = true)
    (users : Finset Cell) : SegmentOf E opts catalog q users ↔
      (E.population opts catalog).survivors E (stripLastOp q) = some users := by
  have accepted := validate_stripLastOp valid profiled.split profiled.level.narrows
  have keyed : hasDerive (stripLastOp q) = false := by
    rw [profiled.segment]
    exact hasDerive_narrowing profiled.level.narrows
  have key : (stripLastOp q).key = q.key := by rw [profiled.segment]
  obtain ⟨narrowed, compiled⟩ : ∃ narrowed, compileWithOpts (stripLastOp q) opts = .ok narrowed := by
    unfold compileCharacterize at returned
    simp only [profiled.last] at returned
    obtain ⟨narrowed, compiled, -⟩ := except_bind_eq_ok.mp returned
    exact ⟨narrowed, compiled⟩
  have ran := @execute_rows _ _ E opts catalog _ _ _ _ accepted compiled keyed
  rw [if_pos named, key] at ran
  constructor
  · rintro ⟨other, compiled', selected⟩
    obtain rfl := Except.ok.inj (compiled.symm.trans compiled')
    rw [ran] at selected
    obtain ⟨users', survive, same⟩ := Option.map_eq_some_iff.mp selected
    rw [survive, keyTable_injective same]
  · intro survive
    rw [survive] at ran
    exact ⟨narrowed, compiled, ran⟩

omit [DecidableEq V] in
/-- Among columns that exist, only the user of the segment may not resolve. -/
theorem resolves_iff
    (profiled : Profiled isRfc3339 q narrowing event tsColumn monetaryColumn categoryColumn)
    (there : NamedThere E opts catalog q event tsColumn monetaryColumn categoryColumn) (of : Figure) :
    isScoped (E.tables opts.catalog catalog)
        (characterizePhrase opts q event tsColumn monetaryColumn categoryColumn of) = true ↔
      foldName q.key = "user_id" := by
  have narrows := profiled.level.narrows
  have listed : (phraseAt opts (stripLastOp q)).columns = [foldName q.key] := by
    rw [profiled.segment, phraseAt_level narrows]
    rfl
  obtain ⟨table, found, columns⟩ := there.event
  simp only [List.forall_mem_cons, List.not_mem_nil, false_implies, implies_true, and_true] at columns
  obtain ⟨user, tenant, ts, monetary, category⟩ := columns
  have drawn : foldName (of.column tsColumn monetaryColumn categoryColumn) ∈ table.columns := by
    cases of <;> assumption
  have events : Present E opts catalog (profileReads opts q.key event
      (of.column tsColumn monetaryColumn categoryColumn)) ↔
        Present E opts catalog (segmentUserReads q.key) := by
    have behind : Present E opts catalog (.column opts.catalog (rawName event) "user_id" ::
        .column opts.catalog (rawName event) "user_id" ::
          [columnRead opts event (of.column tsColumn monetaryColumn categoryColumn)]) := by
      simp [Present, columnRead, Read.present, found, user, drawn]
    have owned : Present E opts catalog (tenantReads opts.catalog (rawName event) opts.tenant) := by
      simp [Present, tenantReads, Read.present, found, tenant]
    have base : Present E opts catalog [rawRead opts event] := by
      simp [Present, rawRead, Read.present, found]
    constructor
    · intro all
      exact (present_append.mp (List.forall_mem_cons.mp all).2).1
    · intro users
      exact (present_append.mpr ⟨base, present_append.mpr ⟨users, present_append.mpr ⟨behind,
        present_append.mpr ⟨users, owned⟩⟩⟩⟩ : _)
  have narrowed := isScoped_iff.mp there.narrowing
  rw [isScoped_iff, characterizePhrase, profilePhrase_reads listed, present_append, events,
    present_segment]
  exact and_iff_right narrowed

/-- A profile whose queries resolve is of a segment selected by user. -/
theorem ProfilesSegment.keyed
    (profiled : Profiled isRfc3339 q narrowing event tsColumn monetaryColumn categoryColumn)
    (valid : validate isRfc3339 q = .ok ()) (returned : compileCharacterize q opts = .ok profile)
    (there : NamedThere E opts catalog q event tsColumn monetaryColumn categoryColumn)
    (right : ProfilesSegment E toJson opts catalog q event tsColumn monetaryColumn categoryColumn
      profile) : foldName q.key = "user_id" := by
  obtain ⟨query, parsed, named⟩ := right.resolves .metrics
  obtain rfl := Option.some.inj ((profile_statement profiled valid returned .metrics).symm.trans parsed)
  exact (resolves_iff profiled there .metrics).mp named

/-- Over a segment selected by user, each query reports its figure. -/
theorem execute_figures (ors : OrsBooleans E)
    (profiled : Profiled isRfc3339 q narrowing event tsColumn monetaryColumn categoryColumn)
    (valid : validate isRfc3339 q = .ok ()) (returned : compileCharacterize q opts = .ok profile)
    (there : NamedThere E opts catalog q event tsColumn monetaryColumn categoryColumn)
    (keyed : foldName q.key = "user_id") {users : Finset Cell}
    (segment : SegmentOf E opts catalog q users) (of : Figure) :
    Sql.execute E.toScalars (E.tables opts.catalog catalog) (profile.figure of).sql
        (profile.figure of).params =
      E.profiled (of.column tsColumn monetaryColumn categoryColumn) users
        (ownRows catalog opts.tenant event) of := by
  have survive := (segmentOf_iff profiled valid returned there.narrowing users).mp segment
  rw [execute_profile profiled valid returned, if_pos ((resolves_iff profiled there of).mpr keyed),
    survive, Option.bind_some, reported_eq ors]

/-- The row of metrics begins with the number of the segment's users. -/
theorem profileUsers_metrics (shown : CountsAsJson E toJson) {column : String} {users : Finset Cell}
    {events : Multiset RawRow} (few : users.card < 2 ^ 63) {columns : List String}
    {rows : List (List V)} (answer : E.profiled column users events .metrics = some ⟨columns, rows⟩) :
    profileUsers (rows.map (·.map toJson)) = asU64 (natAsF64 users.card) := by
  have single : ∃ rest, (rows : Multiset (List V)) = {E.bigint users.card :: rest} := by
    rw [Engine.profiled] at answer
    simp only [Option.bind_eq_bind, Option.bind_eq_some_iff, Option.pure_def, Option.some.injEq,
      Table.mk.injEq] at answer
    obtain ⟨_, -, _, -, _, -, _, -, _, -, -, same⟩ := answer
    exact ⟨_, same.symm⟩
  obtain ⟨rest, same⟩ := single
  obtain rfl := Multiset.coe_eq_singleton.mp same
  have count : (UInt64.ofNat users.card).toNat = users.card :=
    UInt64.toNat_ofNat_of_lt (few.trans (by decide))
  simp only [profileUsers, List.map_cons, List.map_nil, List.headD_cons, profileCell,
    List.getElem?_cons_zero, Option.bind_some, shown _ few, jsonAsF64, JsonNumber.asF64, count,
    Option.getD_some]

end

/-- A profile is of the events of the segment's users and of all, and of the segment's size, exactly
if the segment is selected by `user_id` and has a size that an `f64` holds. -/
theorem characterize_right_iff {V : Type} [DecidableEq V] {E : Engine V} {toJson : V → Json}
    {opts : CompileOptions} {catalog : Catalog} {isRfc3339 : String → Bool} {q : SegmentQuery}
    {event : Dataset} {tsColumn monetaryColumn categoryColumn : String}
    {profile : CharacterizeQueries} (ors : OrsBooleans E) (shown : CountsAsJson E toJson)
    (valid : validate isRfc3339 q = .ok ())
    (last : q.ops.getLast? = some (.characterize event tsColumn monetaryColumn categoryColumn))
    (returned : compileCharacterize q opts = .ok profile)
    (there : NamedThere E opts catalog q event tsColumn monetaryColumn categoryColumn)
    (few : ∀ users, SegmentOf E opts catalog q users → users.card < 2 ^ 63) :
    ProfilesSegment E toJson opts catalog q event tsColumn monetaryColumn categoryColumn profile ↔
      foldName q.key = "user_id" ∧ ∀ users, SegmentOf E opts catalog q users →
        (E.profiled monetaryColumn users (ownRows catalog opts.tenant event) .metrics).isSome = true →
          natAsF64 users.card = users.card := by
  obtain ⟨narrowing, event', ts, monetary, category, profiled, -⟩ :=
    compileCharacterize_profiled valid returned
  obtain ⟨rfl, rfl, rfl, rfl⟩ : event' = event ∧ ts = tsColumn ∧ monetary = monetaryColumn ∧
      category = categoryColumn := by
    have same := profiled.last.symm.trans last
    simpa using same
  constructor
  · intro right
    have keyed := right.keyed profiled valid returned there
    refine ⟨keyed, fun users segment answered => ?_⟩
    obtain ⟨⟨columns, bag⟩, answer⟩ := Option.isSome_iff_exists.mp answered
    obtain ⟨rows, rfl⟩ := Quotient.exists_rep bag
    have ran := execute_figures ors profiled valid returned there keyed segment .metrics
    have reported := right.users users segment columns rows (ran.trans answer)
    rw [profileUsers_metrics shown (few users segment) answer] at reported
    exact (asU64_count (few users segment)).mp reported
  · rintro ⟨keyed, held⟩
    refine ⟨fun of => ⟨_, profile_statement profiled valid returned of,
      (resolves_iff profiled there of).mpr keyed⟩, fun users segment of =>
        execute_figures ors profiled valid returned there keyed segment of,
      fun users segment columns rows ran => ?_⟩
    have answer := (execute_figures ors profiled valid returned there keyed segment .metrics).symm.trans
      ran
    rw [profileUsers_metrics shown (few users segment) answer]
    exact (asU64_count (few users segment)).mpr
      (held users segment (Option.isSome_iff_exists.mpr ⟨_, answer⟩))

/-! ### A profile of paid orders -/

/-- Paid orders, profiled by a key. -/
def paidProfile (key : String) : SegmentQuery where
  source := ⟨"erp", "orders"⟩
  key := key
  ops := [.filter ⟨"status", .eq, .string "paid"⟩,
    .characterize ⟨"erp", "orders"⟩ "ts" "amount" "category"]
  asOf := none

def paidOrder : Catalog :=
  Catalog.empty.setRaw "raw_erp_orders"
    ⟨["user_id", "customer_id", "status", "ts", "amount", "category", "tenant_id"],
      {rowOf ["user_id", "customer_id", "status", "ts", "amount", "category", "tenant_id"]
        [some "u1", some "c1", some "paid", some "2025-01-01", some "10", some "books", some "acme"]}⟩

def Datum.toJson : Datum → Json
  | .number q => .number (.posInt (UInt64.ofNat q.num.toNat))
  | .text s => .string s
  | _ => .null

theorem plain_ors (now : Int) (read : String → Option Int) : OrsBooleans (plainEngine now read) := by
  intro b rows filled same
  have found : [Datum.flag true] ∈ rows ↔ b = true := by
    obtain ⟨row, member⟩ := Multiset.exists_mem_of_ne_zero filled
    constructor
    · intro true_
      have alike_ : [Datum.flag true] = [Datum.flag b] := same _ true_
      exact (Datum.flag.inj (List.cons.inj alike_).1).symm
    · rintro rfl
      rwa [same row member] at member
  have ors : (plainEngine now read).aggregate "bool_or" rows =
      some (.flag (decide ([Datum.flag true] ∈ rows))) := rfl
  rw [ors, decide_eq_decide.mpr found]
  cases b <;> rfl

theorem plain_counts (now : Int) (read : String → Option Int) :
    CountsAsJson (plainEngine now read) Datum.toJson := fun n _ => by
  have whole : ((n : F64).num).toNat = n := rfl
  exact congrArg (fun n => Json.number (.posInt (UInt64.ofNat n))) whole

/-- A level has no more survivors than its source has rows. -/
theorem level_card {V : Type} {E : Engine V} {population : Population} {source : Dataset}
    {key : String} {asOf : Option String} {ops : List Op} {users : Finset Cell}
    (selected : population.level E source key asOf ops = some users) :
    users.card ≤ (population.rows source).card := by
  obtain ⟨kept, keeps, rfl⟩ := Option.map_eq_some_iff.mp selected
  obtain ⟨-, rfl⟩ := keep_eq_some.mp keeps
  exact (Multiset.toFinset_card_le _).trans
    ((Multiset.card_map _ _).le.trans (Multiset.card_le_card (Multiset.filter_le _ _)))

theorem paidOrder_there (key : String) (named : isScoped
      ((plainEngine 0 fun _ => some 0).tables (readOptions "acme").catalog paidOrder)
      (phraseAt (readOptions "acme") (stripLastOp (paidProfile key))) = true) :
    NamedThere (plainEngine 0 fun _ => some 0) (readOptions "acme") paidOrder (paidProfile key)
      ⟨"erp", "orders"⟩ "ts" "amount" "category" := by
  refine ⟨named, _, rfl, ?_⟩
  simp [Engine.rawStored, foldName]

theorem characterize_right_iff_paid : ∃ profile,
    compileCharacterize (paidProfile "user_id") (readOptions "acme") = .ok profile ∧
      (ProfilesSegment (plainEngine 0 fun _ => some 0) Datum.toJson (readOptions "acme") paidOrder
          (paidProfile "user_id") ⟨"erp", "orders"⟩ "ts" "amount" "category" profile ↔
        foldName "user_id" = "user_id" ∧ ∀ users,
          SegmentOf (plainEngine 0 fun _ => some 0) (readOptions "acme") paidOrder
              (paidProfile "user_id") users →
            ((plainEngine 0 fun _ => some 0).profiled "amount" users
              (ownRows paidOrder "acme" ⟨"erp", "orders"⟩) .metrics).isSome = true →
                natAsF64 users.card = users.card) := by
  have valid : validate (fun _ => true) (paidProfile "user_id") = .ok () := rfl
  have there := paidOrder_there "user_id" rfl
  obtain ⟨profile, returned⟩ :
      ∃ profile, compileCharacterize (paidProfile "user_id") (readOptions "acme") = .ok profile :=
    ⟨_, rfl⟩
  obtain ⟨narrowing, event, ts, monetary, category, profiled, -⟩ :=
    compileCharacterize_profiled valid returned
  refine ⟨profile, returned, characterize_right_iff (plain_ors 0 fun _ => some 0)
    (plain_counts 0 fun _ => some 0) valid rfl returned there fun users segment => ?_⟩
  have survive := (segmentOf_iff profiled valid returned there.narrowing users).mp segment
  rw [profiled.segment, survivors_level profiled.level.narrows] at survive
  have rows : (paidOrder.rowsOf (rawName ⟨"erp", "orders"⟩)).card = 1 := by
    rw [show rawName ⟨"erp", "orders"⟩ = "raw_erp_orders" from by decide, Catalog.rowsOf, paidOrder,
      Catalog.setRaw_self]
    rfl
  have own : (ownRows paidOrder "acme" ⟨"erp", "orders"⟩).card ≤
      (paidOrder.rowsOf (rawName ⟨"erp", "orders"⟩)).card :=
    Multiset.card_le_card (Multiset.filter_le _ _)
  have few := ((level_card survive).trans own).trans_eq rows
  exact few.trans_lt (by decide)

/-- A segment selected by another column has no user to join. -/
theorem customers_unprofiled :
    ¬ ∀ (V : Type) [DecidableEq V] (E : Engine V) (toJson : V → Json) (opts : CompileOptions)
      (catalog : Catalog) (q : SegmentQuery) (event : Dataset)
      (tsColumn monetaryColumn categoryColumn : String) (profile : CharacterizeQueries),
      OrsBooleans E → CountsAsJson E toJson → validate (fun _ => true) q = .ok () →
      q.ops.getLast? = some (.characterize event tsColumn monetaryColumn categoryColumn) →
      compileCharacterize q opts = .ok profile →
      NamedThere E opts catalog q event tsColumn monetaryColumn categoryColumn →
      ProfilesSegment E toJson opts catalog q event tsColumn monetaryColumn categoryColumn
        profile := by
  intro claimed
  have valid : validate (fun _ => true) (paidProfile "customer_id") = .ok () := rfl
  have there := paidOrder_there "customer_id" rfl
  obtain ⟨profile, returned⟩ :
      ∃ profile, compileCharacterize (paidProfile "customer_id") (readOptions "acme") = .ok profile :=
    ⟨_, rfl⟩
  obtain ⟨narrowing, event, ts, monetary, category, profiled, -⟩ :=
    compileCharacterize_profiled valid returned
  have right := claimed Datum (plainEngine 0 fun _ => some 0) Datum.toJson _ paidOrder _ _ _ _ _ profile
    (plain_ors 0 fun _ => some 0) (plain_counts 0 fun _ => some 0) valid rfl returned there
  cases (show some (.characterize ⟨"erp", "orders"⟩ "ts" "amount" "category") =
    some (Op.characterize event ts monetary category) from profiled.last)
  exact absurd (right.keyed profiled valid returned there) (by decide)

end ConsumerEngine.Query
