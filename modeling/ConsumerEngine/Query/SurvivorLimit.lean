import ConsumerEngine.Query.Characterized
import ConsumerEngine.Query.Enforcement
import ConsumerEngine.Query.Isolation

/-! The limit of a metric against commits between the count that sets it and the run that it cuts.

Either read is on the state that its worker is attached to.
-/

set_option autoImplicit false

namespace ConsumerEngine.Query

open ConsumerEngine.Core ConsumerEngine.Foundation ConsumerEngine.Sql ConsumerEngine.Storage

/-- `Value::as_u64`. -/
def jsonAsU64 : Json → Option Nat
  | .number (.posInt n) => some n.toNat
  | _ => none

/-- The count in a result: what is not a number counts as zero. -/
def countOf (rows : List (List Json)) : Nat :=
  ((rows.head?.bind List.head?).bind jsonAsU64).getD 0

/-- How the reads of one run go: the count and the metric each on the state that its worker is
attached to, unless the read fails. `failure` is what the engine reports of a text it cannot run. -/
structure DeriveReads where
  checked : Except QueryError Unit
  counted : Except QueryError Catalog
  planned : Except QueryError Unit
  ran : Except QueryError Catalog
  failure : QueryError

section
variable {V : Type} [DecidableEq V] (E : Engine V) (toJson : V → Json) (guardrails : GuardrailConfig)
  (base : CompileOptions) (q : SegmentQuery) (reads : DeriveReads)

/-- A compiled text, run on a state. -/
def ranOn (state : Catalog) (compiled : CompiledQuery) : Except QueryError (Table V) :=
  match execute E.toScalars (E.tables base.catalog state) compiled.sql compiled.params with
  | some table => .ok table
  | none => .error reads.failure

/-- `derive_survivor_limit`. `SELECT count(*) FROM (…) sub` counts the rows of the text in it. -/
def deriveSurvivorLimit : Except QueryError Nat := do
  let compiled ← compileWithOpts (stripDerive q) { base with deriveLimit := none }
  let state ← reads.counted
  let table ← ranOn E base reads state compiled
  let count := countOf [[toJson (E.bigint table.rows.card)]]
  if guardrails.jSurvivorCap < count then throw .survivorUnbounded else return count

/-- `run_sync` of a query that ends in a metric. -/
def runDerive : Except QueryError (Table V) := do
  reads.checked
  let limit ← deriveSurvivorLimit E toJson guardrails base q reads
  let compiled ← compileWithOpts q { base with deriveLimit := some limit }
  reads.planned
  let state ← reads.ran
  let table ← ranOn E base reads state compiled
  if guardrails.maxOutputRows < table.rows.card then
    throw (.guardrail "max_output_rows" (toString guardrails.maxOutputRows))
  else return table

/-- The value is the metric over the events of all survivors of one of the states, and the limit drops
no survivor of the state that the metric was run on. -/
structure Untruncated (states : List Catalog) (ran : Catalog) (limit : Nat) (table : Table V) :
    Prop where
  single : ∃ state ∈ states, (E.population base state).answer E q = some table
  spared : ∀ users, (E.population base ran).survivors E q = some users → E.spared limit users = users

end

section
variable {V : Type} [DecidableEq V] {E : Engine V} {toJson : V → Json} {guardrails : GuardrailConfig}
  {base : CompileOptions} {q : SegmentQuery} {reads : DeriveReads} {isRfc3339 : String → Bool}

theorem ranOn_ok {state : Catalog} {compiled : CompiledQuery} {table : Table V} :
    ranOn E base reads state compiled = .ok table ↔
      execute E.toScalars (E.tables base.catalog state) compiled.sql compiled.params = some table := by
  unfold ranOn
  cases execute E.toScalars (E.tables base.catalog state) compiled.sql compiled.params with
  | none => simp
  | some found => simp

omit [DecidableEq V] in
/-- What is left without the metric is accepted, and has the same survivors. -/
theorem stripDerive_narrowing (valid : validate isRfc3339 q = .ok ()) (derives : hasDerive q = true) :
    validate isRfc3339 (stripDerive q) = .ok () ∧ hasDerive (stripDerive q) = false ∧
      ∀ population : Population, population.survivors E (stripDerive q) = population.survivors E q := by
  have level := validate_ok valid
  have stripped := stripDerive_eq level.positions
  rw [if_pos derives] at stripped
  obtain ⟨narrowing, last, placed⟩ := validatePositions_ok level.positions
  obtain ⟨source, key, ops, asOf⟩ := q
  obtain rfl : ops = _ := placed.split
  have narrows := placed.narrows
  rcases placed.last with rfl | ⟨op, rfl, ends⟩
  · rw [List.append_nil, hasDerive_narrowing narrows] at derives
    cases derives
  · rw [stripped]
    have accepted := validate_stripLastOp valid rfl narrows
    rw [stripLastOp, List.dropLast_concat] at accepted ⊢
    refine ⟨accepted, hasDerive_narrowing narrows, fun population => ?_⟩
    rw [hasDerive_append narrows] at derives
    cases op with
    | derive name metric => rw [survivors_level narrows, survivors_derive narrows]
    | _ => cases derives

/-- The limit is the number of survivors in the state that was counted. -/
theorem deriveSurvivorLimit_eq (shown : CountsAsJson E toJson) (valid : validate isRfc3339 q = .ok ())
    (derives : hasDerive q = true) {state : Catalog} {limit : Nat} (counted : reads.counted = .ok state)
    (few : ∀ users, (E.population base state).survivors E q = some users → users.card < 2 ^ 63)
    (limited : deriveSurvivorLimit E toJson guardrails base q reads = .ok limit) :
    ∃ users, (E.population base state).survivors E q = some users ∧ limit = users.card := by
  obtain ⟨accepted, keyed, same⟩ := @stripDerive_narrowing _ E _ _ valid derives
  unfold deriveSurvivorLimit at limited
  obtain ⟨compiled, returned, limited⟩ := except_bind_eq_ok.mp limited
  obtain ⟨_, attached, limited⟩ := except_bind_eq_ok.mp limited
  obtain rfl := Except.ok.inj (counted.symm.trans attached)
  obtain ⟨table, ran, limited⟩ := except_bind_eq_ok.mp limited
  have answered := ranOn_ok.mp ran
  have whole := @execute_rows _ _ E { base with deriveLimit := none } state isRfc3339 _ 0 compiled
    accepted returned keyed
  rw [show E.tables (CompileOptions.catalog { base with deriveLimit := none }) state =
    E.tables base.catalog state from rfl, answered] at whole
  split at whole
  · obtain ⟨users, survive, rfl⟩ := Option.map_eq_some_iff.mp whole.symm
    have found : (E.population base state).survivors E q = some users := (same _).symm.trans survive
    refine ⟨users, found, ?_⟩
    have count : (UInt64.ofNat users.card).toNat = users.card :=
      UInt64.toNat_ofNat_of_lt ((few users found).trans (by decide))
    have rows : countOf [[toJson (E.bigint (E.keyTable (foldName (stripDerive q).key) users).rows.card)]] =
        users.card := by
      rw [Engine.keyTable, Multiset.card_map, Finset.card_val, shown _ (few users found)]
      exact count
    rw [rows] at limited
    dsimp only at limited
    split at limited
    · cases limited
    · exact (Except.ok.inj limited).symm
  · cases whole

/-- A run that returns has a limit, and a value over the survivors that the limit leaves. -/
theorem runDerive_ok (valid : validate isRfc3339 q = .ok ()) {state : Catalog} {table : Table V}
    (ran : reads.ran = .ok state)
    (returned : runDerive E toJson guardrails base q reads = .ok table) :
    ∃ limit, deriveSurvivorLimit E toJson guardrails base q reads = .ok limit ∧
      (E.population base state).within E (some limit) q = some table := by
  unfold runDerive at returned
  obtain ⟨⟨⟩, -, returned⟩ := except_bind_eq_ok.mp returned
  obtain ⟨limit, limited, returned⟩ := except_bind_eq_ok.mp returned
  obtain ⟨compiled, compiles, returned⟩ := except_bind_eq_ok.mp returned
  obtain ⟨⟨⟩, -, returned⟩ := except_bind_eq_ok.mp returned
  obtain ⟨_, attached, returned⟩ := except_bind_eq_ok.mp returned
  obtain rfl := Except.ok.inj (ran.symm.trans attached)
  obtain ⟨found, answered, returned⟩ := except_bind_eq_ok.mp returned
  have same : found = table := by
    split at returned
    · cases returned
    · exact Except.ok.inj returned
  subst same
  have whole := @execute_within _ _ E { base with deriveLimit := some limit } state isRfc3339 _ 0
    compiled valid compiles
  rw [show E.tables (CompileOptions.catalog { base with deriveLimit := some limit }) state =
    E.tables base.catalog state from rfl, ranOn_ok.mp answered] at whole
  split at whole
  · exact ⟨limit, limited, whole.symm⟩
  · cases whole

end

/-- The value of a run is the metric over all survivors of one state, with none dropped, exactly if the
state that it ran on has no more survivors than the state that was counted. -/
theorem derive_untruncated_iff {V : Type} [DecidableEq V] {E : Engine V} {toJson : V → Json}
    {guardrails : GuardrailConfig} {base : CompileOptions} {q : SegmentQuery} {reads : DeriveReads}
    {isRfc3339 : String → Bool} {states : List Catalog} {before after : Catalog} {limit : Nat}
    {table : Table V} (shown : CountsAsJson E toJson) (valid : validate isRfc3339 q = .ok ())
    (derives : hasDerive q = true) (counted : reads.counted = .ok before) (ran : reads.ran = .ok after)
    (among : after ∈ states)
    (few : ∀ users, (E.population base before).survivors E q = some users → users.card < 2 ^ 63)
    (limited : deriveSurvivorLimit E toJson guardrails base q reads = .ok limit)
    (returned : runDerive E toJson guardrails base q reads = .ok table) :
    Untruncated E base q states after limit table ↔
      ∀ fewer more, (E.population base before).survivors E q = some fewer →
        (E.population base after).survivors E q = some more → more.card ≤ fewer.card := by
  obtain ⟨users, survive, rfl⟩ := deriveSurvivorLimit_eq shown valid derives counted few limited
  obtain ⟨limit, limited', answered⟩ := runDerive_ok valid ran returned
  obtain rfl := Except.ok.inj (limited.symm.trans limited')
  constructor
  · intro whole fewer more first second
    obtain rfl := Option.some.inj (survive.symm.trans first)
    exact spared_eq_self.mp (whole.spared more second)
  · intro held
    have spared (more : Finset Cell) (second : (E.population base after).survivors E q = some more) :
        E.spared users.card more = more := spared_eq_self.mpr (held users more survive second)
    rw [within_eq_answer fun _ => spared] at answered
    exact ⟨⟨after, among, answered⟩, spared⟩

/-! ### Orders counted twice -/

def paidOnly : List Op := [.filter ⟨"status", .eq, .string "paid"⟩]

/-- The number of orders of the users with a paid one. -/
def orderCount : SegmentQuery where
  source := ⟨"erp", "orders"⟩
  key := "user_id"
  ops := paidOnly ++ [.derive "orders" (.count ⟨"erp", "orders"⟩)]
  asOf := none

/-- Reads that all succeed. -/
def readsOn (before after : Catalog) : DeriveReads where
  checked := .ok ()
  counted := .ok before
  planned := .ok ()
  ran := .ok after
  failure := .tooLarge

def roomyGuardrails : GuardrailConfig where
  syncRowCap := 1000
  maxOutputRows := 1000
  jSurvivorCap := 1000
  enforceCatalogue := false

section
variable {V : Type} {E : Engine V} {tenant : String} {limit : Option Nat}
  {rows : Multiset (String × String)}

/-- The options of one run, with its limit. -/
def limitedOptions (tenant : String) (limit : Option Nat) : CompileOptions :=
  { readOptions tenant with deriveLimit := limit }

theorem ordersOf_table : E.tables (limitedOptions tenant limit).catalog (ordersOf rows)
    (limitedOptions tenant limit).catalog (rawName ⟨"erp", "orders"⟩) =
      some (E.rawStored (paidBy rows)) := by
  have table : rawName ⟨"erp", "orders"⟩ = "raw_erp_orders" := by decide
  rw [Engine.tables, if_pos rfl, table, table_ordersOf, if_pos rfl]

theorem paidOnly_narrows : ∀ op ∈ paidOnly, op.narrows = true := by simp [paidOnly, Op.narrows]

/-- What either text reads is there. -/
theorem orders_present : Present E (limitedOptions tenant limit) (ordersOf rows)
    (levelReads (limitedOptions tenant limit) ⟨"erp", "orders"⟩ "user_id" none paidOnly ++
      metricReads (limitedOptions tenant limit) (.count ⟨"erp", "orders"⟩)) := by
  have user : foldName "user_id" = "user_id" := by decide
  have status : foldName "status" = "status" := by decide
  have there := @ordersOf_table _ E tenant limit rows
  simp [Present, levelReads, metricReads, metricEvent, metricColumn, rawRead, columnRead, tenantReads,
    Read.present, there, user, Engine.rawStored, paidBy, paidOnly, opReads, Predicate.reads,
    Predicate.isConstant, status]

/-- The users with an order, as a set. -/
def paidUsers (tenant : String) (rows : Multiset (String × String)) : Finset Cell :=
  ((rows.filter fun row => row.2 = tenant).map fun row => some row.1).toFinset

/-- The users with an order survive. -/
theorem orderCount_survivors : (E.population (readOptions tenant) (ordersOf rows)).survivors E orderCount =
    some (paidUsers tenant rows) := by
  let row (order : String × String) : RawRow :=
    rowOf ["user_id", "status", "tenant_id"] [some order.1, some "paid", some order.2]
  have table : rawName ⟨"erp", "orders"⟩ = "raw_erp_orders" := by decide
  have own : (E.population (readOptions tenant) (ordersOf rows)).rows ⟨"erp", "orders"⟩ =
      (rows.filter fun order => order.2 = tenant).map row := by
    rw [← paidBy_own]
    change ((ordersOf rows).rowsOf (rawName ⟨"erp", "orders"⟩)).filter _ = _
    rw [table, Catalog.rowsOf, ordersOf, Catalog.setRaw_self]
    rfl
  have user (order : String × String) : row order (foldName "user_id") = some order.1 := by
    simp [row, rowOf]
  have status (order : String × String) : row order (foldName "status") = some "paid" := by
    simp [row, rowOf, foldName]
  have paid (order : String × String) : E.predicate ⟨"status", .eq, .string "paid"⟩ (row order) = .yes := by
    have same := E.compare_text "paid" "paid"
    rw [decide_eq_true rfl] at same
    rw [Engine.predicate]
    simp only [status, Engine.cell, Option.elim_some]
    exact (congrArg (E.compare .eq (E.text "paid")) (E.bound_text "paid")).trans same
  have all (order : String × String) : Truth.all (paidOnly.map
      ((E.population (readOptions tenant) (ordersOf rows)).meets E none (row order)
        (row order (foldName "user_id")))) = .yes := by
    exact (Truth.both_yes _).trans (paid order)
  have kept := (@keep_congr _ _ _ (rows.filter fun order => order.2 = tenant)
    fun order _ => all order).trans (keep_yes _)
  rw [orderCount, survivors_derive paidOnly_narrows, Population.level, own, keep_map,
    kept, Option.map_some, Option.map_some, Multiset.map_map, Function.comp_def]
  simp only [user]
  rfl

end

section
variable (now : Int) (read : String → Option Int) {before after : Multiset (String × String)}

/-- The limit is the count of the users of a state. -/
theorem orderCount_limit (few : (paidUsers "acme" before).card ≤ 1000) :
    deriveSurvivorLimit (plainEngine now read) Datum.toJson roomyGuardrails (readOptions "acme")
      orderCount (readsOn (ordersOf before) (ordersOf after)) = .ok (paidUsers "acme" before).card := by
  have valid : validate (fun _ => true) (stripDerive orderCount) = .ok () := rfl
  obtain ⟨compiled, returned⟩ : ∃ compiled,
    compileWithOpts (stripDerive orderCount) (limitedOptions "acme" none) = .ok compiled := ⟨_, rfl⟩
  have answered := @execute_rows _ _ (plainEngine now read) (limitedOptions "acme" none)
    (ordersOf before) _ _ _ _ valid returned rfl
  have named : isScoped ((plainEngine now read).tables (limitedOptions "acme" none).catalog
      (ordersOf before)) (phraseAt (limitedOptions "acme" none) (stripDerive orderCount)) = true := by
    rw [isScoped_iff, show stripDerive orderCount = ⟨⟨"erp", "orders"⟩, "user_id", paidOnly, none⟩ from rfl,
      phraseAt_level paidOnly_narrows, Ast.reads, levelPhrase_reads paidOnly_narrows]
    exact (present_append.mp orders_present).1
  have survive := @orderCount_survivors _ (plainEngine now read) "acme" before
  have accepted : validate (fun _ => true) orderCount = .ok () := rfl
  have same := (@stripDerive_narrowing _ (plainEngine now read) _ _ accepted rfl).2.2
    ((plainEngine now read).population (limitedOptions "acme" none) (ordersOf before))
  rw [if_pos named, same] at answered
  have ran := answered.trans (congrArg (Option.map _) survive)
  rw [Option.map_some] at ran
  refine except_bind_eq_ok.mpr ⟨compiled, returned, except_bind_eq_ok.mpr ⟨ordersOf before, rfl,
    except_bind_eq_ok.mpr ⟨_, ranOn_ok.mpr ran, ?_⟩⟩⟩
  have count : (UInt64.ofNat (paidUsers "acme" before).card).toNat = (paidUsers "acme" before).card :=
    UInt64.toNat_ofNat_of_lt (few.trans_lt (by decide))
  have rows : countOf [[Datum.toJson ((plainEngine now read).bigint ((plainEngine now read).keyTable
      (foldName (stripDerive orderCount).key) (paidUsers "acme" before)).rows.card)]] =
        (paidUsers "acme" before).card := by
    rw [Engine.keyTable, Multiset.card_map, Finset.card_val,
      plain_counts now read _ (few.trans_lt (by decide))]
    exact count
  rw [rows]
  exact if_neg (Nat.not_lt.mpr few)

/-- A run over orders returns a value. -/
theorem orderCount_returns (few : (paidUsers "acme" before).card ≤ 1000) : ∃ table,
    runDerive (plainEngine now read) Datum.toJson roomyGuardrails (readOptions "acme") orderCount
      (readsOn (ordersOf before) (ordersOf after)) = .ok table := by
  have valid : validate (fun _ => true) orderCount = .ok () := rfl
  have limited := @orderCount_limit now read before after few
  generalize (paidUsers "acme" before).card = limit at limited
  obtain ⟨compiled, returned⟩ : ∃ compiled,
    compileWithOpts orderCount (limitedOptions "acme" (some limit)) = .ok compiled := ⟨_, rfl⟩
  have answered := @execute_within _ _ (plainEngine now read) (limitedOptions "acme" (some limit))
    (ordersOf after) _ _ _ _ valid returned
  have named : isScoped ((plainEngine now read).tables (limitedOptions "acme" (some limit)).catalog
      (ordersOf after)) (phraseAt (limitedOptions "acme" (some limit)) orderCount) = true := by
    rw [isScoped_iff, orderCount, phraseAt_derive paidOnly_narrows rfl, metricPhrase_reads rfl,
      levelPhrase_reads paidOnly_narrows]
    exact orders_present
  have survive := @orderCount_survivors _ (plainEngine now read) "acme" after
  have value : ((plainEngine now read).population (limitedOptions "acme" (some limit))
      (ordersOf after)).within (plainEngine now read) (some limit) orderCount =
        some ((plainEngine now read).metricTable "orders" ((plainEngine now read).bigint
          (eventsOf ((plainEngine now read).spared limit (paidUsers "acme" after))
            (ownRows (ordersOf after) "acme" ⟨"erp", "orders"⟩)).card)) := by
    have last : orderCount.ops.getLast? = some (.derive "orders" (.count ⟨"erp", "orders"⟩)) := rfl
    rw [Population.within, show ((plainEngine now read).population (limitedOptions "acme" (some limit))
      (ordersOf after)).survivors (plainEngine now read) orderCount = _ from survive,
      Option.bind_eq_bind, Option.bind_some, last]
    have counted := (plainEngine now read).aggregate_count ((eventsOf ((plainEngine now read).spared
      limit (paidUsers "acme" after)) (ownRows (ordersOf after) "acme" ⟨"erp", "orders"⟩)).map
        fun _ => []) fun row member => by
          obtain ⟨_, -, rfl⟩ := Multiset.mem_map.mp member
          rfl
    rw [Multiset.card_map] at counted
    exact congrArg (fun value => Option.bind value fun value =>
      some ((plainEngine now read).metricTable "orders" value)) counted
  rw [if_pos named] at answered
  have ran := answered.trans value
  exact ⟨_, except_bind_eq_ok.mpr ⟨(), rfl, except_bind_eq_ok.mpr ⟨limit, limited,
    except_bind_eq_ok.mpr ⟨compiled, returned, except_bind_eq_ok.mpr ⟨(), rfl,
      except_bind_eq_ok.mpr ⟨ordersOf after, rfl, except_bind_eq_ok.mpr ⟨_, ranOn_ok.mpr ran, rfl⟩⟩⟩⟩⟩⟩⟩

end

/-- Between a count and a run of the same state, nothing is dropped. -/
theorem derive_untruncated_iff_orderCount : ∃ table,
    runDerive (plainEngine 0 fun _ => none) Datum.toJson roomyGuardrails (readOptions "acme") orderCount
        (readsOn (ordersOf {("u1", "acme")}) (ordersOf {("u1", "acme")})) = .ok table ∧
      (Untruncated (plainEngine 0 fun _ => none) (readOptions "acme") orderCount
          [ordersOf {("u1", "acme")}] (ordersOf {("u1", "acme")}) 1 table ↔
        ∀ fewer more, ((plainEngine 0 fun _ => none).population (readOptions "acme")
            (ordersOf {("u1", "acme")})).survivors (plainEngine 0 fun _ => none) orderCount = some fewer →
          ((plainEngine 0 fun _ => none).population (readOptions "acme")
            (ordersOf {("u1", "acme")})).survivors (plainEngine 0 fun _ => none) orderCount = some more →
              more.card ≤ fewer.card) := by
  have valid : validate (fun _ => true) orderCount = .ok () := rfl
  have one : (paidUsers "acme" {("u1", "acme")}).card = 1 := by decide
  have few : (paidUsers "acme" {("u1", "acme")}).card ≤ 1000 := by rw [one]; decide
  obtain ⟨table, returned⟩ := @orderCount_returns 0 (fun _ => none) {("u1", "acme")} {("u1", "acme")} few
  have limited := @orderCount_limit 0 (fun _ => none) {("u1", "acme")} {("u1", "acme")} few
  rw [one] at limited
  refine ⟨table, returned, derive_untruncated_iff (plain_counts 0 fun _ => none) valid rfl rfl rfl
    List.mem_cons_self (fun users survive => ?_) limited returned⟩
  obtain rfl := Option.some.inj (orderCount_survivors.symm.trans survive)
  rw [one]
  decide

/-- A user who buys between the count and the run pushes another out. -/
theorem joined_user_dropped :
    ¬ ∀ (V : Type) [DecidableEq V] (E : Engine V) (toJson : V → Json) (guardrails : GuardrailConfig)
      (base : CompileOptions) (q : SegmentQuery) (reads : DeriveReads) (states : List Catalog)
      (before after : Catalog) (limit : Nat) (table : Table V),
      CountsAsJson E toJson → validate (fun _ => true) q = .ok () → hasDerive q = true →
      reads.counted = .ok before → reads.ran = .ok after → before ∈ states → after ∈ states →
      deriveSurvivorLimit E toJson guardrails base q reads = .ok limit →
      runDerive E toJson guardrails base q reads = .ok table →
        Untruncated E base q states after limit table := by
  intro claimed
  have valid : validate (fun _ => true) orderCount = .ok () := rfl
  have one : (paidUsers "acme" {("u1", "acme")}).card = 1 := by decide
  have few : (paidUsers "acme" {("u1", "acme")}).card ≤ 1000 := by rw [one]; decide
  obtain ⟨table, returned⟩ := @orderCount_returns 0 (fun _ => none) {("u1", "acme")}
    {("u1", "acme"), ("u2", "acme")} few
  have limited := @orderCount_limit 0 (fun _ => none) {("u1", "acme")}
    {("u1", "acme"), ("u2", "acme")} few
  rw [one] at limited
  have whole := claimed Datum _ Datum.toJson _ _ orderCount _
    [ordersOf {("u1", "acme")}, ordersOf {("u1", "acme"), ("u2", "acme")}] _ _ 1 table
    (plain_counts 0 fun _ => none) valid rfl rfl rfl List.mem_cons_self
    (List.mem_cons_of_mem _ List.mem_cons_self) limited returned
  have spared := spared_eq_self.mp (whole.spared _ orderCount_survivors)
  exact absurd spared (by decide)

end ConsumerEngine.Query
