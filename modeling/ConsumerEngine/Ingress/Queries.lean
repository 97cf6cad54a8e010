import ConsumerEngine.Ingress.Audience
import ConsumerEngine.Query.Materialization
import ConsumerEngine.Query.Wire

/-! `POST /query`: the estimate of a plan, the guardrails on a run, and the hatch for raw SQL.

EXPLAIN tells the plan of a query before it runs; the estimate is the largest cardinality that a node
of the plan tells. Raw SQL is neither planned nor scoped to a tenant; it needs a token of its own.
-/

set_option autoImplicit false

namespace ConsumerEngine.Query

open ConsumerEngine.Core ConsumerEngine.Foundation ConsumerEngine.Sql ConsumerEngine.Ingress

/-! ### The estimate -/

/-- The `Estimated Cardinality` that a plan node tells of itself. -/
def nodeCardinality (node : Json) : Option Nat :=
  match (node.get "extra_info").bind fun info => info.get "Estimated Cardinality" with
  | some (.string card) => (parseU64 card).map UInt64.toNat
  | _ => none

def raised (card : Option Nat) (max : Nat) : Nat :=
  match card with
  | some n => if max < n then n else max
  | none => max

mutual

/-- `walk_cardinality`. -/
def walkCardinality (v : Json) (max : Nat) : Nat :=
  match v with
  -- an array returns before anything is asked of it as a node
  | .array items => walkItems items max
  | .object fields => walkChildren fields (raised (nodeCardinality (.object fields)) max)
  | .null | .bool _ | .number _ | .string _ => max
termination_by structural v

def walkItems (items : List Json) (max : Nat) : Nat :=
  match items with
  | [] => max
  | item :: rest => walkItems rest (walkCardinality item max)
termination_by structural items

/-- The field that `get` finds. -/
def walkChildren (fields : List (String × Json)) (max : Nat) : Nat :=
  match fields with
  | [] => max
  | field :: rest => if field.1 = "children" then walkField field max else walkChildren rest max
termination_by structural fields

/-- Children that are no array are not walked. -/
def walkField (field : String × Json) (max : Nat) : Nat :=
  match field with
  | (_, v) =>
    match v with
    | .array _ => walkCardinality v max
    | .null | .bool _ | .number _ | .string _ | .object _ => max
termination_by structural field

end

section
variable (fromStr : String → Option Json)

/-- The plan in a reply to EXPLAIN: the second cell of its first row, as JSON text. -/
def planOf (rows : List (List Json)) : Option Json :=
  match (rows.head?.bind fun row : List Json => row[1]? : Option Json) with
  | some (.string text) => fromStr text
  | _ => none

/-- `max_cardinality`. -/
def maxCardinality (rows : List (List Json)) : Option Nat :=
  (planOf fromStr rows).bind fun plan =>
    let max := walkCardinality plan 0
    if 0 < max then some max else none

/-- `explain_cost`: a reply that fails or comes too late estimates nothing. -/
def explainCost : Except QueryError (List (List Json)) → Nat
  | .ok rows => (maxCardinality fromStr rows).getD 0
  | .error _ => 0

end

/-- `enforce`. -/
def enforce (estRows : Nat) (guardrails : GuardrailConfig) : Except QueryError Unit :=
  if guardrails.maxOutputRows < estRows then
    .error (.guardrail "max_output_rows" (toString guardrails.maxOutputRows))
  else .ok ()

inductive Mode where
  | sync | async
  deriving DecidableEq

/-- `prepare`, the plan estimated. -/
def prepareMode (estRows : Nat) (guardrails : GuardrailConfig) : Except QueryError Mode := do
  enforce estRows guardrails
  return if guardrails.syncRowCap < estRows then .async else .sync

/-- What `run_sync` makes of the mode. -/
def preflight (estRows : Nat) (guardrails : GuardrailConfig) : Except QueryError Unit := do
  match ← prepareMode estRows guardrails with
  | .async => throw .tooLarge
  | .sync => return ()

/-! ### The nodes of a plan -/

/-- A node within a plan, and the cardinality it tells. -/
inductive Planned : Json → Nat → Prop where
  | item {items : List Json} {item : Json} {card : Nat} (member : item ∈ items)
      (inside : Planned item card) : Planned (.array items) card
  | node {fields : List (String × Json)} {card : Nat}
      (tells : nodeCardinality (.object fields) = some card) : Planned (.object fields) card
  | child {fields : List (String × Json)} {items : List Json} {card : Nat}
      (children : (Json.object fields).get "children" = some (.array items))
      (inside : Planned (.array items) card) : Planned (.object fields) card

theorem raised_le {card : Option Nat} {max bound : Nat} :
    raised card max ≤ bound ↔ max ≤ bound ∧ ∀ n, card = some n → n ≤ bound := by
  cases card with
  | none => simp [raised]
  | some n =>
    simp only [raised, Option.some.injEq, forall_eq']
    split <;> omega

mutual

/-- The walk is bounded by what bounds its start and each node. -/
theorem walkCardinality_le (v : Json) (max bound : Nat) :
    walkCardinality v max ≤ bound ↔ max ≤ bound ∧ ∀ card, Planned v card → card ≤ bound := by
  match v with
  | .array items =>
    rw [walkCardinality, walkItems_le items]
    refine and_congr_right' ⟨fun each card planned => ?_, fun each item member card inside =>
      each card (.item member inside)⟩
    cases planned with
    | item member inside => exact each _ member card inside
  | .object fields =>
    -- the estimate of the node itself is where the walk of its children starts
    rw [walkCardinality, walkChildren_le fields, raised_le, and_assoc]
    refine and_congr_right' ⟨?_, fun each => ⟨fun card tells => each card (.node tells),
      fun items children card inside => each card (.child children inside)⟩⟩
    rintro ⟨own, below⟩ card planned
    cases planned with
    | node tells => exact own card tells
    | child children inside => exact below _ children card inside
  | .null | .bool _ | .number _ | .string _ =>
    rw [walkCardinality]
    exact ⟨fun le => ⟨le, fun card planned => by cases planned⟩, And.left⟩
termination_by structural v

theorem walkItems_le (items : List Json) (max bound : Nat) : walkItems items max ≤ bound ↔
    max ≤ bound ∧ ∀ item ∈ items, ∀ card, Planned item card → card ≤ bound := by
  match items with
  | [] => simp [walkItems]
  | item :: rest =>
    rw [walkItems, walkItems_le rest, walkCardinality_le item, List.forall_mem_cons, and_assoc]
termination_by structural items

theorem walkChildren_le (fields : List (String × Json)) (max bound : Nat) :
    walkChildren fields max ≤ bound ↔ max ≤ bound ∧
      ∀ items, (Json.object fields).get "children" = some (.array items) →
        ∀ card, Planned (.array items) card → card ≤ bound := by
  match fields with
  | [] => simp [walkChildren, Json.get]
  | field :: rest =>
    rw [walkChildren]
    by_cases named : field.1 = "children"
    · have found : (Json.object (field :: rest)).get "children" = some field.2 := by
        simp [Json.get, named]
      rw [if_pos named, walkField_le field, found]
      simp only [Option.some.injEq]
    · have later : (Json.object (field :: rest)).get "children" =
          (Json.object rest).get "children" := by
        simp [Json.get, named]
      rw [if_neg named, walkChildren_le rest, later]
termination_by structural fields

theorem walkField_le (field : String × Json) (max bound : Nat) :
    walkField field max ≤ bound ↔ max ≤ bound ∧ ∀ items, field.2 = .array items →
      ∀ card, Planned (.array items) card → card ≤ bound := by
  match field with
  | (_, v) =>
    have whole := walkCardinality_le v max bound
    cases v with
    | array items =>
      rw [walkField, whole]
      simp only [Json.array.injEq, forall_eq']
    -- children of another kind hold no node
    | null | bool _ | number _ | string _ | object _ => simp [walkField]
termination_by structural field

end

section
variable {fromStr : String → Option Json} {reply : Except QueryError (List (List Json))}
  {guardrails : GuardrailConfig}

/-- The reply to EXPLAIN tells a plan. -/
def Explains (fromStr : String → Option Json) (reply : Except QueryError (List (List Json)))
    (plan : Json) : Prop :=
  ∃ rows, reply = .ok rows ∧ planOf fromStr rows = some plan

theorem explainCost_le {bound : Nat} : explainCost fromStr reply ≤ bound ↔
    ∀ plan, Explains fromStr reply plan → ∀ card, Planned plan card → card ≤ bound := by
  cases reply with
  | error failure =>
    refine ⟨?_, fun _ => Nat.zero_le _⟩
    rintro - plan ⟨rows, same, -⟩
    cases same
  | ok rows =>
    simp only [Explains, Except.ok.injEq, exists_eq_left', explainCost, maxCardinality]
    cases planOf fromStr rows with
    | none => simp
    | some plan =>
      have walked := walkCardinality_le plan 0 bound
      simp only [Nat.zero_le, true_and] at walked
      simp only [Option.some.injEq, forall_eq', Option.bind_some, ← walked]
      split
      · rw [Option.getD_some]
      -- a walk that finds nothing is told as none, which estimates 0 again
      · rw [Option.getD_none]
        omega

theorem preflight_eq_ok {estRows : Nat} : preflight estRows guardrails = .ok () ↔
    estRows ≤ guardrails.maxOutputRows ∧ estRows ≤ guardrails.syncRowCap := by
  unfold preflight prepareMode
  constructor
  · intro passed
    obtain ⟨mode, chosen, passed⟩ := except_bind_eq_ok.mp passed
    obtain ⟨⟨⟩, enforced, chosen⟩ := except_bind_eq_ok.mp chosen
    obtain rfl := Except.ok.inj chosen
    refine ⟨?_, ?_⟩
    · by_contra more
      rw [enforce, if_pos (Nat.lt_of_not_le more)] at enforced
      cases enforced
    · by_contra more
      rw [if_pos (Nat.lt_of_not_le more)] at passed
      cases passed
  · rintro ⟨output, sync⟩
    rw [enforce, if_neg (Nat.not_lt.mpr output), if_neg (Nat.not_lt.mpr sync)]
    rfl

/-- No node of the plan tells more than a cap. -/
def WithinCaps (guardrails : GuardrailConfig) (plan : Json) : Prop :=
  ∀ card, Planned plan card → card ≤ guardrails.maxOutputRows ∧ card ≤ guardrails.syncRowCap

/-- A query passes when no node of its plan tells more than a cap, also when no plan is told. -/
theorem preflight_explained : preflight (explainCost fromStr reply) guardrails = .ok () ↔
    ∀ plan, Explains fromStr reply plan → WithinCaps guardrails plan := by
  rw [preflight_eq_ok, explainCost_le, explainCost_le]
  constructor
  · rintro ⟨output, sync⟩ plan told card planned
    exact ⟨output plan told card planned, sync plan told card planned⟩
  · intro within
    exact ⟨fun plan told card planned => (within plan told card planned).1,
      fun plan told card planned => (within plan told card planned).2⟩

end

/-- A plan of two nodes, the lower one in an array of children. -/
example : walkCardinality (.array [.object [("name", .string "FILTER"),
    ("extra_info", .object [("Estimated Cardinality", .string "7")]),
    ("children", .array [.object [("extra_info", .object [("Estimated Cardinality", .string "40")])]])]])
    0 = 40 := by
  decide

/-! ### Runs -/

/-- How one request fares outside: the reads of its query, the replies to EXPLAIN and to raw SQL,
and the profile that the replies of a characterisation assemble. -/
structure Replies (V : Type) where
  reads : DeriveReads
  explained : Except QueryError (List (List Json))
  profiled : SegmentQuery → Except QueryError Json
  sql : String → Except QueryError (Table V)

/-- `SyncResult`, the label of its freshness and its identifier apart. -/
structure SyncResult where
  columns : List String
  rows : Multiset (List Json)
  count : Nat

section
variable {V : Type} [DecidableEq V] (E : Engine V) (toJson : V → Json) (engine : QueryEngine)
  (fromStr : String → Option Json) (tenant : String) (replies : Replies V)

omit [DecidableEq V] in
/-- The reads of a run that is estimated first. -/
def Replies.planned (guardrails : GuardrailConfig) : DeriveReads :=
  { replies.reads with planned := preflight (explainCost fromStr replies.explained) guardrails }

omit [DecidableEq V] in
def SyncResult.ofTable (table : Table V) : SyncResult :=
  ⟨table.columns, table.rows.map fun row => row.map toJson, table.rows.card⟩

def SyncResult.ofProfile (profile : Json) : SyncResult := ⟨["profile"], {[profile]}, 1⟩

/-- `run_sync`. -/
def QueryEngine.respond (q : SegmentQuery) : Except QueryError SyncResult :=
  if hasCharacterize q then do
    let profile ← replies.profiled q
    return .ofProfile profile
  else do
    let table ← engine.runSync E toJson q tenant (replies.planned fromStr engine.guardrails)
    return .ofTable toJson table

/-- `run`. -/
def QueryEngine.run (complaint : Json → String) (isRfc3339 : String → Bool) (dsl : Json) :
    Except QueryError SyncResult := do
  let q ← SegmentQuery.parse complaint isRfc3339 dsl
  engine.respond E toJson fromStr tenant replies q

omit [DecidableEq V] in
/-- `run_sql_approved`. -/
def QueryEngine.runSqlApproved (sql : String) : Except QueryError SyncResult := do
  let table ← replies.sql sql
  if engine.guardrails.maxOutputRows < table.rows.card then
    throw (.guardrail "max_output_rows" (toString engine.guardrails.maxOutputRows))
  else return .ofTable toJson table

end

end ConsumerEngine.Query

namespace ConsumerEngine.Ingress

open ConsumerEngine.Core ConsumerEngine.Foundation ConsumerEngine.Sql ConsumerEngine.Query

/-! ### The handler -/

/-- `MAX_SQL_BYTES` -/
def maxSqlBytes : Nat := 8192

structure QueryRequest where
  dsl : Option Json
  sql : Option String
  approvalToken : Option String

section
variable (sha256 : List UInt8 → Digest)

/-- The `sql_approval_hash` that `Engine::build` assembles. -/
def sqlApprovalHash (sqlApprovalToken : Option String) : Option Digest :=
  sqlApprovalToken.map (hashToken sha256)

/-- Without a token of the engine, or of the request, the hatch is closed. -/
def approved (expected : Option Digest) (provided : Option String) : Bool :=
  match expected, provided with
  | some hash, some token => hash == hashToken sha256 token
  | some _, none | none, _ => false

variable {V : Type} [DecidableEq V] (E : Query.Engine V) (toJson : V → Json) (engine : QueryEngine)
  (fromStr : String → Option Json) (complaint : Json → String) (texts : Texts)

/-- `query`. A body that has both is answered by its DSL. -/
def query (approvalHash : Option Digest) (tenant : String) (replies : Replies V)
    (request : QueryRequest) : Except ApiError SyncResult :=
  match request.dsl, request.sql with
  | some dsl, _ =>
      asQuery (engine.run E toJson fromStr tenant replies complaint texts.isRfc3339 dsl)
  | none, some sql =>
      if maxSqlBytes < (utf8 sql).length then
        .error (.core (.invalidInput ("sql exceeds " ++ toString maxSqlBytes ++ " bytes")))
      else if approved sha256 approvalHash request.approvalToken then
        asQuery (engine.runSqlApproved toJson replies sql)
      else .error .unauthorized
  | none, none =>
      .error (.core (.invalidInput
        "provide a 'dsl' (or 'sql' with an approval token — not enabled in M1)"))

end

/-! ### What is answered -/

section
variable {V : Type} [DecidableEq V]

/-- What an answer rests on: an accepted query of rows, within the caps before and after its run and
of the caller's own survivors; an accepted profile; or raw SQL for the token of the engine. -/
inductive Rests (E : Query.Engine V) (toJson : V → Json) (engine : QueryEngine)
    (fromStr : String → Option Json) (complaint : Json → String) (texts : Texts)
    (sqlApprovalToken : Option String) (tenant : String) (replies : Replies V)
    (request : QueryRequest) (result : SyncResult) : Prop where
  | rows {dsl : Json} {q : SegmentQuery} {table : Table V} (asked : request.dsl = some dsl)
      (accepted : SegmentQuery.parse complaint texts.isRfc3339 dsl = .ok q)
      (rowed : hasCharacterize q = false)
      (estimated : ∀ plan, Explains fromStr replies.explained plan → WithinCaps engine.guardrails plan)
      (survivors : hasDerive q = false → ∃ catalog users, replies.reads.ran = .ok catalog ∧
        (E.population (engine.readOptions tenant) catalog).survivors E q = some users ∧
        table = E.keyTable (foldName q.key) users)
      (capped : table.rows.card ≤ engine.guardrails.maxOutputRows)
      (shown : result = .ofTable toJson table)
  | profile {dsl : Json} {q : SegmentQuery} {profile : Json} (asked : request.dsl = some dsl)
      (accepted : SegmentQuery.parse complaint texts.isRfc3339 dsl = .ok q)
      (characterized : hasCharacterize q = true) (assembled : replies.profiled q = .ok profile)
      (shown : result = .ofProfile profile)
  | hatch {sql token : String} {table : Table V} (undescribed : request.dsl = none)
      (asked : request.sql = some sql) (short : (utf8 sql).length ≤ maxSqlBytes)
      (provided : request.approvalToken = some token) (configured : sqlApprovalToken = some token)
      (ran : replies.sql sql = .ok table) (capped : table.rows.card ≤ engine.guardrails.maxOutputRows)
      (shown : result = .ofTable toJson table)

variable {E : Query.Engine V} {toJson : V → Json} {engine : QueryEngine}
  {fromStr : String → Option Json} {complaint : Json → String} {texts : Texts}
  {sqlApprovalToken : Option String} {tenant : String} {replies : Replies V}
  {request : QueryRequest} {result : SyncResult} {sha256 : List UInt8 → Digest}
  {known : Set (List UInt8)}

/-- A run that answers has passed the pre-flight, was attached, and keeps to the cap. -/
theorem runSync_guarded {q : SegmentQuery} {reads : DeriveReads} {table : Table V}
    (ran : engine.runSync E toJson q tenant reads = .ok table) : reads.planned = .ok () ∧
      (∃ catalog, reads.ran = .ok catalog) ∧ table.rows.card ≤ engine.guardrails.maxOutputRows := by
  unfold QueryEngine.runSync at ran
  obtain ⟨compiled, -, ran⟩ := except_bind_eq_ok.mp ran
  obtain ⟨⟨⟩, passed, ran⟩ := except_bind_eq_ok.mp ran
  obtain ⟨catalog, attached, ran⟩ := except_bind_eq_ok.mp ran
  obtain ⟨found, -, ran⟩ := except_bind_eq_ok.mp ran
  split at ran
  · cases ran
  · next capped =>
    obtain rfl := Except.ok.inj ran
    exact ⟨passed, ⟨catalog, attached⟩, Nat.not_lt.mp capped⟩

theorem approved_iff (apart : Set.InjOn sha256 known) {presented : Option String}
    (asked : ∀ token, presented = some token → utf8 token ∈ known)
    (held : ∀ token, sqlApprovalToken = some token → utf8 token ∈ known) :
    approved sha256 (sqlApprovalHash sha256 sqlApprovalToken) presented = true ↔
      ∃ token, presented = some token ∧ sqlApprovalToken = some token := by
  unfold approved sqlApprovalHash
  cases configured : sqlApprovalToken with
  | none => simp
  | some own =>
    cases provided : presented with
    | none => simp
    | some token =>
      rw [Option.map_some]
      dsimp only
      rw [beq_iff_eq, hashToken_eq apart (held own configured) (asked token provided)]
      simp

/-- A DSL that is answered was accepted, and its run guarded. -/
theorem run_rests {dsl : Json} (asked : request.dsl = some dsl)
    (ran : engine.run E toJson fromStr tenant replies complaint texts.isRfc3339 dsl = .ok result) :
    Rests E toJson engine fromStr complaint texts sqlApprovalToken tenant replies request result := by
  obtain ⟨q, accepted, ran⟩ := except_bind_eq_ok.mp ran
  unfold QueryEngine.respond at ran
  split at ran
  -- the profile is read without an estimate and without a cap
  · next characterized =>
    obtain ⟨profile, assembled, same⟩ := except_bind_eq_ok.mp ran
    exact .profile asked accepted characterized assembled (Except.ok.inj same).symm
  · next rowed =>
    obtain ⟨table, ran, same⟩ := except_bind_eq_ok.mp ran
    obtain ⟨passed, ⟨catalog, attached⟩, capped⟩ := runSync_guarded ran
    refine .rows asked accepted (Bool.not_eq_true _ ▸ rowed) (preflight_explained.mp passed)
      (fun keyed => ?_) capped (Except.ok.inj same).symm
    obtain ⟨users, survive, rfl⟩ := runSync_rows (parse_eq_ok.mp accepted).2 keyed attached ran
    exact ⟨catalog, users, attached, survive, rfl⟩

/-- Every answer rests on an accepted query within its guardrails, or on the token of the hatch. -/
theorem query_answered (apart : Set.InjOn sha256 known)
    (asked : ∀ token, request.approvalToken = some token → utf8 token ∈ known)
    (held : ∀ token, sqlApprovalToken = some token → utf8 token ∈ known)
    (answered : query sha256 E toJson engine fromStr complaint texts
      (sqlApprovalHash sha256 sqlApprovalToken) tenant replies request = .ok result) :
    Rests E toJson engine fromStr complaint texts sqlApprovalToken tenant replies request result := by
  unfold query at answered
  cases described : request.dsl with
  | some dsl =>
    rw [described] at answered
    -- whatever SQL comes with it
    exact run_rests described (asQuery_eq_ok.mp answered)
  | none =>
    cases written : request.sql with
    | none =>
      rw [described, written] at answered
      cases answered
    | some sql =>
      rw [described, written] at answered
      dsimp only at answered
      split at answered
      -- SQL that is too long
      · cases answered
      · next short =>
        split at answered
        · next allowed =>
          obtain ⟨token, provided, configured⟩ := (approved_iff apart asked held).mp allowed
          obtain ⟨table, ran, shown⟩ := except_bind_eq_ok.mp (asQuery_eq_ok.mp answered)
          split at shown
          · cases shown
          · next capped =>
            exact .hatch described written (Nat.not_lt.mp short) provided configured ran
              (Nat.not_lt.mp capped) (Except.ok.inj shown).symm
        · cases answered

end

/-! ### Two requests -/

/-- SHA-256 of `"hatch-key"` -/
def hatchDigest : Digest :=
  #v[239, 215, 27, 30, 1, 58, 165, 141, 30, 117, 75, 63, 130, 54, 248, 248,
    242, 25, 10, 250, 105, 204, 79, 185, 233, 22, 206, 15, 199, 123, 69, 192]

/-- The hash, as computed for this token. -/
def hatchSha256 (bytes : List UInt8) : Digest :=
  if bytes = utf8 "hatch-key" then hatchDigest else Vector.replicate 32 0

/-- The plan of a scan over one row. -/
def scanPlan : Json :=
  .array [.object [("name", .string "SEQ_SCAN "), ("children", .array []),
    ("extra_info", .object [("Estimated Cardinality", .string "1")])]]

/-- A run over the order of a user, and a hatch with one row. -/
def orderReplies : Replies Datum where
  reads := readsOnly orderOnly
  explained := .ok [[.string "physical_plan", .string "[…]"]]
  profiled _ := .error .tooLarge
  sql _ := .ok ⟨["one"], {[.number 1]}⟩

def everyOrderRequest : QueryRequest := ⟨some (segmentDocument everyOrder), none, none⟩

def hatchRequest : QueryRequest := ⟨none, some "SELECT 1 AS one", some "hatch-key"⟩

theorem everyOrder_responds : ∃ result, ruledEngine.run jsonEngine Datum.toJson
    (fun _ => some scanPlan) "acme" orderReplies (fun _ => "") anyText.isRfc3339
      (segmentDocument everyOrder) = .ok result := by
  obtain ⟨answer, ran⟩ := everyOrder_runs Storage.Catalog.empty
  have planned : orderReplies.planned (fun _ => some scanPlan) ruledEngine.guardrails =
      readsOnly orderOnly := by
    have passed : preflight (explainCost (fun _ => some scanPlan) orderReplies.explained)
        ruledEngine.guardrails = .ok () := by
      have cost : explainCost (fun _ => some scanPlan) orderReplies.explained = 1 := by decide
      rw [preflight_eq_ok, cost, ruledEngine]
      decide
    rw [Replies.planned, passed, orderReplies, readsOnly]
  have accepted : SegmentQuery.parse (fun _ => "") anyText.isRfc3339 (segmentDocument everyOrder) =
      .ok everyOrder := rfl
  have rowed : ¬ hasCharacterize everyOrder = true := by decide
  refine ⟨.ofTable Datum.toJson answer, ?_⟩
  rw [QueryEngine.run]
  refine except_bind_eq_ok.mpr ⟨everyOrder, accepted, ?_⟩
  rw [QueryEngine.respond, if_neg rowed, planned]
  refine except_bind_eq_ok.mpr ⟨answer, ?_, ?_⟩
  · exact ran
  · rfl

theorem hatchKey_known (token : String) (own : some "hatch-key" = some token) :
    utf8 token ∈ ({utf8 "hatch-key"} : Set _) := by
  obtain rfl := Option.some.inj own
  exact Set.mem_singleton _

/-- The hatch is open to the token of the engine. -/
theorem hatch_responds : query hatchSha256 jsonEngine Datum.toJson ruledEngine
    (fun _ => some scanPlan) (fun _ => "") anyText (sqlApprovalHash hatchSha256 (some "hatch-key"))
      "acme" orderReplies hatchRequest = .ok (.ofTable Datum.toJson ⟨["one"], {[.number 1]}⟩) := by
  have short : ¬ maxSqlBytes < (utf8 "SELECT 1 AS one").length := by decide
  have allowed : approved hatchSha256 (sqlApprovalHash hatchSha256 (some "hatch-key"))
      (some "hatch-key") = true :=
    (approved_iff (Set.injOn_singleton _ _) hatchKey_known hatchKey_known).mpr ⟨"hatch-key", rfl, rfl⟩
  have few : ¬ ruledEngine.guardrails.maxOutputRows <
      Multiset.card ({[.number 1]} : Multiset (List Datum)) := by
    simp [ruledEngine]
  rw [query, hatchRequest]
  dsimp only
  rw [if_neg short, if_pos allowed, asQuery_eq_ok, QueryEngine.runSqlApproved]
  refine except_bind_eq_ok.mpr ⟨⟨["one"], {[.number 1]}⟩, rfl, ?_⟩
  exact if_neg few

theorem query_answered_twoRequests : ∃ result,
    Rests jsonEngine Datum.toJson ruledEngine (fun _ => some scanPlan) (fun _ => "") anyText
        (some "hatch-key") "acme" orderReplies everyOrderRequest result ∧
      Rests jsonEngine Datum.toJson ruledEngine (fun _ => some scanPlan) (fun _ => "") anyText
        (some "hatch-key") "acme" orderReplies hatchRequest
          (.ofTable Datum.toJson ⟨["one"], {[.number 1]}⟩) := by
  obtain ⟨result, ran⟩ := everyOrder_responds
  have apart : Set.InjOn hatchSha256 {utf8 "hatch-key"} := Set.injOn_singleton _ _
  have unapproved : ∀ token, everyOrderRequest.approvalToken = some token →
      utf8 token ∈ ({utf8 "hatch-key"} : Set _) := by
    rintro token ⟨⟩
  have described : query hatchSha256 jsonEngine Datum.toJson ruledEngine (fun _ => some scanPlan)
      (fun _ => "") anyText (sqlApprovalHash hatchSha256 (some "hatch-key")) "acme" orderReplies
        everyOrderRequest = .ok result := by
    rw [query, everyOrderRequest]
    dsimp only
    rw [asQuery_eq_ok]
    exact ran
  exact ⟨result, query_answered apart unapproved hatchKey_known described,
    query_answered apart hatchKey_known hatchKey_known hatch_responds⟩

end ConsumerEngine.Ingress
