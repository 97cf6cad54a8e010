import ConsumerEngine.Foundation.Templates
import ConsumerEngine.Query.Validation

/-! The compiler from segment queries to parameterised DuckDB SQL.

Every helper takes the parameters bound so far and returns them with its own pushed
behind, as the source pushes into one vector while it renders.
-/

set_option autoImplicit false

namespace ConsumerEngine.Query

open ConsumerEngine.Core ConsumerEngine.Foundation

/-- `FrequencyCap`. -/
structure FrequencyCap where
  maxContacts : Nat
  maxContacts_pos : 0 < maxContacts
  windowDays : Nat
  windowDays_pos : 0 < windowDays

/-- `SuppressionRules`. -/
structure SuppressionRules where
  perCampaignNoRepeat : Bool
  frequencyCap : Option FrequencyCap

/-- `CompileOptions`. The alias is the name of an attached catalogue. -/
structure CompileOptions where
  catalogAlias : String
  alias_ident : isIdent catalogAlias = true
  suppression : SuppressionRules
  deriveLimit : Option Nat
  tenant : String

/-- `CompiledQuery`. -/
structure CompiledQuery where
  sql : String
  params : List Value
  sources : List Dataset

/-- `MAX_NESTING`. -/
def maxNesting : Nat := 8

/-- Qualified raw table name. -/
def rawTable (d : Dataset) (catalogAlias : String) : String :=
  catalogAlias ++ ".raw_" ++ d.system ++ "_" ++ d.entity

/-- `base_select`. -/
def baseSelect (source : Dataset) (key : String) (conjuncts : List String)
    (catalogAlias : String) : String :=
  let table := rawTable source catalogAlias
  if conjuncts.isEmpty then "SELECT DISTINCT base." ++ key ++ " FROM " ++ table ++ " base"
  else "SELECT DISTINCT base." ++ key ++ " FROM " ++ table ++ " base WHERE " ++
    joined " AND " conjuncts

/-- The tenant-scoping conjunct of a relation. -/
def tenantEq (rel : String) (params : List Value) (tenant : String) : String × List Value :=
  (rel ++ ".tenant_id = ?", params ++ [.text tenant])

/-- `to_value`. -/
def toValue : Json → Except QueryError Value
  | .null => .ok .null
  | .bool b => .ok (.boolean b)
  | .number n =>
      match n.asI64 with
      | some i => .ok (.bigInt i)
      | none =>
          match n.asF64 with
          | some x => .ok (.double x)
          | none => .error (invalid "unsupported numeric value")
  | .string s => .ok (.text s)
  | .array _ | .object _ => .error (invalid "scalar value required")

/-- `binary_cmp_symbol`. -/
def binaryCmpSymbol : Cmp → Option String
  | .eq => some "="
  | .ne => some "<>"
  | .lt => some "<"
  | .le => some "<="
  | .gt => some ">"
  | .ge => some ">="
  | .like => some "LIKE"
  | .notLike => some "NOT LIKE"
  | .isIn | .notIn => none

/-- `cmp_symbol`. -/
def cmpSymbol : Cmp → Except QueryError String
  | .eq => .ok "="
  | .ne => .ok "<>"
  | .lt => .ok "<"
  | .le => .ok "<="
  | .gt => .ok ">"
  | .ge => .ok ">="
  | .isIn | .notIn | .like | .notLike =>
      .error (invalid "feature op must be a numeric comparison (eq/ne/lt/le/gt/ge)")

/-- `setop_keyword`. -/
def setopKeyword : SetOpKind → String
  | .intersect => "INTERSECT"
  | .union => "UNION"
  | .minus => "EXCEPT"

/-- `as_array`. -/
def asArray : Json → Option (List Json)
  | .array items => some items
  | _ => none

/-- `compile_in`. -/
def compileIn (col : String) (value : Json) (params : List Value) (negate : Bool) :
    Except QueryError (String × List Value) :=
  match asArray value with
  | none => .error (invalid "IN/NotIn requires an array value")
  | some items =>
      if items.isEmpty then .ok (if negate then "1=1" else "1=0", params)
      else do
        let pushed ← items.mapM toValue
        let placeholders := joined ", " (items.map fun _ => "?")
        return (if negate then col ++ " NOT IN (" ++ placeholders ++ ")"
          else col ++ " IN (" ++ placeholders ++ ")", params ++ pushed)

/-- `compile_predicate`. -/
def compilePredicate (rel : String) (p : Predicate) (params : List Value) :
    Except QueryError (String × List Value) :=
  let col := rel ++ "." ++ p.column
  match binaryCmpSymbol p.op with
  | some symbol => do
      let value ← toValue p.value
      return (col ++ " " ++ symbol ++ " ?", params ++ [value])
  | none =>
      match p.op with
      | .isIn => compileIn col p.value params false
      | .notIn => compileIn col p.value params true
      | _ => .error (invalid "unsupported predicate op")

/-- The parts of an event condition that come before the window. -/
def compileEvent (userKey baseKey : String) (predicate : Option Predicate)
    (params : List Value) (tenant : String) : Except QueryError (List String × List Value) := do
  let parts := ["e." ++ userKey ++ " = base." ++ baseKey]
  let (own, params) := tenantEq "e" params tenant
  match predicate with
  | none => return (parts ++ [own], params)
  | some p =>
      let (test, params) ← compilePredicate "e" p params
      return (parts ++ [own] ++ [test], params)

/-- The comparison of an event's time with the start of the window. -/
def windowTest (tsColumn comparison : String) (withinDays : Nat) : String :=
  "CAST(e." ++ tsColumn ++ " AS TIMESTAMP) " ++ comparison ++
    " CAST(now() AS TIMESTAMP) - INTERVAL '" ++ toString withinDays ++ "' DAY"

/-- `compile_recency`. -/
def compileRecency (event : Dataset) (userKey baseKey tsColumn : String) (withinDays : Nat)
    (predicate : Option Predicate) (params : List Value) (catalogAlias tenant : String) :
    Except QueryError (String × List Value) := do
  let table := rawTable event catalogAlias
  let (parts, params) ← compileEvent userKey baseKey predicate params tenant
  let whereParts := parts ++ [windowTest tsColumn ">=" withinDays]
  return ("EXISTS (SELECT 1 FROM " ++ table ++ " e WHERE " ++ joined " AND " whereParts ++ ")",
    params)

/-- `compile_lapsed`. -/
def compileLapsed (event : Dataset) (userKey baseKey tsColumn : String) (withinDays : Nat)
    (predicate : Option Predicate) (params : List Value) (catalogAlias tenant : String) :
    Except QueryError (String × List Value) := do
  let table := rawTable event catalogAlias
  let (parts, params) ← compileEvent userKey baseKey predicate params tenant
  let beforeParts := parts ++ [windowTest tsColumn "<" withinDays]
  let (parts, params) ← compileEvent userKey baseKey predicate params tenant
  let recentParts := parts ++ [windowTest tsColumn ">=" withinDays]
  return ("EXISTS (SELECT 1 FROM " ++ table ++ " e WHERE " ++ joined " AND " beforeParts ++
    ") AND NOT EXISTS (SELECT 1 FROM " ++ table ++ " e WHERE " ++ joined " AND " recentParts ++ ")",
    params)

/-- `survivor_cte`. -/
def survivorCte (source : Dataset) (key : String) (conjuncts : List String)
    (catalogAlias : String) (limit : Nat) : String :=
  let table := rawTable source catalogAlias
  let whereSql := if conjuncts.isEmpty then "" else " WHERE " ++ joined " AND " conjuncts
  "SELECT DISTINCT base." ++ key ++ " AS user_id FROM " ++ table ++ " base" ++ whereSql ++
    " LIMIT " ++ toString limit

/-- The aggregate of a metric over its column. -/
def aggregateOf : JitMetric → String
  | .count _ => "count(*)"
  | .sum _ column => "sum(CAST(e." ++ column ++ " AS DOUBLE))"
  | .avg _ column => "avg(CAST(e." ++ column ++ " AS DOUBLE))"
  | .min _ column => "min(CAST(e." ++ column ++ " AS DOUBLE))"
  | .max _ column => "max(CAST(e." ++ column ++ " AS DOUBLE))"

/-- `compile_derive_metric`. -/
def compileDeriveMetric (survivor name : String) (metric : JitMetric) (params : List Value)
    (catalogAlias tenant : String) : String × List Value :=
  let params := params ++ [.text name]
  let (own, params) := tenantEq "e" params tenant
  let table := rawTable (metricEvent metric) catalogAlias
  ("WITH survivor AS (" ++ survivor ++ ") SELECT " ++ "? AS name" ++ ", " ++ aggregateOf metric ++
    " AS value FROM survivor s JOIN " ++ table ++ " e ON e.user_id = s.user_id AND " ++ own, params)

/-- The per-campaign clause of an `Exclude`. -/
def compileNoRepeat (campaignId baseKey : String) (opts : CompileOptions) (params : List Value) :
    String × List Value :=
  let (own, params) := tenantEq "s" params opts.tenant
  ("NOT EXISTS (SELECT 1 FROM " ++ opts.catalogAlias ++
    ".suppression s WHERE s.user_id = base." ++ baseKey ++ " AND " ++ own ++
    " AND " ++ "s.campaign_id = ?" ++ " AND s.action IN ('targeted', 'delivered'))",
    params ++ [.text campaignId])

/-- The frequency-cap clause of an `Exclude`. -/
def compileCap (cap : FrequencyCap) (baseKey : String) (opts : CompileOptions)
    (params : List Value) : String × List Value :=
  ("NOT EXISTS (SELECT 1 FROM " ++ opts.catalogAlias ++
    ".suppression s WHERE s.user_id = base." ++ baseKey ++
    " AND " ++ "s.tenant_id = ?" ++ " AND s.action = 'targeted' AND s.occurred_ts >= " ++
    "CAST(CAST(now() AS TIMESTAMP) - INTERVAL '" ++ toString cap.windowDays ++
    "' DAY AS TIMESTAMPTZ) GROUP BY s.user_id HAVING " ++ "count(*) >= ?" ++ ")",
    params ++ [.text opts.tenant] ++ [.bigInt cap.maxContacts])

/-- `compile_exclude`. -/
def compileExclude (campaignId baseKey : String) (opts : CompileOptions) (params : List Value) :
    String × List Value :=
  let (clauses, params) :=
    if opts.suppression.perCampaignNoRepeat then
      let (clause, params) := compileNoRepeat campaignId baseKey opts params
      ([clause], params)
    else ([], params)
  let (clauses, params) :=
    match opts.suppression.frequencyCap with
    | some cap =>
        let (clause, params) := compileCap cap baseKey opts params
        (clauses ++ [clause], params)
    | none => (clauses, params)
  if clauses.isEmpty then ("1=1", params) else (joined " AND " clauses, params)

/-- `compile_feature`. -/
def compileFeature (name : String) (op : Cmp) (value : F64) (baseKey : String)
    (params : List Value) (catalogAlias tenant : String) (asOf : Option String) :
    Except QueryError (String × List Value) := do
  let (family, short) ← relabel "" (splitFeatureName name)
  let cmp ← cmpSymbol op
  let (own, params) := tenantEq "f" params tenant
  match asOf with
  | some asOf =>
      return ("EXISTS (SELECT 1 FROM " ++ catalogAlias ++
        ".feature_store f WHERE f.user_id = base." ++ baseKey ++ " AND " ++ own ++
        " AND " ++ "f.feature_name = ?" ++ " AND " ++ "f.as_of_ts <= CAST(? AS TIMESTAMPTZ)" ++
        " GROUP BY f.user_id, f.feature_name HAVING " ++ "arg_max(f.num_value, f.as_of_ts) " ++
        cmp ++ " ?" ++ ")",
        params ++ [.text name] ++ [.text asOf] ++ [.double value])
  | none =>
      return ("EXISTS (SELECT 1 FROM " ++ catalogAlias ++ ".feature_wide_" ++ family ++
        " f WHERE f.user_id = base." ++ baseKey ++ " AND " ++ own ++ " AND " ++ "f." ++ short ++
        " " ++ cmp ++ " ?" ++ ")", params ++ [.double value])

/-- What the loop of `compile_at` has gathered. -/
structure Gathered where
  params : List Value
  sources : List Dataset
  conjuncts : List String

def Gathered.add (gathered : Gathered) (read : List Dataset) :
    String × List Value → Gathered
  | (conjunct, params) =>
      ⟨params, gathered.sources ++ read, gathered.conjuncts ++ [conjunct]⟩

/-- The arms of `compile_at` that push one conjunct, and those that reject. -/
def compileConjunct (opts : CompileOptions) (key : String) (asOf : Option String)
    (gathered : Gathered) : Op → Except QueryError Gathered
  | .filter predicate => do
      let pushed ← compilePredicate "base" predicate gathered.params
      return gathered.add [] pushed
  | .recency event userKey tsColumn withinDays predicate => do
      let pushed ← compileRecency event userKey key tsColumn withinDays predicate gathered.params
        opts.catalogAlias opts.tenant
      return gathered.add [event] pushed
  | .lapsed event userKey tsColumn withinDays predicate => do
      let pushed ← compileLapsed event userKey key tsColumn withinDays predicate gathered.params
        opts.catalogAlias opts.tenant
      return gathered.add [event] pushed
  | .feature name op value => do
      let pushed ← compileFeature name op value key gathered.params opts.catalogAlias opts.tenant
        asOf
      return gathered.add [] pushed
  | .exclude campaignId =>
      return gathered.add [] (compileExclude campaignId key opts gathered.params)
  | .characterize .. => .error (invalid "Characterize must go through the profile path")
  | .similar | .setOp .. | .derive .. => .error (invalid "capability not supported yet")

/-- The arm of `compile_at` that returns a metric. -/
def compileDerive (opts : CompileOptions) (source : Dataset) (key : String) (gathered : Gathered)
    (name : String) (metric : JitMetric) : Except QueryError CompiledQuery :=
  match opts.deriveLimit with
  | none => .error (invalid ("Derive requires the survivor count; the engine must plan the prior " ++
      "B/F stages first"))
  | some limit =>
      let survivor := survivorCte source key gathered.conjuncts opts.catalogAlias limit
      let (sql, params) := compileDeriveMetric survivor name metric gathered.params
        opts.catalogAlias opts.tenant
      .ok ⟨sql, params, gathered.sources ++ [metricEvent metric]⟩

/-- This level combined with the compiled other one. -/
def combine (kind : SetOpKind) (thisSql : String) (gathered : Gathered) (other : CompiledQuery) :
    CompiledQuery where
  sql := "(" ++ thisSql ++ ") " ++ setopKeyword kind ++ " (" ++ other.sql ++ ")"
  params := gathered.params ++ other.params
  sources := gathered.sources ++ other.sources

mutual

/-- `compile_at`. -/
def compileAt (opts : CompileOptions) (q : SegmentQuery) (depth : Nat) :
    Except QueryError CompiledQuery :=
  match q with
  | ⟨source, key, ops, asOf⟩ =>
      if maxNesting < depth then
        .error (invalid ("segment nesting exceeds depth limit of " ++ toString maxNesting))
      else
        let (own, params) := tenantEq "base" [] opts.tenant
        compileOps opts source key asOf depth ⟨params, [source], [own]⟩ ops
termination_by structural q

/-- The loop of `compile_at` from one operation on, and what follows the loop. -/
def compileOps (opts : CompileOptions) (source : Dataset) (key : String) (asOf : Option String)
    (depth : Nat) (gathered : Gathered) (ops : List Op) : Except QueryError CompiledQuery :=
  match ops with
  | [] => .ok ⟨baseSelect source key gathered.conjuncts opts.catalogAlias, gathered.params,
      gathered.sources⟩
  | .setOp kind other :: rest =>
      -- an operation behind the set operation is met before `other` is compiled
      if rest.isEmpty then do
        let compiled ← compileAt opts other (depth + 1)
        return combine kind (baseSelect source key gathered.conjuncts opts.catalogAlias) gathered
          compiled
      else .error (invalid "ops after a SetOp are not supported in M1")
  | .derive name metric :: _ => compileDerive opts source key gathered name metric
  | op :: rest => do
      let gathered ← compileConjunct opts key asOf gathered op
      compileOps opts source key asOf depth gathered rest
termination_by structural ops

end

/-- `compile_with_opts`. -/
def compileWithOpts (q : SegmentQuery) (opts : CompileOptions) : Except QueryError CompiledQuery :=
  compileAt opts q 0

/-- `strip_last_op`. -/
def stripLastOp (q : SegmentQuery) : SegmentQuery := { q with ops := q.ops.dropLast }

/-- `CharacterizeQueries`. -/
structure CharacterizeQueries where
  metrics : CompiledQuery
  recency : CompiledQuery
  categories : CompiledQuery

/-- The CTEs a profile query starts with: the segment, and the event rows with `in_seg`. -/
def segmentAndEvents (segment columns eventTable own : String) : String :=
  "WITH segment AS (" ++ segment ++ "), ev AS (SELECT e.user_id, " ++ columns ++
    ", (s.user_id IS NOT NULL) AS in_seg FROM " ++ eventTable ++
    " e LEFT JOIN segment s ON s.user_id = e.user_id WHERE " ++ own ++ ")"

def metricsSelect : String :=
  " SELECT (SELECT count(*) FROM segment) AS seg_users, " ++
  "(SELECT count(DISTINCT user_id) FROM ev) AS base_users, " ++
  "(SELECT sum(amount) FROM ev WHERE in_seg) * 1.0 / NULLIF((SELECT count(*) FROM ev WHERE " ++
  "in_seg), 0) AS seg_aov, " ++
  "(SELECT sum(amount) FROM ev) * 1.0 / NULLIF((SELECT count(*) FROM ev), 0) AS base_aov, " ++
  "(SELECT count(*) FROM ev WHERE in_seg) * 1.0 / " ++
  "NULLIF((SELECT count(DISTINCT user_id) FROM ev WHERE in_seg), 0) AS seg_freq, " ++
  "(SELECT count(*) FROM ev) * 1.0 / NULLIF((SELECT count(DISTINCT user_id) FROM ev), 0) AS " ++
  "base_freq, (SELECT count(*) FROM ev WHERE in_seg) AS seg_orders, " ++
  "(SELECT count(*) FROM ev) AS base_orders"

def recencySelect : String :=
  ", per_user AS (SELECT user_id, bool_or(in_seg) AS in_seg, max(ts) AS last_ts FROM ev " ++
  "GROUP BY user_id) SELECT " ++
  "avg(extract(epoch FROM (CAST(now() AS TIMESTAMP) - last_ts)) / 86400.0) FILTER " ++
  "(WHERE in_seg) AS seg_recency_days, " ++
  "avg(extract(epoch FROM (CAST(now() AS TIMESTAMP) - last_ts)) / 86400.0) AS " ++
  "base_recency_days FROM per_user"

def categoriesSelect : String :=
  " SELECT category, count(*) FILTER (WHERE in_seg) AS seg_n, count(*) AS base_n FROM ev " ++
  "GROUP BY category ORDER BY seg_n DESC LIMIT 3"

/-- `compile_characterize`. -/
def compileCharacterize (q : SegmentQuery) (opts : CompileOptions) :
    Except QueryError CharacterizeQueries :=
  match q.ops.getLast? with
  | some (.characterize event tsColumn monetaryColumn categoryColumn) => do
      let segment ← compileWithOpts (stripLastOp q) opts
      let eventTable := rawTable event opts.catalogAlias
      let (own, params) := tenantEq "e" segment.params opts.tenant
      let sources := segment.sources ++ [event]
      return {
        metrics := ⟨segmentAndEvents segment.sql
          ("CAST(e." ++ monetaryColumn ++ " AS DOUBLE) AS amount") eventTable own ++ metricsSelect,
          params, sources⟩
        recency := ⟨segmentAndEvents segment.sql
          ("CAST(e." ++ tsColumn ++ " AS TIMESTAMP) AS ts") eventTable own ++ recencySelect,
          params, sources⟩
        categories := ⟨segmentAndEvents segment.sql
          ("e." ++ categoryColumn ++ " AS category") eventTable own ++ categoriesSelect,
          params, sources⟩ }
  | _ => .error (invalid "segment does not end in Characterize")

end ConsumerEngine.Query
