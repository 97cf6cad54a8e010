import ConsumerEngine.Query.Wrapping
import ConsumerEngine.Sql.Syntax
import ConsumerEngine.Storage.Statements

/-! The queries that the compiler's texts are read as, helper by helper.

A condition stands for the list of tests between its `AND`s: a conjunct of the text may
spell several of them.
-/

set_option autoImplicit false

namespace ConsumerEngine.Query

open ConsumerEngine.Core ConsumerEngine.Sql ConsumerEngine.Storage

abbrev Term : Type := Ast Value .term

abbrev Test : Type := Ast Value .test

def columnTerm (relation name : String) : Term := .product (.column relation name) .done

def bareTerm (name : String) : Term := .product (.bare name) .done

def boundTerm (value : Value) : Term := .product (.mark value) .done

def numeralTerm (text : String) : Term := .product (.numeral text) .done

def quotedTerm (text : String) : Term := .product (.quoted text) .done

def castTerm (value : Term) (type : String) : Term := .product (.cast value type) .done

def callTerm (function : String) (args : Ast Value .args) : Term :=
  .product (.call function args) .done

def filteredTerm (function : String) (args : Ast Value .args) (kept : Ast Value .cond) : Term :=
  .product (.filtered function args kept) .done

/-- Tests with `AND` between each and the next. -/
def conjunction (first : Test) : List Test → Ast Value .cond
  | [] => .only first
  | second :: rest => .both first (conjunction second rest)

def listOf (first : Term) : List Term → Ast Value .list
  | [] => .last first
  | second :: rest => .more first (listOf second rest)

/-- A stored table under an alias. -/
structure Aliased where
  catalog : String
  table : String
  alias_ : String

def Aliased.phrase (source : Aliased) : Ast Value .relation :=
  .table source.catalog source.table (some source.alias_)

def rawAliased (d : Dataset) (catalogAlias alias_ : String) : Aliased :=
  ⟨foldName catalogAlias, rawName d, alias_⟩

/-- `SELECT 1 FROM … WHERE …`. -/
def probe (source : Aliased) (first : Test) (rest : List Test) (groups : List ColumnRef)
    (having : Ast Value (.clause .HAVING)) : Ast Value .query :=
  .single (.select false (.item (numeralTerm "1") none) (.from source.phrase .noJoin)
    (.clause .WHERE (conjunction first rest)) groups having none none)

/-! ### Predicates -/

def Cmp.comparison : Cmp → Comparison
  | .eq | .isIn | .notIn => .eq
  | .ne => .ne
  | .lt => .lt
  | .le => .le
  | .gt => .gt
  | .ge => .ge
  | .like => .like
  | .notLike => .notLike

/-- What `to_value` binds. -/
def valueOf (json : Json) : Value :=
  match toValue json with
  | .ok value => value
  | .error _ => .null

def tenantTest (rel tenant : String) : Test :=
  .compare .eq (columnTerm rel "tenant_id") (boundTerm (.text tenant))

/-- `1=1` and `1=0`. -/
def constantTest (holds : Bool) : Test :=
  .compare .eq (numeralTerm "1") (numeralTerm (if holds then "1" else "0"))

def membershipTest (negate : Bool) (column : Term) : List Json → Test
  | [] => constantTest negate
  | first :: rest =>
      .isIn negate column
        (listOf (boundTerm (valueOf first)) (rest.map fun item => boundTerm (valueOf item)))

def predicateTest (rel : String) (p : Predicate) : Test :=
  let column := columnTerm rel (foldName p.column)
  match p.op with
  | .isIn => membershipTest false column ((asArray p.value).getD [])
  | .notIn => membershipTest true column ((asArray p.value).getD [])
  | op => .compare op.comparison column (boundTerm (valueOf p.value))

/-! ### Events -/

def sameUserTest (rel userKey baseKey : String) : Test :=
  .compare .eq (columnTerm rel userKey) (columnTerm "base" (foldName baseKey))

/-- The tests of an event behind the one of its user. -/
def eventTests (predicate : Option Predicate) (tenant : String) : List Test :=
  tenantTest "e" tenant :: (predicate.map (predicateTest "e")).toList

/-- `CAST(now() AS TIMESTAMP) - INTERVAL '…' DAY`. -/
def daysAgo (days : Nat) : Term :=
  .minus (.cast (callTerm "now" .noArgs) "timestamp") (.interval (toString days) "day")

def withinTest (tsColumn : String) (comparison : Comparison) (withinDays : Nat) : Test :=
  .compare comparison (castTerm (columnTerm "e" (foldName tsColumn)) "timestamp")
    (daysAgo withinDays)

/-- The event condition with a comparison of the event's time. -/
def windowProbe (event : Dataset) (userKey baseKey tsColumn : String) (comparison : Comparison)
    (withinDays : Nat) (predicate : Option Predicate) (catalogAlias tenant : String) :
    Ast Value .query :=
  probe (rawAliased event catalogAlias "e") (sameUserTest "e" (foldName userKey) baseKey)
    (eventTests predicate tenant ++ [withinTest tsColumn comparison withinDays]) []
    (.noClause .HAVING)

/-! ### Suppression and features -/

def suppressionAliased (catalogAlias : String) : Aliased :=
  ⟨foldName catalogAlias, "suppression", "s"⟩

def noRepeatTest (campaignId baseKey : String) (opts : CompileOptions) : Test :=
  .exist true (probe (suppressionAliased opts.catalogAlias) (sameUserTest "s" "user_id" baseKey)
    [tenantTest "s" opts.tenant,
      .compare .eq (columnTerm "s" "campaign_id") (boundTerm (.text campaignId)),
      .isIn false (columnTerm "s" "action") (listOf (quotedTerm "targeted") [quotedTerm "delivered"])]
    [] (.noClause .HAVING))

def capTest (cap : FrequencyCap) (baseKey : String) (opts : CompileOptions) : Test :=
  .exist true (probe (suppressionAliased opts.catalogAlias) (sameUserTest "s" "user_id" baseKey)
    [tenantTest "s" opts.tenant,
      .compare .eq (columnTerm "s" "action") (quotedTerm "targeted"),
      .compare .ge (columnTerm "s" "occurred_ts")
        (castTerm (daysAgo cap.windowDays) "timestamptz")]
    [⟨some "s", "user_id"⟩]
    (.clause .HAVING (.only (.compare .ge (callTerm "count" .star)
      (boundTerm (.bigInt cap.maxContacts))))))

def excludeTests (campaignId baseKey : String) (opts : CompileOptions) : List Test :=
  let tests :=
    (if opts.suppression.perCampaignNoRepeat then [noRepeatTest campaignId baseKey opts] else []) ++
      (opts.suppression.frequencyCap.map fun cap => capTest cap baseKey opts).toList
  if tests.isEmpty then [constantTest true] else tests

/-- The parts of a feature's name. -/
def featureParts (name : String) : String × String :=
  match splitFeatureName name with
  | .ok parts => parts
  | .error _ => ("", "")

def featureTest (name : String) (op : Cmp) (value : F64) (baseKey catalogAlias tenant : String)
    (asOf : Option String) : Test :=
  match asOf with
  | some asOf =>
      .exist false (probe ⟨foldName catalogAlias, "feature_store", "f"⟩
        (sameUserTest "f" "user_id" baseKey)
        [tenantTest "f" tenant,
          .compare .eq (columnTerm "f" "feature_name") (boundTerm (.text name)),
          .compare .le (columnTerm "f" "as_of_ts") (castTerm (boundTerm (.text asOf)) "timestamptz")]
        [⟨some "f", "user_id"⟩, ⟨some "f", "feature_name"⟩]
        (.clause .HAVING (.only (.compare op.comparison
          (callTerm "arg_max" (.given (listOf (columnTerm "f" "num_value")
            [columnTerm "f" "as_of_ts"])))
          (boundTerm (.double value))))))
  | none =>
      .exist false (probe
        ⟨foldName catalogAlias, foldName ("feature_wide_" ++ (featureParts name).1), "f"⟩
        (sameUserTest "f" "user_id" baseKey)
        [tenantTest "f" tenant,
          .compare op.comparison (columnTerm "f" (foldName (featureParts name).2))
            (boundTerm (.double value))]
        [] (.noClause .HAVING))

/-! ### Levels -/

/-- The tests of an operation that narrows. -/
def opTests (opts : CompileOptions) (key : String) (asOf : Option String) : Op → List Test
  | .filter predicate => [predicateTest "base" predicate]
  | .recency event userKey tsColumn withinDays predicate =>
      [.exist false (windowProbe event userKey key tsColumn .ge withinDays predicate
        opts.catalogAlias opts.tenant)]
  | .lapsed event userKey tsColumn withinDays predicate =>
      [.exist false (windowProbe event userKey key tsColumn .lt withinDays predicate
          opts.catalogAlias opts.tenant),
        .exist true (windowProbe event userKey key tsColumn .ge withinDays predicate
          opts.catalogAlias opts.tenant)]
  | .feature name op value =>
      [featureTest name op value key opts.catalogAlias opts.tenant asOf]
  | .exclude campaignId => excludeTests campaignId key opts
  | .setOp .. | .derive .. | .similar | .characterize .. => []

/-- `base_select`, with the tests behind the tenant's. -/
def basePhrase (opts : CompileOptions) (source : Dataset) (key : String) (tests : List Test)
    (label limit : Option String) : Ast Value .select :=
  .select true (.item (columnTerm "base" (foldName key)) label)
    (.from (rawAliased source opts.catalogAlias "base").phrase .noJoin)
    (.clause .WHERE (conjunction (tenantTest "base" opts.tenant) tests)) [] (.noClause .HAVING)
    none limit

def SetOpKind.combination : SetOpKind → Combination
  | .intersect => .intersect
  | .union => .union
  | .minus => .except

def aggregateTerm : JitMetric → Term
  | .count _ => callTerm "count" .star
  | .sum _ column => summedUp "sum" column
  | .avg _ column => summedUp "avg" column
  | .min _ column => summedUp "min" column
  | .max _ column => summedUp "max" column
where
  summedUp (function column : String) : Term :=
    callTerm function (.given (.last (castTerm (columnTerm "e" (foldName column)) "double")))

/-- `compile_derive_metric`. -/
def metricPhrase (survivor : Ast Value .select) (name : String) (metric : JitMetric)
    (catalogAlias tenant : String) : Ast Value .query :=
  .withFirst "survivor" (.single survivor) (.body (.single (.select false
    (.itemThen (boundTerm (.text name)) (some "name") (.item (aggregateTerm metric) (some "value")))
    (.from (.named "survivor" (some "s"))
      (.join false (rawAliased (metricEvent metric) catalogAlias "e").phrase
        (conjunction (.compare .eq (columnTerm "e" "user_id") (columnTerm "s" "user_id"))
          [tenantTest "e" tenant]) .noJoin))
    (.noClause .WHERE) [] (.noClause .HAVING) none none)))

mutual

/-- The query `compile_at` emits. -/
def phraseAt (opts : CompileOptions) (q : SegmentQuery) : Ast Value .query :=
  match q with
  | ⟨source, key, ops, asOf⟩ => phraseOps opts source key asOf [] ops
termination_by structural q

/-- The query from one operation on, behind the tests gathered before it. -/
def phraseOps (opts : CompileOptions) (source : Dataset) (key : String) (asOf : Option String)
    (tests : List Test) (ops : List Op) : Ast Value .query :=
  match ops with
  | [] => .single (basePhrase opts source key tests none none)
  | .setOp kind other :: _ =>
      .combine kind.combination (.single (basePhrase opts source key tests none none))
        (phraseAt opts other)
  | .derive name metric :: _ =>
      metricPhrase (basePhrase opts source key tests (some "user_id")
        (some (toString (opts.deriveLimit.getD 0)))) name metric opts.catalogAlias opts.tenant
  | op :: rest => phraseOps opts source key asOf (tests ++ opTests opts key asOf op) rest
termination_by structural ops

end

/-! ### Profiles -/

/-- The rows of `ev` in the segment, or all. -/
def keptRows (inSegment : Bool) : Ast Value (.clause .WHERE) :=
  if inSegment then .clause .WHERE (.only (.holds (bareTerm "in_seg"))) else .noClause .WHERE

/-- `(SELECT … FROM …)`. -/
def figure (value : Term) (table : String) (kept : Ast Value (.clause .WHERE)) :
    Ast Value .primary :=
  .scalar (.select false (.item value none) (.from (.named table none) .noJoin) kept []
    (.noClause .HAVING) none none)

/-- `… * 1.0 / NULLIF(…, 0)`. -/
def ratio (first second : Ast Value .primary) : Term :=
  .product first (.times false (.numeral "1.0") (.times true
    (.call "nullif" (.given (listOf (.product second .done) [numeralTerm "0"]))) .done))

def ordersFigure (inSegment : Bool) : Ast Value .primary :=
  figure (callTerm "count" .star) "ev" (keptRows inSegment)

def usersFigure (inSegment : Bool) : Ast Value .primary :=
  figure (callTerm "count" (.distinct (bareTerm "user_id"))) "ev" (keptRows inSegment)

def amountFigure (inSegment : Bool) : Ast Value .primary :=
  figure (callTerm "sum" (.given (.last (bareTerm "amount")))) "ev" (keptRows inSegment)

def metricsPhrase : Ast Value .ctes :=
  let alone (value : Ast Value .primary) : Term := .product value .done
  .body (.single (.select false
    (.itemThen (alone (figure (callTerm "count" .star) "segment" (.noClause .WHERE)))
        (some "seg_users")
      (.itemThen (alone (usersFigure false)) (some "base_users")
        (.itemThen (ratio (amountFigure true) (ordersFigure true)) (some "seg_aov")
          (.itemThen (ratio (amountFigure false) (ordersFigure false)) (some "base_aov")
            (.itemThen (ratio (ordersFigure true) (usersFigure true)) (some "seg_freq")
              (.itemThen (ratio (ordersFigure false) (usersFigure false)) (some "base_freq")
                (.itemThen (alone (ordersFigure true)) (some "seg_orders")
                  (.item (alone (ordersFigure false)) (some "base_orders")))))))))
    .nowhere (.noClause .WHERE) [] (.noClause .HAVING) none none))

/-- `extract(epoch FROM (CAST(now() AS TIMESTAMP) - last_ts)) / 86400.0`. -/
def recencyDays : Ast Value .args :=
  .given (.last (.product
    (.extract "epoch" (.product (.paren (.minus (.cast (callTerm "now" .noArgs) "timestamp")
      (.bare "last_ts"))) .done))
    (.times true (.numeral "86400.0") .done)))

def recencyPhrase : Ast Value .ctes :=
  .withNext "per_user" (.single (.select false
    (.itemThen (bareTerm "user_id") none
      (.itemThen (callTerm "bool_or" (.given (.last (bareTerm "in_seg")))) (some "in_seg")
        (.item (callTerm "max" (.given (.last (bareTerm "ts")))) (some "last_ts"))))
    (.from (.named "ev" none) .noJoin) (.noClause .WHERE) [⟨none, "user_id"⟩] (.noClause .HAVING)
    none none))
  (.body (.single (.select false
    (.itemThen (filteredTerm "avg" recencyDays (.only (.holds (bareTerm "in_seg"))))
        (some "seg_recency_days")
      (.item (callTerm "avg" recencyDays) (some "base_recency_days")))
    (.from (.named "per_user" none) .noJoin) (.noClause .WHERE) [] (.noClause .HAVING) none none)))

def categoriesPhrase : Ast Value .ctes :=
  .body (.single (.select false
    (.itemThen (bareTerm "category") none
      (.itemThen (filteredTerm "count" .star (.only (.holds (bareTerm "in_seg")))) (some "seg_n")
        (.item (callTerm "count" .star) (some "base_n"))))
    (.from (.named "ev" none) .noJoin) (.noClause .WHERE) [⟨none, "category"⟩]
    (.noClause .HAVING) (some "seg_n") (some "3")))

/-- The event rows of a profile, each with whether its user is in the segment. -/
def eventsPhrase (value : Term) (label : String) (event : Dataset) (catalogAlias tenant : String) :
    Ast Value .query :=
  .single (.select false
    (.itemThen (columnTerm "e" "user_id") none (.itemThen value (some label)
      (.item (.product (.present (columnTerm "s" "user_id")) .done) (some "in_seg"))))
    (.from (rawAliased event catalogAlias "e").phrase
      (.join true (.named "segment" (some "s"))
        (.only (.compare .eq (columnTerm "s" "user_id") (columnTerm "e" "user_id"))) .noJoin))
    (.clause .WHERE (.only (tenantTest "e" tenant))) [] (.noClause .HAVING) none none)

/-- `segment_and_events`, and what is selected from them. -/
def profilePhrase (segment : Ast Value .query) (value : Term) (label : String) (event : Dataset)
    (catalogAlias tenant : String) (select : Ast Value .ctes) : Ast Value .query :=
  .withFirst "segment" segment
    (.withNext "ev" (eventsPhrase value label event catalogAlias tenant) select)

/-- What `compile_characterize` selects of an event row, and what it reports of the rows. -/
inductive Figure where
  | metrics | recency | categories
  deriving DecidableEq

def Figure.label : Figure → String
  | .metrics => "amount"
  | .recency => "ts"
  | .categories => "category"

def Figure.value (tsColumn monetaryColumn categoryColumn : String) : Figure → Term
  | .metrics => castTerm (columnTerm "e" (foldName monetaryColumn)) "double"
  | .recency => castTerm (columnTerm "e" (foldName tsColumn)) "timestamp"
  | .categories => columnTerm "e" (foldName categoryColumn)

def Figure.phrase : Figure → Ast Value .ctes
  | .metrics => metricsPhrase
  | .recency => recencyPhrase
  | .categories => categoriesPhrase

/-- The profile queries `compile_characterize` emits. -/
def characterizePhrase (opts : CompileOptions) (q : SegmentQuery) (event : Dataset)
    (tsColumn monetaryColumn categoryColumn : String) (of : Figure) : Ast Value .query :=
  profilePhrase (phraseAt opts (stripLastOp q))
    (of.value tsColumn monetaryColumn categoryColumn) of.label event opts.catalogAlias opts.tenant
    of.phrase

end ConsumerEngine.Query
