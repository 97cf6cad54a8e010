import ConsumerEngine.Foundation.Effect
import ConsumerEngine.Query.Wrapping
import ConsumerEngine.Storage.Writer

/-! What each placeholder of a compiled query is bound to.

Every text the compiler writes is laid out a second time, as a template whose holes are the
elements of the query. The compiler's text is the template's, and its parameters, pushed
apart from the text, are the values of the template's elements.
-/

set_option autoImplicit false

namespace ConsumerEngine.Query

open ConsumerEngine.Core ConsumerEngine.Foundation ConsumerEngine.Storage

/-- An element of a query that is bound, not rendered. -/
inductive Element where
  | tenant (rel tenant : String)
  | filterValue (rel symbol : String) (p : Predicate)
  | listValue (item : Json)
  | featureName (name : String)
  | cutOff (asOf : String)
  | latestThreshold (cmp : String) (value : F64)
  | wideThreshold (short cmp : String) (value : F64)
  | campaign (campaignId : String)
  | contacts (maxContacts : Nat)
  | metricName (name : String)
  | snapshotId (spec : SnapshotSpec)
  | snapshotCampaign (spec : SnapshotSpec)
  | snapshotAsOf (spec : SnapshotSpec)
  | snapshotTenant (tenant : String)
  | hitReason (chain : String)
  | pivotCutOff (asOfTs : String)

/-- The value an element binds; none when its JSON is not a scalar. -/
def Element.value : Element → Option Value
  | .tenant _ owner | .snapshotTenant owner => some (.text owner)
  | .filterValue _ _ p => (toValue p.value).toOption
  | .listValue item => (toValue item).toOption
  | .featureName name | .metricName name => some (.text name)
  | .cutOff asOf | .pivotCutOff asOf => some (.text asOf)
  | .latestThreshold _ value | .wideThreshold _ _ value => some (.double value)
  | .campaign campaignId => some (.text campaignId)
  | .contacts maxContacts => some (.bigInt maxContacts)
  | .snapshotId spec => some (.text spec.snapshotId)
  | .snapshotCampaign spec => some (.text spec.campaignId)
  | .snapshotAsOf spec => some (.text spec.asOfTs)
  | .hitReason chain => some (.text chain)

/-- The fragment emitted for an element. -/
def spelling : Spelling Element where
  before
    | .tenant rel _ => rel ++ ".tenant_id = "
    | .filterValue rel symbol p => rel ++ "." ++ p.column ++ " " ++ symbol ++ " "
    | .listValue _ | .metricName _ | .snapshotCampaign _ | .snapshotTenant _ => ""
    | .featureName _ => "f.feature_name = "
    | .cutOff _ => "f.as_of_ts <= CAST("
    | .latestThreshold cmp _ => "arg_max(f.num_value, f.as_of_ts) " ++ cmp ++ " "
    | .wideThreshold short cmp _ => "f." ++ short ++ " " ++ cmp ++ " "
    | .campaign _ => "s.campaign_id = "
    | .contacts _ => "count(*) >= "
    | .snapshotId _ | .snapshotAsOf _ | .hitReason _ => "CAST("
    | .pivotCutOff _ => "as_of_ts <= CAST("
  after
    | .cutOff _ | .snapshotAsOf _ | .pivotCutOff _ => " AS TIMESTAMPTZ)"
    | .metricName _ => " AS name"
    | .snapshotId _ => " AS UUID)"
    | .hitReason _ => " AS JSON) AS hit_reason"
    | _ => ""

abbrev Layout : Type := Template Element

abbrev Layout.text (layout : Layout) : String := Template.spell spelling layout

abbrev Layout.values (layout : Layout) : List (Option Value) :=
  (Template.holes layout).map Element.value

/-- `text` and the parameters pushed behind `params` are those of the layout. -/
structure Layout.Emits (layout : Layout) (params : List Value) (emitted : String × List Value) :
    Prop where
  text : emitted.1 = layout.text
  values : emitted.2.map some = params.map some ++ layout.values

def layoutIn (col : String) (value : Json) (negate : Bool) : Layout :=
  match asArray value with
  | none | some [] => [.text (if negate then "1=1" else "1=0")]
  | some items =>
      [.text (if negate then col ++ " NOT IN (" else col ++ " IN (")] ++
        Template.join ", " (items.map fun item => [.hole (.listValue item)]) ++ [.text ")"]

def layoutPredicate (rel : String) (p : Predicate) : Layout :=
  match binaryCmpSymbol p.op with
  | some symbol => [.hole (.filterValue rel symbol p)]
  | none => layoutIn (rel ++ "." ++ p.column) p.value (p.op == .notIn)

def layoutEvent (userKey baseKey : String) (predicate : Option Predicate) (tenant : String) :
    List Layout :=
  [[.text ("e." ++ userKey ++ " = base." ++ baseKey)], [.hole (.tenant "e" tenant)]] ++
    (predicate.map (layoutPredicate "e")).toList

def layoutRecency (event : Dataset) (userKey baseKey tsColumn : String) (withinDays : Nat)
    (predicate : Option Predicate) (catalogAlias tenant : String) : Layout :=
  [.text "EXISTS (SELECT 1 FROM ", .text (rawTable event catalogAlias), .text " e WHERE "] ++
    Template.join " AND " (layoutEvent userKey baseKey predicate tenant ++
      [[.text (windowTest tsColumn ">=" withinDays)]]) ++ [.text ")"]

def layoutLapsed (event : Dataset) (userKey baseKey tsColumn : String) (withinDays : Nat)
    (predicate : Option Predicate) (catalogAlias tenant : String) : Layout :=
  [.text "EXISTS (SELECT 1 FROM ", .text (rawTable event catalogAlias), .text " e WHERE "] ++
    Template.join " AND " (layoutEvent userKey baseKey predicate tenant ++
      [[.text (windowTest tsColumn "<" withinDays)]]) ++
    [.text ") AND NOT EXISTS (SELECT 1 FROM ", .text (rawTable event catalogAlias),
      .text " e WHERE "] ++
    Template.join " AND " (layoutEvent userKey baseKey predicate tenant ++
      [[.text (windowTest tsColumn ">=" withinDays)]]) ++ [.text ")"]

def layoutNoRepeat (campaignId baseKey : String) (opts : CompileOptions) : Layout :=
  [.text "NOT EXISTS (SELECT 1 FROM ", .text opts.catalogAlias,
    .text ".suppression s WHERE s.user_id = base.", .text baseKey, .text " AND ",
    .hole (.tenant "s" opts.tenant), .text " AND ", .hole (.campaign campaignId),
    .text " AND s.action IN ('targeted', 'delivered'))"]

def layoutCap (cap : FrequencyCap) (baseKey : String) (opts : CompileOptions) : Layout :=
  [.text "NOT EXISTS (SELECT 1 FROM ", .text opts.catalogAlias,
    .text ".suppression s WHERE s.user_id = base.", .text baseKey, .text " AND ",
    .hole (.tenant "s" opts.tenant),
    .text " AND s.action = 'targeted' AND s.occurred_ts >= ",
    .text "CAST(CAST(now() AS TIMESTAMP) - INTERVAL '", .text (toString cap.windowDays), .text "' DAY AS TIMESTAMPTZ) GROUP BY s.user_id HAVING ",
    .hole (.contacts cap.maxContacts), .text ")"]

def layoutExclude (campaignId baseKey : String) (opts : CompileOptions) : Layout :=
  let clauses :=
    (if opts.suppression.perCampaignNoRepeat then [layoutNoRepeat campaignId baseKey opts] else []) ++
      (opts.suppression.frequencyCap.map fun cap => layoutCap cap baseKey opts).toList
  if clauses.isEmpty then [.text "1=1"] else Template.join " AND " clauses

def layoutFeature (family short cmp name : String) (value : F64) (baseKey catalogAlias tenant : String)
    (asOf : Option String) : Layout :=
  match asOf with
  | some asOf =>
      [.text "EXISTS (SELECT 1 FROM ", .text catalogAlias,
        .text ".feature_store f WHERE f.user_id = base.", .text baseKey, .text " AND ",
        .hole (.tenant "f" tenant), .text " AND ", .hole (.featureName name), .text " AND ",
        .hole (.cutOff asOf), .text " GROUP BY f.user_id, f.feature_name HAVING ",
        .hole (.latestThreshold cmp value), .text ")"]
  | none =>
      [.text "EXISTS (SELECT 1 FROM ", .text catalogAlias, .text ".feature_wide_", .text family,
        .text " f WHERE f.user_id = base.", .text baseKey, .text " AND ",
        .hole (.tenant "f" tenant), .text " AND ", .hole (.wideThreshold short cmp value),
        .text ")"]

/-- The conjunct of an operation that compiles to one. -/
def layoutConjunct (opts : CompileOptions) (key : String) (asOf : Option String) : Op → Layout
  | .filter predicate => layoutPredicate "base" predicate
  | .recency event userKey tsColumn withinDays predicate =>
      layoutRecency event userKey key tsColumn withinDays predicate opts.catalogAlias opts.tenant
  | .lapsed event userKey tsColumn withinDays predicate =>
      layoutLapsed event userKey key tsColumn withinDays predicate opts.catalogAlias opts.tenant
  | .feature name op value =>
      match splitFeatureName name, cmpSymbol op with
      | .ok (family, short), .ok cmp =>
          layoutFeature family short cmp name value key opts.catalogAlias opts.tenant asOf
      | _, _ => []
  | .exclude campaignId => layoutExclude campaignId key opts
  | .setOp .. | .derive .. | .similar | .characterize .. => []

def layoutBase (source : Dataset) (key : String) (parts : List Layout) (catalogAlias : String) :
    Layout :=
  [.text "SELECT DISTINCT base.", .text key, .text " FROM ", .text (rawTable source catalogAlias),
    .text " base WHERE "] ++ Template.join " AND " parts

def layoutDerive (opts : CompileOptions) (source : Dataset) (key : String) (parts : List Layout)
    (limit : Nat) (name : String) (metric : JitMetric) : Layout :=
  [.text "WITH survivor AS (", .text "SELECT DISTINCT base.", .text key,
    .text " AS user_id FROM ", .text (rawTable source opts.catalogAlias), .text " base",
    .text " WHERE "] ++
    Template.join " AND " parts ++
    [.text " LIMIT ", .text (toString limit), .text ") SELECT ", .hole (.metricName name),
      .text ", ", .text (aggregateOf metric), .text " AS value FROM survivor s JOIN ",
      .text (rawTable (metricEvent metric) opts.catalogAlias),
      .text " e ON e.user_id = s.user_id AND ", .hole (.tenant "e" opts.tenant)]

mutual

/-- The layout of a query that compiles. -/
def layoutQuery (opts : CompileOptions) (q : SegmentQuery) : Layout :=
  match q with
  | ⟨source, key, ops, asOf⟩ =>
      layoutOps opts source key asOf [[.hole (.tenant "base" opts.tenant)]] ops
termination_by structural q

def layoutOps (opts : CompileOptions) (source : Dataset) (key : String) (asOf : Option String)
    (parts : List Layout) (ops : List Op) : Layout :=
  match ops with
  | [] => layoutBase source key parts opts.catalogAlias
  | .setOp kind other :: _ =>
      [.text "("] ++ layoutBase source key parts opts.catalogAlias ++
        [.text ") ", .text (setopKeyword kind), .text " ("] ++ layoutQuery opts other ++ [.text ")"]
  | .derive name metric :: _ =>
      match opts.deriveLimit with
      | some limit => layoutDerive opts source key parts limit name metric
      | none => []
  | op :: rest => layoutOps opts source key asOf (parts ++ [layoutConjunct opts key asOf op]) rest
termination_by structural ops

end

section
variable (rel symbol short text : String) (p : Predicate) (item : Json) (value : F64) (n : Nat)
  (spec : SnapshotSpec)

@[simp] theorem fragment_tenant :
    spelling.fragment (.tenant rel text) = rel ++ ".tenant_id = ?" := by
  simp [Spelling.fragment, spelling, String.append_assoc]

@[simp] theorem fragment_filterValue :
    spelling.fragment (.filterValue rel symbol p) =
      rel ++ "." ++ p.column ++ " " ++ symbol ++ " ?" := by
  simp [Spelling.fragment, spelling, String.append_assoc]

@[simp] theorem fragment_latestThreshold :
    spelling.fragment (.latestThreshold symbol value) =
      "arg_max(f.num_value, f.as_of_ts) " ++ symbol ++ " ?" := by
  simp [Spelling.fragment, spelling, String.append_assoc]

@[simp] theorem fragment_wideThreshold :
    spelling.fragment (.wideThreshold short symbol value) =
      "f." ++ short ++ " " ++ symbol ++ " ?" := by
  simp [Spelling.fragment, spelling, String.append_assoc]

@[simp] theorem fragment_listValue : spelling.fragment (.listValue item) = "?" := rfl

@[simp] theorem fragment_featureName :
    spelling.fragment (.featureName text) = "f.feature_name = ?" := rfl

@[simp] theorem fragment_cutOff :
    spelling.fragment (.cutOff text) = "f.as_of_ts <= CAST(? AS TIMESTAMPTZ)" := rfl

@[simp] theorem fragment_campaign : spelling.fragment (.campaign text) = "s.campaign_id = ?" := rfl

@[simp] theorem fragment_contacts : spelling.fragment (.contacts n) = "count(*) >= ?" := rfl

@[simp] theorem fragment_metricName : spelling.fragment (.metricName text) = "? AS name" := rfl

@[simp] theorem fragment_snapshotId :
    spelling.fragment (.snapshotId spec) = "CAST(? AS UUID)" := rfl

@[simp] theorem fragment_snapshotCampaign :
    spelling.fragment (.snapshotCampaign spec) = "?" := rfl

@[simp] theorem fragment_snapshotAsOf :
    spelling.fragment (.snapshotAsOf spec) = "CAST(? AS TIMESTAMPTZ)" := rfl

@[simp] theorem fragment_snapshotTenant : spelling.fragment (.snapshotTenant text) = "?" := rfl

@[simp] theorem fragment_hitReason :
    spelling.fragment (.hitReason text) = "CAST(? AS JSON) AS hit_reason" := rfl

@[simp] theorem fragment_pivotCutOff :
    spelling.fragment (.pivotCutOff text) = "as_of_ts <= CAST(? AS TIMESTAMPTZ)" := rfl

end

section
variable {params : List Value} {emitted : String × List Value}

theorem Layout.values_append (first second : Layout) :
    Layout.values (first ++ second) = first.values ++ second.values := by
  rw [Layout.values, Template.holes_append, List.map_append]

@[simp] theorem Layout.values_nil : Layout.values [] = [] := rfl

@[simp] theorem Layout.values_text (text : String) (rest : Layout) :
    Layout.values (.text text :: rest) = rest.values := rfl

@[simp] theorem Layout.values_hole (e : Element) (rest : Layout) :
    Layout.values (.hole e :: rest) = e.value :: rest.values := rfl

theorem tenantEq_emits (rel tenant : String) :
    Layout.Emits [.hole (.tenant rel tenant)] params (tenantEq rel params tenant) where
  text := by
    simp only [tenantEq, Template.spell, Piece.spell, fragment_tenant, String.append_empty]
  values := by
    rw [tenantEq, List.map_append]
    rfl

theorem toValue_toOption {j : Json} {value : Value} (converted : toValue j = .ok value) :
    (toValue j).toOption = some value := by
  rw [converted]
  rfl

theorem mapM_toValue {items : List Json} {pushed : List Value}
    (converted : items.mapM toValue = .ok pushed) :
    pushed.map some = items.map fun item => (toValue item).toOption := by
  induction items generalizing pushed with
  | nil =>
    cases converted
    rfl
  | cons item items ih =>
    rw [List.mapM_cons] at converted
    obtain ⟨value, first, rest⟩ := except_bind_eq_ok.mp converted
    obtain ⟨values, later, returned⟩ := except_bind_eq_ok.mp rest
    cases returned
    rw [List.map_cons, List.map_cons, ih later, toValue_toOption first]

theorem compileIn_emits {col : String} {value : Json} {negate : Bool}
    (compiled : compileIn col value params negate = .ok emitted) :
    (layoutIn col value negate).Emits params emitted := by
  unfold compileIn at compiled
  unfold layoutIn
  cases listed : asArray value with
  | none => simp only [listed, reduceCtorEq] at compiled
  | some items =>
    simp only [listed] at compiled
    cases items with
    | nil =>
      cases compiled
      exact ⟨(String.append_empty).symm, (List.append_nil _).symm⟩
    | cons item items =>
      rw [if_neg (by simp)] at compiled
      obtain ⟨pushed, converted, returned⟩ := except_bind_eq_ok.mp compiled
      cases returned
      have bound : ((item :: items).map fun item => ([.hole (.listValue item)] : Layout)).flatMap
          Template.holes = (item :: items).map Element.listValue := by
        simp only [List.flatMap_map, Template.holes]
        exact List.map_eq_flatMap.symm
      refine ⟨?text, ?values⟩
      case text =>
        simp only [Template.spell_append, Template.spell_join, List.map_map, Function.comp_def,
          Template.spell, Piece.spell, fragment_listValue, String.append_empty]
        cases negate <;> rfl
      case values =>
        simp only [Layout.values, Template.holes_append, Template.holes_join, bound, Template.holes,
          List.nil_append, List.append_nil, List.map_append, mapM_toValue converted, List.map_map]
        rfl

theorem compilePredicate_emits {rel : String} {p : Predicate}
    (compiled : compilePredicate rel p params = .ok emitted) :
    (layoutPredicate rel p).Emits params emitted := by
  unfold compilePredicate at compiled
  unfold layoutPredicate
  cases symbol : binaryCmpSymbol p.op with
  | some symbol =>
    simp only [symbol] at compiled
    obtain ⟨value, converted, returned⟩ := except_bind_eq_ok.mp compiled
    cases returned
    refine ⟨?_, ?_⟩
    · simp only [Template.spell, Piece.spell, fragment_filterValue, String.append_empty]
    · rw [List.map_append]
      exact congrArg _ (congrArg (· :: []) (toValue_toOption converted).symm)
  | none =>
    simp only [symbol] at compiled
    cases op : p.op with
    | isIn =>
      simp only [op] at compiled
      exact compileIn_emits compiled
    | notIn =>
      simp only [op] at compiled
      exact compileIn_emits compiled
    | _ => simp only [op, reduceCtorEq] at compiled

/-- Conjuncts gathered so far, by the parts they are laid out as. -/
structure PartsEmit (parts : List Layout) (params : List Value) (gathered : List String × List Value) :
    Prop where
  text : gathered.1 = parts.map Layout.text
  values : gathered.2.map some = params.map some ++ parts.flatMap Layout.values

theorem Layout.Emits.single {layout : Layout} (emits : layout.Emits params emitted) :
    PartsEmit [layout] params ([emitted.1], emitted.2) where
  text := by rw [emits.text, List.map_singleton]
  values := by rw [emits.values, List.flatMap_singleton]

theorem PartsEmit.append {first second : List Layout} {left right : List String}
    {middle final : List Value} (former : PartsEmit first params (left, middle))
    (latter : PartsEmit second middle (right, final)) :
    PartsEmit (first ++ second) params (left ++ right, final) where
  text := by
    have here : left = _ := former.text
    have there : right = _ := latter.text
    rw [here, there, List.map_append]
  values := by
    have here : middle.map some = _ := former.values
    have there : final.map some = _ := latter.values
    rw [there, here, List.flatMap_append, List.append_assoc]

/-- Conjuncts that were gathered, joined. -/
theorem PartsEmit.joined_text {parts : List Layout} {gathered : List String × List Value}
    (emits : PartsEmit parts params gathered) :
    joined " AND " gathered.1 = Layout.text (Template.join " AND " parts) := by
  rw [Layout.text, Template.spell_join, emits.text]

theorem Layout.values_join (separator : String) (parts : List Layout) :
    Layout.values (Template.join separator parts) = parts.flatMap Layout.values := by
  rw [Layout.values, Template.holes_join, List.map_flatMap]

theorem PartsEmit.joined_emits {parts : List Layout} {gathered : List String × List Value}
    (emits : PartsEmit parts params gathered) :
    Layout.Emits (Template.join " AND " parts) params (joined " AND " gathered.1, gathered.2) where
  text := emits.joined_text
  values := by rw [Layout.values_join, emits.values]

theorem plain_parts (text : String) : PartsEmit [[.text text]] params ([text], params) where
  text := by simp only [List.map_cons, List.map_nil, Layout.text, Template.spell, Piece.spell,
    String.append_empty]
  values := by simp only [List.flatMap_singleton, Layout.values, Template.holes, List.map_nil,
    List.append_nil]

theorem compileEvent_emits {userKey baseKey tenant : String} {predicate : Option Predicate}
    {gathered : List String × List Value}
    (compiled : compileEvent userKey baseKey predicate params tenant = .ok gathered) :
    PartsEmit (layoutEvent userKey baseKey predicate tenant) params gathered := by
  have own := (plain_parts ("e." ++ userKey ++ " = base." ++ baseKey)).append
    (@tenantEq_emits params "e" tenant).single
  cases predicate with
  | none =>
    cases compiled
    exact own
  | some p =>
    obtain ⟨pushed, tested, returned⟩ := except_bind_eq_ok.mp compiled
    cases returned
    exact own.append (compilePredicate_emits tested).single

theorem compileRecency_emits {event : Dataset} {userKey baseKey tsColumn catalogAlias tenant : String}
    {withinDays : Nat} {predicate : Option Predicate}
    (compiled : compileRecency event userKey baseKey tsColumn withinDays predicate params
      catalogAlias tenant = .ok emitted) :
    (layoutRecency event userKey baseKey tsColumn withinDays predicate catalogAlias tenant).Emits
      params emitted := by
  obtain ⟨⟨parts, pushed⟩, gathered, returned⟩ := except_bind_eq_ok.mp compiled
  cases returned
  have all := (compileEvent_emits gathered).append
    (plain_parts (windowTest tsColumn ">=" withinDays))
  refine ⟨?text, ?values⟩
  case text =>
    simp only [all.joined_text, layoutRecency, Template.spell_append, Template.spell, Piece.spell,
      String.append_empty, String.append_assoc]
  case values =>
    simp only [all.values, layoutRecency, Layout.values_append, Layout.values_join,
      Layout.values_text, Layout.values_nil, List.nil_append, List.append_nil]

theorem compileLapsed_emits {event : Dataset} {userKey baseKey tsColumn catalogAlias tenant : String}
    {withinDays : Nat} {predicate : Option Predicate}
    (compiled : compileLapsed event userKey baseKey tsColumn withinDays predicate params
      catalogAlias tenant = .ok emitted) :
    (layoutLapsed event userKey baseKey tsColumn withinDays predicate catalogAlias tenant).Emits
      params emitted := by
  obtain ⟨⟨parts, middle⟩, gathered, rest⟩ := except_bind_eq_ok.mp compiled
  obtain ⟨⟨recent, pushed⟩, again, returned⟩ := except_bind_eq_ok.mp rest
  cases returned
  have before := (compileEvent_emits gathered).append
    (plain_parts (windowTest tsColumn "<" withinDays))
  have after := (compileEvent_emits again).append
    (plain_parts (windowTest tsColumn ">=" withinDays))
  refine ⟨?text, ?values⟩
  case text =>
    simp only [before.joined_text, after.joined_text, layoutLapsed, Template.spell_append,
      Template.spell, Piece.spell, String.append_empty, String.append_assoc]
  case values =>
    have values := after.values
    simp only [before.values] at values
    simp only [values, layoutLapsed, Layout.values_append, Layout.values_join, Layout.values_text,
      Layout.values_nil, List.nil_append, List.append_nil, List.append_assoc]

theorem compileNoRepeat_emits (campaignId baseKey : String) (opts : CompileOptions) :
    (layoutNoRepeat campaignId baseKey opts).Emits params
      (compileNoRepeat campaignId baseKey opts params) := by
  unfold compileNoRepeat layoutNoRepeat tenantEq
  refine ⟨?_, ?_⟩
  · simp only [Template.spell, Piece.spell, fragment_tenant, fragment_campaign,
      String.append_assoc, String.append_empty]
  · simp only [List.append_assoc, List.map_append]
    rfl

theorem compileCap_emits (cap : FrequencyCap) (baseKey : String) (opts : CompileOptions) :
    (layoutCap cap baseKey opts).Emits params (compileCap cap baseKey opts params) := by
  have own : spelling.fragment (.tenant "s" opts.tenant) = "s.tenant_id = ?" := rfl
  unfold compileCap layoutCap
  refine ⟨?_, ?_⟩
  · simp only [Template.spell, Piece.spell, own, fragment_contacts, String.append_assoc,
      String.append_empty]
  · simp only [List.append_assoc, List.map_append]
    rfl

theorem compileExclude_emits (campaignId baseKey : String) (opts : CompileOptions) :
    (layoutExclude campaignId baseKey opts).Emits params
      (compileExclude campaignId baseKey opts params) := by
  have repeated := (@compileNoRepeat_emits params campaignId baseKey opts).single
  unfold compileExclude layoutExclude
  cases opts.suppression.perCampaignNoRepeat with
  | false =>
    cases opts.suppression.frequencyCap with
    | none => exact (plain_parts "1=1").joined_emits
    | some cap => exact (compileCap_emits cap baseKey opts).single.joined_emits
  | true =>
    cases opts.suppression.frequencyCap with
    | none => exact repeated.joined_emits
    | some cap => exact (repeated.append (compileCap_emits cap baseKey opts).single).joined_emits

theorem compileFeature_emits {name baseKey catalogAlias tenant family short cmp : String} {op : Cmp}
    {value : F64} {asOf : Option String} (named : splitFeatureName name = .ok (family, short))
    (symbol : cmpSymbol op = .ok cmp)
    (compiled : compileFeature name op value baseKey params catalogAlias tenant asOf = .ok emitted) :
    (layoutFeature family short cmp name value baseKey catalogAlias tenant asOf).Emits params
      emitted := by
  unfold compileFeature at compiled
  rw [named, symbol] at compiled
  unfold layoutFeature
  cases asOf with
  | some asOf =>
    cases compiled
    refine ⟨?_, ?_⟩
    · simp only [Template.spell, Piece.spell, fragment_tenant, fragment_featureName,
        fragment_cutOff, fragment_latestThreshold, String.append_assoc, String.append_empty]
    · simp only [List.append_assoc, List.map_append]
      rfl
  | none =>
    cases compiled
    refine ⟨?_, ?_⟩
    · simp only [Template.spell, Piece.spell, fragment_tenant, fragment_wideThreshold,
        String.append_assoc, String.append_empty]
    · simp only [List.append_assoc, List.map_append]
      rfl

theorem Layout.Emits.added {layout : Layout} {parts : List Layout} {gathered : Gathered}
    {read : List Dataset}
    (laid : PartsEmit parts [] (gathered.conjuncts, gathered.params))
    (emits : layout.Emits gathered.params emitted) :
    PartsEmit (parts ++ [layout]) []
      ((gathered.add read emitted).conjuncts, (gathered.add read emitted).params) :=
  laid.append emits.single

theorem compileConjunct_emits {opts : CompileOptions} {key : String} {asOf : Option String}
    {gathered after : Gathered} {parts : List Layout} {op : Op}
    (laid : PartsEmit parts [] (gathered.conjuncts, gathered.params))
    (compiled : compileConjunct opts key asOf gathered op = .ok after) :
    PartsEmit (parts ++ [layoutConjunct opts key asOf op]) [] (after.conjuncts, after.params) := by
  cases op with
  | filter predicate =>
    obtain ⟨pushed, emitted, returned⟩ := except_bind_eq_ok.mp compiled
    cases returned
    exact (compilePredicate_emits emitted).added laid
  | recency event userKey tsColumn withinDays predicate =>
    obtain ⟨pushed, emitted, returned⟩ := except_bind_eq_ok.mp compiled
    cases returned
    exact (compileRecency_emits emitted).added laid
  | lapsed event userKey tsColumn withinDays predicate =>
    obtain ⟨pushed, emitted, returned⟩ := except_bind_eq_ok.mp compiled
    cases returned
    exact (compileLapsed_emits emitted).added laid
  | feature name op value =>
    obtain ⟨pushed, emitted, returned⟩ := except_bind_eq_ok.mp compiled
    cases returned
    obtain ⟨⟨family, short⟩, named, rest⟩ := except_bind_eq_ok.mp emitted
    obtain ⟨cmp, symbol, -⟩ := except_bind_eq_ok.mp rest
    have split := relabel_eq_ok.mp named
    simp only [layoutConjunct, split, symbol]
    exact (compileFeature_emits split symbol emitted).added laid
  | exclude campaignId =>
    cases compiled
    exact (compileExclude_emits campaignId key opts).added laid
  | setOp kind other => cases compiled
  | derive name metric => cases compiled
  | similar => cases compiled
  | characterize event tsColumn monetaryColumn categoryColumn => cases compiled

variable {opts : CompileOptions} {source : Dataset} {key : String} {gathered : Gathered}
  {parts : List Layout}

theorem baseSelect_emits (laid : PartsEmit parts [] (gathered.conjuncts, gathered.params))
    (some_part : parts ≠ []) :
    (layoutBase source key parts opts.catalogAlias).Emits []
      (baseSelect source key gathered.conjuncts opts.catalogAlias, gathered.params) where
  text := by
    have conjuncts : gathered.conjuncts = _ := laid.text
    have nonempty : gathered.conjuncts.isEmpty = false := by
      rw [conjuncts, List.isEmpty_map]
      exact List.isEmpty_eq_false_iff.mpr some_part
    have joins := laid.joined_text
    simp only at joins
    simp only [baseSelect, nonempty, Bool.false_eq_true, ↓reduceIte, joins, layoutBase,
      Template.spell_append, Template.spell, Piece.spell, String.append_assoc, String.append_empty]
  values := by
    simp only [laid.values, layoutBase, Layout.values_append, Layout.values_join,
      Layout.values_text, Layout.values_nil, List.nil_append]

theorem compileDerive_emits {limit : Nat} {name : String} {metric : JitMetric}
    {compiled : CompiledQuery} (limited : opts.deriveLimit = some limit)
    (laid : PartsEmit parts [] (gathered.conjuncts, gathered.params)) (some_part : parts ≠ [])
    (returned : compileDerive opts source key gathered name metric = .ok compiled) :
    (layoutDerive opts source key parts limit name metric).Emits []
      (compiled.sql, compiled.params) := by
  have conjuncts : gathered.conjuncts = _ := laid.text
  have nonempty : gathered.conjuncts.isEmpty = false := by
    rw [conjuncts, List.isEmpty_map]
    exact List.isEmpty_eq_false_iff.mpr some_part
  have joins := laid.joined_text
  have values := laid.values
  simp only at joins values
  unfold compileDerive compileDeriveMetric at returned
  rw [limited] at returned
  cases returned
  refine ⟨?text, ?values⟩
  case text =>
    unfold survivorCte layoutDerive
    simp only [nonempty, Bool.false_eq_true, ↓reduceIte, joins, Template.spell_append,
      Template.spell, Piece.spell, fragment_tenant, fragment_metricName, String.append_assoc,
      String.append_empty]
  case values =>
    simp only [List.map_append, values, layoutDerive, Layout.values_append,
      Layout.values_join, Layout.values_text, Layout.values_hole, Layout.values_nil, List.nil_append,
      List.append_assoc]
    rfl

/-- The two operations that end the loop of `compile_at` themselves. -/
def Op.ends : Op → Bool
  | .setOp .. | .derive .. => true
  | _ => false

theorem compileOps_cons {asOf : Option String} {depth : Nat} {op : Op} (rest : List Op)
    (conjunct : op.ends = false) :
    compileOps opts source key asOf depth gathered (op :: rest) = (do
      let gathered ← compileConjunct opts key asOf gathered op
      compileOps opts source key asOf depth gathered rest) := by
  cases op <;> first | rfl | contradiction

theorem layoutOps_cons {asOf : Option String} {op : Op} (rest : List Op)
    (conjunct : op.ends = false) :
    layoutOps opts source key asOf parts (op :: rest) =
      layoutOps opts source key asOf (parts ++ [layoutConjunct opts key asOf op]) rest := by
  cases op <;> first | rfl | contradiction

theorem combine_emits {base branch : Layout} {kind : SetOpKind} {thisSql : String}
    {other : CompiledQuery} (here : base.Emits [] (thisSql, gathered.params))
    (there : branch.Emits [] (other.sql, other.params)) :
    Layout.Emits ([.text "("] ++ base ++ [.text ") ", .text (setopKeyword kind), .text " ("] ++
        branch ++ [.text ")"]) []
      ((combine kind thisSql gathered other).sql, (combine kind thisSql gathered other).params) where
  text := by
    have own : thisSql = _ := here.text
    have others : other.sql = _ := there.text
    simp only [combine, own, others, Template.spell_append, Template.spell, Piece.spell,
      String.append_assoc, String.append_empty]
  values := by
    have own : gathered.params.map some = _ := here.values
    have others : other.params.map some = _ := there.values
    simp only [combine, List.map_append, own, others, List.map_nil, List.nil_append,
      Layout.values_append, Layout.values_text, Layout.values_nil, List.append_nil]

/-- The loop of `compile_at`, given what it does to the branches of the set operations met. -/
theorem compileOps_emits {asOf : Option String} {depth : Nat} {ops : List Op}
    {compiled : CompiledQuery}
    (branches : ∀ kind other, Op.setOp kind other ∈ ops → ∀ depth compiled,
      compileAt opts other depth = .ok compiled →
        (layoutQuery opts other).Emits [] (compiled.sql, compiled.params))
    (laid : PartsEmit parts [] (gathered.conjuncts, gathered.params)) (some_part : parts ≠ [])
    (returned : compileOps opts source key asOf depth gathered ops = .ok compiled) :
    (layoutOps opts source key asOf parts ops).Emits [] (compiled.sql, compiled.params) := by
  induction ops generalizing gathered parts with
  | nil =>
    cases returned
    exact baseSelect_emits laid some_part
  | cons op rest ih =>
    cases ends : op.ends with
    | false =>
      rw [compileOps_cons rest ends] at returned
      obtain ⟨after, pushed, later⟩ := except_bind_eq_ok.mp returned
      rw [layoutOps_cons rest ends]
      exact ih (fun kind other member => branches kind other (List.mem_cons_of_mem _ member))
        (compileConjunct_emits laid pushed) (by simp) later
    | true =>
      cases op with
      | derive name metric =>
        rw [compileOps] at returned
        rw [layoutOps]
        cases limited : opts.deriveLimit with
        | none => simp only [compileDerive, limited, reduceCtorEq] at returned
        | some limit => exact compileDerive_emits limited laid some_part returned
      | setOp kind other =>
        rw [compileOps] at returned
        split at returned
        · obtain ⟨inner, below, combined⟩ := except_bind_eq_ok.mp returned
          cases combined
          rw [layoutOps]
          exact combine_emits (baseSelect_emits laid some_part)
            (branches kind other List.mem_cons_self _ _ below)
        · cases returned
      | _ => contradiction

theorem compileAt_emits (q : SegmentQuery) : ∀ depth compiled, compileAt opts q depth = .ok compiled →
    (layoutQuery opts q).Emits [] (compiled.sql, compiled.params) := by
  induction q using SegmentQuery.nested with
  | step q branches =>
    intro depth compiled returned
    obtain ⟨source, key, ops, asOf⟩ := q
    rw [compileAt] at returned
    split at returned
    · cases returned
    · exact compileOps_emits branches (tenantEq_emits "base" opts.tenant).single (by simp) returned

end

end ConsumerEngine.Query
