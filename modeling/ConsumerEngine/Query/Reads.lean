import ConsumerEngine.Query.Spelling
import ConsumerEngine.Sql.Scope

/-! What the compiler's queries read: the tables, the columns and the compared values of each
operation, level by level.
-/

set_option autoImplicit false

namespace ConsumerEngine.Query

open ConsumerEngine.Core ConsumerEngine.Sql ConsumerEngine.Storage

abbrev Reads : Type := List (Read Value)

/-! ### Conditions -/

/-- A predicate compiled to a constant: it lists no value. -/
def Predicate.isConstant (p : Predicate) : Bool :=
  match p.op with
  | .isIn | .notIn => ((asArray p.value).getD []).isEmpty
  | _ => false

def Predicate.reads (catalog owner : String) (p : Predicate) : Reads :=
  if p.isConstant then []
  else
    .column catalog owner (foldName p.column) ::
      match p.op with
      | .isIn | .notIn => []
      | _ => [.compared catalog owner (foldName p.column) (valueOf p.value)]

def tenantReads (catalog owner tenant : String) : Reads :=
  [.column catalog owner "tenant_id", .compared catalog owner "tenant_id" (.text tenant)]

section
variable {scope : Scope} {rel catalog owner : String}

theorem conjunction_reads (first : Test) (rest : List Test) :
    (conjunction first rest).reads scope = (first :: rest).flatMap (·.reads scope) := by
  induction rest generalizing first with
  | nil => exact (List.append_nil _).symm
  | cons second rest ih =>
    simp only [conjunction, Ast.reads, ih second, List.flatMap_cons]

theorem listOf_reads (first : Value) (rest : List Value) :
    (listOf (boundTerm first) (rest.map boundTerm)).reads scope = [] := by
  induction rest generalizing first with
  | nil => rfl
  | cons second rest ih =>
    simp only [List.map_cons, listOf, Ast.reads, boundTerm, List.nil_append] at ih ⊢
    exact ih second

theorem tenantTest_reads (found : scope.lookup rel = some ⟨rel, .stored catalog owner⟩)
    (tenant : String) :
    (tenantTest rel tenant).reads scope = tenantReads catalog owner tenant := by
  simp only [tenantTest, Ast.reads, columnTerm, boundTerm, scope.column_stored found,
    scope.comparison_stored found, List.append_nil, List.nil_append, tenantReads,
    List.singleton_append]

theorem membershipTest_reads (negate : Bool) (name : String) (items : List Json)
    (found : scope.lookup rel = some ⟨rel, .stored catalog owner⟩) :
    (membershipTest negate (columnTerm rel name) items).reads scope =
      if items.isEmpty then [] else [.column catalog owner name] := by
  cases items with
  | nil => rfl
  | cons first rest =>
    have members := @listOf_reads scope (valueOf first) (rest.map valueOf)
    rw [List.map_map] at members
    simp only [membershipTest, Ast.reads, columnTerm, scope.column_stored found, List.isEmpty_cons,
      Bool.false_eq_true, ↓reduceIte, List.append_nil]
    rw [show (rest.map fun item => boundTerm (valueOf item)) = rest.map (boundTerm ∘ valueOf)
      from rfl, members, List.append_nil]

theorem predicateTest_reads (p : Predicate)
    (found : scope.lookup rel = some ⟨rel, .stored catalog owner⟩) :
    (predicateTest rel p).reads scope = p.reads catalog owner := by
  have member (negate : Bool) := membershipTest_reads negate (foldName p.column)
    ((asArray p.value).getD []) found
  have simple (comparison : Comparison) :
      (Ast.compare comparison (columnTerm rel (foldName p.column))
        (boundTerm (valueOf p.value))).reads scope =
        [.column catalog owner (foldName p.column),
          .compared catalog owner (foldName p.column) (valueOf p.value)] := by
    simp only [Ast.reads, columnTerm, boundTerm, scope.column_stored found,
      scope.comparison_stored found, List.append_nil, List.nil_append, List.singleton_append]
  unfold predicateTest Predicate.reads Predicate.isConstant
  cases p.op <;> first | exact simple _ | exact member _

theorem probe_reads_eq (source : Aliased) (first : Test) (rest : List Test)
    (groups : List ColumnRef) (having : Ast Value (.clause .HAVING)) :
    (probe source first rest groups having).reads scope =
      let inner := scope.enter [⟨source.alias_, .stored source.catalog source.table⟩]
      .table source.catalog source.table :: ((first :: rest).flatMap (·.reads inner) ++
        (groups.flatMap inner.ref ++ having.reads inner)) := by
  rw [probe, Ast.reads, Aliased.phrase, Ast.reads_select]
  simp only [numeralTerm, Ast.reads, conjunction_reads, List.append_nil, List.nil_append]

end

/-! ### Operations -/

section
variable (opts : CompileOptions) (source : Dataset) (key : String)

/-- The alias of the catalogue, as it is resolved. -/
def CompileOptions.catalog : String := foldName opts.catalogAlias

/-- The raw table of a dataset. -/
def rawRead (d : Dataset) : Read Value := .table opts.catalog (rawName d)

def columnRead (d : Dataset) (column : String) : Read Value :=
  .column opts.catalog (rawName d) (foldName column)

def windowReads (event : Dataset) (userKey tsColumn : String) (predicate : Option Predicate) :
    Reads :=
  rawRead opts event :: columnRead opts event userKey :: columnRead opts source key ::
    (tenantReads opts.catalog (rawName event) opts.tenant ++
      ((predicate.map (Predicate.reads opts.catalog (rawName event))).getD [] ++
        [columnRead opts event tsColumn]))

/-- The column of an engine table, its user and its tenant. -/
def engineReads (table : String) : Reads :=
  .table opts.catalog table :: .column opts.catalog table "user_id" :: columnRead opts source key ::
    tenantReads opts.catalog table opts.tenant

def noRepeatReads (campaignId : String) : Reads :=
  engineReads opts source key "suppression" ++
    [.column opts.catalog "suppression" "campaign_id",
      .compared opts.catalog "suppression" "campaign_id" (.text campaignId),
      .column opts.catalog "suppression" "action"]

def capReads : Reads :=
  engineReads opts source key "suppression" ++
    [.column opts.catalog "suppression" "action", .column opts.catalog "suppression" "occurred_ts",
      .column opts.catalog "suppression" "user_id"]

def excludeReads (campaignId : String) : Reads :=
  (if opts.suppression.perCampaignNoRepeat then noRepeatReads opts source key campaignId else []) ++
    (if opts.suppression.frequencyCap.isSome then capReads opts source key else [])

def wideTable (family : String) : String := foldName ("feature_wide_" ++ family)

def featureReads (name : String) (value : F64) (asOf : Option String) : Reads :=
  match asOf with
  | some _ =>
      engineReads opts source key "feature_store" ++
        [.column opts.catalog "feature_store" "feature_name",
          .compared opts.catalog "feature_store" "feature_name" (.text name),
          .column opts.catalog "feature_store" "as_of_ts",
          .column opts.catalog "feature_store" "user_id",
          .column opts.catalog "feature_store" "feature_name",
          .column opts.catalog "feature_store" "num_value",
          .column opts.catalog "feature_store" "as_of_ts"]
  | none =>
      let table := wideTable (featureParts name).1
      engineReads opts source key table ++
        [.column opts.catalog table (foldName (featureParts name).2),
          .compared opts.catalog table (foldName (featureParts name).2) (.double value)]

/-- What the conjunct of an operation reads. -/
def opReads (asOf : Option String) : Op → Reads
  | .filter predicate => predicate.reads opts.catalog (rawName source)
  | .recency event userKey tsColumn _ predicate =>
      windowReads opts source key event userKey tsColumn predicate
  | .lapsed event userKey tsColumn _ predicate =>
      windowReads opts source key event userKey tsColumn predicate ++
        windowReads opts source key event userKey tsColumn predicate
  | .feature name _ value => featureReads opts source key name value asOf
  | .exclude campaignId => excludeReads opts source key campaignId
  | .setOp .. | .derive .. | .similar | .characterize .. => []

end

section
variable {opts : CompileOptions} {source : Dataset} {key : String} {scope : Scope}

/-- The scope of a level: its base rows. -/
def baseScope (opts : CompileOptions) (source : Dataset) (scope : Scope) : Scope :=
  scope.enter [⟨"base", .stored opts.catalog (rawName source)⟩]

theorem baseScope_lookup :
    (baseScope opts source scope).lookup "base" =
      some ⟨"base", .stored opts.catalog (rawName source)⟩ := by
  rw [baseScope, Scope.lookup_enter, if_pos rfl]

/-- A probe inside a level knows its own rows and the base rows. -/
theorem probeScope_lookup {rel table : String} (other : rel ≠ "base") :
    let inner := (baseScope opts source scope).enter [⟨rel, .stored opts.catalog table⟩]
    inner.lookup rel = some ⟨rel, .stored opts.catalog table⟩ ∧
      inner.lookup "base" = some ⟨"base", .stored opts.catalog (rawName source)⟩ := by
  intro inner
  refine ⟨?_, ?_⟩
  · rw [Scope.lookup_enter, if_pos rfl]
  · rw [Scope.lookup_enter, if_neg other, baseScope_lookup]

theorem sameUserTest_reads {rel table userKey : String} {inner : Scope}
    (found : inner.lookup rel = some ⟨rel, .stored opts.catalog table⟩)
    (base : inner.lookup "base" = some ⟨"base", .stored opts.catalog (rawName source)⟩) :
    (sameUserTest rel userKey key).reads inner =
      [.column opts.catalog table userKey, columnRead opts source key] := by
  simp only [sameUserTest, Ast.reads, columnTerm, inner.column_stored found,
    inner.column_stored base, Scope.comparison, asColumn, asMark, List.append_nil,
    List.singleton_append, columnRead]

theorem windowProbe_reads_eq (event : Dataset) (userKey tsColumn : String)
    (comparison : Comparison) (withinDays : Nat) (predicate : Option Predicate) :
    (windowProbe event userKey key tsColumn comparison withinDays predicate opts.catalogAlias
        opts.tenant).reads (baseScope opts source scope) =
      windowReads opts source key event userKey tsColumn predicate := by
  obtain ⟨found, base⟩ := @probeScope_lookup opts source scope "e" (rawName event) (by decide)
  have within : (withinTest tsColumn comparison withinDays).reads
      ((baseScope opts source scope).enter [⟨"e", .stored opts.catalog (rawName event)⟩]) =
      [columnRead opts event tsColumn] := by
    simp only [withinTest, daysAgo, castTerm, callTerm, columnTerm, Ast.reads,
      Scope.column_stored found, Scope.comparison, asColumn, asMark, List.append_nil, columnRead]
  have own : (eventTests predicate opts.tenant).flatMap (·.reads
      ((baseScope opts source scope).enter [⟨"e", .stored opts.catalog (rawName event)⟩])) =
      tenantReads opts.catalog (rawName event) opts.tenant ++
        (predicate.map (Predicate.reads opts.catalog (rawName event))).getD [] := by
    cases predicate with
    | none => simp only [eventTests, Option.map_none, Option.toList_none, List.flatMap_cons,
        List.flatMap_nil, tenantTest_reads found, Option.getD_none]
    | some p => simp only [eventTests, Option.map_some, Option.toList_some, List.flatMap_cons,
        List.flatMap_nil, tenantTest_reads found, predicateTest_reads p found, Option.getD_some,
        List.append_nil]
  rw [windowProbe, probe_reads_eq]
  simp only [rawAliased, List.flatMap_cons, List.flatMap_append, List.flatMap_nil]
  rw [show foldName opts.catalogAlias = opts.catalog from rfl, own, within,
    sameUserTest_reads found base]
  simp only [Ast.reads, windowReads, rawRead, columnRead, List.cons_append, List.nil_append,
    List.append_nil, List.append_assoc]

/-- The scope of a probe of an engine table inside a level. -/
abbrev engineScope (opts : CompileOptions) (source : Dataset) (scope : Scope) (rel table : String) :
    Scope :=
  (baseScope opts source scope).enter [⟨rel, .stored opts.catalog table⟩]

theorem noRepeatTest_reads (campaignId : String) :
    (noRepeatTest campaignId key opts).reads (baseScope opts source scope) =
      noRepeatReads opts source key campaignId := by
  obtain ⟨found, base⟩ := @probeScope_lookup opts source scope "s" "suppression" (by decide)
  have campaign : (Ast.compare .eq (columnTerm "s" "campaign_id")
      (boundTerm (.text campaignId))).reads (engineScope opts source scope "s" "suppression") =
      [.column opts.catalog "suppression" "campaign_id",
        .compared opts.catalog "suppression" "campaign_id" (.text campaignId)] := by
    simp only [Ast.reads, columnTerm, boundTerm, Scope.column_stored found,
      Scope.comparison_stored found, List.append_nil, List.nil_append, List.singleton_append]
  have action : (Ast.isIn false (columnTerm "s" "action") (listOf (quotedTerm "targeted")
      [quotedTerm "delivered"])).reads (engineScope opts source scope "s" "suppression") =
      [.column opts.catalog "suppression" "action"] := by
    simp only [Ast.reads, columnTerm, listOf, quotedTerm, Scope.column_stored found, List.append_nil]
  rw [noRepeatTest, Ast.reads, probe_reads_eq]
  simp only [suppressionAliased, List.flatMap_cons, List.flatMap_nil]
  rw [show foldName opts.catalogAlias = opts.catalog from rfl, sameUserTest_reads found base,
    tenantTest_reads found, campaign, action]
  simp only [Ast.reads, noRepeatReads, engineReads, List.cons_append, List.nil_append,
    List.append_nil]

theorem capTest_reads (cap : FrequencyCap) :
    (capTest cap key opts).reads (baseScope opts source scope) = capReads opts source key := by
  obtain ⟨found, base⟩ := @probeScope_lookup opts source scope "s" "suppression" (by decide)
  have action : (Ast.compare .eq (columnTerm "s" "action") (quotedTerm "targeted")).reads
      (engineScope opts source scope "s" "suppression") =
      [(.column opts.catalog "suppression" "action" : Read Value)] := by
    simp only [Ast.reads, columnTerm, quotedTerm, Scope.column_stored found, Scope.comparison,
      asColumn, asMark, List.append_nil]
  have since : (Ast.compare .ge (columnTerm "s" "occurred_ts")
      (castTerm (daysAgo cap.windowDays) "timestamptz")).reads
      (engineScope opts source scope "s" "suppression") =
      [.column opts.catalog "suppression" "occurred_ts"] := by
    simp only [Ast.reads, columnTerm, castTerm, callTerm, daysAgo, Scope.column_stored found,
      Scope.comparison, asColumn, asMark, List.append_nil]
  have counted : (Ast.clause .HAVING (.only (.compare .ge (callTerm "count" .star)
      (boundTerm (.bigInt cap.maxContacts))))).reads
      (engineScope opts source scope "s" "suppression") = [] := by
    simp only [Ast.reads, callTerm, boundTerm, Scope.comparison, asColumn, List.append_nil]
  rw [capTest, Ast.reads, probe_reads_eq]
  simp only [suppressionAliased, List.flatMap_cons, List.flatMap_nil]
  rw [show foldName opts.catalogAlias = opts.catalog from rfl, sameUserTest_reads found base,
    tenantTest_reads found, action, since, counted]
  simp only [Scope.ref, Scope.column_stored found, capReads, engineReads, List.cons_append,
    List.nil_append, List.append_nil, List.append_assoc]

theorem excludeTests_reads (campaignId : String) :
    (excludeTests campaignId key opts).flatMap (·.reads (baseScope opts source scope)) =
      excludeReads opts source key campaignId := by
  unfold excludeTests excludeReads
  cases opts.suppression.perCampaignNoRepeat <;> cases opts.suppression.frequencyCap with
  | none =>
    simp only [Bool.false_eq_true, ↓reduceIte, Option.map_none, Option.toList_none, List.append_nil,
      List.isEmpty_nil, List.isEmpty_cons, List.flatMap_cons, List.flatMap_nil, noRepeatTest_reads,
      Option.isSome_none]
    try rfl
  | some cap =>
    simp only [Bool.false_eq_true, ↓reduceIte, Option.map_some, Option.toList_some, List.nil_append,
      List.cons_append, List.isEmpty_cons, List.flatMap_cons, List.flatMap_nil, noRepeatTest_reads,
      capTest_reads, Option.isSome_some, List.append_nil]

theorem featureTest_reads (name : String) (op : Cmp) (value : F64) (asOf : Option String) :
    (featureTest name op value key opts.catalogAlias opts.tenant asOf).reads
        (baseScope opts source scope) = featureReads opts source key name value asOf := by
  have alias_ : foldName opts.catalogAlias = opts.catalog := rfl
  cases asOf with
  | some asOf =>
    obtain ⟨found, base⟩ := @probeScope_lookup opts source scope "f" "feature_store" (by decide)
    have named : (Ast.compare .eq (columnTerm "f" "feature_name") (boundTerm (.text name))).reads
        (engineScope opts source scope "f" "feature_store") =
        [.column opts.catalog "feature_store" "feature_name",
          .compared opts.catalog "feature_store" "feature_name" (.text name)] := by
      simp only [Ast.reads, columnTerm, boundTerm, Scope.column_stored found,
        Scope.comparison_stored found, List.append_nil, List.nil_append, List.singleton_append]
    have bounded : (Ast.compare .le (columnTerm "f" "as_of_ts")
        (castTerm (boundTerm (.text asOf)) "timestamptz")).reads
        (engineScope opts source scope "f" "feature_store") =
        [.column opts.catalog "feature_store" "as_of_ts"] := by
      simp only [Ast.reads, columnTerm, castTerm, boundTerm, Scope.column_stored found,
        Scope.comparison, asColumn, asMark, List.append_nil]
    have latest : (Ast.clause .HAVING (.only (.compare op.comparison (callTerm "arg_max" (.given
        (listOf (columnTerm "f" "num_value") [columnTerm "f" "as_of_ts"])))
        (boundTerm (.double value))))).reads (engineScope opts source scope "f" "feature_store") =
        [.column opts.catalog "feature_store" "num_value",
          .column opts.catalog "feature_store" "as_of_ts"] := by
      simp only [Ast.reads, callTerm, columnTerm, boundTerm, listOf, Scope.column_stored found,
        Scope.comparison, asColumn, List.append_nil, List.singleton_append]
    rw [featureTest, Ast.reads, probe_reads_eq]
    simp only [List.flatMap_cons, List.flatMap_nil]
    rw [alias_, sameUserTest_reads found base, tenantTest_reads found, named, bounded, latest]
    simp only [Scope.ref, Scope.column_stored found, featureReads, engineReads, List.cons_append,
      List.nil_append, List.append_nil, List.append_assoc]
  | none =>
    obtain ⟨found, base⟩ := @probeScope_lookup opts source scope "f"
      (wideTable (featureParts name).1) (by decide)
    have short : (Ast.compare op.comparison (columnTerm "f" (foldName (featureParts name).2))
        (boundTerm (.double value))).reads
        (engineScope opts source scope "f" (wideTable (featureParts name).1)) =
        [.column opts.catalog (wideTable (featureParts name).1) (foldName (featureParts name).2),
          .compared opts.catalog (wideTable (featureParts name).1)
            (foldName (featureParts name).2) (.double value)] := by
      simp only [Ast.reads, columnTerm, boundTerm, Scope.column_stored found,
        Scope.comparison_stored found, List.append_nil, List.nil_append, List.singleton_append]
    rw [featureTest, Ast.reads, probe_reads_eq]
    simp only [List.flatMap_cons, List.flatMap_nil]
    rw [alias_, show foldName ("feature_wide_" ++ (featureParts name).1) =
      wideTable (featureParts name).1 from rfl, sameUserTest_reads found base,
      tenantTest_reads found, short]
    simp only [Ast.reads, featureReads, engineReads, List.cons_append, List.nil_append,
      List.append_nil]

theorem opTests_reads (asOf : Option String) {op : Op} (narrows : op.narrows = true) :
    (opTests opts key asOf op).flatMap (·.reads (baseScope opts source scope)) =
      opReads opts source key asOf op := by
  cases op with
  | filter p =>
    simp only [opTests, List.flatMap_cons, List.flatMap_nil, List.append_nil, opReads,
      predicateTest_reads p baseScope_lookup]
  | recency | lapsed =>
    simp only [opTests, List.flatMap_cons, List.flatMap_nil, List.append_nil, opReads, Ast.reads,
      windowProbe_reads_eq]
  | feature name op value =>
    simp only [opTests, List.flatMap_cons, List.flatMap_nil, List.append_nil, opReads,
      featureTest_reads]
  | exclude campaignId => exact excludeTests_reads campaignId
  | _ => contradiction

/-! ### Levels -/

/-- What a level reads. -/
def levelReads (opts : CompileOptions) (source : Dataset) (key : String) (asOf : Option String)
    (ops : List Op) : Reads :=
  rawRead opts source :: columnRead opts source key ::
    (tenantReads opts.catalog (rawName source) opts.tenant ++
      ops.flatMap (opReads opts source key asOf))

theorem levelPhrase_reads {ops : List Op} (narrows : ∀ op ∈ ops, op.narrows = true)
    (asOf label limit : Option String) :
    (levelPhrase opts source key ops asOf label limit).reads scope =
      levelReads opts source key asOf ops := by
  have tests : (levelTests opts key asOf ops).flatMap (·.reads (baseScope opts source scope)) =
      ops.flatMap (opReads opts source key asOf) := by
    rw [levelTests, List.flatMap_assoc]
    exact List.flatMap_congr fun op member => opTests_reads asOf (narrows op member)
  rw [levelPhrase, basePhrase, Aliased.phrase, rawAliased, Ast.reads_select]
  simp only [Ast.reads, conjunction_reads, List.flatMap_cons, List.flatMap_nil, List.append_nil,
    columnTerm]
  rw [show foldName opts.catalogAlias = opts.catalog from rfl,
    show scope.enter [⟨"base", .stored opts.catalog (rawName source)⟩] =
      baseScope opts source scope from rfl, tests, tenantTest_reads baseScope_lookup,
    Scope.column_stored baseScope_lookup]
  rfl

def metricReads (opts : CompileOptions) (metric : JitMetric) : Reads :=
  let event := metricEvent metric
  rawRead opts event :: .column opts.catalog (rawName event) "user_id" ::
    (tenantReads opts.catalog (rawName event) opts.tenant ++
      ((metricColumn metric).map (columnRead opts event)).toList)

/-- The scope of a metric: the survivors, and the event rows they are joined with. -/
def metricScope (opts : CompileOptions) (metric : JitMetric) (scope : Scope) : Scope :=
  (scope.withNamed "survivor" ["user_id"]).enter
    [⟨"s", .listed ["user_id"]⟩, ⟨"e", .stored opts.catalog (rawName (metricEvent metric))⟩]

theorem metricPhrase_reads {survivor : Ast Value .select} (listed : survivor.columns = ["user_id"])
    (name : String) (metric : JitMetric) :
    (metricPhrase survivor name metric opts.catalogAlias opts.tenant).reads scope =
      survivor.reads scope ++ metricReads opts metric := by
  have joined : (metricScope opts metric scope).lookup "e" =
      some ⟨"e", .stored opts.catalog (rawName (metricEvent metric))⟩ := rfl
  have survivors : ((metricScope opts metric scope).column "s" "user_id" : Reads) = [] := rfl
  have users : (Ast.compare .eq (columnTerm "e" "user_id") (columnTerm "s" "user_id")).reads
      (metricScope opts metric scope) =
      [(.column opts.catalog (rawName (metricEvent metric)) "user_id" : Read Value)] := by
    simp only [Ast.reads, columnTerm, Scope.column_stored joined, survivors, Scope.comparison,
      asColumn, asMark, List.append_nil]
  have aggregate : (aggregateTerm metric).reads (metricScope opts metric scope) =
      ((metricColumn metric).map (columnRead opts (metricEvent metric))).toList := by
    cases metric with
    | count event => rfl
    | _ event column =>
      simp only [aggregateTerm, aggregateTerm.summedUp, callTerm, castTerm, columnTerm, Ast.reads,
        Scope.column_stored joined, List.append_nil]
      rfl
  have whole : (metricPhrase survivor name metric opts.catalogAlias opts.tenant).reads scope =
      survivor.reads scope ++ (.table opts.catalog (rawName (metricEvent metric)) ::
        ((Ast.compare .eq (columnTerm "e" "user_id") (columnTerm "s" "user_id")).reads
          (metricScope opts metric scope) ++ ((tenantTest "e" opts.tenant).reads
            (metricScope opts metric scope) ++ (aggregateTerm metric).reads
              (metricScope opts metric scope)))) := by
    simp only [metricPhrase, rawAliased, Aliased.phrase, Ast.reads, Ast.columns, listed,
      conjunction, boundTerm, Option.getD_some, required, Option.all_none, ↓reduceIte,
      Scope.withNamed, List.lookup_cons, BEq.rfl, List.flatMap_nil, List.append_nil,
      List.nil_append, List.cons_append, List.append_assoc]
    rfl
  rw [whole, users, tenantTest_reads joined, aggregate]
  rfl

theorem hasDerive_narrowing {ops : List Op} {asOf : Option String}
    (narrows : ∀ op ∈ ops, op.narrows = true) : hasDerive ⟨source, key, ops, asOf⟩ = false := by
  refine List.any_eq_false.mpr fun op member => ?_
  have here := narrows op member
  cases op <;> first | exact Bool.false_ne_true | contradiction

theorem hasDerive_append {ops : List Op} {op : Op} {asOf : Option String}
    (narrows : ∀ op ∈ ops, op.narrows = true) :
    hasDerive ⟨source, key, ops ++ [op], asOf⟩ = hasDerive ⟨source, key, [op], asOf⟩ := by
  have early := @hasDerive_narrowing source key ops asOf narrows
  unfold hasDerive at early ⊢
  rw [List.any_append, early, Bool.false_or]

/-- A query gives keys, or a metric under its name. -/
theorem phraseAt_columns {isRfc3339 : String → Bool} {q : SegmentQuery} {sources : List Dataset}
    (shaped : Shaped isRfc3339 opts q sources) :
    (phraseAt opts q).columns = if hasDerive q then ["name", "value"] else [foldName q.key] := by
  cases shaped with
  | level narrowing =>
    rw [phraseAt_level narrowing.narrows, hasDerive_narrowing narrowing.narrows]
    rfl
  | setOp narrowing branch =>
    rw [phraseAt_setOp narrowing.narrows, hasDerive_append narrowing.narrows]
    rfl
  | derive narrowing injected =>
    rw [phraseAt_derive narrowing.narrows injected, hasDerive_append narrowing.narrows]
    rfl

/-! ### Profiles -/

/-- The user of the segment, which only resolves where the segment's key is one. -/
def segmentUserReads (key : String) : Reads := required (foldName key == "user_id")

/-- What the event rows of a profile read. -/
def profileReads (opts : CompileOptions) (key : String) (event : Dataset) (column : String) : Reads :=
  rawRead opts event :: (segmentUserReads key ++
    (.column opts.catalog (rawName event) "user_id" ::
      .column opts.catalog (rawName event) "user_id" :: columnRead opts event column ::
        (segmentUserReads key ++ tenantReads opts.catalog (rawName event) opts.tenant)))

def profileScope (opts : CompileOptions) (key : String) (event : Dataset) (scope : Scope) : Scope :=
  (scope.withNamed "segment" [foldName key]).enter
    [⟨"e", .stored opts.catalog (rawName event)⟩, ⟨"s", .listed [foldName key]⟩]

/-- The column a figure is drawn from. -/
def Figure.column (tsColumn monetaryColumn categoryColumn : String) : Figure → String
  | .metrics => monetaryColumn
  | .recency => tsColumn
  | .categories => categoryColumn

theorem figures_reads (of : Figure) (columns : List String) :
    of.phrase.reads ((scope.withNamed "segment" columns).withNamed "ev"
      ["user_id", of.label, "in_seg"]) = [] := by
  cases of with
  | metrics =>
    simp [Figure.phrase, metricsPhrase, ratio, usersFigure, ordersFigure, amountFigure, figure,
      callTerm, numeralTerm, listOf, bareTerm, keptRows, Figure.label, Ast.reads, required,
      Scope.withNamed, Scope.bare, Scope.enter, readIn, Relation.mayHave, Relation.read, List.lookup_cons]
  | recency =>
    simp [Figure.phrase, recencyPhrase, recencyDays, filteredTerm, callTerm, bareTerm, Figure.label,
      Ast.reads, Ast.columns, Ast.names, ownName, required, Scope.withNamed, Scope.bare, Scope.enter,
      Scope.ref, readIn, Relation.mayHave, Relation.read]
  | categories =>
    simp [Figure.phrase, categoriesPhrase, filteredTerm, callTerm, bareTerm, Figure.label,
      Ast.reads, Ast.names, ownName, required, Scope.withNamed, Scope.bare, Scope.enter, Scope.ref,
      readIn, Relation.mayHave, Relation.read]

theorem profilePhrase_reads {segment : Ast Value .query} (listed : segment.columns = [foldName key])
    (event : Dataset) (tsColumn monetaryColumn categoryColumn : String) (of : Figure) :
    (profilePhrase segment (of.value tsColumn monetaryColumn categoryColumn) of.label event
        opts.catalogAlias opts.tenant of.phrase).reads scope =
      segment.reads scope ++
        profileReads opts key event (of.column tsColumn monetaryColumn categoryColumn) := by
  have events : (profileScope opts key event scope).lookup "e" =
      some ⟨"e", .stored opts.catalog (rawName event)⟩ := rfl
  have users : ((profileScope opts key event scope).column "s" "user_id" : Reads) =
      segmentUserReads key := by
    change (if [foldName key].contains "user_id" then [] else [Read.nothing]) = _
    rw [List.contains_cons, List.contains_nil, Bool.or_false, Bool.beq_comm]
    rfl
  have value : (of.value tsColumn monetaryColumn categoryColumn).reads
      (profileScope opts key event scope) =
      [columnRead opts event (of.column tsColumn monetaryColumn categoryColumn)] := by
    cases of <;>
      simp only [Figure.value, castTerm, columnTerm, Ast.reads, Scope.column_stored events,
        List.append_nil] <;> rfl
  have joined : (Ast.compare .eq (columnTerm "s" "user_id") (columnTerm "e" "user_id")).reads
      (profileScope opts key event scope) =
      segmentUserReads key ++ [.column opts.catalog (rawName event) "user_id"] := by
    simp only [Ast.reads, columnTerm, Scope.column_stored events, users, Scope.comparison, asColumn,
      asMark, List.append_nil]
  have whole : (profilePhrase segment (of.value tsColumn monetaryColumn categoryColumn) of.label
      event opts.catalogAlias opts.tenant of.phrase).reads scope =
      segment.reads scope ++ ((.table opts.catalog (rawName event) ::
        ((Ast.compare .eq (columnTerm "s" "user_id") (columnTerm "e" "user_id")).reads
          (profileScope opts key event scope) ++
        ((profileScope opts key event scope).column "e" "user_id" ++
          ((of.value tsColumn monetaryColumn categoryColumn).reads
            (profileScope opts key event scope) ++
          ((profileScope opts key event scope).column "s" "user_id" ++
            (tenantTest "e" opts.tenant).reads (profileScope opts key event scope)))))) ++
        of.phrase.reads ((scope.withNamed "segment" [foldName key]).withNamed "ev"
          ["user_id", of.label, "in_seg"])) := by
    simp only [profilePhrase, eventsPhrase, rawAliased, Aliased.phrase, Ast.reads, Ast.columns,
      Ast.names, listed, Option.getD_some, required, Option.all_none, ↓reduceIte, Scope.withNamed,
      List.lookup_cons, BEq.rfl, List.flatMap_nil, List.append_nil, List.nil_append,
      List.cons_append, List.append_assoc, columnTerm]
    rfl
  rw [whole, joined, users, value, tenantTest_reads events, Scope.column_stored events,
    figures_reads]
  simp only [profileReads, List.append_assoc, List.cons_append, List.nil_append, List.append_nil]
  rfl

end

end ConsumerEngine.Query
