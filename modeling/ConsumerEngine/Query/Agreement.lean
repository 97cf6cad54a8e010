import ConsumerEngine.Query.Reads
import ConsumerEngine.Query.References

/-! The static analyses against the compiled statements: the raw tables and columns a statement
reads, and the features it compares.
-/

set_option autoImplicit false

namespace ConsumerEngine.Query

open ConsumerEngine.Core ConsumerEngine.Sql ConsumerEngine.Storage

/-! ### What a statement reads -/

/-- The name of a raw table. -/
def isRawName (name : String) : Bool := "raw_".toList.isPrefixOf name.toList

/-- A column of a raw table, by the names it is resolved under; the tenant's is left out. -/
def ReadsColumn (reads : Reads) (table column : String) : Prop :=
  isRawName table = true ∧ column ≠ "tenant_id" ∧ ∃ catalog, .column catalog table column ∈ reads

def ReadsTable (reads : Reads) (table : String) : Prop :=
  isRawName table = true ∧ ∃ catalog, .table catalog table ∈ reads

/-- A feature: a column of a family's wide view compared with a number, or a name the feature
store is asked for. -/
def ReadsFeature (reads : Reads) (name : String) : Prop :=
  (∃ catalog family short threshold, .compared catalog ("feature_wide_" ++ family) short
      (.double threshold) ∈ reads ∧ name = family ++ "." ++ short) ∨
    ∃ catalog feature, .compared catalog "feature_store" "feature_name" (.text feature) ∈ reads ∧
      name = foldName feature

/-- The names a referenced column is resolved under. -/
def NamesColumn (referenced : List ReferencedColumn) (table column : String) : Prop :=
  column ≠ "tenant_id" ∧ ∃ r ∈ referenced, rawName ⟨r.system, r.entity⟩ = table ∧
    foldName r.column = column

/-- The analyses agree with a statement. -/
structure Agrees (reads : Reads) (columns : List ReferencedColumn) (sources : List Dataset)
    (features : List String) : Prop where
  columns : ∀ table column, ReadsColumn reads table column ↔ NamesColumn columns table column
  tables : ∀ table, ReadsTable reads table ↔ ∃ d ∈ sources, rawName d = table
  features : ∀ name, ReadsFeature reads name ↔ ∃ feature ∈ features, foldName feature = name

/-! ### Predicates without values -/

mutual

/-- The query without its predicates on empty lists, which are compiled to constants. -/
def pruned (q : SegmentQuery) : SegmentQuery :=
  match q with
  | ⟨source, key, ops, asOf⟩ => ⟨source, key, prunedOps ops, asOf⟩
termination_by structural q

def prunedOps (ops : List Op) : List Op :=
  match ops with
  | [] => []
  | op :: rest => prunedOp op ++ prunedOps rest
termination_by structural ops

def prunedOp (op : Op) : List Op :=
  match op with
  | .filter p => if p.isConstant then [] else [.filter p]
  | .recency event userKey tsColumn withinDays predicate =>
      [.recency event userKey tsColumn withinDays (predicate.filter (!·.isConstant))]
  | .lapsed event userKey tsColumn withinDays predicate =>
      [.lapsed event userKey tsColumn withinDays (predicate.filter (!·.isConstant))]
  | .setOp kind other => [.setOp kind (pruned other)]
  | op => [op]
termination_by structural op

end

/-! ### Reads of a list -/

section
variable {left right : Reads} {table column name : String}

theorem readsColumn_append : ReadsColumn (left ++ right) table column ↔
    ReadsColumn left table column ∨ ReadsColumn right table column := by
  simp only [ReadsColumn, List.mem_append, exists_or, ← and_or_left]

theorem readsTable_append : ReadsTable (left ++ right) table ↔
    ReadsTable left table ∨ ReadsTable right table := by
  simp only [ReadsTable, List.mem_append, exists_or, ← and_or_left]

theorem readsFeature_append : ReadsFeature (left ++ right) name ↔
    ReadsFeature left name ∨ ReadsFeature right name := by
  simp only [ReadsFeature, List.mem_append, or_and_right, exists_or]
  exact or_or_or_comm

theorem namesColumn_append {first second : List ReferencedColumn} :
    NamesColumn (first ++ second) table column ↔
      NamesColumn first table column ∨ NamesColumn second table column := by
  simp only [NamesColumn, List.mem_append, or_and_right, exists_or, ← and_or_left]

theorem Agrees.append {columns columns' : List ReferencedColumn} {sources sources' : List Dataset}
    {features features' : List String} (here : Agrees left columns sources features)
    (there : Agrees right columns' sources' features') :
    Agrees (left ++ right) (columns ++ columns') (sources ++ sources') (features ++ features') where
  columns table column := by
    rw [readsColumn_append, here.columns, there.columns, namesColumn_append]
  tables table := by
    rw [readsTable_append, here.tables, there.tables]
    simp only [List.mem_append, or_and_right, exists_or]
  features name := by
    rw [readsFeature_append, here.features, there.features]
    simp only [List.mem_append, or_and_right, exists_or]

end

/-- The analyses are compared as sets. -/
theorem Agrees.congr {reads reads' : Reads} {columns columns' : List ReferencedColumn}
    {sources sources' : List Dataset} {features features' : List String}
    (agrees : Agrees reads columns sources features) (same : ∀ read, read ∈ reads' ↔ read ∈ reads)
    (listed : ∀ r, r ∈ columns' ↔ r ∈ columns) (from_ : ∀ d, d ∈ sources' ↔ d ∈ sources)
    (named : ∀ feature, feature ∈ features' ↔ feature ∈ features) :
    Agrees reads' columns' sources' features' where
  columns table column := by
    simp only [ReadsColumn, NamesColumn, same, listed]
    exact agrees.columns table column
  tables table := by
    simp only [ReadsTable, same, from_]
    exact agrees.tables table
  features name := by
    simp only [ReadsFeature, same, named]
    exact agrees.features name

/-! ### Reads of a piece -/

theorem rawName_isRaw (d : Dataset) : isRawName (rawName d) = true := by
  have letters : (rawName d).toList = "raw_".toList ++ (d.system ++ "_" ++ d.entity).toList.map
      Char.toLower := by
    simp only [rawName, foldName, String.toList_ofList, String.append_assoc, String.toList_append,
      List.map_append]
    rfl
  rw [isRawName, List.isPrefixOf_iff_prefix, letters]
  exact List.prefix_append _ _

theorem wideTable_eq (family : String) : wideTable family = "feature_wide_" ++ foldName family := by
  rw [wideTable, foldName, String.toList_append, List.map_append, String.ofList_append]
  rfl

theorem wideTable_notRaw (family : String) : isRawName (wideTable family) = false := by
  rw [wideTable_eq, isRawName, String.toList_append]
  rfl

/-- A table of a family's wide view is the family's. -/
theorem wide_inj {family other : String} (same : "feature_wide_" ++ family = "feature_wide_" ++ other) :
    family = other := by
  have letters := congrArg String.toList same
  rw [String.toList_append, String.toList_append, List.append_cancel_left_eq] at letters
  exact String.toList_injective letters

theorem rawName_ne_wide (d : Dataset) (family : String) : rawName d ≠ "feature_wide_" ++ family :=
  fun same => by
    have raw := rawName_isRaw d
    rw [same, isRawName, String.toList_append] at raw
    cases raw

section
variable {opts : CompileOptions} {d : Dataset} {catalog table column tenant name : String}

theorem agrees_nil : Agrees [] [] [] [] := by
  constructor <;> simp [ReadsColumn, NamesColumn, ReadsTable, ReadsFeature]

theorem agrees_raw : Agrees [rawRead opts d] [] [d] [] := by
  constructor
  · simp [ReadsColumn, NamesColumn, rawRead]
  · intro table
    simp only [ReadsTable, rawRead, List.mem_singleton, Read.table.injEq, exists_eq_left]
    constructor
    · rintro ⟨-, _, rfl⟩
      rfl
    · rintro rfl
      exact ⟨rawName_isRaw d, rfl⟩
  · simp [ReadsFeature, rawRead]

theorem agrees_column : Agrees [columnRead opts d column] [columnOf d column] [] [] := by
  constructor
  · intro table name
    simp only [ReadsColumn, NamesColumn, columnRead, columnOf, List.mem_singleton,
      Read.column.injEq, exists_eq_left]
    constructor
    · rintro ⟨-, other, rfl, rfl⟩
      exact ⟨other, rfl, rfl⟩
    · rintro ⟨other, rfl, rfl⟩
      exact ⟨rawName_isRaw d, other, rfl, rfl⟩
  · simp [ReadsTable, columnRead]
  · simp [ReadsFeature, columnRead]

/-- Nothing that the analyses report. -/
theorem agrees_tenant : Agrees (tenantReads catalog table tenant) [] [] [] := by
  constructor
  · simp +contextual [ReadsColumn, NamesColumn, tenantReads]
  · simp [ReadsTable, tenantReads]
  · simp [ReadsFeature, tenantReads]

/-- Columns of an engine table. -/
theorem agrees_engineColumns (other : isRawName table = false) (names : List String) :
    Agrees (names.map (.column catalog table)) [] [] [] := by
  constructor
  · intro owner column
    simp only [ReadsColumn, NamesColumn, List.mem_map, Read.column.injEq, List.not_mem_nil,
      false_and, exists_false, and_false, iff_false, not_and]
    rintro raw - ⟨_, _, -, -, rfl, -⟩
    rw [raw] at other
    contradiction
  · simp [ReadsTable]
  · simp [ReadsFeature]

theorem agrees_engineTable (other : isRawName table = false) :
    Agrees [.table catalog table] [] [] [] := by
  constructor
  · simp [ReadsColumn, NamesColumn]
  · intro owner
    simp only [ReadsTable, List.mem_singleton, Read.table.injEq, List.not_mem_nil, false_and,
      exists_false, iff_false, not_and]
    rintro raw ⟨_, -, rfl⟩
    rw [raw] at other
    contradiction
  · simp [ReadsFeature]

/-- A value compared with a column of a raw table is no feature. -/
theorem agrees_compared (value : Value) :
    Agrees [.compared catalog (rawName d) column value] [] [] [] := by
  constructor
  · simp [ReadsColumn, NamesColumn]
  · simp [ReadsTable]
  · intro feature
    simp only [ReadsFeature, List.mem_singleton, Read.compared.injEq, List.not_mem_nil, false_and,
      exists_false, iff_false, not_or, not_exists]
    refine ⟨fun _ family _ _ same => rawName_ne_wide d family same.1.2.1.symm, fun _ _ same => ?_⟩
    have raw := rawName_isRaw d
    rw [← same.1.2.1] at raw
    revert raw
    decide

theorem agrees_campaign : Agrees [.compared catalog "suppression" column (.text name)] [] [] [] := by
  constructor
  · simp [ReadsColumn, NamesColumn]
  · simp [ReadsTable]
  · simp [ReadsFeature]

theorem agrees_store :
    Agrees [.compared catalog "feature_store" "feature_name" (.text name)] [] [] [name] := by
  constructor
  · simp [ReadsColumn, NamesColumn]
  · simp [ReadsTable]
  · intro feature
    simp [ReadsFeature, eq_comm]

theorem agrees_wide {family short : String} (split : name = family ++ "." ++ short) (value : F64) :
    Agrees [.compared catalog (wideTable family) (foldName short) (.double value)] [] [] [name] := by
  have folded : foldName name = foldName family ++ "." ++ foldName short := by
    rw [split]
    simp only [foldName, String.toList_append, List.map_append, String.ofList_append]
    rfl
  constructor
  · simp [ReadsColumn, NamesColumn]
  · simp [ReadsTable]
  · intro feature
    simp only [ReadsFeature, List.mem_singleton, Read.compared.injEq, reduceCtorEq, and_false,
      exists_false, or_false, wideTable_eq, exists_eq_left, folded, false_and]
    constructor
    · rintro ⟨_, _, _, _, ⟨-, same, rfl, -⟩, rfl⟩
      rw [wide_inj same]
    · rintro rfl
      exact ⟨_, _, _, _, ⟨rfl, rfl, rfl, rfl⟩, rfl⟩

theorem agrees_required (met : Bool) : Agrees (required met) [] [] [] := by
  cases met <;>
    constructor <;> simp [required, ReadsColumn, NamesColumn, ReadsTable, ReadsFeature]

/-! ### Operations -/

theorem agrees_predicate (p : Predicate) :
    Agrees (p.reads opts.catalog (rawName d)) (if p.isConstant then [] else [columnOf d p.column])
      [] [] := by
  have column := @agrees_column opts d p.column
  have compared := @Agrees.append _ _ _ _ _ _ _ _ column
    (@agrees_compared d opts.catalog (foldName p.column) (valueOf p.value))
  unfold Predicate.reads
  split
  · exact agrees_nil
  · split
    · exact column
    · exact column
    · exact compared

end

section
variable {opts : CompileOptions} {source : Dataset} {key : String}

theorem agrees_window (event : Dataset) (userKey tsColumn : String) (predicate : Option Predicate) :
    Agrees (windowReads opts source key event userKey tsColumn predicate)
      (columnOf source key :: windowColumns event userKey tsColumn
        (predicate.filter (!·.isConstant))) [event] [] := by
  have test : Agrees ((predicate.map (Predicate.reads opts.catalog (rawName event))).getD [])
      ((predicate.filter (!·.isConstant)).map fun p => columnOf event p.column).toList [] [] := by
    cases predicate with
    | none => exact agrees_nil
    | some p =>
      have here := @agrees_predicate opts event p
      cases constant : p.isConstant <;>
        simpa [constant, Option.filter] using here
  have pieces := (@agrees_raw opts event).append ((@agrees_column opts event userKey).append
    ((@agrees_column opts source key).append ((@agrees_tenant opts.catalog (rawName event)
      opts.tenant).append (test.append (@agrees_column opts event tsColumn)))))
  refine pieces.congr (fun read => Iff.rfl) (fun r => ?_) (fun d => Iff.rfl) (fun name => Iff.rfl)
  simp only [windowColumns, List.mem_cons, List.mem_append, List.not_mem_nil, or_false, false_or]
  tauto

theorem agrees_engineReads {table : String} (other : isRawName table = false) :
    Agrees (engineReads opts source key table) [columnOf source key] [] [] :=
  (agrees_engineTable other).append ((@agrees_engineColumns opts.catalog table other ["user_id"]).append
    ((@agrees_column opts source key).append (@agrees_tenant opts.catalog table opts.tenant)))

theorem suppression_notRaw : isRawName "suppression" = false := by decide

theorem store_notRaw : isRawName "feature_store" = false := by decide

theorem agrees_noRepeat (campaignId : String) :
    Agrees (noRepeatReads opts source key campaignId) [columnOf source key] [] [] := by
  have columns (name : String) := @agrees_engineColumns opts.catalog _ suppression_notRaw [name]
  exact (agrees_engineReads suppression_notRaw).append ((columns "campaign_id").append
    ((@agrees_campaign opts.catalog "campaign_id" campaignId).append (columns "action")))

theorem agrees_cap : Agrees (capReads opts source key) [columnOf source key] [] [] :=
  (agrees_engineReads suppression_notRaw).append
    (@agrees_engineColumns opts.catalog _ suppression_notRaw ["action", "occurred_ts", "user_id"])

/-- The analyses count a column once. -/
theorem Agrees.again {reads : Reads} {sources : List Dataset} {features : List String}
    {r : ReferencedColumn} {columns : List ReferencedColumn}
    (agrees : Agrees reads (r :: r :: columns) sources features) :
    Agrees reads (r :: columns) sources features := by
  refine agrees.congr (fun _ => Iff.rfl) (fun other => ?_) (fun _ => Iff.rfl) (fun _ => Iff.rfl)
  simp only [List.mem_cons, or_self_left]

theorem agrees_exclude (campaignId : String) :
    Agrees (columnRead opts source key :: excludeReads opts source key campaignId)
      [columnOf source key] [] [] := by
  have own := @agrees_column opts source key
  have repeated := @agrees_noRepeat opts source key campaignId
  have capped := @agrees_cap opts source key
  unfold excludeReads
  cases opts.suppression.perCampaignNoRepeat <;> cases opts.suppression.frequencyCap
  · exact own
  · exact (own.append capped).again
  · exact (own.append (repeated.append agrees_nil)).again
  · exact (own.append (repeated.append capped)).again.again

theorem agrees_feature {name : String} {op : Cmp} (valid : validateFeature name op = .ok ())
    (value : F64) (asOf : Option String) :
    Agrees (featureReads opts source key name value asOf) [columnOf source key] [] [name] := by
  obtain ⟨family, short, split⟩ := validateFeature_ok valid
  cases asOf with
  | some asOf =>
    have columns := @agrees_engineColumns opts.catalog _ store_notRaw
    exact (agrees_engineReads store_notRaw).append ((columns ["feature_name"]).append
      ((@agrees_store opts.catalog name).append
        (columns ["as_of_ts", "user_id", "feature_name", "num_value", "as_of_ts"])))
  | none =>
    have parts : featureParts name = (family, short) := by rw [featureParts, split]
    have wide := wideTable_notRaw family
    have compared := @agrees_wide opts.catalog name family short (splitFeatureName_eq split) value
    simp only [featureReads, parts]
    exact (agrees_engineReads wide).append
      ((@agrees_engineColumns opts.catalog _ wide [foldName short]).append compared)

/-- The conjunct of an operation, next to the key of its level. -/
theorem agrees_op {isRfc3339 : String → Bool} {op : Op} (asOf : Option String)
    (valid : validateOp isRfc3339 op = .ok ()) (narrows : op.narrows = true) :
    Agrees (columnRead opts source key :: opReads opts source key asOf op)
      (columnOf source key :: collectColumns source (prunedOp op)) (opSources op) (opFeatures op) := by
  have own := @agrees_column opts source key
  cases op with
  | filter p =>
    have test := own.append (@agrees_predicate opts source p)
    cases constant : p.isConstant <;>
      simpa [prunedOp, constant, collectColumns, opColumns, opSources, opFeatures, opReads] using test
  | recency event userKey tsColumn withinDays predicate =>
    have test := (own.append (@agrees_window opts source key event userKey tsColumn predicate)).again
    simpa [prunedOp, collectColumns, opColumns, opSources, opFeatures, opReads] using test
  | lapsed event userKey tsColumn withinDays predicate =>
    have window := @agrees_window opts source key event userKey tsColumn predicate
    refine (own.append (window.append window)).congr (fun _ => Iff.rfl) (fun r => ?_) (fun d => ?_)
      (fun _ => Iff.rfl)
    · simp only [prunedOp, collectColumns, opColumns, List.mem_cons, List.mem_append,
        List.not_mem_nil, or_false]
      tauto
    · simp only [opSources, List.mem_cons, List.mem_append, List.not_mem_nil, or_false, false_or,
        or_self]
  | feature name op value =>
    rw [validateOp] at valid
    exact (own.append (agrees_feature valid value asOf)).again
  | exclude campaignId => exact agrees_exclude campaignId
  | _ => contradiction

theorem collectColumns_append (first second : List Op) :
    collectColumns source (first ++ second) =
      collectColumns source first ++ collectColumns source second := by
  induction first with
  | nil => rfl
  | cons op rest ih => rw [List.cons_append, collectColumns, collectColumns, ih, List.append_assoc]

theorem collectFeatures_append (first second : List Op) :
    collectFeatures (first ++ second) = collectFeatures first ++ collectFeatures second := by
  induction first with
  | nil => rfl
  | cons op rest ih => rw [List.cons_append, collectFeatures, collectFeatures, ih, List.append_assoc]

theorem prunedOps_append (first second : List Op) :
    prunedOps (first ++ second) = prunedOps first ++ prunedOps second := by
  induction first with
  | nil => rfl
  | cons op rest ih => rw [List.cons_append, prunedOps, prunedOps, ih, List.append_assoc]

theorem agrees_ops {isRfc3339 : String → Bool} {ops : List Op} (asOf : Option String)
    (valid : ∀ op ∈ ops, validateOp isRfc3339 op = .ok ()) (narrows : ∀ op ∈ ops, op.narrows = true) :
    Agrees (columnRead opts source key :: ops.flatMap (opReads opts source key asOf))
      (columnOf source key :: collectColumns source (prunedOps ops)) (ops.flatMap opSources)
      (collectFeatures ops) := by
  induction ops with
  | nil => exact agrees_column
  | cons op rest ih =>
    obtain ⟨here, later⟩ := List.forall_mem_cons.mp valid
    obtain ⟨first, others⟩ := List.forall_mem_cons.mp narrows
    refine ((@agrees_op opts source key _ _ asOf here first).append (ih later others)).congr (fun read => ?_)
      (fun r => ?_) (fun d => ?_) (fun name => ?_)
    · simp only [List.flatMap_cons, List.mem_cons, List.mem_append]
      tauto
    · simp only [prunedOps, collectColumns_append, List.mem_cons, List.mem_append]
      tauto
    · rw [List.flatMap_cons]
    · rw [collectFeatures]

theorem agrees_level {isRfc3339 : String → Bool} {ops : List Op} (asOf : Option String)
    (narrowing : Narrowing isRfc3339 source key ops) :
    Agrees (levelReads opts source key asOf ops) (referencedColumns (pruned ⟨source, key, ops, asOf⟩))
      (levelSources source ops) (referencedFeatures ⟨source, key, ops, asOf⟩) := by
  have pieces := (@agrees_raw opts source).append
    ((@agrees_tenant opts.catalog (rawName source) opts.tenant).append
      (@agrees_ops opts source key _ _ asOf narrowing.checked narrowing.narrows))
  refine pieces.congr (fun read => ?_) (fun r => ?_) (fun d => Iff.rfl) (fun name => ?_)
  · simp only [levelReads, List.mem_cons, List.mem_append, List.not_mem_nil, or_false]
    tauto
  · rw [pruned, referencedColumns]
    rfl
  · rw [referencedFeatures]
    rfl

theorem agrees_metric {metric : JitMetric} :
    Agrees (metricReads opts metric) (columnOf (metricEvent metric) "user_id" ::
      ((metricColumn metric).map (columnOf (metricEvent metric))).toList) [metricEvent metric] [] := by
  have user : Read.column opts.catalog (rawName (metricEvent metric)) "user_id" =
      columnRead opts (metricEvent metric) "user_id" := rfl
  have column : Agrees ((metricColumn metric).map (columnRead opts (metricEvent metric))).toList
      ((metricColumn metric).map (columnOf (metricEvent metric))).toList [] [] := by
    cases metricColumn metric with
    | none => exact agrees_nil
    | some column => exact agrees_column
  rw [metricReads, user]
  exact agrees_raw.append (agrees_column.append (agrees_tenant.append column))

/-! ### Statements -/

/-- The statement of a query reads what the analyses report of the query without its empty lists. -/
theorem agrees_phrase {isRfc3339 : String → Bool} {q : SegmentQuery} {sources : List Dataset}
    {scope : Scope} (shaped : Shaped isRfc3339 opts q sources) :
    Agrees ((phraseAt opts q).reads scope) (referencedColumns (pruned q)) sources
      (referencedFeatures q) := by
  induction shaped with
  | level narrowing =>
    rw [phraseAt_level narrowing.narrows, Ast.reads, levelPhrase_reads narrowing.narrows]
    exact agrees_level _ narrowing
  | @setOp source key ops asOf kind other sources narrowing branch ih =>
    rw [phraseAt_setOp narrowing.narrows]
    simp only [Ast.reads, levelPhrase_reads narrowing.narrows]
    have this := @agrees_level opts source key _ _ asOf narrowing
    refine ((agrees_required _).append (this.append ih)).congr (fun _ => Iff.rfl) (fun r => ?_) (fun _ => Iff.rfl) (fun name => ?_)
    · simp only [pruned, referencedColumns, prunedOps_append, collectColumns_append, prunedOps,
        prunedOp, collectColumns, opColumns, List.nil_append, List.append_nil, List.cons_append]
    · simp only [referencedFeatures, collectFeatures_append, collectFeatures, opFeatures,
        List.nil_append, List.append_nil]
  | @derive source key ops asOf name metric limit narrowing injected event column =>
    rw [phraseAt_derive narrowing.narrows injected, metricPhrase_reads rfl,
      levelPhrase_reads narrowing.narrows]
    refine ((@agrees_level opts source key _ _ asOf narrowing).append agrees_metric).congr
      (fun _ => Iff.rfl) (fun r => ?_) (fun _ => Iff.rfl) (fun name => ?_)
    · simp only [pruned, referencedColumns, prunedOps_append, collectColumns_append, prunedOps,
        prunedOp, collectColumns, opColumns, List.append_nil, List.cons_append]
    · simp only [referencedFeatures, collectFeatures_append, collectFeatures, opFeatures,
        List.append_nil]

theorem agrees_profile (event : Dataset) (column : String) :
    Agrees (profileReads opts key event column) [columnOf event "user_id", columnOf event column]
      [event] [] := by
  have user : Read.column opts.catalog (rawName event) "user_id" = columnRead opts event "user_id" :=
    rfl
  have required := agrees_required (foldName key == "user_id")
  have pieces := (@agrees_raw opts event).append (required.append
    ((@agrees_column opts event "user_id").append ((@agrees_column opts event "user_id").append
      ((@agrees_column opts event column).append (required.append
        (@agrees_tenant opts.catalog (rawName event) opts.tenant))))))
  rw [profileReads, user]
  exact pieces.again

/-- The statements of a profile read what the analyses report. -/
theorem agrees_characterize {isRfc3339 : String → Bool} {q : SegmentQuery} {narrowing : List Op}
    {event : Dataset} {tsColumn monetaryColumn categoryColumn : String} {scope : Scope}
    (profiled : Profiled isRfc3339 q narrowing event tsColumn monetaryColumn categoryColumn)
    (of : Figure) :
    Agrees ((characterizePhrase opts q event tsColumn monetaryColumn categoryColumn of).reads scope)
      (referencedColumns (pruned (stripLastOp q)) ++
        [columnOf event "user_id", columnOf event (of.column tsColumn monetaryColumn categoryColumn)])
      (levelSources q.source narrowing ++ [event]) (referencedFeatures (stripLastOp q)) := by
  have narrows := profiled.level.narrows
  have listed : (phraseAt opts (stripLastOp q)).columns = [foldName q.key] := by
    rw [profiled.segment, phraseAt_level narrows]
    rfl
  have reads := @profilePhrase_reads opts q.key scope _ listed event tsColumn monetaryColumn
    categoryColumn of
  rw [characterizePhrase, reads, profiled.segment, phraseAt_level narrows]
  simp only [Ast.reads, levelPhrase_reads narrows]
  have whole := (@agrees_level opts q.source q.key isRfc3339 narrowing q.asOf profiled.level).append
    (@agrees_profile opts q.key event (of.column tsColumn monetaryColumn categoryColumn))
  rwa [List.append_nil] at whole

end

/-! ### Statements -/

/-- What is read by the statements that a query is compiled to. -/
def compiledReads (compiled : List CompiledQuery) : Reads :=
  compiled.flatMap fun one =>
    match statement one.sql one.params with
    | some query => query.reads .empty
    | none => []

/-- The analyses agree with the statements a query is compiled to: the columns and the features
with what all of them read, the sources of each with the tables it reads. -/
structure StaticsAgree (compiled : List CompiledQuery) (columns : List ReferencedColumn)
    (features : List String) : Prop where
  parsed : ∀ one ∈ compiled, (statement one.sql one.params).isSome = true
  columns : ∀ table column,
    ReadsColumn (compiledReads compiled) table column ↔ NamesColumn columns table column
  tables : ∀ one ∈ compiled, ∀ table,
    ReadsTable (compiledReads [one]) table ↔ ∃ d ∈ one.sources, rawName d = table
  features : ∀ name,
    ReadsFeature (compiledReads compiled) name ↔ ∃ feature ∈ features, foldName feature = name

section
variable {isRfc3339 : String → Bool} {opts : CompileOptions} {q : SegmentQuery}

theorem compiledReads_single {one : CompiledQuery} {query : Ast Value .query}
    (parsed : statement one.sql one.params = some query) :
    compiledReads [one] = query.reads .empty := by
  rw [compiledReads, List.flatMap_cons, List.flatMap_nil, List.append_nil, parsed]

theorem StaticsAgree.single {one : CompiledQuery} {query : Ast Value .query}
    {columns : List ReferencedColumn} {features : List String}
    (parsed : statement one.sql one.params = some query)
    (agrees : Agrees (query.reads .empty) columns one.sources features) :
    StaticsAgree [one] columns features := by
  have reads := compiledReads_single parsed
  constructor
  · exact List.forall_mem_singleton.mpr (parsed ▸ rfl)
  · rw [reads]
    exact agrees.columns
  · refine List.forall_mem_singleton.mpr ?_
    rw [reads]
    exact agrees.tables
  · rw [reads]
    exact agrees.features

theorem StaticsAgree.congr {compiled : List CompiledQuery} {columns columns' : List ReferencedColumn}
    {features features' : List String} (agrees : StaticsAgree compiled columns features)
    (listed : ∀ r, r ∈ columns' ↔ r ∈ columns)
    (named : ∀ feature, feature ∈ features' ↔ feature ∈ features) :
    StaticsAgree compiled columns' features' where
  parsed := agrees.parsed
  columns table column := by
    simp only [NamesColumn, listed]
    exact agrees.columns table column
  tables := agrees.tables
  features name := by
    simp only [named]
    exact agrees.features name

theorem StaticsAgree.append {first second : List CompiledQuery}
    {columns columns' : List ReferencedColumn} {features features' : List String}
    (here : StaticsAgree first columns features) (there : StaticsAgree second columns' features') :
    StaticsAgree (first ++ second) (columns ++ columns') (features ++ features') where
  parsed := List.forall_mem_append.mpr ⟨here.parsed, there.parsed⟩
  columns table column := by
    rw [compiledReads, List.flatMap_append, readsColumn_append, namesColumn_append,
      ← here.columns, ← there.columns, compiledReads, compiledReads]
  tables := List.forall_mem_append.mpr ⟨here.tables, there.tables⟩
  features name := by
    rw [compiledReads, List.flatMap_append, readsFeature_append]
    simp only [List.mem_append, or_and_right, exists_or]
    rw [← here.features, ← there.features, compiledReads, compiledReads]

end

/-- Orders whose status is one of no values. -/
def statusInNone : SegmentQuery where
  source := ⟨"erp", "orders"⟩
  key := "user_id"
  ops := [.filter ⟨"status", .isIn, .array []⟩]
  asOf := none

end ConsumerEngine.Query
