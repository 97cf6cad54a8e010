import ConsumerEngine.Query.Probes

/-! The data of a tenant as compiled queries read it, operation by operation.

Each condition of a level comes to one over the rows of the tenant and the user alone.
-/

set_option autoImplicit false

namespace ConsumerEngine.Query

open ConsumerEngine.Core ConsumerEngine.Sql ConsumerEngine.Storage FeatureBatch

/-! ### The data of a tenant -/

section
variable (catalog : Catalog) (tenant : String)

def ownRows (d : Dataset) : Multiset RawRow :=
  (catalog.rowsOf (rawName d)).filter fun row => row.tenant = some tenant

/-- What was sent to a user, and what came of it. -/
def contactsOf (user : Cell) : Multiset StoredSuppression :=
  (catalog.suppression.getD [] : Multiset StoredSuppression).filter fun row =>
    some row.userId = user ∧ row.tenantId = some tenant

def featuresOf (user : Cell) (name : String) : Multiset StoredFeature :=
  (stored catalog : Multiset StoredFeature).filter fun row =>
    some row.userId = user ∧ row.tenantId = some tenant ∧ row.featureName = name

/-- Whether no contact of the campaign reached the user. -/
def notRepeated (contacts : Multiset StoredSuppression) (campaignId : String) : Truth :=
  .ofBool (decide (∀ row ∈ contacts,
    ¬ (row.campaignId = campaignId ∧ row.action ∈ ["targeted", "delivered"])))

end

section
variable {V : Type} (E : Engine V)

/-- Whether fewer contacts than the cap fall into its window. -/
def Engine.belowCap (contacts : Multiset StoredSuppression) (cap : FrequencyCap) : Truth :=
  let start := (E.daysAgo cap.windowDays).bind (E.cast "timestamptz")
  match keep (fun row => compared E.toScalars .ge (some (E.instant row.occurredTs)) start)
      (contacts.filter fun row => row.action = "targeted") with
  | none => .failed
  | some kept =>
      (if kept.card = 0 then Truth.no
        else (E.compare .ge (E.bigint kept.card) (E.bound (.bigInt cap.maxContacts))).settled).negate

/-- Whether an `Exclude` spares a user. -/
def Engine.spares (suppression : SuppressionRules) (contacts : Multiset StoredSuppression)
    (campaignId : String) : Truth :=
  Truth.all ((if suppression.perCampaignNoRepeat then [notRepeated contacts campaignId] else []) ++
    (suppression.frequencyCap.map (E.belowCap contacts)).toList)

/-- Whether the newest of some values compares as asked. -/
def Engine.newestMeets (op : Cmp) (value : F64) (rows : Multiset StoredFeature) : Truth :=
  if rows.card = 0 then .no
  else (E.compare op.comparison (E.newest (rows.map fun row => (row.numValue, row.asOfTs)))
    (E.bound (.double value))).settled

/-- A feature up to a cut-off, as `feature_store` has it. -/
def Engine.boundedMeets (cutoff : String) (op : Cmp) (value : F64) (rows : Multiset StoredFeature) :
    Truth :=
  match E.castTimestamptz cutoff with
  | none => if rows.card = 0 then .no else .failed
  | some instant => E.newestMeets op value (rows.filter fun row => row.asOfTs ≤ instant)

/-- A feature, as the wide view of its family has it. -/
def Engine.wideMeets (catalog : Catalog) (tenant name : String) (op : Cmp) (value : F64) (user : Cell) :
    Truth :=
  match user, catalog.wideView (featureParts name).1 with
  | some user, some view =>
      if (user, some tenant) ∈ viewKeys view.1 (stored catalog) then
        (E.compare op.comparison
          (E.viewCell view (stored catalog) (user, some tenant) (foldName (featureParts name).2))
          (E.bound (.double value))).settled
      else .no
  | _, _ => .no

/-- The data of the tenant, as its compiled queries see it. -/
def Engine.population (opts : CompileOptions) (catalog : Catalog) : Population where
  rows := ownRows catalog opts.tenant
  spares campaignId user := E.spares opts.suppression (contactsOf catalog opts.tenant user) campaignId
  featured asOf name op value user :=
    match asOf with
    | some cutoff => E.boundedMeets cutoff op value (featuresOf catalog opts.tenant user name)
    | none => E.wideMeets catalog opts.tenant name op value user

end

/-! ### Events -/

section
variable {V : Type} [DecidableEq V] {E : Engine V} {opts : CompileOptions} {catalog : Catalog}
  {env : Env V} {row : RawRow} {key : String}

/-- A base row in scope, over the tables of a catalogue. -/
structure Stands (E : Engine V) (opts : CompileOptions) (catalog : Catalog) (env : Env V)
    (row : RawRow) : Prop where
  tables : env.tables = E.tables opts.catalog catalog
  shows : Shows E env "base" row

omit [DecidableEq V] in
theorem tables_raw {d : Dataset} (present : (catalog.raw (rawName d)).isSome = true) :
    ∃ columns, E.tables opts.catalog catalog opts.catalog (rawName d) =
      some ⟨columns, (catalog.rowsOf (rawName d)).map E.cells⟩ := by
  obtain ⟨table, found⟩ := Option.isSome_iff_exists.mp present
  refine ⟨table.columns, ?_⟩
  rw [Engine.tables, if_pos rfl, E.table_raw, Catalog.rowsOf, found]
  rfl

theorem windowProbe_found (stands : Stands E opts catalog env row) {event : Dataset}
    (present : (catalog.raw (rawName event)).isSome = true) (userKey tsColumn : String)
    (comparison : Comparison) (days : Nat) (predicate : Option Predicate) :
    found (((windowProbe event userKey key tsColumn comparison days predicate opts.catalogAlias
        opts.tenant).eval E.toScalars env).map Table.rows) =
      E.happened (ownRows catalog opts.tenant event) userKey tsColumn comparison days predicate
        (row (foldName key)) := by
  obtain ⟨columns, stored⟩ := @tables_raw _ E opts catalog event present
  have probes : Probes E env (rawAliased event opts.catalogAlias "e") columns
      (catalog.rowsOf (rawName event)) E.cells (foldName userKey) key
      (fun event => event (foldName userKey)) RawRow.tenant (row (foldName key)) :=
    ⟨by rw [stands.tables]; exact stored, fun _ _ => rfl, fun _ _ => rfl, stands.shows _,
      show ("e" : String) ≠ "base" by decide⟩
  have others (event' : RawRow) :
      probed E env (rawAliased event opts.catalogAlias "e") columns E.cells
          ((predicate.map (predicateTest "e")).toList ++ [withinTest tsColumn comparison days])
          event' =
        Truth.all ((predicate.map (E.predicate · event')).toList ++
          [E.within tsColumn comparison days event']) := by
    have shows : Shows E (rowEnv env (rawAliased event opts.catalogAlias "e") columns
        (E.cells event')) "e" event' := fun name => rowEnv_self _
    rw [probed, List.map_append, List.map_cons, List.map_nil, withinTest_eval shows]
    cases predicate with
    | none => rfl
    | some p =>
      simp only [Option.map_some, Option.toList_some, List.map_cons, List.map_nil,
        predicateTest_eval shows]
  have whole := probes.found opts.tenant ((predicate.map (predicateTest "e")).toList ++
    [withinTest tsColumn comparison days])
  refine whole.trans ?_
  rw [keep_congr fun row _ => others row, Engine.happened, ownRows, Multiset.filter_filter]
  rfl

/-! ### Suppression -/

omit [DecidableEq V] in
theorem tables_suppression (present : catalog.suppression.isSome = true) :
    ∃ columns, E.tables opts.catalog catalog opts.catalog "suppression" =
      some ⟨columns, (catalog.suppression.getD [] : Multiset StoredSuppression).map fun row =>
        E.listed (E.suppressionRow row)⟩ := by
  obtain ⟨rows, found⟩ := Option.isSome_iff_exists.mp present
  refine ⟨(E.suppressionStored rows).columns, ?_⟩
  rw [Engine.tables, if_pos rfl, E.table_suppression, found]
  rfl

omit [DecidableEq V] in
theorem listed_suppression (row : StoredSuppression) :
    E.listed (E.suppressionRow row) "user_id" = E.text row.userId ∧
      E.listed (E.suppressionRow row) "tenant_id" = E.cell row.tenantId ∧
      E.listed (E.suppressionRow row) "campaign_id" = E.text row.campaignId ∧
      E.listed (E.suppressionRow row) "action" = E.text row.action ∧
      E.listed (E.suppressionRow row) "occurred_ts" = E.instant row.occurredTs := by
  simp [Engine.listed, Engine.suppressionRow, List.lookup_cons]

omit [DecidableEq V] in
theorem suppression_probes (stands : Stands E opts catalog env row)
    (present : catalog.suppression.isSome = true) :
    ∃ columns, Probes E env (suppressionAliased opts.catalogAlias) columns
      (catalog.suppression.getD [] : Multiset StoredSuppression)
      (fun row => E.listed (E.suppressionRow row)) "user_id" key (fun row => some row.userId)
      StoredSuppression.tenantId (row (foldName key)) := by
  obtain ⟨columns, stored⟩ := @tables_suppression _ E opts catalog present
  exact ⟨columns, by rw [stands.tables]; exact stored,
    fun row _ => (listed_suppression row).1, fun row _ => (listed_suppression row).2.1,
    stands.shows _, show ("s" : String) ≠ "base" by decide⟩

theorem ownedBy_contacts (user : Cell) :
    ownedBy (fun row : StoredSuppression => some row.userId) StoredSuppression.tenantId user
      opts.tenant (catalog.suppression.getD [] : Multiset StoredSuppression) =
        contactsOf catalog opts.tenant user := by
  refine Multiset.filter_congr fun row _ => and_congr_left' ?_
  rw [joins_eq_true]
  exact ⟨fun ⟨_, same, other⟩ => same.trans other.symm, fun same => ⟨row.userId, rfl, same.symm⟩⟩

theorem noRepeatTest_eval (stands : Stands E opts catalog env row)
    (present : catalog.suppression.isSome = true) (campaignId : String) :
    (noRepeatTest campaignId key opts).eval E.toScalars env =
      notRepeated (contactsOf catalog opts.tenant (row (foldName key))) campaignId := by
  obtain ⟨columns, probes⟩ := @suppression_probes _ E opts catalog env row key stands present
  have others (sent : StoredSuppression) :
      probed E env (suppressionAliased opts.catalogAlias) columns
          (fun row => E.listed (E.suppressionRow row))
          [.compare .eq (columnTerm "s" "campaign_id") (boundTerm (.text campaignId)),
            .isIn false (columnTerm "s" "action")
              (listOf (quotedTerm "targeted") [quotedTerm "delivered"])] sent =
        .ofBool (decide (sent.campaignId = campaignId ∧ sent.action ∈ ["targeted", "delivered"])) := by
    have self (name : String) : (rowEnv env (suppressionAliased opts.catalogAlias) columns
        (E.listed (E.suppressionRow sent))).column E.null "s" name =
          E.listed (E.suppressionRow sent) name := rowEnv_self _
    obtain ⟨-, -, campaign, action, -⟩ := listed_suppression (E := E) sent
    simp only [probed, List.map_cons, List.map_nil, Ast.eval, columnTerm_eval, boundTerm_eval,
      compared, self, campaign, action, E.bound_text, E.compare_text, listOf, quotedTerm]
    simp only [Option.bind_eq_bind, Option.bind_some, Option.map_some, Option.pure_def,
      Bool.false_eq_true, ↓reduceIte, List.map_cons, List.map_nil, E.compare_text, Truth.any_cons,
      Truth.any_nil, Truth.either_no, Truth.either_ofBool, Truth.all_cons, Truth.all_nil,
      Truth.both_yes, Truth.both_ofBool, List.mem_cons, List.not_mem_nil, or_false,
      Bool.decide_and, Bool.decide_or]
  have whole := probes.found opts.tenant
    [.compare .eq (columnTerm "s" "campaign_id") (boundTerm (.text campaignId)),
      .isIn false (columnTerm "s" "action")
        (listOf (quotedTerm "targeted") [quotedTerm "delivered"])]
  rw [ownedBy_contacts, keep_congr fun row _ => others row, found_keep_ofBool] at whole
  rw [noRepeatTest, Ast.eval]
  simp only [↓reduceIte]
  refine (congrArg Truth.negate whole).trans ?_
  rw [Truth.negate_ofBool, Bool.not_not, notRepeated]

omit [DecidableEq V] in
theorem contactsOf_user {user : Cell} {sent : StoredSuppression}
    (member : sent ∈ contactsOf catalog opts.tenant user) : E.text sent.userId = E.cell user := by
  rw [← (Multiset.mem_filter.mp member).2.1]
  rfl

theorem aggregate_eval {function : String} (sums : isAggregate function = true)
    (args : Ast Value .args) :
    (callTerm function args).eval E.toScalars env =
      aggregated E.toScalars function args.isDistinct (args.eval E.toScalars) env env.group := by
  simp only [callTerm, Ast.eval, sums, ↓reduceIte, Option.bind_eq_bind, Option.bind_fun_some]

theorem count_eval (group : Multiset (Frame V)) (frame : Frame V) :
    (callTerm "count" .star).eval E.toScalars (env.enterGroup frame group) =
      some (E.bigint group.card) := by
  have sums : isAggregate "count" = true := by decide
  have rows : ∀ row ∈ group.map (fun _ => ([] : List V)), row = [] := fun row member =>
    (Multiset.mem_map.mp member).elim fun _ same => same.2.symm
  have counted := E.aggregate_count _ rows
  rw [Multiset.card_map] at counted
  rw [aggregate_eval sums, aggregated]
  simp only [Ast.eval, mapAll_some, Ast.isDistinct, Bool.false_eq_true, ↓reduceIte,
    Option.bind_eq_bind, Option.bind_some]
  exact counted

theorem capTest_eval (stands : Stands E opts catalog env row)
    (present : catalog.suppression.isSome = true) (cap : FrequencyCap) :
    (capTest cap key opts).eval E.toScalars env =
      E.belowCap (contactsOf catalog opts.tenant (row (foldName key))) cap := by
  obtain ⟨columns, probes⟩ := @suppression_probes _ E opts catalog env row key stands present
  let start := (E.daysAgo cap.windowDays).bind (E.cast "timestamptz")
  let tests : List Test := [.compare .eq (columnTerm "s" "action") (quotedTerm "targeted"),
    .compare .ge (columnTerm "s" "occurred_ts") (castTerm (daysAgo cap.windowDays) "timestamptz")]
  have self (sent : StoredSuppression) (name : String) :
      (rowEnv env (suppressionAliased opts.catalogAlias) columns
        (E.listed (E.suppressionRow sent))).column E.null "s" name =
          E.listed (E.suppressionRow sent) name := rowEnv_self _
  have others (sent : StoredSuppression) :
      probed E env (suppressionAliased opts.catalogAlias) columns
          (fun row => E.listed (E.suppressionRow row)) tests sent =
        (Truth.ofBool (decide (sent.action = "targeted"))).both
          (compared E.toScalars .ge (some (E.instant sent.occurredTs)) start) := by
    obtain ⟨-, -, -, action, occurred⟩ := listed_suppression (E := E) sent
    simp only [tests, probed, List.map_cons, List.map_nil, Truth.all_cons, Truth.all_nil,
      Truth.both_yes, castTerm, Ast.eval, columnTerm_eval, daysAgo_eval, self, action, occurred,
      quotedTerm, compared, E.compare_text, Option.bind_eq_bind, Option.bind_fun_some]
    rfl
  have keyed : ∀ sent ∈ ownedBy (fun row : StoredSuppression => some row.userId)
      StoredSuppression.tenantId (row (foldName key)) opts.tenant
        (catalog.suppression.getD [] : Multiset StoredSuppression),
      probed E env (suppressionAliased opts.catalogAlias) columns
          (fun row => E.listed (E.suppressionRow row)) tests sent = .yes →
        [(⟨some "s", "user_id"⟩ : ColumnRef)].map ((rowEnv env (suppressionAliased opts.catalogAlias)
          columns (E.listed (E.suppressionRow sent))).ref E.null) =
          [E.cell (row (foldName key))] := by
    intro sent member _
    rw [ownedBy_contacts] at member
    rw [List.map_cons, List.map_nil]
    exact congrArg ([·]) ((self sent "user_id").trans
      ((listed_suppression sent).1.trans (contactsOf_user member)))
  have whole := probes.found_grouped opts.tenant tests (List.cons_ne_nil _ _) keyed
    (.clause .HAVING (.only (.compare .ge (callTerm "count" .star)
      (boundTerm (.bigInt cap.maxContacts)))))
  rw [ownedBy_contacts, keep_congr fun row _ => others row,
    keep_both fun row _ => Truth.ofBool_ne_failed _] at whole
  simp only [Truth.ofBool_eq_yes, decide_eq_true_eq] at whole
  rw [capTest, Ast.eval]
  simp only [↓reduceIte]
  refine (congrArg Truth.negate whole).trans ?_
  rw [Engine.belowCap]
  cases keep (fun row : StoredSuppression =>
      compared E.toScalars .ge (some (E.instant row.occurredTs)) start)
      ((contactsOf catalog opts.tenant (row (foldName key))).filter
        fun row => row.action = "targeted") with
  | none => rfl
  | some kept =>
    simp only [Ast.eval, count_eval, boundTerm_eval, compared, Multiset.card_map]

theorem excludeTests_eval (stands : Stands E opts catalog env row) (campaignId : String)
    (present : opts.suppression.perCampaignNoRepeat = true ∨
      opts.suppression.frequencyCap.isSome = true → catalog.suppression.isSome = true) :
    Truth.all ((excludeTests campaignId key opts).map fun test => test.eval E.toScalars env) =
      E.spares opts.suppression (contactsOf catalog opts.tenant (row (foldName key))) campaignId := by
  have repeats : (if opts.suppression.perCampaignNoRepeat then [noRepeatTest campaignId key opts]
        else []).map (fun test => test.eval E.toScalars env) =
      if opts.suppression.perCampaignNoRepeat
        then [notRepeated (contactsOf catalog opts.tenant (row (foldName key))) campaignId] else [] := by
    by_cases on : opts.suppression.perCampaignNoRepeat = true
    · simp only [if_pos on, List.map_cons, List.map_nil,
        noRepeatTest_eval stands (present (.inl on))]
    · simp only [if_neg on, List.map_nil]
  have caps : (opts.suppression.frequencyCap.map fun cap => capTest cap key opts).toList.map
        (fun test => test.eval E.toScalars env) =
      (opts.suppression.frequencyCap.map
        (E.belowCap (contactsOf catalog opts.tenant (row (foldName key))))).toList := by
    cases found : opts.suppression.frequencyCap with
    | none => rfl
    | some cap =>
      simp only [Option.map_some, Option.toList_some, List.map_cons, List.map_nil,
        capTest_eval stands (present (.inr (by rw [found]; rfl)))]
  have filled (tests : List Test) :
      Truth.all ((if tests.isEmpty then [constantTest true] else tests).map
        fun test => test.eval E.toScalars env) =
          Truth.all (tests.map fun test => test.eval E.toScalars env) := by
    cases tests with
    | nil =>
      have holds := @constantTest_eval _ _ E env true
      simp only [List.isEmpty_nil, ↓reduceIte, List.map_cons, List.map_nil, holds]
      rfl
    | cons first rest => rfl
  rw [Engine.spares, ← repeats, ← caps, ← List.map_append]
  exact filled _

/-! ### Features -/

omit [DecidableEq V] in
theorem tables_features (present : catalog.featureStore.isSome = true) :
    ∃ columns, E.tables opts.catalog catalog opts.catalog "feature_store" =
      some ⟨columns, (stored catalog : Multiset StoredFeature).map fun row =>
        E.listed (E.featureRow row)⟩ := by
  obtain ⟨rows, found⟩ := Option.isSome_iff_exists.mp present
  refine ⟨(E.featureStored rows).columns, ?_⟩
  rw [Engine.tables, if_pos rfl, E.table_featureStore, stored, found]
  rfl

omit [DecidableEq V] in
theorem listed_feature (row : StoredFeature) :
    E.listed (E.featureRow row) "user_id" = E.text row.userId ∧
      E.listed (E.featureRow row) "tenant_id" = E.cell row.tenantId ∧
      E.listed (E.featureRow row) "feature_name" = E.text row.featureName ∧
      E.listed (E.featureRow row) "num_value" = E.bound (.double row.numValue) ∧
      E.listed (E.featureRow row) "as_of_ts" = E.instant row.asOfTs := by
  simp [Engine.listed, Engine.featureRow, List.lookup_cons]

theorem ownedBy_features (user : Cell) (name : String) :
    (ownedBy (fun row : StoredFeature => some row.userId) StoredFeature.tenantId user opts.tenant
      (stored catalog : Multiset StoredFeature)).filter (fun row => row.featureName = name) =
        featuresOf catalog opts.tenant user name := by
  rw [ownedBy, Multiset.filter_filter]
  refine Multiset.filter_congr fun row _ => ?_
  rw [joins_eq_true, and_comm, and_assoc]
  refine and_congr_left' ?_
  constructor
  · rintro ⟨_, same, other⟩
    exact same.trans other.symm
  · intro same
    exact ⟨row.userId, rfl, same.symm⟩

/-- The newest value of the rows of a group compares as asked. -/
theorem newest_eval {env : Env V} {source : Aliased} {columns : List String} {frame : Frame V}
    (named : source.alias_ = "f") (kept : Multiset StoredFeature) (op : Cmp) (value : F64) :
    (Ast.clause .HAVING (.only (.compare op.comparison
        (callTerm "arg_max" (.given (listOf (columnTerm "f" "num_value")
          [columnTerm "f" "as_of_ts"])))
        (boundTerm (.double value))))).eval E.toScalars (env.enterGroup frame
          (kept.map (rowFrame source columns fun row => E.listed (E.featureRow row)))) =
      E.compare op.comparison (E.newest (kept.map fun row => (row.numValue, row.asOfTs)))
        (E.bound (.double value)) := by
  have sums : isAggregate "arg_max" = true := by decide
  have self (row : StoredFeature) (name : String) (env : Env V) :
      (env.member (rowFrame source columns (fun row => E.listed (E.featureRow row)) row)).column
        E.null "f" name = E.listed (E.featureRow row) name := by
    simp [Env.column, Env.member, Stored.frame, named]
  have args (row : StoredFeature) (env : Env V) :
      (Ast.given (listOf (columnTerm "f" "num_value") [columnTerm "f" "as_of_ts"])).eval E.toScalars
        (env.member (rowFrame source columns (fun row => E.listed (E.featureRow row)) row)) =
          some [E.bound (.double row.numValue), E.instant row.asOfTs] := by
    obtain ⟨-, -, -, number, instant⟩ := listed_feature (E := E) row
    simp only [Ast.eval, listOf, columnTerm_eval, self, number, instant]
    rfl
  have newest := E.aggregate_newest (kept.map fun row => (row.numValue, row.asOfTs))
  rw [Multiset.map_map] at newest
  have term : (callTerm "arg_max" (.given (listOf (columnTerm "f" "num_value")
      [columnTerm "f" "as_of_ts"]))).eval E.toScalars (env.enterGroup frame
        (kept.map (rowFrame source columns fun row => E.listed (E.featureRow row)))) =
      some (E.newest (kept.map fun row => (row.numValue, row.asOfTs))) := by
    rw [aggregate_eval sums, aggregated]
    simp only [Env.enterGroup, mapAll_map]
    rw [mapAll_congr fun row _ => args row _, mapAll_some]
    exact newest
  simp only [Ast.eval, term, boundTerm_eval, compared]

theorem boundedTest_eval (stands : Stands E opts catalog env row)
    (present : catalog.featureStore.isSome = true) (name : String) (op : Cmp) (value : F64)
    (cutoff : String) :
    (featureTest name op value key opts.catalogAlias opts.tenant (some cutoff)).eval E.toScalars env =
      E.boundedMeets cutoff op value (featuresOf catalog opts.tenant (row (foldName key)) name) := by
  obtain ⟨columns, there⟩ := @tables_features _ E opts catalog present
  let source : Aliased := ⟨foldName opts.catalogAlias, "feature_store", "f"⟩
  let cells (row : StoredFeature) : String → V := E.listed (E.featureRow row)
  let tests : List Test := [.compare .eq (columnTerm "f" "feature_name") (boundTerm (.text name)),
    .compare .le (columnTerm "f" "as_of_ts") (castTerm (boundTerm (.text cutoff)) "timestamptz")]
  have probes : Probes E env source columns (stored catalog : Multiset StoredFeature) cells "user_id"
      key (fun row => some row.userId) StoredFeature.tenantId (row (foldName key)) :=
    ⟨by rw [stands.tables]; exact there, fun row _ => (listed_feature row).1,
      fun row _ => (listed_feature row).2.1, stands.shows _, show ("f" : String) ≠ "base" by decide⟩
  have self (feature : StoredFeature) (name : String) :
      (rowEnv env source columns (cells feature)).column E.null "f" name = cells feature name :=
    rowEnv_self _
  have others (feature : StoredFeature) : probed E env source columns cells tests feature =
      (Truth.ofBool (decide (feature.featureName = name))).both
        (match E.castTimestamptz cutoff with
          | none => .failed
          | some instant => .ofBool (decide (feature.asOfTs ≤ instant))) := by
    obtain ⟨-, -, named, -, dated⟩ := listed_feature (E := E) feature
    simp only [tests, probed, List.map_cons, List.map_nil, Truth.all_cons, Truth.all_nil,
      Truth.both_yes, castTerm, Ast.eval, columnTerm_eval, boundTerm_eval, self, cells, named, dated,
      E.bound_text, E.compare_text, E.cast_timestamptz, compared, Option.bind_eq_bind,
      Option.bind_some, Option.bind_fun_some]
    cases E.castTimestamptz cutoff with
    | none => rfl
    | some instant =>
      simp only [Option.map_some]
      rw [E.compare_instant]
  have keyed : ∀ feature ∈ ownedBy (fun row : StoredFeature => some row.userId)
      StoredFeature.tenantId (row (foldName key)) opts.tenant (stored catalog),
      probed E env source columns cells tests feature = .yes →
        [(⟨some "f", "user_id"⟩ : ColumnRef), ⟨some "f", "feature_name"⟩].map
          ((rowEnv env source columns (cells feature)).ref E.null) =
            [E.cell (row (foldName key)), E.text name] := by
    intro feature member met
    rw [others, Truth.both_eq_yes, Truth.ofBool_eq_yes, decide_eq_true_eq] at met
    obtain ⟨user, own⟩ := joins_eq_true.mp (Multiset.mem_filter.mp member).2.1
    obtain ⟨users, -, named, -, -⟩ := listed_feature (E := E) feature
    simp only [List.map_cons, List.map_nil, Env.ref, self, cells, users, named, met.1]
    rw [own.2, ← own.1]
    rfl
  have whole := probes.found_grouped opts.tenant tests (List.cons_ne_nil _ _) keyed
    (.clause .HAVING (.only (.compare op.comparison
      (callTerm "arg_max" (.given (listOf (columnTerm "f" "num_value") [columnTerm "f" "as_of_ts"])))
      (boundTerm (.double value)))))
  rw [keep_congr fun row _ => others row, keep_both fun row _ => Truth.ofBool_ne_failed _] at whole
  simp only [Truth.ofBool_eq_yes, decide_eq_true_eq, ownedBy_features] at whole
  rw [featureTest, Ast.eval]
  simp only [Bool.false_eq_true, ↓reduceIte]
  refine whole.trans ?_
  rw [Engine.boundedMeets]
  cases E.castTimestamptz cutoff with
  | none =>
    simp only [keep_failed]
    by_cases empty : (featuresOf catalog opts.tenant (row (foldName key)) name).card = 0
    · simp only [if_pos empty, Multiset.card_zero, ↓reduceIte]
    · simp only [if_neg empty]
  | some instant =>
    simp only [keep_ofBool, Engine.newestMeets]
    exact ite_congr rfl (fun _ => rfl) fun _ => congrArg Truth.settled (newest_eval rfl _ op value)

/-! ### Wide views -/

omit [DecidableEq V] in
theorem viewCell_user (view : String × List String) (rows : List StoredFeature)
    (of : String × Option String) : E.viewCell view rows of "user_id" = E.text of.1 := by
  rw [Engine.viewCell, cellAt, viewRow, List.find?_cons_of_pos (by simp)]
  rfl

omit [DecidableEq V] in
theorem viewCell_tenant (view : String × List String) (rows : List StoredFeature)
    (of : String × Option String) : E.viewCell view rows of "tenant_id" = E.cell of.2 := by
  have apart : foldName "user_id" ≠ foldName "tenant_id" := by decide
  rw [Engine.viewCell, cellAt, viewRow, List.find?_cons_of_neg (by simpa using apart),
    List.find?_cons_of_pos (by simp)]
  rfl

/-- A view has one row of a user and a tenant, if any. -/
theorem ownedBy_view (view : String × List String) (rows : List StoredFeature) (user : Cell)
    (tenant : String) :
    ownedBy (fun of : String × Option String => some of.1) Prod.snd user tenant
        (viewKeys view.1 rows) =
      match user with
      | some user => if (user, some tenant) ∈ viewKeys view.1 rows then {(user, some tenant)} else 0
      | none => 0 := by
  have unique : (viewKeys view.1 rows).Nodup := Multiset.nodup_dedup _
  cases user with
  | none =>
    refine Multiset.filter_eq_nil.mpr fun of _ both => ?_
    obtain ⟨_, _, absent⟩ := joins_eq_true.mp both.1
    cases absent
  | some user =>
    have same (of : String × Option String) :
        (joins (some of.1) (some user) = true ∧ of.2 = some tenant) ↔ of = (user, some tenant) := by
      rw [Prod.ext_iff, joins, decide_eq_true_eq]
    rw [ownedBy, Multiset.filter_congr fun of _ => same of, Multiset.filter_eq']
    by_cases member : (user, some tenant) ∈ viewKeys view.1 rows
    · rw [Multiset.count_eq_one_of_mem unique member]
      simp only [if_pos member]
      exact Multiset.replicate_one _
    · rw [Multiset.count_eq_zero_of_notMem member]
      simp only [if_neg member]
      exact Multiset.replicate_zero _

theorem wideTest_eval (stands : Stands E opts catalog env row) (name : String) (op : Cmp) (value : F64)
    (present : (catalog.wideView (featureParts name).1).isSome = true) :
    (featureTest name op value key opts.catalogAlias opts.tenant none).eval E.toScalars env =
      E.wideMeets catalog opts.tenant name op value (row (foldName key)) := by
  obtain ⟨view, found⟩ := Option.isSome_iff_exists.mp present
  let source : Aliased := ⟨foldName opts.catalogAlias, wideTable (featureParts name).1, "f"⟩
  let cells := E.viewCell view (stored catalog)
  let columns := (E.viewStored view (stored catalog)).columns
  let tests : List Test := [.compare op.comparison (columnTerm "f" (foldName (featureParts name).2))
    (boundTerm (.double value))]
  have there : env.tables source.catalog source.table =
      some ⟨columns, (viewKeys view.1 (stored catalog)).map cells⟩ := by
    rw [stands.tables]
    exact (if_pos rfl).trans (by rw [E.table_wide, found]; rfl)
  have probes : Probes E env source columns (viewKeys view.1 (stored catalog)) cells "user_id" key
      (fun of => some of.1) Prod.snd (row (foldName key)) :=
    ⟨there, fun of _ => viewCell_user view _ of, fun of _ => viewCell_tenant view _ of,
      stands.shows _, show ("f" : String) ≠ "base" by decide⟩
  have others (of : String × Option String) : probed E env source columns cells tests of =
      E.compare op.comparison (cells of (foldName (featureParts name).2)) (E.bound (.double value)) := by
    have self : (rowEnv env source columns (cells of)).column E.null "f"
        (foldName (featureParts name).2) = cells of (foldName (featureParts name).2) := rowEnv_self _
    simp only [tests, probed, List.map_cons, List.map_nil, Truth.all_cons, Truth.all_nil,
      Truth.both_yes, Ast.eval, columnTerm_eval, boundTerm_eval, self, compared]
  have whole := probes.found opts.tenant tests
  rw [keep_congr fun of _ => others of, ownedBy_view] at whole
  rw [featureTest, Ast.eval]
  simp only [Bool.false_eq_true, ↓reduceIte]
  refine whole.trans ?_
  unfold Engine.wideMeets
  rw [found]
  cases row (foldName key) with
  | none => rfl
  | some user =>
    by_cases member : (user, some opts.tenant) ∈ viewKeys view.1 (stored catalog)
    · simp only [if_pos member, found_keep_singleton]
      rfl
    · simp only [if_neg member]
      rfl

end

end ConsumerEngine.Query
