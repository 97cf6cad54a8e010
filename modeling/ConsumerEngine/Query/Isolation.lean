import ConsumerEngine.Query.Dependence
import ConsumerEngine.Query.FeaturePaths

/-! Tenants apart: a compiled text answers the same on any two states that hold the same rows of its
tenant.

Each operation is traced to the rows of the tenant in the tables that it reads.
-/

set_option autoImplicit false

namespace ConsumerEngine.Query

open ConsumerEngine.Core ConsumerEngine.Sql ConsumerEngine.Storage FeatureBatch

/-! ### Rows of a tenant -/

section
variable {V : Type} [DecidableEq V] (E : Engine V)

/-- The rows of a tenant in a table. -/
def Engine.ownOf (tenant : String) (table : Stored V) : Multiset (String → V) :=
  table.rows.filter fun row => row "tenant_id" = E.text tenant

/-- Two states whose tables have the same columns, and in which the tables that are read hold the
same rows of the tenant. -/
structure SameOwn (opts : CompileOptions) (reads : Reads) (first second : Catalog) : Prop where
  columns : ∀ name, (E.table first name).map Stored.columns = (E.table second name).map Stored.columns
  rows : ∀ name, .table opts.catalog name ∈ reads →
    (E.table first name).map (E.ownOf opts.tenant) = (E.table second name).map (E.ownOf opts.tenant)

variable {E} {opts : CompileOptions} {first second : Catalog} {reads : Reads} {tenant : String}

theorem SameOwn.mono {fewer : Reads} (same : SameOwn E opts reads first second)
    (among : ∀ read ∈ fewer, read ∈ reads) : SameOwn E opts fewer first second :=
  ⟨same.columns, fun name read => same.rows name (among _ read)⟩

/-! ### Raw tables -/

omit [DecidableEq V] in
theorem cells_injective : Function.Injective E.cells := fun _ _ same =>
  funext fun column => E.cell_inj.mp (congrFun same column)

theorem ownOf_raw (table : RawTable) : E.ownOf tenant (E.rawStored table) =
    (table.rows.filter fun row => row.tenant = some tenant).map E.cells := by
  rw [Engine.ownOf, Engine.rawStored, Multiset.filter_map]
  refine congrArg _ (Multiset.filter_congr fun row _ => ?_)
  exact @Engine.cell_inj V E (row "tenant_id") (some tenant)

theorem ownRows_congr {d : Dataset}
    (same : (E.table first (rawName d)).map (E.ownOf tenant) =
      (E.table second (rawName d)).map (E.ownOf tenant)) :
    ownRows first tenant d = ownRows second tenant d := by
  rw [E.table_raw, E.table_raw, Option.map_map, Option.map_map] at same
  rw [ownRows, ownRows, Catalog.rowsOf, Catalog.rowsOf]
  cases mine : first.raw (rawName d) with
  | none =>
    cases other : second.raw (rawName d) with
    | none => rfl
    | some table =>
      rw [mine, other] at same
      cases same
  | some table =>
    cases other : second.raw (rawName d) with
    | none =>
      rw [mine, other] at same
      cases same
    | some table' =>
      rw [mine, other] at same
      have rows : E.ownOf tenant (E.rawStored table) = E.ownOf tenant (E.rawStored table') :=
        Option.some.inj same
      rw [ownOf_raw, ownOf_raw] at rows
      exact Multiset.map_injective cells_injective rows

/-! ### Suppression -/

omit [DecidableEq V] in
theorem Engine.instant_inj {a b : Int} : E.instant a = E.instant b ↔ a = b := by
  refine ⟨fun same => ?_, congrArg _⟩
  have above := E.compare_instant a b
  have below := E.compare_instant b a
  rw [same, E.compare_instant, decide_eq_true le_rfl] at above below
  exact le_antisymm (of_decide_eq_true (Truth.ofBool_eq_yes.mp above.symm))
    (of_decide_eq_true (Truth.ofBool_eq_yes.mp below.symm))

omit [DecidableEq V] in
theorem suppressionRow_injective :
    Function.Injective fun row : StoredSuppression => E.listed (E.suppressionRow row) := by
  intro row other same
  have under (column : String) : E.listed (E.suppressionRow row) column =
      E.listed (E.suppressionRow other) column := congrFun same column
  have id := under "suppression_id"
  have campaign := under "campaign_id"
  have user := under "user_id"
  have channel := under "channel"
  have action := under "action"
  have occurred := under "occurred_ts"
  have received := under "received_ts"
  have owner := under "tenant_id"
  cases row
  cases other
  simp only [Engine.listed, Engine.suppressionRow, List.lookup_cons, String.reduceBEq,
    Option.getD_some] at id campaign user channel action occurred received owner
  rw [StoredSuppression.mk.injEq]
  exact ⟨E.text_inj.mp id, E.text_inj.mp campaign, E.text_inj.mp user, E.text_inj.mp channel,
    E.text_inj.mp action, E.instant_inj.mp occurred, E.instant_inj.mp received, E.cell_inj.mp owner⟩

theorem ownOf_suppression (rows : List StoredSuppression) :
    E.ownOf tenant (E.suppressionStored rows) =
      ((rows : Multiset StoredSuppression).filter fun row => row.tenantId = some tenant).map
        fun row => E.listed (E.suppressionRow row) := by
  rw [Engine.ownOf, Engine.suppressionStored, Multiset.filter_map]
  refine congrArg _ (Multiset.filter_congr fun row _ => ?_)
  rw [Function.comp_apply, (listed_suppression row).2.1]
  exact @Engine.cell_inj V E row.tenantId (some tenant)

theorem contactsOf_congr (same : (E.table first "suppression").map (E.ownOf tenant) =
    (E.table second "suppression").map (E.ownOf tenant)) (user : Cell) :
    contactsOf first tenant user = contactsOf second tenant user := by
  have own (catalog : Catalog) : contactsOf catalog tenant user =
      ((catalog.suppression.getD [] : Multiset StoredSuppression).filter
        fun row => row.tenantId = some tenant).filter fun row => some row.userId = user := by
    rw [contactsOf, Multiset.filter_filter]
  rw [E.table_suppression, E.table_suppression, Option.map_map, Option.map_map] at same
  rw [own, own]
  refine congrArg _ ?_
  cases mine : first.suppression with
  | none =>
    cases other : second.suppression with
    | none => rfl
    | some rows =>
      rw [mine, other] at same
      cases same
  | some rows =>
    cases other : second.suppression with
    | none =>
      rw [mine, other] at same
      cases same
    | some rows' =>
      rw [mine, other] at same
      have held : E.ownOf tenant (E.suppressionStored rows) = E.ownOf tenant (E.suppressionStored rows') :=
        Option.some.inj same
      rw [ownOf_suppression, ownOf_suppression] at held
      exact Multiset.map_injective suppressionRow_injective held

/-! ### Features -/

/-- What one function makes of some items determines what any coarser one makes of them. -/
theorem map_determined {α β γ : Type} {f : α → β} {g : α → γ} {items others : Multiset α}
    (determines : ∀ a b, f a = f b → g a = g b) (same : items.map f = others.map f) :
    items.map g = others.map g := by
  rw [← Multiset.rel_eq, Multiset.rel_map] at same ⊢
  exact same.mono fun a _ b _ => determines a b

/-- A value of a feature as it is read, with its instant. -/
def Engine.shownValue (E : Engine V) (row : StoredFeature) : V × Int :=
  (E.bound (.double row.numValue), row.asOfTs)

theorem ownOf_feature (rows : List StoredFeature) : E.ownOf tenant (E.featureStored rows) =
    ((rows : Multiset StoredFeature).filter fun row => row.tenantId = some tenant).map
      fun row => E.listed (E.featureRow row) := by
  rw [Engine.ownOf, Engine.featureStored, Multiset.filter_map]
  refine congrArg _ (Multiset.filter_congr fun row _ => ?_)
  rw [Function.comp_apply, (listed_feature row).2.1]
  exact @Engine.cell_inj V E row.tenantId (some tenant)

/-- The values of a tenant's features, by user and name, come from the tenant's rows. -/
theorem featuresOf_congr (same : (E.table first "feature_store").map (E.ownOf tenant) =
    (E.table second "feature_store").map (E.ownOf tenant)) (user : Cell) (name : String) :
    (featuresOf first tenant user name).map E.shownValue =
      (featuresOf second tenant user name).map E.shownValue := by
  let keyed (row : StoredFeature) : Cell × String × V × Int :=
    (some row.userId, row.featureName, E.shownValue row)
  have own (catalog : Catalog) : (featuresOf catalog tenant user name).map E.shownValue =
      ((((stored catalog : Multiset StoredFeature).filter fun row => row.tenantId = some tenant).map
        keyed).filter fun shown => shown.1 = user ∧ shown.2.1 = name).map fun shown => shown.2.2 := by
    rw [Multiset.filter_map, Multiset.map_map, Multiset.filter_filter, featuresOf]
    refine congrArg (Multiset.map _) (Multiset.filter_congr fun row _ => ?_)
    simp only [Function.comp_apply, keyed]
    tauto
  have determines (row other : StoredFeature)
      (listed : E.listed (E.featureRow row) = E.listed (E.featureRow other)) : keyed row = keyed other := by
    obtain ⟨user, -, named, value, dated⟩ := @listed_feature _ E row
    obtain ⟨user', -, named', value', dated'⟩ := @listed_feature _ E other
    rw [listed] at user named value dated
    simp only [keyed, Engine.shownValue, Prod.mk.injEq, Option.some.injEq]
    exact ⟨E.text_inj.mp (user.symm.trans user'), E.text_inj.mp (named.symm.trans named'),
      value.symm.trans value', E.instant_inj.mp (dated.symm.trans dated')⟩
  rw [E.table_featureStore, E.table_featureStore, Option.map_map, Option.map_map] at same
  rw [own, own, stored, stored]
  refine congrArg (fun shown => (Multiset.filter _ shown).map _) ?_
  cases mine : first.featureStore with
  | none =>
    cases other : second.featureStore with
    | none => rfl
    | some rows =>
      rw [mine, other] at same
      cases same
  | some rows =>
    cases other : second.featureStore with
    | none =>
      rw [mine, other] at same
      cases same
    | some rows' =>
      rw [mine, other] at same
      have held : E.ownOf tenant (E.featureStored rows) = E.ownOf tenant (E.featureStored rows') :=
        Option.some.inj same
      rw [ownOf_feature, ownOf_feature] at held
      exact map_determined determines held

omit [DecidableEq V] in
theorem newestMeets_congr {rows others : Multiset StoredFeature} {op : Cmp} {value : F64}
    (same : rows.map E.shownValue = others.map E.shownValue) :
    E.newestMeets op value rows = E.newestMeets op value others := by
  have picked (rows : Multiset StoredFeature) :
      some (E.newest (rows.map fun row => (row.numValue, row.asOfTs))) =
        E.aggregate "arg_max" ((rows.map E.shownValue).map fun shown => [shown.1, E.instant shown.2]) := by
    rw [← E.aggregate_newest, Multiset.map_map, Multiset.map_map]
    rfl
  have newest := (picked rows).trans ((congrArg (fun shown => E.aggregate "arg_max"
    (Multiset.map _ shown)) same).trans (picked others).symm)
  rw [newestMeets_eq, newestMeets_eq, Option.some.inj newest]

omit [DecidableEq V] in
theorem boundedMeets_congr {rows others : Multiset StoredFeature} {cutoff : String} {op : Cmp}
    {value : F64} (same : rows.map E.shownValue = others.map E.shownValue) :
    E.boundedMeets cutoff op value rows = E.boundedMeets cutoff op value others := by
  have counted := congrArg Multiset.card same
  rw [Multiset.card_map, Multiset.card_map] at counted
  unfold Engine.boundedMeets
  cases E.castTimestamptz cutoff with
  | none => simp only [counted]
  | some instant =>
    have early (rows : Multiset StoredFeature) :
        (rows.filter fun row => row.asOfTs ≤ instant).map E.shownValue =
          (rows.map E.shownValue).filter fun shown => shown.2 ≤ instant := by
      rw [Multiset.filter_map]
      rfl
    exact newestMeets_congr ((early rows).trans ((congrArg _ same).trans (early others).symm))

/-! ### Wide views -/

theorem ownOf_view (view : String × List String) (rows : List StoredFeature) :
    E.ownOf tenant (E.viewStored view rows) =
      ((viewKeys view.1 rows).filter fun of => of.2 = some tenant).map (E.viewCell view rows) := by
  rw [Engine.ownOf, Engine.viewStored, Multiset.filter_map]
  refine congrArg _ (Multiset.filter_congr fun of _ => ?_)
  rw [Function.comp_apply, viewCell_tenant]
  exact @Engine.cell_inj V E of.2 (some tenant)

/-- A user's row in one view is the user's in another with the same rows of the tenant. -/
theorem viewCell_moved {view other : String × List String} {rows rows' : List StoredFeature}
    (same : E.ownOf tenant (E.viewStored view rows) = E.ownOf tenant (E.viewStored other rows'))
    {owner : String} (inside : (owner, some tenant) ∈ viewKeys view.1 rows) :
    (owner, some tenant) ∈ viewKeys other.1 rows' ∧
      E.viewCell other rows' (owner, some tenant) = E.viewCell view rows (owner, some tenant) := by
  rw [ownOf_view, ownOf_view] at same
  have mine : E.viewCell view rows (owner, some tenant) ∈
      ((viewKeys view.1 rows).filter fun of => of.2 = some tenant).map (E.viewCell view rows) :=
    Multiset.mem_map_of_mem _ (Multiset.mem_filter.mpr ⟨inside, rfl⟩)
  rw [same] at mine
  obtain ⟨⟨user, keeper⟩, among, cells⟩ := Multiset.mem_map.mp mine
  obtain ⟨held, kept⟩ := Multiset.mem_filter.mp among
  have called := congrFun cells "user_id"
  rw [viewCell_user, viewCell_user] at called
  obtain rfl : user = owner := E.text_inj.mp called
  obtain rfl : keeper = some tenant := kept
  exact ⟨held, cells⟩

theorem wideMeets_congr {name : String}
    (same : (E.table first (wideTable (featureParts name).1)).map (E.ownOf tenant) =
      (E.table second (wideTable (featureParts name).1)).map (E.ownOf tenant))
    (op : Cmp) (value : F64) (user : Cell) :
    E.wideMeets first tenant name op value user = E.wideMeets second tenant name op value user := by
  rw [E.table_wide, E.table_wide, Option.map_map, Option.map_map] at same
  unfold Engine.wideMeets
  cases user with
  | none => rfl
  | some owner =>
    cases mine : first.wideView (featureParts name).1 with
    | none =>
      cases other : second.wideView (featureParts name).1 with
      | none => rfl
      | some view =>
        rw [mine, other] at same
        cases same
    | some view =>
      cases other : second.wideView (featureParts name).1 with
      | none =>
        rw [mine, other] at same
        cases same
      | some view' =>
        rw [mine, other] at same
        have rows : E.ownOf tenant (E.viewStored view (stored first)) =
            E.ownOf tenant (E.viewStored view' (stored second)) := Option.some.inj same
        simp only
        by_cases inside : (owner, some tenant) ∈ viewKeys view.1 (stored first)
        · obtain ⟨held, cells⟩ := viewCell_moved rows inside
          rw [if_pos inside, if_pos held, cells]
        · rw [if_neg inside, if_neg fun held => inside (viewCell_moved rows.symm held).1]

/-! ### Queries -/

/-- An operation asks the same of two states that hold the same rows of the tenant. -/
theorem meets_congr {source : Dataset} {key : String} {asOf : Option String} {op : Op}
    (same : SameOwn E opts (opReads opts source key asOf op) first second) (row : RawRow) (user : Cell) :
    (E.population opts first).meets E asOf row user op =
      (E.population opts second).meets E asOf row user op := by
  cases op with
  | recency event userKey tsColumn withinDays predicate
  | lapsed event userKey tsColumn withinDays predicate =>
    have events : ownRows first opts.tenant event = ownRows second opts.tenant event :=
      ownRows_congr (same.rows _ List.mem_cons_self)
    simp only [Population.meets, Engine.population, events]
  | exclude campaignId =>
    simp only [Population.meets, Engine.population]
    by_cases asked : opts.suppression.perCampaignNoRepeat = true ∨
        opts.suppression.frequencyCap.isSome = true
    · have read : Read.table opts.catalog "suppression" ∈
          opReads opts source key asOf (.exclude campaignId) := by
        rw [opReads, excludeReads, List.mem_append]
        rcases asked with repeats | capped
        · exact .inl (by rw [if_pos repeats]; exact List.mem_cons_self)
        · exact .inr (by rw [if_pos capped]; exact List.mem_cons_self)
      rw [contactsOf_congr (same.rows _ read)]
    · obtain ⟨repeats, capped⟩ := not_or.mp asked
      rw [Option.not_isSome_iff_eq_none] at capped
      simp only [Engine.spares, if_neg repeats, capped, Option.map_none]
  | feature name op value =>
    simp only [Population.meets, Engine.population]
    cases asOf with
    | none => exact wideMeets_congr (same.rows _ List.mem_cons_self) op value user
    | some cutoff =>
      exact boundedMeets_congr (featuresOf_congr (same.rows _ List.mem_cons_self) user name)
  | _ => rfl

theorem level_congr {source : Dataset} {key : String} {asOf : Option String} {ops : List Op}
    (same : SameOwn E opts (levelReads opts source key asOf ops) first second) :
    (E.population opts first).level E source key asOf ops =
      (E.population opts second).level E source key asOf ops := by
  have rows : (E.population opts first).rows source = (E.population opts second).rows source :=
    ownRows_congr (same.rows _ List.mem_cons_self)
  have meets (row : RawRow) (user : Cell) : ∀ op ∈ ops, (E.population opts first).meets E asOf row user op =
      (E.population opts second).meets E asOf row user op := by
    intro op member
    have asked : SameOwn E opts (opReads opts source key asOf op) first second := same.mono
      fun read among => List.mem_cons_of_mem _ (List.mem_cons_of_mem _ (List.mem_append_right _
        (List.mem_flatMap.mpr ⟨op, member, among⟩)))
    exact meets_congr asked row user
  unfold Population.level
  rw [rows]
  refine congrArg (Option.map _) (keep_congr fun row _ => congrArg Truth.all ?_)
  exact List.map_congr_left (meets row _)

theorem survivors_congr {isRfc3339 : String → Bool} {q : SegmentQuery} {sources : List Dataset}
    {scope : Scope} (shaped : Shaped isRfc3339 opts q sources)
    (same : SameOwn E opts ((phraseAt opts q).reads scope) first second) :
    (E.population opts first).survivors E q = (E.population opts second).survivors E q := by
  induction shaped with
  | level narrowing =>
    rw [phraseAt_level narrowing.narrows, Ast.reads, levelPhrase_reads narrowing.narrows] at same
    rw [survivors_level narrowing.narrows, survivors_level narrowing.narrows, level_congr same]
  | setOp narrowing branch ih =>
    rw [phraseAt_setOp narrowing.narrows] at same
    simp only [Ast.reads, levelPhrase_reads narrowing.narrows] at same
    have mine := level_congr (same.mono fun read among =>
      List.mem_append_right _ (List.mem_append_left _ among))
    have others := ih (same.mono fun read among =>
      List.mem_append_right _ (List.mem_append_right _ among))
    rw [survivors_setOp narrowing.narrows, survivors_setOp narrowing.narrows, mine, others]
  | derive narrowing injected =>
    rw [phraseAt_derive narrowing.narrows injected, metricPhrase_reads rfl,
      levelPhrase_reads narrowing.narrows] at same
    have mine := level_congr (same.mono fun read among => List.mem_append_left _ among)
    rw [survivors_derive narrowing.narrows, survivors_derive narrowing.narrows, mine]

/-- A compiled text answers the same on any two states that hold the same rows of its tenant in the
tables that it reads, whatever rows other tenants have. -/
theorem execute_isolated {isRfc3339 : String → Bool} {q : SegmentQuery} {compiled : CompiledQuery}
    (valid : validate isRfc3339 q = .ok ()) (compiles : CompilesTo opts q compiled)
    (same : SameOwn E opts (compiledReads [compiled]) first second) :
    execute E.toScalars (E.tables opts.catalog first) compiled.sql compiled.params =
      execute E.toScalars (E.tables opts.catalog second) compiled.sql compiled.params := by
  refine compiles.execute_congr valid (present_congr fun _ _ name _ => same.columns name)
    (fun narrowed sources selects => ?_) fun d read => ownRows_congr (same.rows _ read)
  exact survivors_congr selects.shaped (same.mono selects.reads)

end

/-! ### Orders of another tenant -/

/-- Paid orders. -/
def paidOrders : SegmentQuery where
  source := ⟨"erp", "orders"⟩
  key := "user_id"
  ops := [.filter ⟨"status", .eq, .string "paid"⟩]
  asOf := none

/-- A paid order of some users, each with its tenant. -/
def paidBy (rows : Multiset (String × String)) : RawTable where
  columns := ["user_id", "status", "tenant_id"]
  rows := rows.map fun row =>
    rowOf ["user_id", "status", "tenant_id"] [some row.1, some "paid", some row.2]

def ordersOf (rows : Multiset (String × String)) : Catalog :=
  Catalog.empty.setRaw "raw_erp_orders" (paidBy rows)

theorem table_ordersOf {V : Type} {E : Engine V} (rows : Multiset (String × String)) (name : String) :
    E.table (ordersOf rows) name =
      if name = "raw_erp_orders" then some (E.rawStored (paidBy rows)) else none := by
  by_cases orders : name = "raw_erp_orders"
  · have raw := @Engine.table_raw V E (ordersOf rows) ⟨"erp", "orders"⟩
    have called : rawName ⟨"erp", "orders"⟩ = "raw_erp_orders" := by decide
    rw [called, ordersOf, Catalog.setRaw_self] at raw
    rw [if_pos orders, orders, ordersOf, raw]
    rfl
  · rw [if_neg orders, Engine.table, ordersOf, Catalog.setRaw_of_ne _ _ orders]
    simp only [Catalog.setRaw, Catalog.empty, Option.map_none, List.find?_nil, ite_self]

theorem paidBy_own (rows : Multiset (String × String)) (tenant : String) :
    (paidBy rows).rows.filter (fun row => row.tenant = some tenant) =
      (rows.filter fun row => row.2 = tenant).map fun row =>
        rowOf ["user_id", "status", "tenant_id"] [some row.1, some "paid", some row.2] := by
  rw [paidBy, Multiset.filter_map]
  refine congrArg _ (Multiset.filter_congr fun row _ => ?_)
  have owner : rowOf ["user_id", "status", "tenant_id"] [some row.1, some "paid", some row.2]
      "tenant_id" = some row.2 := by
    simp [rowOf, foldName]
  rw [Function.comp_apply, RawRow.tenant, owner, Option.some_inj]

theorem ordersOf_same {V : Type} [DecidableEq V] {E : Engine V} {opts : CompileOptions} {reads : Reads}
    {rows others : Multiset (String × String)}
    (own : rows.filter (fun row => row.2 = opts.tenant) = others.filter fun row => row.2 = opts.tenant) :
    SameOwn E opts reads (ordersOf rows) (ordersOf others) := by
  constructor
  · intro name
    rw [table_ordersOf, table_ordersOf]
    split <;> rfl
  · intro name _
    rw [table_ordersOf, table_ordersOf]
    split
    · rw [Option.map_some, Option.map_some, ownOf_raw, ownOf_raw, paidBy_own, paidBy_own, own]
    · rfl

/-- An order of another tenant does not show. -/
theorem execute_isolated_paidOrders : ∃ compiled,
    compileWithOpts paidOrders (readOptions "acme") = .ok compiled ∧
      execute (plainEngine 0 fun _ => none).toScalars
          ((plainEngine 0 fun _ => none).tables (readOptions "acme").catalog
            (ordersOf {("u1", "acme")})) compiled.sql compiled.params =
        execute (plainEngine 0 fun _ => none).toScalars
          ((plainEngine 0 fun _ => none).tables (readOptions "acme").catalog
            (ordersOf {("u1", "acme"), ("u9", "globex")})) compiled.sql compiled.params := by
  have valid : validate (fun _ => true) paidOrders = .ok () := rfl
  obtain ⟨compiled, returned⟩ : ∃ compiled,
    compileWithOpts paidOrders (readOptions "acme") = .ok compiled := ⟨_, rfl⟩
  exact ⟨compiled, returned, execute_isolated valid (.plain returned) (ordersOf_same (by decide))⟩

end ConsumerEngine.Query
