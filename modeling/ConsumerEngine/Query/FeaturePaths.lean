import ConsumerEngine.Query.Activity
import ConsumerEngine.Query.Completeness
import ConsumerEngine.Query.FeatureViews
import ConsumerEngine.Query.PlainEngine

/-! The two ways to a feature: the wide view of its family, and the feature store up to a cut-off.

They meet where the column that the view shows under the name is the feature's own.
-/

set_option autoImplicit false

namespace ConsumerEngine.Query

open ConsumerEngine.Core ConsumerEngine.Sql ConsumerEngine.Storage FeatureBatch

/-! ### Values of a feature -/

section
variable {V : Type} {E : Engine V} {catalog : Catalog} {tenant : String} {user : Cell}
  {op : Cmp} {value : F64}

/-- The values of a feature that a user has, with their instants. -/
def valuesOf (catalog : Catalog) (tenant : String) (user : Cell) (name : String) :
    Multiset (F64 × Int) :=
  (featuresOf catalog tenant user name).map fun row => (row.numValue, row.asOfTs)

/-- No value compares as one that is null does. -/
theorem newestMeets_eq (rows : Multiset StoredFeature) :
    E.newestMeets op value rows = (E.compare op.comparison
      (E.newest (rows.map fun row => (row.numValue, row.asOfTs))) (E.bound (.double value))).settled := by
  rw [Engine.newestMeets]
  by_cases empty : rows.card = 0
  · rw [if_pos empty, Multiset.card_eq_zero.mp empty, Multiset.map_zero, E.newest_none,
      (E.compare_null _ _).1]
    rfl
  · rw [if_neg empty]

theorem newestMeets_values (name : String) :
    E.newestMeets op value (featuresOf catalog tenant user name) =
      (E.compare op.comparison (E.newest (valuesOf catalog tenant user name))
        (E.bound (.double value))).settled := newestMeets_eq _

/-- A cut-off that no value of the feature lies behind leaves them all. -/
theorem boundedMeets_eq {cutoff name : String} {instant : Int}
    (read : E.castTimestamptz cutoff = some instant)
    (before : ∀ row ∈ stored catalog, row.featureName = name → row.asOfTs ≤ instant) :
    E.boundedMeets cutoff op value (featuresOf catalog tenant user name) =
      E.newestMeets op value (featuresOf catalog tenant user name) := by
  have all : (featuresOf catalog tenant user name).filter (fun row => row.asOfTs ≤ instant) =
      featuresOf catalog tenant user name := by
    refine Multiset.filter_eq_self.mpr fun row member => ?_
    obtain ⟨held, -, -, named⟩ := Multiset.mem_filter.mp member
    exact before row held named
  rw [Engine.boundedMeets, read]
  simp only [all]

/-! ### Columns of a view -/

/-- The short name whose column is found under a name. -/
def shownShort (catalog : Catalog) (family short : String) : Option String :=
  (shortsIn family (stored catalog)).find? fun other => foldName other = foldName short

theorem latest_eq (name owner : String) :
    latest E.viewCells (stored catalog) tenant owner name =
      E.newest (valuesOf catalog tenant (some owner) name) := by
  rw [latest, newestOf, List.filter_filter, valuesOf, featuresOf, Multiset.filter_coe,
    Multiset.map_coe]
  refine congrArg (fun rows => E.newest (Multiset.ofList (List.map _ rows)))
    (List.filter_congr fun row _ => ?_)
  rw [Bool.eq_iff_iff, Bool.and_eq_true]
  simp only [decide_eq_true_eq, Option.some.injEq]
  tauto

/-- The short name whose column a view shows under a name. -/
def shownIn (view : String × List String) (short : String) : Option String :=
  view.2.find? fun other => foldName other = foldName short

/-- The column found under a short name holds the newest value of the feature that it is of. -/
theorem viewCell_short {view : String × List String} {short shown owner : String}
    (apart : isKeyColumn short = false) (first : shownIn view short = some shown) :
    E.viewCell view (stored catalog) (owner, some tenant) (foldName short) =
      E.newest (valuesOf catalog tenant (some owner) (view.1 ++ "." ++ shown)) := by
  have notKey : ¬ (foldName "user_id" = foldName short ∨ foldName "tenant_id" = foldName short) := by
    rw [← isKeyColumn_iff, apart]
    exact Bool.false_ne_true
  obtain ⟨notUser, notTenant⟩ := not_or.mp notKey
  rw [← latest_eq, ← newestOf_groupOf, Engine.viewCell, cellAt, viewRow, foldName_again,
    List.find?_cons_of_neg (by simpa using notUser),
    List.find?_cons_of_neg (by simpa using notTenant), List.find?_map]
  simp only [Function.comp_def]
  rw [show view.2.find? (fun other => foldName other = foldName short) = some shown from first]
  rfl

/-- A column called like one of the key's is that one. -/
theorem viewCell_key (view : String × List String) (rows : List StoredFeature) (owner tenant : String)
    {short : String} (shadowed : isKeyColumn short = true) :
    ∃ key, E.viewCell view rows (owner, some tenant) (foldName short) = E.text key := by
  have folded : foldName "user_id" = "user_id" ∧ foldName "tenant_id" = "tenant_id" := by decide
  rcases isKeyColumn_iff.mp shadowed with own | theirs
  · rw [← own, folded.1, viewCell_user]
    exact ⟨owner, rfl⟩
  · rw [← theirs, folded.2, viewCell_tenant]
    exact ⟨tenant, rfl⟩

/-- Whoever has a value of a feature has a row in the view of its family. -/
theorem valuesOf_outside {family short owner : String}
    (outside : (owner, some tenant) ∉ viewKeys family (stored catalog)) :
    valuesOf catalog tenant (some owner) (family ++ "." ++ short) = 0 := by
  refine Multiset.map_eq_zero.mpr (Multiset.filter_eq_nil.mpr fun row held meets => outside ?_)
  obtain ⟨own, theirs, named⟩ := meets
  refine Multiset.mem_dedup.mpr (List.mem_map.mpr ⟨row, List.mem_filter.mpr ⟨held, ?_⟩, ?_⟩)
  · have whole : (family ++ "." ++ short).toList = (family ++ ".").toList ++ short.toList :=
      String.toList_append
    rw [named, whole, List.isPrefixOf_iff_prefix]
    exact List.prefix_append _ _
  · rw [Option.some.inj own, theirs]

/-- The view that is found compares the newest value of the feature whose column it shows. -/
theorem wideMeets_found {name family short shown : String} {view : String × List String}
    (split : splitFeatureName name = .ok (family, short)) (found : catalog.wideView family = some view)
    (apart : isKeyColumn short = false) (first : shownIn view short = some shown) :
    E.wideMeets catalog tenant name op value user =
      E.newestMeets op value (featuresOf catalog tenant user (view.1 ++ "." ++ shown)) := by
  have parts : featureParts name = (family, short) := by rw [featureParts, split]
  have nothing : (E.compare op.comparison (E.newest 0) (E.bound (.double value))).settled = .no := by
    rw [E.newest_none, (E.compare_null _ _).1]
    rfl
  unfold Engine.wideMeets
  rw [newestMeets_values, parts, found]
  cases user with
  | none =>
    have none_ : valuesOf catalog tenant none (view.1 ++ "." ++ shown) = 0 :=
      Multiset.map_eq_zero.mpr (Multiset.filter_eq_nil.mpr fun row _ both => (by cases both.1))
    rw [none_, nothing]
  | some owner =>
    by_cases inside : (owner, some tenant) ∈ viewKeys view.1 (stored catalog)
    · simp only [if_pos inside, viewCell_short apart first]
    · simp only [if_neg inside, valuesOf_outside inside, nothing]

theorem wideMeets_eq {name family short shown : String}
    (split : splitFeatureName name = .ok (family, short))
    (drawn : catalog.wideView family = some (family, shortsIn family (stored catalog)))
    (apart : isKeyColumn short = false) (first : shownShort catalog family short = some shown) :
    E.wideMeets catalog tenant name op value user =
      E.newestMeets op value (featuresOf catalog tenant user (family ++ "." ++ shown)) :=
  wideMeets_found split drawn apart first

end

/-! ### The two queries -/

section
variable {V : Type} {E : Engine V} {opts : CompileOptions} {catalog : Catalog} {source : Dataset}
  {key name family short : String} {value : F64}

theorem present_singleton {read : Read Value} :
    Present E opts catalog [read] ↔ read.present (E.tables opts.catalog catalog) = true := by
  rw [Present, List.forall_mem_singleton]

/-- Behind the base rows, nothing is missing in a view that has the column. -/
theorem featureReads_wide (split : splitFeatureName name = .ok (family, short))
    (drawn : catalog.wideView family = some (family, shortsIn family (stored catalog)))
    (among : short ∈ shortsIn family (stored catalog)) :
    Present E opts catalog (featureReads opts source key name value none) ↔
      Present E opts catalog [columnRead opts source key] := by
  have parts : featureParts name = (family, short) := by rw [featureParts, split]
  have there : E.tables opts.catalog catalog opts.catalog (wideTable family) =
      some (E.viewStored (family, shortsIn family (stored catalog)) (stored catalog)) := by
    rw [Engine.tables, if_pos rfl, E.table_wide, drawn]
    rfl
  have shown : foldName short ∈ (shortsIn family (stored catalog)).map foldName :=
    List.mem_map_of_mem among
  rw [present_singleton]
  simp [Present, featureReads, parts, engineReads, tenantReads, Read.present, there,
    Engine.viewStored, shown]

theorem featureReads_bounded {cutoff : String} (there : catalog.featureStore.isSome = true) :
    Present E opts catalog (featureReads opts source key name value (some cutoff)) ↔
      Present E opts catalog [columnRead opts source key] := by
  obtain ⟨rows, held⟩ := Option.isSome_iff_exists.mp there
  have found : E.tables opts.catalog catalog opts.catalog "feature_store" =
      some (E.featureStored rows) := by
    rw [Engine.tables, if_pos rfl, E.table_featureStore, held]
    rfl
  rw [present_singleton]
  simp [Present, featureReads, engineReads, tenantReads, Read.present, found, Engine.featureStored]

end

/-- A query for the users with a feature. -/
def featureQuery (source : Dataset) (key name : String) (op : Cmp) (value : F64)
    (asOf : Option String) : SegmentQuery := ⟨source, key, [.feature name op value], asOf⟩

/-- The features of a catalogue beside other raw tables. -/
def withBase (catalog : Catalog) (raw : String → Option RawTable) : Catalog :=
  { catalog with raw }

/-- A condition on the feature selects the same users from any base by either way, whatever engine
is attached, under every cut-off that no value of the feature lies behind. -/
def PathsAgree (catalog : Catalog) (name : String) : Prop :=
  ∀ (V : Type) [DecidableEq V] (E : Engine V) (isRfc3339 : String → Bool) (opts : CompileOptions)
    (raw : String → Option RawTable) (source : Dataset) (key : String) (op : Cmp) (value : F64)
    (cutoff : String) (instant : Int) (latest bounded : CompiledQuery),
    E.castTimestamptz cutoff = some instant →
    (∀ row ∈ stored catalog, row.featureName = name → row.asOfTs ≤ instant) →
    validate isRfc3339 (featureQuery source key name op value none) = .ok () →
    validate isRfc3339 (featureQuery source key name op value (some cutoff)) = .ok () →
    compileWithOpts (featureQuery source key name op value none) opts = .ok latest →
    compileWithOpts (featureQuery source key name op value (some cutoff)) opts = .ok bounded →
    Sql.execute E.toScalars (E.tables opts.catalog (withBase catalog raw)) latest.sql latest.params =
      Sql.execute E.toScalars (E.tables opts.catalog (withBase catalog raw)) bounded.sql
        bounded.params

section
variable {V : Type} [DecidableEq V] {E : Engine V} {opts : CompileOptions} {catalog : Catalog}
  {source : Dataset} {key name family short : String} {op : Cmp} {value : F64}

omit [DecidableEq V] in
/-- A query for a feature that is there resolves where its base does. -/
theorem featureQuery_isScoped {asOf : Option String}
    (reads : Present E opts catalog (featureReads opts source key name value asOf) ↔
      Present E opts catalog [columnRead opts source key]) :
    isScoped (E.tables opts.catalog catalog)
        (phraseAt opts (featureQuery source key name op value asOf)) = true ↔
      isScoped (E.tables opts.catalog catalog) (phraseAt opts ⟨source, key, [], none⟩) = true := by
  have narrows : ∀ op_ ∈ [Op.feature name op value], op_.narrows = true := by simp [Op.narrows]
  rw [isScoped_iff, isScoped_iff, featureQuery, phraseAt_level narrows,
    phraseAt_level (List.forall_mem_nil _), Ast.reads, Ast.reads, levelPhrase_reads narrows,
    levelPhrase_reads (List.forall_mem_nil _), levelReads, levelReads, List.flatMap_singleton,
    List.flatMap_nil, List.append_nil, ← List.cons_append, ← List.cons_append, present_append,
    opReads, reads]
  refine and_iff_left_of_imp fun base => present_singleton.mpr (base _ ?_)
  exact List.mem_cons_of_mem _ List.mem_cons_self

/-- What a query for a feature answers. -/
theorem execute_feature {isRfc3339 : String → Bool} {asOf : Option String} {compiled : CompiledQuery}
    (valid : validate isRfc3339 (featureQuery source key name op value asOf) = .ok ())
    (returned : compileWithOpts (featureQuery source key name op value asOf) opts = .ok compiled)
    (reads : Present E opts catalog (featureReads opts source key name value asOf) ↔
      Present E opts catalog [columnRead opts source key]) :
    Sql.execute E.toScalars (E.tables opts.catalog catalog) compiled.sql compiled.params =
      if isScoped (E.tables opts.catalog catalog) (phraseAt opts ⟨source, key, [], none⟩) then
        ((E.population opts catalog).level E source key asOf [.feature name op value]).map
          (E.keyTable (foldName key))
      else none := by
  have narrows : ∀ op_ ∈ [Op.feature name op value], op_.narrows = true := by simp [Op.narrows]
  rw [execute_rows valid returned (hasDerive_narrowing narrows), featureQuery,
    survivors_level narrows]
  exact if_congr (featureQuery_isScoped reads) rfl rfl

/-- The column found under the name of a feature is one of a feature, with the same values for
everyone. -/
def Legible (catalog : Catalog) (family short : String) : Prop :=
  isKeyColumn short = false ∧ ∀ shown, shownShort catalog family short = some shown →
    ∀ tenant user, valuesOf catalog tenant user (family ++ "." ++ shown) =
      valuesOf catalog tenant user (family ++ "." ++ short)

theorem shownShort_isSome {catalog : Catalog} {family short : String}
    (among : short ∈ shortsIn family (stored catalog)) :
    ∃ shown, shownShort catalog family short = some shown :=
  Option.isSome_iff_exists.mp (List.find?_isSome.mpr ⟨short, among, decide_eq_true rfl⟩)

omit [DecidableEq V] in
/-- Where the column is legible, the view compares the newest value of the feature. -/
theorem Legible.wideMeets {tenant : String} {user : Cell} (legible : Legible catalog family short)
    (split : splitFeatureName name = .ok (family, short))
    (drawn : catalog.wideView family = some (family, shortsIn family (stored catalog)))
    (among : short ∈ shortsIn family (stored catalog)) :
    E.wideMeets catalog tenant name op value user =
      E.newestMeets op value (featuresOf catalog tenant user name) := by
  obtain ⟨shown, first⟩ := shownShort_isSome among
  rw [wideMeets_eq split drawn legible.1 first, newestMeets_values, newestMeets_values,
    legible.2 shown first, splitFeatureName_eq split]

/-- Where the column is legible, both ways lead to the same users. -/
theorem Legible.agree (legible : Legible catalog family short)
    (split : splitFeatureName name = .ok (family, short))
    (drawn : catalog.wideView family = some (family, shortsIn family (stored catalog)))
    (among : short ∈ shortsIn family (stored catalog))
    (there : catalog.featureStore.isSome = true) : PathsAgree catalog name := by
  intro V _ E isRfc3339 opts raw source key op value cutoff instant latest bounded read before valid
    valid' returned returned'
  have wide : Present E opts (withBase catalog raw) (featureReads opts source key name value none) ↔
      Present E opts (withBase catalog raw) [columnRead opts source key] :=
    featureReads_wide split drawn among
  have dated : Present E opts (withBase catalog raw)
      (featureReads opts source key name value (some cutoff)) ↔
        Present E opts (withBase catalog raw) [columnRead opts source key] :=
    featureReads_bounded there
  rw [execute_feature valid returned wide, execute_feature valid' returned' dated]
  refine ite_congr rfl (fun _ => congrArg _ ?_) fun _ => rfl
  refine congrArg _ (keep_congr fun row _ => congrArg (Truth.both · .yes) ?_)
  have shown := @Legible.wideMeets _ E catalog name family short op value opts.tenant
    (row (foldName key)) legible split drawn among
  exact shown.trans (boundedMeets_eq read before).symm

end

/-! ### One user -/

section
variable {V : Type} {E : Engine V} {catalog : Catalog} {name family short owner tenant : String}

/-- One row of a user, as a base. -/
def baseOf (owner tenant : String) : String → Option RawTable :=
  (Catalog.empty.setRaw "raw_erp_orders" ⟨["user_id", "tenant_id"],
    {rowOf ["user_id", "tenant_id"] [some owner, some tenant]}⟩).raw

theorem ownRows_baseOf : ownRows (withBase catalog (baseOf owner tenant)) tenant ⟨"erp", "orders"⟩ =
    {rowOf ["user_id", "tenant_id"] [some owner, some tenant]} := by
  have table : rawName ⟨"erp", "orders"⟩ = "raw_erp_orders" := by decide
  have names : foldName "user_id" ≠ "tenant_id" ∧ foldName "tenant_id" = "tenant_id" := by decide
  have own : (rowOf ["user_id", "tenant_id"] [some owner, some tenant]).tenant = some tenant := by
    simp [RawRow.tenant, rowOf, names]
  simp only [ownRows, table, withBase, Catalog.rowsOf, baseOf, Catalog.setRaw_self]
  exact (Multiset.filter_singleton _).trans (if_pos own)

/-- Over one row, its user is selected exactly if the operation is met. -/
theorem level_single {population : Population} {source : Dataset} {key : String}
    {asOf : Option String} {row : RawRow} {op : Op} (only : population.rows source = {row}) :
    (∃ users, population.level E source key asOf [op] = some users ∧ row (foldName key) ∈ users) ↔
      population.meets E asOf row (row (foldName key)) op = .yes := by
  have meets : Truth.all ([op].map (population.meets E asOf row (row (foldName key)))) =
      population.meets E asOf row (row (foldName key)) op := Truth.both_yes _
  constructor
  · rintro ⟨users, selected, member⟩
    obtain ⟨other, among, same, yes⟩ := (mem_level selected).2 _ |>.mp member
    rw [only, Multiset.mem_singleton] at among
    rw [among] at yes
    exact meets.symm.trans yes
  · intro yes
    refine ⟨_, congrArg _ (keep_eq_some.mpr ⟨fun other among => ?_, rfl⟩), ?_⟩
    · rw [only, Multiset.mem_singleton] at among
      rw [among, meets, yes]
      exact Truth.noConfusion
    · rw [only, Multiset.mem_toFinset, Multiset.filter_singleton, if_pos (meets.trans yes)]
      exact Multiset.mem_singleton_self _

/-- The users with an order and a feature that has the value. -/
def equalTo (name : String) (value : F64) (asOf : Option String) : SegmentQuery :=
  featureQuery ⟨"erp", "orders"⟩ "user_id" name .eq value asOf

theorem equalTo_checked {value : F64} (split : splitFeatureName name = .ok (family, short)) :
    validateOp (fun _ => true) (.feature name .eq value) = .ok () := by
  rw [validateOp, validateFeature, split]
  rfl

theorem equalTo_valid {value : F64} {asOf : Option String}
    (split : splitFeatureName name = .ok (family, short)) :
    validate (fun _ => true) (equalTo name value asOf) = .ok () := by
  rw [equalTo, featureQuery, validate, validateOps, equalTo_checked split]
  cases asOf <;> rfl

theorem equalTo_compiles {value : F64} {asOf : Option String}
    (split : splitFeatureName name = .ok (family, short)) :
    ∃ compiled, compileWithOpts (equalTo name value asOf) (readOptions tenant) = .ok compiled := by
  have narrows : ∀ op ∈ [Op.feature name .eq value], op.narrows = true := by simp [Op.narrows]
  have checked : ∀ op ∈ [Op.feature name .eq value], validateOp (fun _ => true) op = .ok () :=
    List.forall_mem_singleton.mpr (equalTo_checked split)
  exact (compileNarrowing_ok narrows checked).mpr (List.forall_mem_singleton.mpr trivial)

theorem base_isScoped : isScoped
    (E.tables (readOptions tenant).catalog (withBase catalog (baseOf owner tenant)))
      (phraseAt (readOptions tenant) ⟨⟨"erp", "orders"⟩, "user_id", [], none⟩) = true := by
  have table : rawName ⟨"erp", "orders"⟩ = "raw_erp_orders" := by decide
  have key : foldName "user_id" = "user_id" := by decide
  have there : E.tables (readOptions tenant).catalog (withBase catalog (baseOf owner tenant))
      (readOptions tenant).catalog (rawName ⟨"erp", "orders"⟩) =
        some (E.rawStored ⟨["user_id", "tenant_id"],
          {rowOf ["user_id", "tenant_id"] [some owner, some tenant]}⟩) := by
    rw [Engine.tables, if_pos rfl, E.table_raw, table, withBase, baseOf, Catalog.setRaw_self]
    rfl
  rw [isScoped_iff, phraseAt_level (List.forall_mem_nil _), Ast.reads,
    levelPhrase_reads (List.forall_mem_nil _)]
  simp [Present, levelReads, rawRead, columnRead, tenantReads, Read.present, there, key,
    Engine.rawStored]

/-- The user with an order is selected exactly if the condition holds. -/
theorem equalTo_selects [DecidableEq V] {value : F64} {asOf : Option String} {compiled : CompiledQuery}
    (split : splitFeatureName name = .ok (family, short))
    (returned : compileWithOpts (equalTo name value asOf) (readOptions tenant) = .ok compiled)
    (reads : Present E (readOptions tenant) (withBase catalog (baseOf owner tenant))
      (featureReads (readOptions tenant) ⟨"erp", "orders"⟩ "user_id" name value asOf) ↔
        Present E (readOptions tenant) (withBase catalog (baseOf owner tenant))
          [columnRead (readOptions tenant) ⟨"erp", "orders"⟩ "user_id"]) :
    (∃ table, Sql.execute E.toScalars (E.tables (readOptions tenant).catalog
        (withBase catalog (baseOf owner tenant))) compiled.sql compiled.params = some table ∧
          [E.cell (some owner)] ∈ table.rows) ↔
      (E.population (readOptions tenant) catalog).featured asOf name .eq value (some owner) = .yes := by
  have single := @level_single V E (E.population (readOptions tenant)
    (withBase catalog (baseOf owner tenant))) ⟨"erp", "orders"⟩ "user_id" asOf _
      (.feature name .eq value) (@ownRows_baseOf catalog owner tenant)
  have owned : rowOf ["user_id", "tenant_id"] [some owner, some tenant] (foldName "user_id") =
      some owner := by
    simp [rowOf]
  rw [owned] at single
  refine Iff.trans ?_ single
  rw [execute_feature (equalTo_valid split) returned reads, if_pos base_isScoped]
  constructor
  · rintro ⟨table, ran, member⟩
    obtain ⟨users, selected, rfl⟩ := Option.map_eq_some_iff.mp ran
    exact ⟨users, selected, key_mem_keys.mp member⟩
  · rintro ⟨users, selected, member⟩
    exact ⟨_, Option.map_eq_some_iff.mpr ⟨users, selected, rfl⟩, key_mem_keys.mpr member⟩

/-- Where both ways lead to the same users, they do so for each. -/
theorem PathsAgree.meets [DecidableEq V] (agree : PathsAgree catalog name)
    (split : splitFeatureName name = .ok (family, short))
    (drawn : catalog.wideView family = some (family, shortsIn family (stored catalog)))
    (among : short ∈ shortsIn family (stored catalog))
    (there : catalog.featureStore.isSome = true) {cutoff : String} {instant : Int}
    (read : E.castTimestamptz cutoff = some instant)
    (before : ∀ row ∈ stored catalog, row.featureName = name → row.asOfTs ≤ instant) (value : F64) :
    E.wideMeets catalog tenant name .eq value (some owner) = .yes ↔
      E.newestMeets .eq value (featuresOf catalog tenant (some owner) name) = .yes := by
  obtain ⟨latest, returned⟩ := @equalTo_compiles name family short tenant value none split
  obtain ⟨bounded, returned'⟩ := @equalTo_compiles name family short tenant value (some cutoff) split
  have same := agree V E (fun _ => true) (readOptions tenant) (baseOf owner tenant) _ _ _ value cutoff
    instant latest bounded read before (equalTo_valid split) (equalTo_valid split) returned returned'
  have wide := @equalTo_selects V E catalog name family short owner tenant _ value none latest split
    returned (featureReads_wide split drawn among)
  have dated := @equalTo_selects V E catalog name family short owner tenant _ value (some cutoff)
    bounded split returned' (featureReads_bounded there)
  rw [same] at wide
  rw [← boundedMeets_eq read before]
  exact wide.symm.trans dated

end

/-! ### Where they meet -/

/-- The plain engine with another `arg_max`. -/
noncomputable def pickingEngine (pick : Multiset (F64 × Int) → Option F64) (empty : pick 0 = none)
    (read : String → Option Int) : Engine Datum :=
  { plainEngine 0 read with
    aggregate := fun function rows =>
      if function = "arg_max" then some ((pick (rows.filterMap Datum.dated)).elim .null .number)
      else Datum.aggregate function rows
    newest := fun rows => (pick rows).elim .null .number
    newest_none := by rw [empty]; rfl
    aggregate_count := (plainEngine 0 read).aggregate_count
    aggregate_newest := fun rows => by
      rw [if_pos rfl]
      refine congrArg (fun rows => some ((pick rows).elim Datum.null Datum.number)) ?_
      rw [Multiset.filterMap_map]
      exact Multiset.filterMap_some rows }

section
variable {catalog : Catalog} {name family short : String}

theorem picking_meets {pick : Multiset (F64 × Int) → Option F64} {empty : pick 0 = none}
    {read : String → Option Int} {tenant owner : String} {value : F64} {name : String} :
    (pickingEngine pick empty read).newestMeets .eq value
        (featuresOf catalog tenant (some owner) name) = .yes ↔
      pick (valuesOf catalog tenant (some owner) name) = some value := by
  rw [newestMeets_values]
  change (Datum.compare .eq ((pick (valuesOf catalog tenant (some owner) name)).elim .null .number)
    (.number value)).settled = .yes ↔ _
  cases pick (valuesOf catalog tenant (some owner) name) with
  | none => simp [Datum.compare, Truth.settled]
  | some other =>
    by_cases same : other = value <;> simp [Datum.compare, Datum.ordered, Truth.settled, same,
      Truth.ofBool]

/-- An instant that no row is behind. -/
theorem late_exists (rows : List StoredFeature) : ∃ instant, ∀ row ∈ rows, row.asOfTs ≤ instant := by
  induction rows with
  | nil => exact ⟨0, List.forall_mem_nil _⟩
  | cons row rest ih =>
    obtain ⟨instant, late⟩ := ih
    refine ⟨max row.asOfTs instant, List.forall_mem_cons.mpr ⟨le_max_left _ _, fun other among => ?_⟩⟩
    exact (late other among).trans (le_max_right _ _)

theorem text_ne_half (s : String) :
    (Datum.compare .eq (.text s) (.number (1 / 2))).settled ≠ .yes := by
  have whole (n : Int) : ((n : F64) = 1 / 2) = False := by
    refine eq_false fun same => ?_
    have twice : ((2 * n : Int) : F64) = (1 : Int) := by
      rw [Int.cast_mul, same, Int.cast_ofNat, mul_one_div_cancel two_ne_zero, Int.cast_one]
    have integral := Int.cast_injective twice
    omega
  rw [Datum.compare]
  cases s.toInt? with
  | none => exact Truth.noConfusion
  | some n =>
    simp only [Datum.ordered, whole]
    exact Truth.noConfusion

/-- A feature that a tenant has, as its catalogue check finds it. -/
theorem registered_row {tenant : String} (registered : featureRegistered catalog name tenant = .ok true) :
    catalog.featureStore.isSome = true ∧
      ∃ row ∈ stored catalog, row.featureName = name ∧ row.tenantId = some tenant := by
  unfold featureRegistered tableRows at registered
  cases present : catalog.featureStore with
  | none =>
    rw [present] at registered
    cases registered
  | some rows =>
    rw [present] at registered
    have found : rows.any (fun row => row.featureName == name && row.tenantId == some tenant) = true :=
      Except.ok.inj registered
    obtain ⟨row, member, fits⟩ := List.any_eq_true.mp found
    rw [Bool.and_eq_true, beq_iff_eq, beq_iff_eq] at fits
    exact ⟨rfl, row, by rw [stored, present]; exact member, fits⟩

/-- A number for some rows, and none for no row. -/
def picks (number : Multiset (F64 × Int) → F64) (rows : Multiset (F64 × Int)) : Option F64 :=
  if rows = 0 then none else some (number rows)

/-- An engine that picks so, in which every cut-off is the instant. -/
noncomputable def picker (number : Multiset (F64 × Int) → F64) (instant : Int) : Engine Datum :=
  pickingEngine (picks number) (if_pos rfl) fun _ => some instant

theorem picker_meets {number : Multiset (F64 × Int) → F64} {instant : Int} {tenant owner : String}
    {value : F64} {name : String} :
    (picker number instant).newestMeets .eq value (featuresOf catalog tenant (some owner) name) = .yes ↔
      picks number (valuesOf catalog tenant (some owner) name) = some value := picking_meets

/-- A column of the key does not compare as a half. -/
theorem shadowed_unmet {number : Multiset (F64 × Int) → F64} {instant : Int} {tenant owner : String}
    {view : String × List String} (split : splitFeatureName name = .ok (family, short))
    (found : catalog.wideView family = some view) (shadowed : isKeyColumn short = true) :
    (picker number instant).wideMeets catalog tenant name .eq (1 / 2) (some owner) ≠ .yes := by
  have parts : featureParts name = (family, short) := by rw [featureParts, split]
  intro shown
  unfold Engine.wideMeets at shown
  rw [parts, found] at shown
  simp only at shown
  split at shown
  · obtain ⟨key, hidden⟩ := viewCell_key (E := picker number instant) view (stored catalog) owner
      tenant shadowed
    rw [hidden] at shown
    exact text_ne_half key shown
  · cases shown

/-- A column of the key under the name of a feature is no value of it. -/
theorem PathsAgree.apart (agree : PathsAgree catalog name)
    (split : splitFeatureName name = .ok (family, short))
    (drawn : catalog.wideView family = some (family, shortsIn family (stored catalog)))
    (among : short ∈ shortsIn family (stored catalog)) {tenant : String}
    (registered : featureRegistered catalog name tenant = .ok true) : isKeyColumn short = false := by
  obtain ⟨there, row, held, named, owned⟩ := registered_row registered
  obtain ⟨instant, late⟩ := late_exists (stored catalog)
  refine Bool.eq_false_iff.mpr fun shadowed => ?_
  have same := @PathsAgree.meets _ (picker (fun _ => 1 / 2) instant) _ _ _ _ row.userId tenant _
    agree split drawn among there "" instant rfl (fun other among _ => late other among) (1 / 2)
  have valued : valuesOf catalog tenant (some row.userId) name ≠ 0 := by
    intro empty
    have none_ := Multiset.map_eq_zero.mp empty
    have member : row ∈ featuresOf catalog tenant (some row.userId) name :=
      Multiset.mem_filter.mpr ⟨held, rfl, owned, named⟩
    rw [none_] at member
    exact Multiset.notMem_zero _ member
  have newest : (picker (fun _ => 1 / 2) instant).newestMeets .eq (1 / 2)
      (featuresOf catalog tenant (some row.userId) name) = .yes :=
    picker_meets.mpr (if_neg valued)
  exact shadowed_unmet split drawn shadowed (same.mpr newest)

/-- The column shown holds the values of the feature, or an engine tells them apart. -/
theorem PathsAgree.values (agree : PathsAgree catalog name)
    (split : splitFeatureName name = .ok (family, short))
    (drawn : catalog.wideView family = some (family, shortsIn family (stored catalog)))
    (among : short ∈ shortsIn family (stored catalog))
    (there : catalog.featureStore.isSome = true) (apart : isKeyColumn short = false) {shown : String}
    (first : shownShort catalog family short = some shown) (tenant : String) (user : Cell) :
    valuesOf catalog tenant user (family ++ "." ++ shown) = valuesOf catalog tenant user name := by
  obtain ⟨instant, late⟩ := late_exists (stored catalog)
  cases user with
  | none =>
    have none_ (name : String) : valuesOf catalog tenant none name = 0 :=
      Multiset.map_eq_zero.mpr (Multiset.filter_eq_nil.mpr fun row _ both => (by cases both.1))
    rw [none_, none_]
  | some owner =>
    by_contra differ
    -- The engine picks 1 from the values of the feature and 2 from any others.
    let number (rows : Multiset (F64 × Int)) : F64 :=
      if rows = valuesOf catalog tenant (some owner) name then 1 else 2
    have same (value : F64) :
        picks number (valuesOf catalog tenant (some owner) (family ++ "." ++ shown)) = some value ↔
          picks number (valuesOf catalog tenant (some owner) name) = some value := by
      have meets := @PathsAgree.meets _ (picker number instant) _ _ _ _ owner tenant _ agree split
        drawn among there "" instant rfl (fun other among _ => late other among) value
      rw [wideMeets_eq split drawn apart first] at meets
      exact picker_meets.symm.trans (meets.trans picker_meets)
    have others : number (valuesOf catalog tenant (some owner) (family ++ "." ++ shown)) = 2 :=
      if_neg differ
    by_cases empty : valuesOf catalog tenant (some owner) name = 0
    · have filled : valuesOf catalog tenant (some owner) (family ++ "." ++ shown) ≠ 0 :=
        fun none_ => differ (none_.trans empty.symm)
      have two := (same 2).mp ((if_neg filled).trans (congrArg some others))
      rw [empty, picks, if_pos rfl] at two
      cases two
    · have own : number (valuesOf catalog tenant (some owner) name) = 1 := if_pos rfl
      have one := (same 1).mpr ((if_neg empty).trans (congrArg some own))
      rw [picks, others] at one
      split at one
      · cases one
      · exact absurd (Option.some.inj one) (by decide)

end

/-- The two ways to a registered feature whose view is up to date agree exactly where its column is
legible. -/
theorem feature_paths_agree_iff {catalog : Catalog} {name family short tenant : String}
    (split : splitFeatureName name = .ok (family, short))
    (drawn : catalog.wideView family = some (family, shortsIn family (stored catalog)))
    (registered : featureRegistered catalog name tenant = .ok true) :
    PathsAgree catalog name ↔ Legible catalog family short := by
  obtain ⟨there, row, held, named, -⟩ := registered_row registered
  have among : short ∈ shortsIn family (stored catalog) :=
    mem_shortsIn.mpr ⟨row, held, (shortOf_eq_some (splitFeatureName_ident split).1
      (named ▸ split)).mpr (named ▸ split)⟩
  constructor
  · intro agree
    have apart := agree.apart split drawn among registered
    refine ⟨apart, fun shown first tenant user => ?_⟩
    rw [← splitFeatureName_eq split]
    exact agree.values split drawn among there apart first tenant user
  · intro legible
    exact legible.agree split drawn among there

/-- One value of a feature, with its view. -/
def storedOnce (family short : String) : Catalog :=
  { Catalog.empty with
    featureStore := some [⟨"u1", family ++ "." ++ short, 9 / 10, 0, "cadence_sql", some "acme"⟩]
    featureViews := [(family, [short])] }

theorem feature_paths_agree_iff_regularity :
    PathsAgree (storedOnce "cadence" "regularity") "cadence.regularity" ↔
      Legible (storedOnce "cadence" "regularity") "cadence" "regularity" :=
  feature_paths_agree_iff (by decide)
    (show (storedOnce "cadence" "regularity").wideView "cadence" = some ("cadence", ["regularity"]) from
      by decide)
    (show featureRegistered (storedOnce "cadence" "regularity") "cadence.regularity" "acme" = .ok true
      from rfl)

/-- The view shows the user under the name of the feature. -/
theorem user_id_paths_differ :
    ¬ ∀ (catalog : Catalog) (name family short tenant : String),
      splitFeatureName name = .ok (family, short) →
      catalog.wideView family = some (family, shortsIn family (stored catalog)) →
      featureRegistered catalog name tenant = .ok true → PathsAgree catalog name := by
  intro agree
  have split : splitFeatureName "profile.user_id" = .ok ("profile", "user_id") := by decide
  have drawn : (storedOnce "profile" "user_id").wideView "profile" =
      some ("profile", shortsIn "profile" (stored (storedOnce "profile" "user_id"))) := by decide
  have registered : featureRegistered (storedOnce "profile" "user_id") "profile.user_id" "acme" =
      .ok true := rfl
  have apart := (agree _ _ _ _ _ split drawn registered).apart split drawn (by decide) registered
  exact absurd apart (by decide)

end ConsumerEngine.Query
