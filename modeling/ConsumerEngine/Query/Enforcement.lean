import Mathlib.Data.Prod.Lex
import Mathlib.Data.String.Lemmas
import Mathlib.Data.List.Perm.Basic
import ConsumerEngine.Core.Freshness
import ConsumerEngine.Query.References
import ConsumerEngine.Storage.Features

/-! `enforce_catalogue`: a segment may only reference catalogued columns and registered features. -/

set_option autoImplicit false

namespace ConsumerEngine.Query

open ConsumerEngine.Core ConsumerEngine.Foundation ConsumerEngine.Storage

/-- `GuardrailConfig`, as far as the engine decides by it. -/
structure GuardrailConfig where
  syncRowCap : Nat
  maxOutputRows : Nat
  jSurvivorCap : Nat
  enforceCatalogue : Bool

/-- The warning that a table's catalogue is older than its latest ingest. -/
structure StaleCatalogue where
  system : String
  entity : String
  catalogueEpoch : Int
  sourceEpoch : Int
  deriving DecidableEq

/-- A check that logs. -/
abbrev Check (α : Type) : Type := Effect (List StaleCatalogue) QueryError α

/-- The rows of an engine table; a read of a table that does not exist fails. -/
def tableRows {α : Type} (stored : Option (List α)) : Except QueryError (List α) :=
  match presentIf stored with
  | .ok rows => .ok rows
  | .error message => .error (.execution (.execution message))

def describes (system entity : String) (stored : StoredCatalogRow) : Bool :=
  stored.row.system == system && stored.row.tableName == entity

/-- `SELECT DISTINCT column_name … WHERE system = ? AND table_name = ?`. -/
def cataloguedColumns (catalog : Catalog) (system entity : String) :
    Except QueryError (List String) := do
  let rows ← tableRows catalog.semanticCatalog
  return (rows.filter (describes system entity)).filterMap fun stored => stored.row.columnName

/-- `SELECT max(source_epoch) … WHERE system = ? AND table_name = ? AND tenant_id = ?`. -/
def catalogueEpoch (catalog : Catalog) (system entity tenant : String) :
    Except QueryError (Option Int) := do
  let rows ← tableRows catalog.semanticCatalog
  let own := rows.filter fun stored => describes system entity stored && stored.tenantId == some tenant
  return (own.map fun stored => stored.row.sourceEpoch).max?

/-- `SELECT 1 FROM feature_store WHERE feature_name = ? AND tenant_id = ? LIMIT 1`. -/
def featureRegistered (catalog : Catalog) (name tenant : String) : Except QueryError Bool := do
  let rows ← tableRows catalog.featureStore
  return rows.any fun stored => stored.featureName == name && stored.tenantId == some tenant

/-- The referenced columns by table, as the nested `BTreeMap` of `BTreeSet`s. -/
def byTable (refs : List ReferencedColumn) : SortedMap (String ×ₗ String) (List String) :=
  refs.foldl (fun map r =>
    map.insert (toLex (r.system, r.entity))
      (insertShort ((map.get (toLex (r.system, r.entity))).getD []) r.column)) SortedMap.empty

def uncatalogued (system entity col : String) : QueryError :=
  invalid ("column " ++ system ++ "." ++ entity ++ "." ++ col ++
    " is not in the semantic catalogue; onboard + profile " ++ system ++ "." ++ entity ++
    " first (spec 13 §1)")

def unregistered (name : String) : QueryError :=
  invalid ("feature " ++ name ++ " is not registered; run the producer first (spec 13 §1)")

section
variable (freshness : FreshnessRegistry) (catalog : Catalog) (tenant : String)

/-- Warn when the newest entry of the tenant is older than the source's latest ingest. -/
def warnIfStale (system entity : String) : Check Unit :=
  match freshness.get system entity with
  | none => return ()
  | some known => do
      let newest ← Effect.lift (catalogueEpoch catalog system entity tenant)
      match newest with
      | some epoch =>
          if epoch < known.lastEpochSecs then
            Effect.modify (· ++ [⟨system, entity, epoch, known.lastEpochSecs⟩])
      | none => return ()

def checkColumns (system entity : String) (catalogued : List String) (cols : List String) :
    Except QueryError Unit :=
  cols.forM fun col =>
    if catalogued.contains col then .ok () else .error (uncatalogued system entity col)

/-- The body of the loop over the referenced tables. -/
def checkTable (entry : (String ×ₗ String) × List String) : Check Unit := do
  let (system, entity) := ofLex entry.1
  let catalogued ← Effect.lift (cataloguedColumns catalog system entity)
  Effect.lift (checkColumns system entity catalogued entry.2)
  warnIfStale freshness catalog tenant system entity

def checkFeature (name : String) : Except QueryError Unit := do
  let registered ← featureRegistered catalog name tenant
  if registered then return () else throw (unregistered name)

/-- `enforce_catalogue`. -/
def enforceCatalogue (guardrails : GuardrailConfig) (q : SegmentQuery) : Check Unit := do
  if guardrails.enforceCatalogue then
    (byTable (referencedColumns q)).entries.forM (checkTable freshness catalog tenant)
    Effect.lift ((referencedFeatures q).forM (checkFeature catalog tenant))

end

theorem mem_byTable {refs : List ReferencedColumn} {key : String ×ₗ String} {column : String} :
    column ∈ ((byTable refs).get key).getD [] ↔
      ∃ r ∈ refs, toLex (r.system, r.entity) = key ∧ r.column = column := by
  have general : ∀ map : SortedMap (String ×ₗ String) (List String),
      column ∈ ((refs.foldl (fun map r => map.insert (toLex (r.system, r.entity))
        (insertShort ((map.get (toLex (r.system, r.entity))).getD []) r.column)) map).get key).getD [] ↔
      column ∈ (map.get key).getD [] ∨
        ∃ r ∈ refs, toLex (r.system, r.entity) = key ∧ r.column = column := by
    induction refs with
    | nil =>
      intro map
      simp only [List.foldl_nil, List.not_mem_nil, false_and, exists_false, or_false]
    | cons r refs ih =>
      intro map
      rw [List.foldl_cons, ih, List.exists_mem_cons_iff, ← or_assoc]
      refine or_congr_left ?_
      by_cases same : toLex (r.system, r.entity) = key
      · subst same
        rw [SortedMap.get_insert_self, Option.getD_some, mem_insertShort, and_iff_right rfl,
          or_comm, eq_comm]
      · rw [SortedMap.get_insert_of_ne map _ (Ne.symm same)]
        simp only [same, false_and, or_false]
  rw [byTable, general, SortedMap.get_empty]
  simp only [Option.getD_none, List.not_mem_nil, false_or]

/-- Every table that is referenced has its entry, with exactly the columns referenced. -/
theorem forall_byTable {refs : List ReferencedColumn} {holds : ReferencedColumn → Prop} :
    (∀ entry ∈ (byTable refs).entries, ∀ col ∈ entry.2,
      holds ⟨(ofLex entry.1).1, (ofLex entry.1).2, col⟩) ↔ ∀ r ∈ refs, holds r := by
  constructor
  · intro all r member
    have listed := mem_byTable.mpr ⟨r, member, rfl, rfl⟩
    cases found : (byTable refs).get (toLex (r.system, r.entity)) with
    | none =>
      rw [found] at listed
      cases listed
    | some cols =>
      rw [found] at listed
      exact all _ (SortedMap.get_eq_some.mp found) _ listed
  · rintro all ⟨key, cols⟩ entry col listed
    have found : col ∈ ((byTable refs).get key).getD [] := by
      rw [SortedMap.get_eq_some.mpr entry]
      exact listed
    obtain ⟨r, member, rfl, rfl⟩ := mem_byTable.mp found
    exact all r member

section
variable {freshness : FreshnessRegistry} {catalog : Catalog} {tenant : String}

/-- What the loop over the tables decides, the warnings apart. -/
def tableVerdict (catalog : Catalog) (entry : (String ×ₗ String) × List String) :
    Except QueryError Unit := do
  let catalogued ← cataloguedColumns catalog (ofLex entry.1).1 (ofLex entry.1).2
  checkColumns (ofLex entry.1).1 (ofLex entry.1).2 catalogued entry.2

theorem tableRows_present {α : Type} {stored : Option (List α)} {rows : List α}
    (present : stored = some rows) : tableRows stored = .ok rows := by
  rw [present]
  rfl

theorem warnIfStale_outcome {rows : List StoredCatalogRow}
    (present : catalog.semanticCatalog = some rows) (system entity : String)
    (log : List StaleCatalogue) :
    (warnIfStale freshness catalog tenant system entity log).1 = .ok () := by
  unfold warnIfStale
  cases freshness.get system entity with
  | none => rfl
  | some known =>
    unfold catalogueEpoch
    rw [tableRows_present present]
    dsimp only [Effect.bind_apply, Effect.lift_apply, bind, Except.bind, pure, Except.pure]
    generalize @List.max? Int _ _ = newest
    cases newest with
    | none => rfl
    | some epoch =>
      by_cases older : epoch < known.lastEpochSecs
      · simp only [older, ↓reduceIte, Effect.modify_apply]
      · simp only [older, ↓reduceIte]

theorem checkTable_outcome (entry : (String ×ₗ String) × List String)
    (log : List StaleCatalogue) :
    (checkTable freshness catalog tenant entry log).1 = tableVerdict catalog entry := by
  unfold checkTable tableVerdict
  dsimp only
  rw [Effect.bind_apply, Effect.lift_apply]
  cases stored : catalog.semanticCatalog with
  | none =>
    unfold cataloguedColumns
    rw [stored]
    rfl
  | some rows =>
    have read := tableRows_present stored
    unfold cataloguedColumns
    rw [read]
    dsimp only [bind, Except.bind, pure, Except.pure]
    rw [Effect.lift_apply]
    split
    · next checked => rw [warnIfStale_outcome stored, (Prod.mk.inj checked).1]
    · next refused => rw [(Prod.mk.inj refused).1]

/-- The verdict of `enforce_catalogue`, its warnings apart. -/
def verdict (catalog : Catalog) (tenant : String) (q : SegmentQuery) : Except QueryError Unit := do
  (byTable (referencedColumns q)).entries.forM (tableVerdict catalog)
  (referencedFeatures q).forM (checkFeature catalog tenant)

theorem enforceCatalogue_outcome {guardrails : GuardrailConfig}
    (on : guardrails.enforceCatalogue = true) (q : SegmentQuery) (log : List StaleCatalogue) :
    (enforceCatalogue freshness catalog tenant guardrails q log).1 = verdict catalog tenant q := by
  have tables := fun entries =>
    Effect.forM_outcome (@checkTable_outcome freshness catalog tenant) entries log
  unfold enforceCatalogue verdict
  rw [if_pos on, Effect.bind_apply, ← tables]
  rcases (byTable (referencedColumns q)).entries.forM (checkTable freshness catalog tenant) log with
    ⟨outcome, reached⟩
  cases outcome <;> rfl

/-- The rows under which a column is catalogued. -/
def CataloguedIn (rows : List StoredCatalogRow) (r : ReferencedColumn) : Prop :=
  ∃ stored ∈ rows, describes r.system r.entity stored = true ∧ stored.row.columnName = some r.column

theorem tableVerdict_eq_ok {rows : List StoredCatalogRow}
    (present : catalog.semanticCatalog = some rows) {entry : (String ×ₗ String) × List String} :
    tableVerdict catalog entry = .ok () ↔
      ∀ col ∈ entry.2, CataloguedIn rows ⟨(ofLex entry.1).1, (ofLex entry.1).2, col⟩ := by
  have read := tableRows_present present
  unfold tableVerdict cataloguedColumns checkColumns
  rw [read]
  dsimp only [bind, Except.bind, pure, Except.pure]
  rw [except_forM_eq_ok]
  refine forall₂_congr fun col _ => ?_
  rw [ite_eq_left_iff]
  simp only [List.contains_iff_mem, List.mem_filterMap, List.mem_filter, reduceCtorEq, imp_false,
    not_not, CataloguedIn, and_assoc]

theorem tableVerdict_error {rows : List StoredCatalogRow}
    (present : catalog.semanticCatalog = some rows) {entry : (String ×ₗ String) × List String}
    {e : QueryError} (failed : tableVerdict catalog entry = .error e) :
    ∃ system entity col, e = uncatalogued system entity col := by
  have read := tableRows_present present
  unfold tableVerdict cataloguedColumns checkColumns at failed
  rw [read] at failed
  dsimp only [bind, Except.bind, pure, Except.pure] at failed
  obtain ⟨col, -, refused⟩ := except_forM_error failed
  split at refused
  · cases refused
  · exact ⟨_, _, col, (Except.error.inj refused).symm⟩

theorem tables_eq_ok {rows : List StoredCatalogRow}
    (present : catalog.semanticCatalog = some rows) (q : SegmentQuery) :
    (byTable (referencedColumns q)).entries.forM (tableVerdict catalog) = .ok () ↔
      ∀ r ∈ referencedColumns q, CataloguedIn rows r := by
  rw [except_forM_eq_ok, ← forall_byTable]
  exact forall₂_congr fun entry _ => tableVerdict_eq_ok present

theorem verdict_of_catalogued {rows : List StoredCatalogRow}
    (present : catalog.semanticCatalog = some rows) {q : SegmentQuery}
    (catalogued : ∀ r ∈ referencedColumns q, CataloguedIn rows r) :
    verdict catalog tenant q = (referencedFeatures q).forM (checkFeature catalog tenant) := by
  rw [verdict, (tables_eq_ok present q).mpr catalogued]
  rfl

/-- The rows of `semantic_catalog` a tenant owns. -/
def ownEntries (tenant : String) (catalog : Catalog) : List StoredCatalogRow :=
  (catalog.semanticCatalog.getD []).filter fun stored => stored.tenantId == some tenant

/-- The rows of `feature_store` a tenant owns. -/
def ownFeatures (tenant : String) (catalog : Catalog) : List StoredFeature :=
  (catalog.featureStore.getD []).filter fun stored => stored.tenantId == some tenant

/-- Two states with the same rows of a tenant. -/
structure Agree (tenant : String) (first second : Catalog) : Prop where
  entries : (ownEntries tenant first).Perm (ownEntries tenant second)
  features : (ownFeatures tenant first).Perm (ownFeatures tenant second)

theorem CataloguedIn.mono {few many : List StoredCatalogRow} {r : ReferencedColumn}
    (sub : ∀ stored ∈ few, stored ∈ many) (catalogued : CataloguedIn few r) : CataloguedIn many r :=
  let ⟨stored, member, described⟩ := catalogued
  ⟨stored, sub stored member, described⟩

theorem present_of_own {r : ReferencedColumn} (own : CataloguedIn (ownEntries tenant catalog) r) :
    ∃ rows, catalog.semanticCatalog = some rows ∧ ∀ stored ∈ ownEntries tenant catalog, stored ∈ rows := by
  obtain ⟨stored, member, -⟩ := own
  unfold ownEntries at *
  cases present : catalog.semanticCatalog with
  | none =>
    rw [present] at member
    cases member
  | some rows => exact ⟨rows, rfl, fun stored among => List.mem_of_mem_filter among⟩

theorem featureStore_of_own (own : ownFeatures tenant catalog ≠ []) :
    ∃ rows, catalog.featureStore = some rows := by
  unfold ownFeatures at own
  cases present : catalog.featureStore with
  | none =>
    rw [present] at own
    exact absurd rfl own
  | some rows => exact ⟨rows, rfl⟩

theorem checkFeature_eq {rows : List StoredFeature} (present : catalog.featureStore = some rows)
    (name : String) :
    checkFeature catalog tenant name =
      if name ∈ (ownFeatures tenant catalog).map StoredFeature.featureName then .ok ()
      else .error (unregistered name) := by
  have own : (rows.any fun stored => stored.featureName == name && stored.tenantId == some tenant) =
      decide (name ∈ (ownFeatures tenant catalog).map StoredFeature.featureName) := by
    rw [Bool.eq_iff_iff, ownFeatures, present, decide_eq_true_iff]
    simp only [List.any_eq_true, Option.getD_some, List.mem_map, List.mem_filter, Bool.and_eq_true,
      beq_iff_eq]
    exact exists_congr fun stored => by tauto
  unfold checkFeature featureRegistered
  rw [tableRows_present present]
  dsimp only [bind, Except.bind, pure, Except.pure]
  rw [own]
  simp only [decide_eq_true_iff]
  rfl

/-- Under the tenant's own entries, its own rows decide. -/
theorem verdict_congr {first second : Catalog} {q : SegmentQuery} (agree : Agree tenant first second)
    (catalogued : ∀ r ∈ referencedColumns q, CataloguedIn (ownEntries tenant first) r)
    (owned : referencedFeatures q = [] ∨ ownFeatures tenant first ≠ []) :
    verdict second tenant q = verdict first tenant q := by
  have also : ∀ r ∈ referencedColumns q, CataloguedIn (ownEntries tenant second) r :=
    fun r member => (catalogued r member).mono fun stored => agree.entries.mem_iff.mp
  obtain ⟨r, member⟩ := List.exists_mem_of_ne_nil _ (referencedColumns_ne_nil q)
  obtain ⟨rows, present, sub⟩ := present_of_own (catalogued r member)
  obtain ⟨others, there, subset⟩ := present_of_own (also r member)
  rw [verdict_of_catalogued present fun r member => (catalogued r member).mono sub,
    verdict_of_catalogued there fun r member => (also r member).mono subset]
  rcases owned with none | own
  · rw [none]
    rfl
  · have elsewhere : ownFeatures tenant second ≠ [] := fun empty =>
      own (List.Perm.eq_nil (empty ▸ agree.features))
    obtain ⟨stored, here⟩ := featureStore_of_own own
    obtain ⟨copied, there⟩ := featureStore_of_own elsewhere
    refine congrArg _ (funext fun name => ?_)
    have names := agree.features.map StoredFeature.featureName
    rw [checkFeature_eq here, checkFeature_eq there]
    simp only [names.mem_iff]

theorem uncatalogued_ne_unregistered (system entity col name : String) :
    uncatalogued system entity col ≠ unregistered name := by
  intro same
  have texts := congrArg String.toList (QueryError.invalidDsl.inj same)
  have column : "column ".toList = 'c' :: "olumn ".toList := rfl
  have feature : "feature ".toList = 'f' :: "eature ".toList := rfl
  simp only [String.toList_append, List.append_assoc, column, feature, List.cons_append,
    List.cons.injEq] at texts
  exact absurd texts.1 (by decide)

theorem features_ne_uncatalogued (names : List String) (system entity col : String) :
    names.forM (checkFeature catalog tenant) ≠ .error (uncatalogued system entity col) := by
  intro failed
  obtain ⟨name, -, refused⟩ := except_forM_error failed
  cases present : catalog.featureStore with
  | none =>
    unfold checkFeature featureRegistered at refused
    rw [present] at refused
    cases refused
  | some rows =>
    rw [checkFeature_eq present] at refused
    split at refused
    · cases refused
    · exact uncatalogued_ne_unregistered _ _ _ _ (Except.error.inj refused).symm

/-- An entry for a column, of some owner. -/
def entryFor (owner : String) (r : ReferencedColumn) : StoredCatalogRow where
  row := {
    entityType := "column"
    system := r.system
    tableName := r.entity
    columnName := some r.column
    semanticType := .dimension
    dataType := "VARCHAR"
    description := ""
    piiFlag := false
    sampleValues := .array []
    embedding := []
    sourceEpoch := 0 }
  tenantId := some owner

theorem tenant_ne (tenant : String) : tenant ++ "'" ≠ tenant := fun same => by
  have lengths := congrArg String.length same
  rw [String.length_append] at lengths
  exact absurd lengths (by simp)

def withEntries (catalog : Catalog) (rows : List StoredCatalogRow) : Catalog :=
  { catalog with semanticCatalog := some rows }

theorem agree_withEntries {rows : List StoredCatalogRow}
    (own : rows.filter (fun stored => stored.tenantId == some tenant) = ownEntries tenant catalog) :
    Agree tenant catalog (withEntries catalog rows) where
  entries := by
    change List.Perm _ (rows.filter _)
    rw [own]
  features := List.Perm.refl _

theorem ownEntries_own : (ownEntries tenant catalog).filter (fun stored => stored.tenantId == some tenant) =
    ownEntries tenant catalog :=
  List.filter_eq_self.mpr fun _ member => (List.mem_filter.mp member).2

theorem entryFor_foreign (refs : List ReferencedColumn) :
    (refs.map (entryFor (tenant ++ "'"))).filter (fun stored => stored.tenantId == some tenant) = [] := by
  refine List.filter_eq_nil_iff.mpr fun stored member => ?_
  obtain ⟨r, -, rfl⟩ := List.mem_map.mp member
  simp only [entryFor, beq_iff_eq, Option.some.injEq]
  exact tenant_ne tenant

/-- A verdict that foreign entries cannot change is about columns the tenant has catalogued. -/
theorem catalogued_of_same {q : SegmentQuery}
    (same : ∀ other, Agree tenant catalog other → verdict other tenant q = verdict catalog tenant q) :
    ∀ r ∈ referencedColumns q, CataloguedIn (ownEntries tenant catalog) r := by
  by_contra missing
  let own := ownEntries tenant catalog
  let foreign := (referencedColumns q).map (entryFor (tenant ++ "'"))
  have alone := same (withEntries catalog own) (agree_withEntries ownEntries_own)
  have crowded := same (withEntries catalog (own ++ foreign)) (agree_withEntries (by
    rw [List.filter_append, ownEntries_own, entryFor_foreign, List.append_nil]))
  -- without foreign entries a column is refused, with them the features decide
  have everything : ∀ r ∈ referencedColumns q, CataloguedIn (own ++ foreign) r := fun r member =>
    ⟨entryFor (tenant ++ "'") r, List.mem_append_right _ (List.mem_map_of_mem member),
      by simp only [describes, entryFor, beq_self_eq_true, Bool.and_self], rfl⟩
  rw [verdict_of_catalogued rfl everything, ← alone] at crowded
  cases outcome : (byTable (referencedColumns q)).entries.forM (tableVerdict (withEntries catalog own)) with
  | ok => exact absurd ((tables_eq_ok rfl q).mp outcome) missing
  | error e =>
    obtain ⟨entry, -, refused⟩ := except_forM_error outcome
    obtain ⟨system, entity, col, rfl⟩ := tableVerdict_error rfl refused
    refine features_ne_uncatalogued _ system entity col (crowded.trans ?_)
    rw [verdict, outcome]
    rfl

/-- A verdict that the other tenants' features cannot change needs the tenant's own. -/
theorem owned_of_same {q : SegmentQuery}
    (catalogued : ∀ r ∈ referencedColumns q, CataloguedIn (ownEntries tenant catalog) r)
    (same : ∀ other, Agree tenant catalog other → verdict other tenant q = verdict catalog tenant q) :
    referencedFeatures q = [] ∨ ownFeatures tenant catalog ≠ [] := by
  by_contra neither
  obtain ⟨some_feature, none_owned⟩ := not_or.mp neither
  rw [not_not] at none_owned
  obtain ⟨r, member⟩ := List.exists_mem_of_ne_nil _ (referencedColumns_ne_nil q)
  obtain ⟨rows, present, sub⟩ := present_of_own (catalogued r member)
  have every := fun r member => (catalogued r member).mono sub
  let withStore (store : Option (List StoredFeature)) : Catalog :=
    { catalog with featureStore := store }
  have agree (store : Option (List StoredFeature)) (empty : store.getD [] = []) :
      Agree tenant catalog (withStore store) := by
    refine ⟨List.Perm.refl _, ?_⟩
    rw [none_owned, ownFeatures, empty]
    exact List.Perm.refl _
  have features (store : Option (List StoredFeature)) : verdict (withStore store) tenant q =
      (referencedFeatures q).forM (checkFeature (withStore store) tenant) :=
    @verdict_of_catalogued (withStore store) tenant rows present q every
  -- a store nobody has created is an error, an empty one a rejection
  have both := (same _ (agree none rfl)).trans (same _ (agree (some []) rfl)).symm
  obtain ⟨name, rest, listed⟩ := List.exists_cons_of_ne_nil some_feature
  rw [features, features, listed] at both
  cases both

end

/-- The check answers for a tenant by its own rows alone, and accepts only what these name. -/
structure Confined (guardrails : GuardrailConfig) (tenant : String) (q : SegmentQuery)
    (catalog : Catalog) : Prop where
  same : ∀ other freshness freshness' log log', Agree tenant catalog other →
    (enforceCatalogue freshness' other tenant guardrails q log').1 =
      (enforceCatalogue freshness catalog tenant guardrails q log).1
  own : ∀ freshness log, (enforceCatalogue freshness catalog tenant guardrails q log).1 = .ok () →
    (∀ r ∈ referencedColumns q, CataloguedIn (ownEntries tenant catalog) r) ∧
      ∀ name ∈ referencedFeatures q, ∃ stored ∈ ownFeatures tenant catalog, stored.featureName = name

/-- Enforcement confines a tenant exactly where its own entries cover the columns referenced and,
for a query that references features, it has written some feature. -/
theorem check_confined_iff {guardrails : GuardrailConfig} (on : guardrails.enforceCatalogue = true)
    (tenant : String) (q : SegmentQuery) (catalog : Catalog) :
    Confined guardrails tenant q catalog ↔
      (∀ r ∈ referencedColumns q, CataloguedIn (ownEntries tenant catalog) r) ∧
        (referencedFeatures q = [] ∨ ownFeatures tenant catalog ≠ []) := by
  constructor
  · intro confined
    have same : ∀ other, Agree tenant catalog other →
        verdict other tenant q = verdict catalog tenant q := fun other agree => by
      have runs := confined.same other FreshnessRegistry.new FreshnessRegistry.new [] [] agree
      rwa [enforceCatalogue_outcome on, enforceCatalogue_outcome on] at runs
    have catalogued := catalogued_of_same same
    exact ⟨catalogued, owned_of_same catalogued same⟩
  · rintro ⟨catalogued, owned⟩
    refine ⟨fun other freshness freshness' log log' agree => ?_, fun freshness log accepted =>
      ⟨catalogued, fun name member => ?_⟩⟩
    · rw [enforceCatalogue_outcome on, enforceCatalogue_outcome on]
      exact verdict_congr agree catalogued owned
    · obtain ⟨r, among⟩ := List.exists_mem_of_ne_nil _ (referencedColumns_ne_nil q)
      obtain ⟨rows, present, sub⟩ := present_of_own (catalogued r among)
      rw [enforceCatalogue_outcome on, verdict_of_catalogued present fun r among =>
        (catalogued r among).mono sub, except_forM_eq_ok] at accepted
      obtain ⟨store, stored⟩ := featureStore_of_own
        (owned.resolve_left fun none => by
          rw [none] at member
          cases member)
      have registered := accepted name member
      rw [checkFeature_eq stored] at registered
      split at registered
      case isTrue found =>
        obtain ⟨row, own, named⟩ := List.mem_map.mp found
        exact ⟨row, own, named⟩
      case isFalse => cases registered

/-- The buyers of the shop. -/
def buyers : SegmentQuery where
  source := ⟨"erp", "orders"⟩
  key := "user_id"
  ops := []
  asOf := none

def enforcing : GuardrailConfig where
  syncRowCap := 100000
  maxOutputRows := 10000
  jSurvivorCap := 200000
  enforceCatalogue := true

/-- A catalogue whose only entry is an owner's, for the key of the orders. -/
def orderKeyCatalogued (owner : String) : Catalog :=
  withEntries Catalog.empty [entryFor owner ⟨"erp", "orders", "user_id"⟩]

theorem check_confined_iff_buyers :
    Confined enforcing "acme" buyers (orderKeyCatalogued "acme") ↔
      (∀ r ∈ referencedColumns buyers,
        CataloguedIn (ownEntries "acme" (orderKeyCatalogued "acme")) r) ∧
      (referencedFeatures buyers = [] ∨ ownFeatures "acme" (orderKeyCatalogued "acme") ≠ []) :=
  check_confined_iff rfl "acme" buyers (orderKeyCatalogued "acme")

/-- An entry of another tenant decides what a tenant without one may reference. -/
theorem foreign_entry_admits :
    validate (fun _ => true) buyers = .ok () ∧
    Agree "acme" (withEntries Catalog.empty []) (orderKeyCatalogued "globex") ∧
    (enforceCatalogue .new (withEntries Catalog.empty []) "acme" enforcing buyers []).1 =
      .error (uncatalogued "erp" "orders" "user_id") ∧
    (enforceCatalogue .new (orderKeyCatalogued "globex") "acme" enforcing buyers []).1 = .ok () :=
  ⟨rfl, ⟨List.Perm.refl _, List.Perm.refl _⟩, rfl, rfl⟩

end ConsumerEngine.Query
