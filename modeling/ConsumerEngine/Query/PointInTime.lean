import ConsumerEngine.Query.CutOffs
import ConsumerEngine.Query.Materialization

/-! What a snapshot freezes: the newest value of every feature up to the cut-off, whatever the store
holds of later instants.
-/

set_option autoImplicit false

namespace ConsumerEngine.Query

open ConsumerEngine.Core ConsumerEngine.Foundation ConsumerEngine.Sql ConsumerEngine.Storage FeatureBatch

/-! ### Pivots up to an instant -/

section
variable {V : Type} (E : Engine V)

/-- `starts_with` tests for a prefix. -/
def Engine.TestsPrefixes : Prop :=
  ∀ text front, E.call "starts_with" [E.text text, E.text front] =
    some (E.boolean (front.toList.isPrefixOf text.toList))

/-- The newest value of a feature of a user up to an instant. -/
def Engine.valueUntil (catalog : Catalog) (tenant : String) (user : Cell) (bound : Int)
    (name : String) : V :=
  E.newest (((featuresOf catalog tenant user name).filter fun row => row.asOfTs ≤ bound).map fun row =>
    (row.numValue, row.asOfTs))

end

/-- The rows of a family up to an instant. -/
def pivotUntil (bound : Int) (store : Multiset StoredFeature) (entry : String × List String) : Pivot :=
  ⟨entry.1, entry.2, store.filter fun row =>
    (entry.1 ++ ".").toList.isPrefixOf row.featureName.toList = true ∧ row.asOfTs ≤ bound⟩

/-- Every short name of a family has a column of its own in the pivot. -/
def Families.Apart (families : Families) : Prop :=
  ∀ entry ∈ families, (entry.2.map foldName).Nodup ∧ ∀ short ∈ entry.2, isKeyColumn short = false

/-- The names that are frozen. -/
def Families.names (families : Families) : List String :=
  families.flatMap fun entry => entry.2.map fun short => entry.1 ++ "." ++ short

section
variable {V : Type} {E : Engine V} {asOfTs tenant : String} {bound : Int} {user : Cell}
  {store : Multiset StoredFeature}

theorem pivot_eq (tests : E.TestsPrefixes) (read : E.castTimestamptz asOfTs = some bound)
    (entry : String × List String) : E.pivot asOfTs store entry = some (pivotUntil bound store entry) := by
  have met (row : StoredFeature) : (E.startsWith row entry.1).both (E.notAfter row asOfTs) =
      .ofBool (decide ((entry.1 ++ ".").toList.isPrefixOf row.featureName.toList = true ∧
        row.asOfTs ≤ bound)) := by
    have begins := tests row.featureName (entry.1 ++ ".")
    simp only [Engine.startsWith, begins, E.truth_boolean, Engine.notAfter, read, Truth.both_ofBool,
      Bool.decide_and, Bool.decide_eq_true]
  rw [Engine.pivot]
  simp only [met, keep_ofBool, Option.map_some]
  rfl

theorem pivots_eq (tests : E.TestsPrefixes) (read : E.castTimestamptz asOfTs = some bound)
    (families : Families) :
    families.mapM (E.pivot asOfTs store) = some (families.map (pivotUntil bound store)) := by
  rw [show E.pivot asOfTs store = fun entry => pure (pivotUntil bound store entry) from
    funext (pivot_eq tests read), List.mapM_pure]
  rfl

/-- The column of a name, where each has one of its own. -/
theorem lookup_zip_map {α β : Type} {key : α → String} {value : α → β} {items : List α} {item : α}
    (apart : (items.map key).Nodup) (member : item ∈ items) :
    ((items.map key).zip (items.map value)).lookup (key item) = some (value item) := by
  induction items with
  | nil => cases member
  | cons first rest ih =>
    rw [List.map_cons, List.nodup_cons] at apart
    rw [List.map_cons, List.map_cons, lookup_zip_cons]
    rcases List.mem_cons.mp member with rfl | later
    · exact if_pos rfl
    · have other : key first ≠ key item := fun same =>
        apart.1 (same ▸ List.mem_map_of_mem later)
      rw [if_neg other, ih apart.2 later]

/-- The cell of a short name in its pivot. -/
theorem pivotCells_short {pivot : Pivot} {owner : String × Option String} {short : String}
    (once : (pivot.shorts.map foldName).Nodup) (apart : isKeyColumn short = false)
    (member : short ∈ pivot.shorts) : E.pivotCells pivot owner (foldName short) =
      E.frozen (pivot.family ++ "." ++ short) (pivot.rows.filter fun row => ownerOf row = owner) := by
  have notKey : ¬ (foldName "user_id" = foldName short ∨ foldName "tenant_id" = foldName short) := by
    rw [← isKeyColumn_iff, apart]
    exact Bool.false_ne_true
  have folded : foldName "user_id" = "user_id" ∧ foldName "tenant_id" = "tenant_id" := by decide
  rw [folded.1, folded.2, not_or] at notKey
  rw [Engine.pivotCells, Pivot.columns, Engine.pivotRow, lookup_zip_cons, if_neg notKey.1,
    lookup_zip_cons, if_neg notKey.2, lookup_zip_map once member, Option.getD_some]

/-- A pivot shows the newest value of a feature up to its instant. -/
theorem shownBy_eq {catalog : Catalog} {entry : String × List String} {short : String}
    (once : (entry.2.map foldName).Nodup) (apart : isKeyColumn short = false)
    (member : short ∈ entry.2) :
    E.shownBy (pivotUntil bound (stored catalog) entry) tenant user (foldName short) =
      E.valueUntil catalog tenant user bound (entry.1 ++ "." ++ short) := by
  let name := entry.1 ++ "." ++ short
  have prefixed : (entry.1 ++ ".").toList.isPrefixOf name.toList = true := by
    rw [List.isPrefixOf_iff_prefix]
    exact ⟨short.toList, String.toList_append.symm⟩
  have held (owner : String) : ((pivotUntil bound (stored catalog) entry).rows.filter fun row =>
      ownerOf row = (owner, some tenant)).filter (fun row => row.featureName = name) =
        (featuresOf catalog tenant (some owner) name).filter fun row => row.asOfTs ≤ bound := by
    rw [pivotUntil, featuresOf, Multiset.filter_filter, Multiset.filter_filter,
      Multiset.filter_filter]
    refine Multiset.filter_congr fun row _ => ?_
    simp only [ownerOf, Prod.mk.injEq, Option.some.injEq]
    constructor
    · rintro ⟨⟨named, own, theirs⟩, -, early⟩
      exact ⟨early, own, theirs, named⟩
    · rintro ⟨early, own, theirs, named⟩
      exact ⟨⟨named, own, theirs⟩, named ▸ prefixed, early⟩
  unfold Engine.shownBy Pivot.partner
  cases user with
  | none =>
    have nobody : featuresOf catalog tenant none name = 0 :=
      Multiset.filter_eq_nil.mpr fun row _ same => Option.some_ne_none _ same.1
    simp [Engine.valueUntil, name, nobody, E.newest_none]
  | some owner =>
    by_cases present : (owner, some tenant) ∈ (pivotUntil bound (stored catalog) entry).rows.map ownerOf
    · rw [Option.map_some, Option.filter_some_pos (by simpa using present), Option.map_some,
        Option.getD_some, pivotCells_short once apart member, Engine.frozen, Engine.valueUntil,
        ← held owner]
      rfl
    · have nothing : ((pivotUntil bound (stored catalog) entry).rows.filter fun row =>
          ownerOf row = (owner, some tenant)) = 0 :=
        Multiset.filter_eq_nil.mpr fun row among same =>
          present (Multiset.mem_map.mpr ⟨row, among, same⟩)
      have none_ := held owner
      rw [nothing, Multiset.filter_zero] at none_
      rw [Option.map_some, Option.filter_some_neg (by simpa using present), Option.map_none,
        Option.getD_none, Engine.valueUntil, ← none_, Multiset.map_zero, E.newest_none]

/-- What `json_object` is given: each name beside its newest value up to the instant. -/
theorem frozenPairs_eq {catalog : Catalog} {families : Families} (apart : families.Apart) :
    E.frozenPairs tenant user (families.map (pivotUntil bound (stored catalog))) =
      families.names.flatMap fun name => [E.text name, E.valueUntil catalog tenant user bound name] := by
  induction families with
  | nil => rfl
  | cons entry rest ih =>
    obtain ⟨⟨once, columns⟩, later⟩ := List.forall_mem_cons.mp apart
    have mine : (entry.2.flatMap fun short => [E.text (entry.1 ++ "." ++ short),
        E.shownBy (pivotUntil bound (stored catalog) entry) tenant user (foldName short)]) =
          (entry.2.map fun short => entry.1 ++ "." ++ short).flatMap fun name =>
            [E.text name, E.valueUntil catalog tenant user bound name] := by
      rw [List.flatMap_map]
      refine List.flatMap_congr fun short member => ?_
      rw [shownBy_eq once (columns short member) member]
    rw [Families.names, List.flatMap_cons, List.flatMap_append, ← mine]
    exact congrArg _ (ih later)

end

/-! ### The names that are frozen -/

theorem mem_addName {families : SortedMap String (List String)} {name family short : String} :
    short ∈ ((addName families name).get family).getD [] ↔
      short ∈ (families.get family).getD [] ∨ splitFeatureName name = .ok (family, short) := by
  unfold addName
  cases split : splitFeatureName name with
  | error failure => simp
  | ok parts =>
    obtain ⟨other, last⟩ := parts
    by_cases same : other = family
    · subst same
      rw [SortedMap.get_insert_self, Option.getD_some, mem_insertShort]
      simp [or_comm, eq_comm]
    · rw [SortedMap.get_insert_of_ne families _ (Ne.symm same)]
      simp [same]

theorem mem_addNames {names : List String} {families : SortedMap String (List String)}
    {family short : String} :
    short ∈ ((names.foldl addName families).get family).getD [] ↔
      short ∈ (families.get family).getD [] ∨
        ∃ name ∈ names, splitFeatureName name = .ok (family, short) := by
  induction names generalizing families with
  | nil => simp
  | cons name rest ih => rw [List.foldl_cons, ih, mem_addName, or_assoc, List.exists_mem_cons_iff]

theorem mem_names {families : Families} {name : String} :
    name ∈ families.names ↔ ∃ entry ∈ families, ∃ short ∈ entry.2, entry.1 ++ "." ++ short = name := by
  simp only [Families.names, List.mem_flatMap, List.mem_map]

/-- The names that are frozen are those that the tenant has values of. -/
theorem mem_featureNames {catalog : Catalog} {tenant name : String} :
    name ∈ (featureFamilies (.ok catalog) tenant).names ↔
      (∃ parts, splitFeatureName name = .ok parts) ∧
        ∃ row ∈ stored catalog, row.tenantId = some tenant ∧ row.featureName = name := by
  let rows := (stored catalog).filter fun row => row.tenantId = some tenant
  let families := (rows.map StoredFeature.featureName).foldl addName SortedMap.empty
  have read : featureFamilies (.ok catalog) tenant = families.entries := by
    cases found : catalog.featureStore with
    | none =>
      simp [featureFamilies, families, rows, stored, found, tableRows, presentIf, Except.bind,
        SortedMap.empty]
    | some held =>
      simp [featureFamilies, families, rows, stored, found, tableRows, presentIf, Except.bind]
  -- each name is filed under the family that it splits into
  have held (family short : String) : (∃ shorts, (family, shorts) ∈ families.entries ∧ short ∈ shorts) ↔
      ∃ row ∈ rows, splitFeatureName row.featureName = .ok (family, short) := by
    have added := @mem_addNames (rows.map StoredFeature.featureName) SortedMap.empty family short
    rw [SortedMap.get_empty, Option.getD_none, or_iff_right List.not_mem_nil] at added
    simp only [List.mem_map, exists_exists_and_eq_and] at added
    rw [← added]
    constructor
    · rintro ⟨shorts, entry, member⟩
      rw [SortedMap.get_eq_some.mpr entry]
      exact member
    · intro member
      cases found : families.get family with
      | none =>
        rw [found] at member
        cases member
      | some shorts =>
        rw [found] at member
        exact ⟨shorts, SortedMap.get_eq_some.mp found, member⟩
  rw [read, mem_names]
  constructor
  · rintro ⟨⟨family, shorts⟩, entry, short, member, rfl⟩
    obtain ⟨row, among, split⟩ := (held family short).mp ⟨shorts, entry, member⟩
    have named : row.featureName = family ++ "." ++ short := splitFeatureName_eq split
    obtain ⟨there, own⟩ := List.mem_filter.mp among
    exact ⟨⟨_, named ▸ split⟩, row, there, of_decide_eq_true own, named⟩
  · rintro ⟨⟨⟨family, short⟩, split⟩, row, there, own, rfl⟩
    obtain ⟨shorts, entry, member⟩ := (held family short).mpr
      ⟨row, List.mem_filter.mpr ⟨there, decide_eq_true own⟩, split⟩
    exact ⟨(family, shorts), entry, short, member, (splitFeatureName_eq split).symm⟩

section
variable {V : Type} [DecidableEq V] {E : Engine V} {toJson : V → Json} {engine : QueryEngine}
  {q : SegmentQuery} {tenant campaignId : String} {reads : DeriveReads} {stamps : Stamps}
  {featured : Except QueryError Catalog} {call : MaterializeCall} {isRfc3339 : String → Bool}
  {shown : V → Value}

/-- What is sent depends on no state but that of the feature store. -/
theorem materialize_reads {others : DeriveReads} (same : others.checked = reads.checked) :
    engine.materialize E toJson q tenant others featured stamps campaignId =
      engine.materialize E toJson q tenant reads featured stamps campaignId := by
  unfold QueryEngine.materialize QueryEngine.compileAndCheck
  rw [same]
  cases derive : hasDerive q with
  | true => rfl
  | false => rfl

end

/-! ### A feature of a user with an order -/

theorem jsonEngine_tests : jsonEngine.TestsPrefixes := fun _ _ => rfl

/-- A value of a feature of the user. -/
def regularAt (value : F64) (instant : Int) : StoredFeature :=
  ⟨"u1", "cadence.regularity", value, instant, "cadence_sql", some "acme"⟩

/-- An order of a user, with values of a feature. -/
def regularOrder (rows : List StoredFeature) : Catalog :=
  withBase { Catalog.empty with featureStore := some rows } (baseOf "u1" "acme")

theorem regularOrder_families :
    featureFamilies (.ok (regularOrder [regularAt 1 0])) "acme" = [("cadence", ["regularity"])] := by
  decide +kernel

theorem regularOrder_writes (rows : List StoredFeature) :
    ∃ call n after, ruledEngine.materialize jsonEngine Datum.toJson everyOrder "acme"
        (readsOnly (regularOrder rows)) (.ok (regularOrder [regularAt 1 0])) newYearStamps "spring" =
          .ok call ∧
      materializeSnapshot call.wrapSql call.wrapParams call.key call.spec
        (jsonWriter (regularOrder rows)) = (.ok n, after) := by
  refine everyOrder_writes _ (.ok (regularOrder [regularAt 1 0])) ?_ fun spec hitReason => ?_
  · rw [pivots_eq jsonEngine_tests rfl]
    rfl
  · rw [regularOrder_families]
    rfl

theorem regularOrder_apart :
    (featureFamilies (.ok (regularOrder [regularAt 1 0])) "acme").Apart := by
  rw [regularOrder_families]
  intro entry member
  obtain rfl := List.mem_singleton.mp member
  decide

theorem jsonWriter_inserts (state : Catalog) : Inserts jsonEngine Datum.value (jsonWriter state).duck :=
  insertingDuck_inserts fun cell => by cases cell <;> rfl

/-- A value of a later instant is not frozen. -/
theorem regularOrder_alike : AlikeUntil 0 (regularOrder [regularAt 1 0])
    (regularOrder [regularAt 1 0, regularAt 2 1]) := by
  refine ⟨rfl, rfl, rfl, ?_⟩
  have late : ¬ (regularAt 2 1).asOfTs ≤ 0 := by decide
  change Multiset.filter _ (regularAt 1 0 ::ₘ {}) = Multiset.filter _ (regularAt 1 0 ::ₘ {regularAt 2 1})
  rw [Multiset.filter_cons, Multiset.filter_cons, Multiset.filter_singleton, if_neg late]
  rfl

end ConsumerEngine.Query
