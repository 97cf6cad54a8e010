import ConsumerEngine.Query.Dependence
import ConsumerEngine.Query.FeaturePaths

/-! The cut-off of a query against what is written later.

Each level of a query has a cut-off of its own, and a level without one reads the newest values.
-/

set_option autoImplicit false

namespace ConsumerEngine.Query

open ConsumerEngine.Core ConsumerEngine.Sql ConsumerEngine.Storage FeatureBatch

/-- Two states that differ only in what the feature store, and the wide views drawn from it, hold of
later instants. -/
structure AlikeUntil (instant : Int) (first second : Catalog) : Prop where
  raw : first.raw = second.raw
  suppression : first.suppression = second.suppression
  present : first.featureStore.isSome = second.featureStore.isSome
  rows : (stored first : Multiset StoredFeature).filter (fun row => row.asOfTs ≤ instant) =
    (stored second : Multiset StoredFeature).filter fun row => row.asOfTs ≤ instant

/-- Every level that asks for a feature has a cut-off of its own, which is no later. -/
def CutOffBy {V : Type} (E : Engine V) (instant : Int) (q : SegmentQuery) : Prop :=
  ∀ asOf name op value, Asks q asOf name op value →
    ∃ cutoff bound, asOf = some cutoff ∧ E.castTimestamptz cutoff = some bound ∧ bound ≤ instant

/-- What a query compiles to answers the same on any two states that are alike until its cut-off. -/
def AsOfBounds {V : Type} [DecidableEq V] (E : Engine V) (opts : CompileOptions) (q : SegmentQuery) :
    Prop :=
  ∀ cutoff instant compiled first second, q.asOf = some cutoff →
    E.castTimestamptz cutoff = some instant → CompilesTo opts q compiled →
      AlikeUntil instant first second →
        execute E.toScalars (E.tables opts.catalog first) compiled.sql compiled.params =
          execute E.toScalars (E.tables opts.catalog second) compiled.sql compiled.params

/-! ### What bounded queries read -/

/-- What is read of no wide view. -/
def Unviewed (reads : Reads) : Prop :=
  ∀ read ∈ reads, ∀ name, tableOf read = some name →
    isRawName name = true ∨ name = "feature_store" ∨ name = "suppression"

section
variable {opts : CompileOptions} {source : Dataset} {key : String}

theorem unviewed_append {first second : Reads} :
    Unviewed (first ++ second) ↔ Unviewed first ∧ Unviewed second := List.forall_mem_append

theorem unviewed_required (met : Bool) : Unviewed (required met) := by
  cases met <;> simp [Unviewed, required, tableOf]

theorem unviewed_predicate (d : Dataset) (p : Predicate) :
    Unviewed (p.reads opts.catalog (rawName d)) := by
  have raw := rawName_isRaw d
  unfold Predicate.reads
  split
  · exact List.forall_mem_nil _
  · split <;> simp [Unviewed, tableOf, raw]

theorem unviewed_window (event : Dataset) (userKey tsColumn : String) (predicate : Option Predicate) :
    Unviewed (windowReads opts source key event userKey tsColumn predicate) := by
  have raw (d : Dataset) := rawName_isRaw d
  have columns : Unviewed (rawRead opts event :: columnRead opts event userKey ::
      columnRead opts source key :: tenantReads opts.catalog (rawName event) opts.tenant) := by
    simp [Unviewed, rawRead, columnRead, tenantReads, tableOf, raw]
  have last : Unviewed [columnRead opts event tsColumn] := by
    simp [Unviewed, columnRead, tableOf, raw]
  have test : Unviewed ((predicate.map (Predicate.reads opts.catalog (rawName event))).getD []) := by
    cases predicate with
    | none => exact List.forall_mem_nil _
    | some p => exact unviewed_predicate event p
  exact unviewed_append.mpr ⟨columns, unviewed_append.mpr ⟨test, last⟩⟩

theorem unviewed_exclude (campaignId : String) :
    Unviewed (excludeReads opts source key campaignId) := by
  have raw := rawName_isRaw source
  rw [excludeReads, unviewed_append]
  constructor
  · split
    · simp [Unviewed, noRepeatReads, engineReads, columnRead, tenantReads, tableOf, raw]
    · exact List.forall_mem_nil _
  · split
    · simp [Unviewed, capReads, engineReads, columnRead, tenantReads, tableOf, raw]
    · exact List.forall_mem_nil _

/-- A level with a cut-off reads no view. -/
theorem unviewed_level {asOf : Option String} {ops : List Op}
    (dated : ∀ name op value, Op.feature name op value ∈ ops → asOf.isSome = true) :
    Unviewed (levelReads opts source key asOf ops) := by
  have raw := rawName_isRaw source
  have base : Unviewed (rawRead opts source :: columnRead opts source key ::
      tenantReads opts.catalog (rawName source) opts.tenant) := by
    simp [Unviewed, rawRead, columnRead, tenantReads, tableOf, raw]
  have asked : ∀ op ∈ ops, Unviewed (opReads opts source key asOf op) := by
    intro op member
    cases op with
    | filter predicate => exact unviewed_predicate source predicate
    | recency event userKey tsColumn withinDays predicate =>
      exact unviewed_window event userKey tsColumn predicate
    | lapsed event userKey tsColumn withinDays predicate =>
      have window := @unviewed_window opts source key event userKey tsColumn predicate
      exact unviewed_append.mpr ⟨window, window⟩
    | exclude campaignId => exact unviewed_exclude campaignId
    | feature name op value =>
      obtain ⟨cutoff, rfl⟩ := Option.isSome_iff_exists.mp (dated name op value member)
      simp [Unviewed, opReads, featureReads, engineReads, columnRead, tenantReads, tableOf, raw]
    | _ => exact List.forall_mem_nil _
  refine unviewed_append.mpr ⟨base, fun read among => ?_⟩
  obtain ⟨op, member, here⟩ := List.mem_flatMap.mp among
  exact asked op member read here

/-- A query in which each level that asks for a feature has a cut-off reads no view. -/
theorem unviewed_phrase {isRfc3339 : String → Bool} {q : SegmentQuery} {sources : List Dataset}
    {scope : Scope} (shaped : Shaped isRfc3339 opts q sources)
    (dated : ∀ asOf name op value, Asks q asOf name op value → asOf.isSome = true) :
    Unviewed ((phraseAt opts q).reads scope) := by
  induction shaped with
  | @level source key ops asOf narrowing =>
    rw [phraseAt_level narrowing.narrows, Ast.reads, levelPhrase_reads narrowing.narrows]
    exact unviewed_level fun name op value member =>
      dated asOf name op value ⟨0, _, .here _, rfl, member⟩
  | @setOp source key ops asOf kind other sources narrowing branch ih =>
    rw [phraseAt_setOp narrowing.narrows]
    simp only [Ast.reads, levelPhrase_reads narrowing.narrows]
    have mine : Unviewed (levelReads opts source key asOf ops) :=
      unviewed_level fun name op value member =>
        dated asOf name op value ⟨0, _, .here _, rfl, List.mem_append_left _ member⟩
    have others := ih fun asOf name op value asks => by
      obtain ⟨depth, inner, nested, same, member⟩ := asks
      exact dated asOf name op value
        ⟨depth + 1, inner, .branch (List.mem_append_right _ List.mem_cons_self) nested, same, member⟩
    exact unviewed_append.mpr ⟨unviewed_required _, unviewed_append.mpr ⟨mine, others⟩⟩
  | @derive source key ops asOf name metric limit narrowing injected =>
    rw [phraseAt_derive narrowing.narrows injected, metricPhrase_reads rfl,
      levelPhrase_reads narrowing.narrows]
    have mine : Unviewed (levelReads opts source key asOf ops) :=
      unviewed_level fun name op value member =>
        dated asOf name op value ⟨0, _, .here _, rfl, List.mem_append_left _ member⟩
    have raw := rawName_isRaw (metricEvent metric)
    have events : Unviewed (metricReads opts metric) := by
      cases column : metricColumn metric <;>
        simp [Unviewed, metricReads, rawRead, columnRead, tenantReads, tableOf, raw, column]
    exact unviewed_append.mpr ⟨mine, events⟩

theorem unviewed_profile (event : Dataset) (column : String) :
    Unviewed (profileReads opts key event column) := by
  have raw := rawName_isRaw event
  have required_ := @unviewed_required (foldName key == "user_id")
  have columns : Unviewed (.column opts.catalog (rawName event) "user_id" ::
      [Read.column opts.catalog (rawName event) "user_id", columnRead opts event column]) := by
    simp [Unviewed, columnRead, tableOf, raw]
  have owner : Unviewed (tenantReads opts.catalog (rawName event) opts.tenant) := by
    simp [Unviewed, tenantReads, tableOf, raw]
  have base : Unviewed [rawRead opts event] := by
    simp [Unviewed, rawRead, tableOf, raw]
  exact unviewed_append.mpr ⟨base, unviewed_append.mpr ⟨required_, unviewed_append.mpr ⟨columns,
    unviewed_append.mpr ⟨required_, owner⟩⟩⟩⟩

end

/-! ### What they answer -/

theorem asks_stripLastOp {q : SegmentQuery} {asOf : Option String} {name : String} {op : Cmp}
    {value : F64} (asks : Asks (stripLastOp q) asOf name op value) : Asks q asOf name op value := by
  have fewer : ∀ op ∈ (stripLastOp q).ops, op ∈ q.ops := fun op member => List.mem_of_mem_dropLast member
  obtain ⟨depth, inner, nested, same, member⟩ := asks
  cases nested with
  | here => exact ⟨0, q, .here q, same, fewer _ member⟩
  | branch among below => exact ⟨_, inner, .branch (fewer _ among) below, same, member⟩

section
variable {V : Type} {E : Engine V} {opts : CompileOptions} {first second : Catalog} {instant : Int}

/-- The tables other than views have the same columns. -/
theorem AlikeUntil.columns (alike_ : AlikeUntil instant first second) {name : String}
    (named : isRawName name = true ∨ name = "feature_store" ∨ name = "suppression") :
    (E.table first name).map Stored.columns = (E.table second name).map Stored.columns := by
  have features : first.featureStore.map (fun rows => (E.featureStored rows).columns) =
      second.featureStore.map fun rows => (E.featureStored rows).columns := by
    have present := alike_.present
    cases mine : first.featureStore with
    | none =>
      rw [mine, Option.isSome_none, eq_comm, Option.isSome_eq_false_iff,
        Option.isNone_iff_eq_none] at present
      rw [present]
    | some rows =>
      rw [mine] at present
      obtain ⟨others, other⟩ := Option.isSome_iff_exists.mp present.symm
      rw [other]
      rfl
  unfold Engine.table
  by_cases store : name = "feature_store"
  · rw [if_pos store, if_pos store, Option.map_map, Option.map_map]
    exact features
  · rw [if_neg store, if_neg store]
    by_cases contacts : name = "suppression"
    · rw [if_pos contacts, if_pos contacts, alike_.suppression]
    · have raw : isRawName name = true := by tauto
      rw [if_neg contacts, if_neg contacts, if_pos raw, if_pos raw, alike_.raw]

/-- Up to a cut-off that is no later, both states hold the same values of a feature. -/
theorem AlikeUntil.features (alike_ : AlikeUntil instant first second) {bound : Int}
    (early : bound ≤ instant) (tenant name : String) (user : Cell) :
    (featuresOf first tenant user name).filter (fun row => row.asOfTs ≤ bound) =
      (featuresOf second tenant user name).filter fun row => row.asOfTs ≤ bound := by
  have own (catalog : Catalog) : (featuresOf catalog tenant user name).filter
      (fun row => row.asOfTs ≤ bound) =
        ((stored catalog : Multiset StoredFeature).filter fun row => row.asOfTs ≤ instant).filter
          fun row => row.asOfTs ≤ bound ∧
            some row.userId = user ∧ row.tenantId = some tenant ∧ row.featureName = name := by
    rw [featuresOf, Multiset.filter_filter, Multiset.filter_filter]
    refine Multiset.filter_congr fun row _ => ?_
    constructor
    · intro held
      exact ⟨held, held.1.trans early⟩
    · exact And.left
  rw [own, own, alike_.rows]

/-- A bounded query cannot tell them apart. -/
theorem AlikeUntil.indistinct (alike_ : AlikeUntil instant first second) {q : SegmentQuery}
    (bounded : CutOffBy E instant q) :
    Indistinct (E.population opts first) (E.population opts second) q where
  rows := funext fun d => by
    simp only [Engine.population, ownRows, Catalog.rowsOf, alike_.raw]
  spares := funext fun campaignId => funext fun user => by
    simp only [Engine.population, contactsOf, alike_.suppression]
  featured asOf name op value asks := funext fun user => by
    obtain ⟨cutoff, bound, rfl, read, early⟩ := bounded asOf name op value asks
    simp only [Engine.population, Engine.boundedMeets, read, alike_.features early]

/-- Where every level that asks for a feature has a cut-off no later than that of the query, the
query answers the same whatever is stored of later instants. -/
theorem asOf_bounds [DecidableEq V] {isRfc3339 : String → Bool} {q : SegmentQuery}
    (valid : validate isRfc3339 q = .ok ())
    (bounded : ∀ cutoff instant, q.asOf = some cutoff → E.castTimestamptz cutoff = some instant →
      CutOffBy E instant q) : AsOfBounds E opts q := by
  intro cutoff instant compiled first second dated read compiles alike_
  have within := bounded cutoff instant dated read
  have dates (narrowed : SegmentQuery) (among : narrowed = q ∨ narrowed = stripLastOp q) :
      CutOffBy E instant narrowed := by
    rcases among with rfl | rfl
    · exact within
    · exact fun asOf name op value asks => within asOf name op value (asks_stripLastOp asks)
  have cut (narrowed : SegmentQuery) (among : narrowed = q ∨ narrowed = stripLastOp q)
      (asOf : Option String) (name : String) (op : Cmp) (value : F64)
      (asks : Asks narrowed asOf name op value) : asOf.isSome = true := by
    obtain ⟨cutoff, _, rfl, -, -⟩ := dates narrowed among asOf name op value asks
    rfl
  have unviewed : Unviewed (compiledReads [compiled]) := by
    cases compiles with
    | plain returned =>
      rw [compiledReads_single (compileAt_statement valid returned)]
      exact unviewed_phrase (compileAt_shaped q valid 0 _ returned) (cut q (.inl rfl))
    | @figure profile returned of =>
      obtain ⟨narrowing, event, ts, monetary, category, profiled, -⟩ :=
        compileCharacterize_profiled valid returned
      have shaped : Shaped isRfc3339 opts (stripLastOp q) (levelSources q.source narrowing) :=
        profiled.segment ▸ .level profiled.level
      rw [profile_reads valid profiled returned of]
      exact unviewed_append.mpr ⟨unviewed_phrase shaped (cut _ (.inr rfl)), unviewed_profile _ _⟩
  refine compiles.execute_congr valid
    (present_congr fun read among name of => alike_.columns (unviewed read among name of))
    (fun narrowed sources selects => ?_) fun d _ => ?_
  · exact (alike_.indistinct (dates narrowed selects.among)).survivors narrowed
  · simp only [ownRows, Catalog.rowsOf, alike_.raw]

end

/-! ### A feature in a branch -/

/-- Orders up to an instant, of the users whose feature has the value up to another. -/
def regularUntil (asOf : Option String) : SegmentQuery where
  source := ⟨"erp", "orders"⟩
  key := "user_id"
  ops := [.setOp .intersect (equalTo "cadence.regularity" 1 asOf)]
  asOf := some "2025-01-01T00:00:00Z"

def datedRegular : SegmentQuery := regularUntil none

/-- An engine that tells the values apart, in which every cut-off is at 0. -/
noncomputable def regularPicker : Engine Datum :=
  picker (fun rows => if rows = {(1, 1)} then 1 else 2) 0

/-- The branch asks for the feature by its own cut-off. -/
theorem regularUntil_asks {cutoff : Option String} {asOf : Option String} {name : String} {op : Cmp}
    {value : F64} (asks : Asks (regularUntil cutoff) asOf name op value) : asOf = cutoff := by
  obtain ⟨depth, inner, nested, rfl, member⟩ := asks
  cases nested with
  | here => cases List.mem_singleton.mp member
  | branch among below =>
    cases List.mem_singleton.mp among
    cases below with
    | here => rfl
    | branch among' below' => cases List.mem_singleton.mp among'

theorem asOf_bounds_regularUntil : AsOfBounds regularPicker (readOptions "acme")
    (regularUntil (some "2024-12-01T00:00:00Z")) := by
  have valid : validate (fun _ => true) (regularUntil (some "2024-12-01T00:00:00Z")) = .ok () := rfl
  refine asOf_bounds valid fun cutoff instant _ read asOf name op value asks => ?_
  exact ⟨_, instant, regularUntil_asks asks, read, le_rfl⟩

/-- An order of a user, and one value of a feature. -/
def regularLater (value : F64) : Catalog :=
  withBase { Catalog.empty with
    featureStore := some [⟨"u1", "cadence.regularity", value, 1, "cadence_sql", some "acme"⟩]
    featureViews := [("cadence", ["regularity"])] } (baseOf "u1" "acme")

theorem regularLater_alike (value other : F64) :
    AlikeUntil 0 (regularLater value) (regularLater other) := by
  refine ⟨rfl, rfl, rfl, ?_⟩
  have late (value : F64) : ((stored (regularLater value) : Multiset StoredFeature).filter
      fun row => row.asOfTs ≤ 0) = 0 := by
    refine Multiset.filter_eq_nil.mpr fun row member early => ?_
    obtain rfl := List.mem_singleton.mp member
    exact absurd early (show ¬ (1 : Int) ≤ 0 by decide)
  rw [late, late]

theorem regularLater_shorts (value : F64) :
    shortsIn "cadence" (stored (regularLater value)) = ["regularity"] := by
  have kept : ("cadence" ++ ".").toList.isPrefixOf "cadence.regularity".toList = true := by decide
  have split : splitOnce '.' "cadence.regularity" = some ("cadence", "regularity") := by decide
  simp only [shortsIn, stored, regularLater, withBase, Option.getD_some, List.filter_cons, kept,
    ↓reduceIte, List.filter_nil, List.foldl_cons, List.foldl_nil, split]
  rfl

theorem regularLater_drawn (value : F64) : (regularLater value).wideView "cadence" =
    some ("cadence", shortsIn "cadence" (stored (regularLater value))) := by
  rw [regularLater_shorts]
  exact List.find?_cons_of_pos (decide_eq_true rfl)

theorem regularLater_shown (value : F64) :
    shownShort (regularLater value) "cadence" "regularity" = some "regularity" := by
  rw [shownShort, regularLater_shorts]
  exact List.find?_cons_of_pos (decide_eq_true rfl)

/-- The one value that the user has. -/
theorem regularLater_values (value : F64) :
    valuesOf (regularLater value) "acme" (some "u1") "cadence.regularity" = {(value, 1)} := by
  have held : featuresOf (regularLater value) "acme" (some "u1") "cadence.regularity" =
      {⟨"u1", "cadence.regularity", value, 1, "cadence_sql", some "acme"⟩} :=
    (Multiset.filter_singleton _).trans (if_pos ⟨rfl, rfl, rfl⟩)
  rw [valuesOf, held, Multiset.map_singleton]

/-- The user is a survivor exactly if the newest value is the one asked for. -/
theorem datedRegular_survivors (value : F64) :
    (∃ users, (regularPicker.population (readOptions "acme") (regularLater value)).survivors
        regularPicker datedRegular = some users ∧ some "u1" ∈ users) ↔ value = 1 := by
  let population := regularPicker.population (readOptions "acme") (regularLater value)
  let order := rowOf ["user_id", "tenant_id"] [some "u1", some "acme"]
  have only : population.rows ⟨"erp", "orders"⟩ = {order} :=
    @ownRows_baseOf (regularLater value) "u1" "acme"
  have owned : order (foldName "user_id") = some "u1" := by
    simp [order, rowOf]
  have mine : population.level regularPicker ⟨"erp", "orders"⟩ "user_id" datedRegular.asOf [] =
      some {some "u1"} := by
    have all : keep (fun row => Truth.all (([] : List Op).map (population.meets regularPicker
        datedRegular.asOf row (row (foldName "user_id"))))) {order} = some {order} := keep_yes _
    rw [Population.level, only, all, Option.map_some, Multiset.map_singleton, owned]
    rfl
  have survive : population.survivors regularPicker datedRegular = _ :=
    @survivors_setOp _ regularPicker population ⟨"erp", "orders"⟩ "user_id" datedRegular.asOf []
      .intersect (equalTo "cadence.regularity" 1 none) (List.forall_mem_nil _)
  have inner : population.survivors regularPicker (equalTo "cadence.regularity" 1 none) = _ :=
    @survivors_level _ regularPicker population ⟨"erp", "orders"⟩ "user_id" none
      [.feature "cadence.regularity" .eq 1] (by simp [Op.narrows])
  have single := @level_single _ regularPicker population ⟨"erp", "orders"⟩ "user_id" none order
    (.feature "cadence.regularity" .eq 1) only
  have wide := @wideMeets_eq _ regularPicker (regularLater value) "acme" (some "u1") .eq 1
    "cadence.regularity" "cadence" "regularity" "regularity" (by decide) (regularLater_drawn value)
    (by decide) (regularLater_shown value)
  have picked := @picker_meets (regularLater value) (fun rows => if rows = {(1, 1)} then 1 else 2) 0
    "acme" "u1" 1 "cadence.regularity"
  have meets : population.meets regularPicker none order (some "u1")
      (.feature "cadence.regularity" .eq 1) = .yes ↔ value = 1 := by
    refine Eq.congr_left wide |>.trans (picked.trans ?_)
    rw [regularLater_values, picks, if_neg (Multiset.singleton_ne_zero _), Option.some_inj]
    by_cases one : value = 1
    · simp [one]
    · simp [one]
  rw [owned, meets] at single
  rw [← single, survive, mine, inner, Option.bind_some]
  constructor
  · rintro ⟨users, both, member⟩
    obtain ⟨others, selected, rfl⟩ := Option.map_eq_some_iff.mp both
    exact ⟨others, selected, (Finset.mem_inter.mp member).2⟩
  · rintro ⟨others, selected, member⟩
    exact ⟨_, Option.map_eq_some_iff.mpr ⟨others, selected, rfl⟩,
      Finset.mem_inter.mpr ⟨Finset.mem_singleton_self _, member⟩⟩

theorem datedRegular_isScoped (value : F64) :
    isScoped (regularPicker.tables (readOptions "acme").catalog (regularLater value))
      (phraseAt (readOptions "acme") datedRegular) = true := by
  have base := @base_isScoped _ regularPicker (regularLater value) "u1" "acme"
  have wide := @featureReads_wide _ regularPicker (readOptions "acme") (regularLater value)
    ⟨"erp", "orders"⟩ "user_id" "cadence.regularity" "cadence" "regularity" 1 (by decide)
    (regularLater_drawn value) (by rw [regularLater_shorts]; exact List.mem_cons_self)
  have inner := (@featureQuery_isScoped _ regularPicker (readOptions "acme") (regularLater value)
    ⟨"erp", "orders"⟩ "user_id" "cadence.regularity" .eq 1 none wide).mpr base
  have columns : (phraseAt (readOptions "acme") (equalTo "cadence.regularity" 1 none)).columns =
      ["user_id"] := by
    rw [equalTo, featureQuery, phraseAt_level (by simp [Op.narrows])]
    rfl
  have level : Present regularPicker (readOptions "acme") (regularLater value)
      (levelReads (readOptions "acme") ⟨"erp", "orders"⟩ "user_id" datedRegular.asOf []) := by
    have all := isScoped_iff.mp base
    rw [phraseAt_level (List.forall_mem_nil _), Ast.reads,
      levelPhrase_reads (List.forall_mem_nil _), levelReads, List.flatMap_nil] at all
    rw [levelReads, List.flatMap_nil]
    exact all
  rw [isScoped_iff] at inner ⊢
  rw [show datedRegular = ⟨⟨"erp", "orders"⟩, "user_id",
    [] ++ [.setOp .intersect (equalTo "cadence.regularity" 1 none)], datedRegular.asOf⟩ from rfl,
    phraseAt_setOp (List.forall_mem_nil _)]
  simp only [Ast.reads, columns, levelPhrase_reads (List.forall_mem_nil _), present_append]
  exact ⟨List.forall_mem_nil _, level, inner⟩

/-- A later value shows through the branch that has no cut-off. -/
theorem later_value_shows :
    ¬ ∀ (V : Type) [DecidableEq V] (E : Engine V) (opts : CompileOptions) (q : SegmentQuery),
      validate (fun _ => true) q = .ok () → AsOfBounds E opts q := by
  intro claimed
  have valid : validate (fun _ => true) datedRegular = .ok () := rfl
  obtain ⟨compiled, returned⟩ : ∃ compiled,
    compileWithOpts datedRegular (readOptions "acme") = .ok compiled := ⟨_, rfl⟩
  have same := claimed Datum regularPicker (readOptions "acme") datedRegular valid _ 0 compiled
    (regularLater 1) (regularLater 2) rfl rfl (.plain returned) (regularLater_alike 1 2)
  rw [execute_rows valid returned rfl, execute_rows valid returned rfl,
    if_pos (datedRegular_isScoped 1), if_pos (datedRegular_isScoped 2)] at same
  obtain ⟨users, selected, member⟩ := (datedRegular_survivors 1).mpr rfl
  rw [selected, Option.map_some] at same
  obtain ⟨others, selected', table⟩ := Option.map_eq_some_iff.mp same.symm
  obtain rfl := keyTable_injective table
  exact absurd ((datedRegular_survivors 2).mp ⟨_, selected', member⟩) (by decide)

end ConsumerEngine.Query
