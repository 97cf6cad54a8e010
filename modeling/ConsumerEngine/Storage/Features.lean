import ConsumerEngine.Storage.Frames

/-! Writing feature rows: the rows of `feature_store` and the wide view of their family. -/

set_option autoImplicit false

namespace ConsumerEngine.Storage

open ConsumerEngine.Core ConsumerEngine.Foundation

/-! ### Short names -/

theorem mem_insertShort {shorts : List String} {short other : String} :
    other ∈ insertShort shorts short ↔ other = short ∨ other ∈ shorts := by
  unfold insertShort
  split
  · next contained =>
    have member : short ∈ shorts := by simpa using contained
    exact ⟨Or.inr, fun among => among.elim (fun same => same ▸ member) id⟩
  · have halves : other ∈ shorts.takeWhile (· < short) ∨ other ∈ shorts.dropWhile (· < short) ↔
        other ∈ shorts := by
      rw [← List.mem_append, List.takeWhile_append_dropWhile]
    rw [List.mem_append, List.mem_cons, ← halves]
    tauto

theorem mem_foldl_insertShort {added shorts : List String} {other : String} :
    other ∈ added.foldl insertShort shorts ↔ other ∈ added ∨ other ∈ shorts := by
  induction added generalizing shorts with
  | nil => simp
  | cons short added ih =>
    rw [List.foldl_cons, ih, mem_insertShort, List.mem_cons]
    tauto

/-- The short name of a stored row of a family. -/
def shortOf (family : String) (row : StoredFeature) : Option String :=
  if (family ++ ".").toList.isPrefixOf row.featureName.toList then
    (splitOnce '.' row.featureName).map Prod.snd
  else none

/-- `feature_short_names`, over the rows stored. -/
def shortsIn (family : String) (rows : List StoredFeature) : List String :=
  (rows.filter fun row => (family ++ ".").toList.isPrefixOf row.featureName.toList).foldl
    (fun shorts row =>
      match splitOnce '.' row.featureName with
      | some (_, short) => insertShort shorts short
      | none => shorts) []

theorem mem_shortsIn {family short : String} {rows : List StoredFeature} :
    short ∈ shortsIn family rows ↔ ∃ row ∈ rows, shortOf family row = some short := by
  have folded (named : List StoredFeature) (shorts : List String) :
      short ∈ named.foldl (fun shorts row =>
          match splitOnce '.' row.featureName with
          | some (_, short) => insertShort shorts short
          | none => shorts) shorts ↔
        (∃ row ∈ named, (splitOnce '.' row.featureName).map Prod.snd = some short) ∨
          short ∈ shorts := by
    induction named generalizing shorts with
    | nil => simp
    | cons row named ih =>
      rw [List.foldl_cons, ih, List.exists_mem_cons_iff]
      cases split : splitOnce '.' row.featureName with
      | none => simp
      | some pair =>
        simp only [Option.map_some, Option.some.injEq, mem_insertShort, @eq_comm _ short]
        exact or_left_comm.trans or_assoc.symm
  rw [shortsIn, folded]
  simp only [List.mem_filter, List.not_mem_nil, or_false, shortOf]
  refine exists_congr fun row => ?_
  split
  · next begins => simp only [begins, and_true]
  · next begins => simp only [begins, and_false, false_and, reduceCtorEq, Bool.false_eq_true]

/-- The catalogue with more feature rows. -/
def Catalog.addFeatures (catalog : Catalog) (added : List StoredFeature) : Catalog :=
  { catalog with featureStore := some (catalog.featureStore.getD [] ++ added) }

@[simp] theorem Catalog.addFeatures_addFeatures (catalog : Catalog)
    (first second : List StoredFeature) :
    (catalog.addFeatures first).addFeatures second = catalog.addFeatures (first ++ second) := by
  simp [addFeatures]

theorem Catalog.foldl_addFeatures {ι : Type} (added : ι → List StoredFeature) (items : List ι)
    (catalog : Catalog) :
    items.foldl (fun catalog item => catalog.addFeatures (added item)) (catalog.addFeatures []) =
      catalog.addFeatures (items.flatMap added) := by
  have from_ (before : List StoredFeature) :
      items.foldl (fun catalog item => catalog.addFeatures (added item))
        (catalog.addFeatures before) = catalog.addFeatures (before ++ items.flatMap added) := by
    induction items generalizing before with
    | nil => simp
    | cons item items ih =>
      rw [List.foldl_cons, addFeatures_addFeatures, ih, List.flatMap_cons, List.append_assoc]
  exact from_ []

theorem Catalog.addFeatures_nil {catalog : Catalog} {rows : List StoredFeature}
    (present : catalog.featureStore = some rows) : catalog.addFeatures [] = catalog := by
  cases catalog
  cases present
  simp [addFeatures]

theorem ensureFeatures_sends (writer : Writer) :
    Sends (ensureEngineTable .featureStore) writer
      [.createEngine .featureStore, .addEngineTenant .featureStore]
      (writer.durable.catalog.addFeatures []) := by
  have opened : writer.durable.catalog.addFeatures [] =
      { writer.durable.catalog with
        featureStore := some (writer.durable.catalog.featureStore.getD []) } := by
    simp [Catalog.addFeatures]
  rw [opened]
  exact (Sends.execute writer rfl).bind fun _ =>
    (Sends.execute (writer.advanced _ _) rfl).andThen fun _ => Sends.pure _ ()

/-! ### One batch -/

/-- One row more in the families of a batch. -/
def addFamily (families : SortedMap String (List String)) (row : FeatureRow) :
    Except Error (SortedMap String (List String)) := do
  let (family, short) ← splitFeatureName row.featureName
  return families.insert family (insertShort ((families.get family).getD []) short)

theorem addFamily_ok {families after : SortedMap String (List String)} {row : FeatureRow}
    (added : addFamily families row = .ok after) :
    ∃ family short, splitFeatureName row.featureName = .ok (family, short) ∧
      after = families.insert family (insertShort ((families.get family).getD []) short) := by
  obtain ⟨⟨family, short⟩, split, placed⟩ := except_bind_eq_ok.mp added
  cases placed
  exact ⟨family, short, split, rfl⟩

/-- Rows of one feature, at one point in time. -/
structure FeatureBatch where
  family : String
  short : String
  name : String
  asOf : String
  rows : List FeatureRow
  split : splitFeatureName name = .ok (family, short)
  valid : isFeatureName name = true
  named : ∀ row ∈ rows, row.featureName = name
  produced : ∀ row ∈ rows, isFeatureName row.producerId = true
  dated : ∀ row ∈ rows, row.asOfTs = asOf

namespace FeatureBatch

variable (batch : FeatureBatch)

/-- Rows as they are stored. -/
def store (tenant : String) (instant : Int) (rows : List FeatureRow) : List StoredFeature :=
  rows.map fun row =>
    ⟨row.userId, row.featureName, row.numValue, instant, row.producerId, some tenant⟩

variable {batch}

theorem names_checked : (batch.rows.forM fun row => do
      writeFeatureRows.relabel "feature_name: " (validateFeatureName row.featureName)
      writeFeatureRows.relabel "producer_id: " (validateFeatureName row.producerId)) = .ok () := by
  have each : ∀ row ∈ batch.rows, (do
      writeFeatureRows.relabel "feature_name: " (validateFeatureName row.featureName)
      writeFeatureRows.relabel "producer_id: " (validateFeatureName row.producerId) :
        Except Error Unit) = .ok () := by
    intro row member
    have name : validateFeatureName row.featureName = .ok () := by
      rw [batch.named row member, validateFeatureName, if_pos batch.valid]
    have producer : validateFeatureName row.producerId = .ok () := by
      rw [validateFeatureName, if_pos (batch.produced row member)]
    rw [name, producer]
    rfl
  generalize batch.rows = rows at each
  rw [List.forM_eq_forM]
  induction rows with
  | nil => rfl
  | cons row rows ih =>
    rw [List.forM_cons, each row (by simp)]
    exact ih fun other member => each other (List.mem_cons_of_mem _ member)

theorem families_eq (filled : batch.rows ≠ []) :
    batchFamilies batch.rows = .ok (SortedMap.empty.insert batch.family [batch.short]) := by
  have added (families : SortedMap String (List String)) {row : FeatureRow}
      (named : row.featureName = batch.name) : addFamily families row =
        .ok (families.insert batch.family
          (insertShort ((families.get batch.family).getD []) batch.short)) := by
    rw [addFamily, named, batch.split]
    rfl
  have later (rows : List FeatureRow) (named : ∀ row ∈ rows, row.featureName = batch.name) :
      rows.foldlM addFamily (SortedMap.empty.insert batch.family [batch.short]) =
        (.ok (SortedMap.empty.insert batch.family [batch.short]) : Except Error _) := by
    induction rows with
    | nil => rfl
    | cons row rows ih =>
      have same : (SortedMap.empty.insert batch.family [batch.short]).insert batch.family
          (insertShort (((SortedMap.empty.insert batch.family [batch.short]).get
            batch.family).getD []) batch.short) =
          (SortedMap.empty.insert batch.family [batch.short] : SortedMap String (List String)) := by
        rw [SortedMap.get_insert_self]
        simp [SortedMap.insert, SortedMap.place, SortedMap.empty, insertShort]
      rw [List.foldlM_cons, added _ (named row (by simp)), same]
      exact ih fun other member => named other (List.mem_cons_of_mem _ member)
  obtain ⟨row, rest, split⟩ := List.exists_cons_of_ne_nil filled
  have named := batch.named
  rw [split] at named ⊢
  change (row :: rest).foldlM addFamily SortedMap.empty = _
  rw [List.foldlM_cons, added _ (named row (by simp))]
  exact later rest fun other member => named other (List.mem_cons_of_mem _ member)

section
variable {duck : DuckDb} {catalog : Catalog} {tenant : String} {chunk : List FeatureRow}

theorem insertFeatures_apply {instant : Int} (dated : ∀ row ∈ chunk, row.asOfTs = batch.asOf)
    (casts : duck.castTimestamptz batch.asOf = some instant) {rows : List StoredFeature}
    (present : catalog.featureStore = some rows) :
    (Statement.insertFeatures chunk tenant).apply duck catalog =
      .ok (chunk.length, catalog.addFeatures (store tenant instant chunk)) := by
  have converted : chunk.mapM (storedFeature duck tenant) = .ok (store tenant instant chunk) := by
    clear present
    induction chunk with
    | nil => rfl
    | cons row chunk ih =>
      have here : storedFeature duck tenant row = .ok ⟨row.userId, row.featureName, row.numValue,
          instant, row.producerId, some tenant⟩ := by
        simp only [storedFeature, dated row (by simp), casts]
        rfl
      rw [List.mapM_cons, here, ih fun other member => dated other (List.mem_cons_of_mem _ member)]
      rfl
  simp only [Statement.apply, present, presentIf, bind, Except.bind, converted, pure, Except.pure,
    Catalog.addFeatures, Option.getD_some]

theorem insertFeatures_stuck (dated : ∀ row ∈ chunk, row.asOfTs = batch.asOf) (filled : chunk ≠ [])
    (casts : duck.castTimestamptz batch.asOf = none) {rows : List StoredFeature}
    (present : catalog.featureStore = some rows) :
    (Statement.insertFeatures chunk tenant).apply duck catalog = .error "conversion error" := by
  obtain ⟨row, rest, rfl⟩ := List.exists_cons_of_ne_nil filled
  have here : storedFeature duck tenant row = .error "conversion error" := by
    simp only [storedFeature, dated row (by simp), casts]
    rfl
  simp only [Statement.apply, present, presentIf, bind, Except.bind, List.mapM_cons, here]

end

theorem flatMap_store (tenant : String) (instant : Int) (pieces : List (List FeatureRow)) :
    pieces.flatMap (store tenant instant) = store tenant instant pieces.flatten := by
  rw [List.flatMap_def, store, List.map_flatten]
  rfl

section
variable {writer : Writer} (filled : batch.rows ≠ [])

include filled

theorem writeFeatureRows_leaves (never : ∀ i, writer.duck.rejects i = false) {instant : Int}
    (casts : writer.duck.castTimestamptz batch.asOf = some instant) :
    ∃ n, Leaves (writeFeatureRows batch.rows) writer n
      (writer.durable.catalog.addFeatures (store writer.tenant instant batch.rows)) := by
  have positive : 0 < min 500 (maxParams / max 6 1) := by decide
  obtain ⟨⟨⟩, opened, ran, same, made⟩ := (ensureFeatures_sends writer).leaves never
  have present : ∃ rows, opened.durable.catalog.featureStore = some rows := by
    rw [made]
    exact ⟨_, rfl⟩
  have sends := Sends.executeAll (fun catalog => ∃ rows, catalog.featureStore = some rows)
    (fun chunk => .insertFeatures chunk writer.tenant)
    (fun chunk catalog => catalog.addFeatures (store writer.tenant instant chunk))
    (chunks (min 500 (maxParams / max 6 1)) batch.rows) opened
    (fun chunk member catalog present => by
      obtain ⟨rows, present⟩ := present
      rw [← same.duck] at casts
      exact ⟨⟨_, insertFeatures_apply (fun row inChunk =>
        batch.dated row (mem_of_mem_chunks positive member inChunk)) casts present⟩, _, rfl⟩)
    present
  obtain ⟨n, after, wrote, same', left⟩ := sends.leaves (by rw [same.duck]; exact never)
  rw [made, Catalog.foldl_addFeatures, flatMap_store, chunks_flatten positive] at left
  have inserted : insertChunked 6 batch.rows (fun chunk => .insertFeatures chunk opened.tenant)
      opened = (.ok n, after) := by
    unfold insertChunked
    rw [if_neg (by simpa using filled), same.tenant]
    exact wrote
  refine ⟨n, after, ?_, same.trans same', left⟩
  unfold writeFeatureRows
  rw [if_neg (by simpa using filled), Effect.bind_of_ok (show Effect.lift _ writer =
    (.ok (), writer) by rw [Effect.lift_apply, names_checked]), Effect.bind_of_ok ran]
  exact inserted

theorem writeFeatureRows_fails (casts : writer.duck.castTimestamptz batch.asOf = none) :
    Fails (writeFeatureRows batch.rows) writer := by
  have positive : 0 < min 500 (maxParams / max 6 1) := by decide
  unfold writeFeatureRows
  rw [if_neg (by simpa using filled)]
  refine (Leaves.lift names_checked writer).bindFails fun checked same made => ?_
  rw [← same.duck] at casts
  refine (ensureFeatures_sends checked).bindFails fun _ opened same' made' => ?_
  have present : opened.durable.catalog.featureStore =
      some (checked.durable.catalog.featureStore.getD [] ++ []) := by rw [made']; rfl
  rw [← same'.duck] at casts
  have stuck : Fails (insertChunked 6 batch.rows (fun chunk => .insertFeatures chunk opened.tenant))
      opened := by
    unfold insertChunked
    rw [if_neg (by simpa using filled)]
    obtain ⟨row, rest, split⟩ := List.exists_cons_of_ne_nil filled
    have dated := batch.dated
    rw [split] at dated ⊢
    refine (Fails.execute (insertFeatures_stuck (fun row member =>
      dated row (List.mem_of_mem_take member)) ?_ casts present)).bind
    rw [Ne, List.take_eq_nil_iff]
    rintro (zero | none)
    · exact positive.ne' zero
    · cases none
  exact stuck

end

/-! ### The wide view -/

/-- Every short name stored under the family is an identifier. -/
def Named (family : String) (rows : List StoredFeature) : Prop :=
  ∀ row ∈ rows, ∀ short, shortOf family row = some short → isIdent short = true

theorem splitOnce_name : splitOnce '.' batch.name = some (batch.family, batch.short) := by
  have split := batch.split
  unfold splitFeatureName at split
  cases parts : splitOnce '.' batch.name with
  | none => simp [parts] at split
  | some pair =>
    simp only [parts] at split
    cases first : labelled "feature family: " (validateIdent pair.1) with
    | error e => simp [first, bind, Except.bind] at split
    | ok =>
      cases second : labelled "feature short name: " (validateIdent pair.2) with
      | error e => simp [first, second, bind, Except.bind] at split
      | ok =>
        simp only [first, second, bind, Except.bind, pure, Except.pure, Except.ok.injEq] at split
        rw [← split]

theorem idents : isIdent batch.family = true ∧ isIdent batch.short = true :=
  splitFeatureName_ident batch.split

/-- The rows of the batch themselves are named well. -/
theorem named_append (rows : List StoredFeature) (tenant : String) (instant : Int) :
    Named batch.family (rows ++ store tenant instant batch.rows) ↔ Named batch.family rows := by
  refine ⟨fun named row member => named row (List.mem_append_left _ member),
    fun named row member short found => ?_⟩
  rcases List.mem_append.mp member with before | added
  · exact named row before short found
  · obtain ⟨sent, inBatch, rfl⟩ := List.mem_map.mp added
    unfold shortOf at found
    split at found
    · rw [batch.named sent inBatch, splitOnce_name] at found
      cases found
      exact idents.2
    · cases found

section
variable {writer : Writer} {rows : List StoredFeature}
  (never : ∀ i, writer.duck.rejects i = false)
  (present : writer.durable.catalog.featureStore = some rows)

include never present

theorem ensureFeatures_leaves :
    Leaves (ensureEngineTable .featureStore) writer () writer.durable.catalog := by
  obtain ⟨⟨⟩, opens⟩ := (ensureFeatures_sends writer).leaves never
  rwa [Catalog.addFeatures_nil present] at opens

theorem featureShortNames_leaves {family : String} (ident : isIdent family = true) :
    Leaves (featureShortNames family) writer (shortsIn family rows) writer.durable.catalog := by
  refine (Leaves.lift (validateIdent_eq_ok.mpr ident) writer).bind fun checked same made => ?_
  rw [← same.duck] at never
  rw [← made] at present ⊢
  refine (ensureFeatures_leaves never present).bind fun opened same' made' => ?_
  rw [← same'.duck] at never
  rw [← made'] at present ⊢
  refine Leaves.read never ?_
  simp only [presentIf, present, bind, Except.bind]
  rfl

/-- The view of a family, in the place of the one before. -/
def withView (catalog : Catalog) (family : String) (shorts : List String) : Catalog :=
  { catalog with featureViews :=
      (family, shorts) ::
        catalog.featureViews.filter fun view => foldName view.1 ≠ foldName family }

theorem refreshFeatureWideView_leaves {family : String} (ident : isIdent family = true)
    {shorts : List String} (filled : shorts ≠ []) (idents : shorts.all isIdent = true) :
    Leaves (refreshFeatureWideView family shorts) writer ()
      (withView writer.durable.catalog family shorts) := by
  unfold refreshFeatureWideView
  refine (Leaves.lift (validateIdent_eq_ok.mpr ident) writer).bind fun checked same made => ?_
  rw [if_neg (by simpa using filled)]
  rw [← same.duck] at never
  rw [← made] at present ⊢
  refine (ensureFeatures_leaves never present).bind fun opened same' made' => ?_
  rw [← same'.duck] at never
  rw [← made'] at present ⊢
  refine (Leaves.lift (forM_validateIdent_eq_ok.mpr idents) opened).bind fun named same'' made'' => ?_
  rw [← same''.duck] at never
  rw [← made''] at present ⊢
  have viewed : Leaves (execute (.createView family shorts)) named 0
      (withView named.durable.catalog family shorts) :=
    Leaves.execute never (by
      simp only [Statement.apply, withView, presentIf, present, bind, Except.bind, pure, Except.pure])
  refine viewed.bind fun after _ left => ?_
  rw [← left]
  exact Leaves.pure after ()

theorem refreshFeatureWideView_fails {family : String} (ident : isIdent family = true)
    {shorts : List String} (filled : shorts ≠ []) (misnamed : shorts.all isIdent = false) :
    Fails (refreshFeatureWideView family shorts) writer := by
  unfold refreshFeatureWideView
  refine (Leaves.lift (validateIdent_eq_ok.mpr ident) writer).bindFails
    fun checked same made => ?_
  rw [if_neg (by simpa using filled)]
  rw [← same.duck] at never
  rw [← made] at present
  refine (ensureFeatures_leaves never present).bindFails fun opened _ _ => ?_
  cases outcome : shorts.forM validateIdent with
  | ok =>
    rw [forM_validateIdent_eq_ok.mp outcome] at misnamed
    cases misnamed
  | error failure => exact (Fails.lift rfl opened).bind

end

/-- The short names of the view are identifiers when those stored are. -/
theorem all_ident_iff {rows : List StoredFeature} :
    ([batch.short].foldl insertShort (shortsIn batch.family rows)).all isIdent = true ↔
      Named batch.family rows := by
  rw [List.all_eq_true]
  constructor
  · intro all row member short found
    exact all short (mem_foldl_insertShort.mpr (Or.inr (mem_shortsIn.mpr ⟨row, member, found⟩)))
  · intro named short member
    rcases mem_foldl_insertShort.mp member with own | stored
    · rw [List.mem_singleton.mp own]
      exact idents.2
    · obtain ⟨row, among, found⟩ := mem_shortsIn.mp stored
      exact named row among short found

theorem shorts_ne_nil (stored : List String) :
    [batch.short].foldl insertShort stored ≠ [] :=
  List.ne_nil_of_mem (mem_foldl_insertShort.mpr (Or.inl (List.mem_singleton.mpr rfl)))

/-- The feature rows a catalogue holds. -/
def stored (catalog : Catalog) : List StoredFeature := catalog.featureStore.getD []

theorem entries_eq : (SortedMap.empty.insert batch.family [batch.short] :
    SortedMap String (List String)).entries = [(batch.family, [batch.short])] := by
  simp [SortedMap.insert, SortedMap.place, SortedMap.empty]

section
variable {writer : Writer} {rows : List StoredFeature}
  (never : ∀ i, writer.duck.rejects i = false)
  (present : writer.durable.catalog.featureStore = some rows)

include never present

/-- The refresh of the batch's family takes the names stored so far with its own. -/
theorem refresh_leaves (named : Named batch.family rows) :
    Leaves (featureShortNames batch.family >>= fun shorts =>
      refreshFeatureWideView batch.family ([batch.short].foldl insertShort shorts)) writer ()
      (withView writer.durable.catalog batch.family
        ([batch.short].foldl insertShort (shortsIn batch.family rows))) := by
  refine (featureShortNames_leaves never present batch.idents.1).bind fun listed same made => ?_
  rw [← same.duck] at never
  rw [← made] at present ⊢
  exact refreshFeatureWideView_leaves never present batch.idents.1 (shorts_ne_nil _)
    (all_ident_iff.mpr named)

theorem refresh_fails (misnamed : ¬ Named batch.family rows) :
    Fails (featureShortNames batch.family >>= fun shorts =>
      refreshFeatureWideView batch.family ([batch.short].foldl insertShort shorts)) writer := by
  refine (featureShortNames_leaves never present batch.idents.1).bindFails fun listed same made => ?_
  rw [← same.duck] at never
  rw [← made] at present
  exact refreshFeatureWideView_fails never present batch.idents.1 (shorts_ne_nil _)
    (Bool.eq_false_iff.mpr fun all => misnamed (all_ident_iff.mp all))

end

section
variable {writer : Writer} (filled : batch.rows ≠ [])
  (never : ∀ i, writer.duck.rejects i = false)

include filled never

/-- A batch whose timestamp casts and whose family is named well is stored. -/
theorem writeFeaturesAndRefresh_accepts {instant : Int}
    (casts : writer.duck.castTimestamptz batch.asOf = some instant)
    (named : Named batch.family (stored writer.durable.catalog)) :
    ∃ catalog, Accepts (writeFeaturesAndRefresh batch.rows) writer catalog ∧
      catalog.featureStore = some (stored writer.durable.catalog ++
        store writer.tenant instant batch.rows) := by
  obtain ⟨n, wrote⟩ := @writeFeatureRows_leaves batch writer.begun filled never _ casts
  have whole : Named batch.family (stored writer.durable.catalog ++
      store writer.tenant instant batch.rows) := (named_append _ _ _).mpr named
  have body : ∃ result, Leaves (do
      let n ← writeFeatureRows batch.rows
      let families ← Effect.lift (batchFamilies batch.rows)
      families.entries.foldlM (fun _ entry => do
        let stored ← featureShortNames entry.1
        refreshFeatureWideView entry.1 (entry.2.foldl insertShort stored)) ()
      return n) writer.begun result (withView (writer.durable.catalog.addFeatures
        (store writer.tenant instant batch.rows)) batch.family
          ([batch.short].foldl insertShort (shortsIn batch.family
            (stored writer.durable.catalog ++ store writer.tenant instant batch.rows)))) := by
    refine ⟨n, wrote.bind fun after same made =>
      (Leaves.lift (families_eq filled) after).bind fun grouped same' made' => ?_⟩
    have duck : grouped.duck = writer.duck := same'.duck.trans same.duck
    have now : grouped.durable.catalog = writer.durable.catalog.addFeatures
        (store writer.tenant instant batch.rows) := made'.trans made
    rw [entries_eq, List.foldlM_cons, ← now]
    have present : grouped.durable.catalog.featureStore = some (stored writer.durable.catalog ++
        store writer.tenant instant batch.rows) := by
      rw [now]
      rfl
    have refreshed := refresh_leaves (by rw [duck]; exact never) present whole
    exact (refreshed.andPure ()).andPure n
  obtain ⟨result, leaves⟩ := body
  unfold writeFeaturesAndRefresh
  rw [if_neg (by simpa using filled)]
  exact ⟨_, transaction_accepts never leaves, rfl⟩

/-- A batch whose timestamp does not cast, or whose family has a stored short name that
is no identifier, is rolled back. -/
theorem writeFeaturesAndRefresh_rollsBack
    (blocked : writer.duck.castTimestamptz batch.asOf = none ∨
      ¬ Named batch.family (stored writer.durable.catalog)) :
    RollsBack (writeFeaturesAndRefresh batch.rows) writer := by
  unfold writeFeaturesAndRefresh
  rw [if_neg (by simpa using filled)]
  refine transaction_of_fails ?_
  cases casts : writer.duck.castTimestamptz batch.asOf with
  | none => exact (@writeFeatureRows_fails batch writer.begun filled casts).bind
  | some instant =>
    have misnamed : ¬ Named batch.family (stored writer.durable.catalog ++
        store writer.tenant instant batch.rows) := by
      rw [named_append]
      exact blocked.resolve_left (by simp [casts])
    obtain ⟨n, wrote⟩ := @writeFeatureRows_leaves batch writer.begun filled never _ casts
    refine wrote.bindFails fun after same made =>
      (Leaves.lift (families_eq filled) after).bindFails fun grouped same' made' => ?_
    rw [entries_eq, List.foldlM_cons]
    have present : grouped.durable.catalog.featureStore = some (stored writer.durable.catalog ++
        store writer.tenant instant batch.rows) := by
      rw [made', made]
      rfl
    have duck : grouped.duck = writer.duck := same'.duck.trans same.duck
    exact (refresh_fails (by rw [duck]; exact never) present misnamed).bind.bind

end

end FeatureBatch

end ConsumerEngine.Storage
