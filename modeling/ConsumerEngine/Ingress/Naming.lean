import ConsumerEngine.Ingress.Onboarding
import ConsumerEngine.Storage.Parameters
import ConsumerEngine.Storage.WideViews
import ConsumerEngine.Storage.Wording

/-! The names the writes accept, and the statements they are written into.

Names are checked one by one for their characters and their length. What a statement needs
beyond that depends on the first character, on the words that are reserved, and on the names
around it, those of the writer's own columns among them.
-/

set_option autoImplicit false

namespace ConsumerEngine.Ingress

open ConsumerEngine.Core ConsumerEngine.Foundation ConsumerEngine.Storage FeatureBatch

/-- A write whose names come from outside. Feature rows come with those that are stored when the
views are made. -/
inductive NamedWrite where
  | onboard (request : OnboardRequest)
  | upsertRaw (table : KeyedTable) (rows : List (List Cell))
  | applyCdcBatch (table : KeyedTable) (upserts : List (List Cell)) (deletes : List String)
      (offsets : List (Int × Int)) (updatedAt : String)
  | writeFeaturesAndRefresh (rows : List FeatureRow) (stored : List StoredFeature)

/-- The names of feature rows, written and stored. -/
def featureNames (rows : List FeatureRow) (stored : List StoredFeature) : List String :=
  rows.map FeatureRow.featureName ++ stored.map StoredFeature.featureName

namespace NamedWrite

/-- The write passes the checks of its names. -/
def Accepted : NamedWrite → Prop
  | .onboard request => request.check = .ok ()
  | .upsertRaw table _ | .applyCdcBatch table _ _ _ _ => table.sound = true
  | .writeFeaturesAndRefresh rows stored => ∀ name ∈ featureNames rows stored,
      isFeatureName name = true ∧ ∃ family short, splitFeatureName name = .ok (family, short)

/-- The statements that are built for it. -/
def statements (tenant : String) : NamedWrite → List Statement
  | .onboard request => (ChunkedWrite.ingestRaw request.system request.entity request.columns
      request.rows).statements tenant
  | .upsertRaw table rows => (ChunkedWrite.upsertRaw table rows).statements tenant
  | .applyCdcBatch table upserts deletes offsets updatedAt =>
      (ChunkedWrite.applyCdcBatch table upserts deletes offsets updatedAt).statements tenant
  | .writeFeaturesAndRefresh rows stored =>
      match batchFamilies rows with
      | .ok families => featureStatements tenant rows families stored
      | .error _ => []

/-- The raw table it writes, and its columns. -/
def table : NamedWrite → Option (Dataset × List String)
  | .onboard request => some (⟨request.system, request.entity⟩, request.columns)
  | .upsertRaw table _ | .applyCdcBatch table _ _ _ _ => some (table.dataset, table.columns)
  | .writeFeaturesAndRefresh _ _ => none

end NamedWrite

/-- Columns that can stand beside `tenant_id`. -/
structure ColumnsFit (columns : List String) : Prop where
  named : ∀ column ∈ columns, isColumnName column = true
  distinct : (columns.map foldName).Nodup
  apart : "tenant_id" ∉ columns.map foldName

/-- Features of a family whose short names can stand beside the key of its view. -/
structure ShortsFit (names : List String) (family : String) : Prop where
  named : ∀ name ∈ names, ∀ short, splitFeatureName name = .ok (family, short) →
    isColumnName short = true
  apart : ∀ name ∈ names, ∀ short, splitFeatureName name = .ok (family, short) →
    foldName short ∉ ["user_id", "tenant_id"]
  distinct : ∀ name ∈ names, ∀ other ∈ names, ∀ first second,
    splitFeatureName name = .ok (family, first) → splitFeatureName other = .ok (family, second) →
      foldName first = foldName second → first = second

/-- The condition on the names of a write. -/
def NamedWrite.Fit : NamedWrite → Prop
  | .onboard request => ColumnsFit request.columns
  | .upsertRaw table _ | .applyCdcBatch table _ _ _ _ => ColumnsFit table.columns
  | .writeFeaturesAndRefresh rows stored => ∀ row ∈ rows, ∀ family short,
      splitFeatureName row.featureName = .ok (family, short) →
        ShortsFit (featureNames rows stored) family

/-- What the names of a write do in the database. -/
structure NamedWrite.Sound (tenant : String) (write : NamedWrite) : Prop where
  wellNamed : ∀ statement ∈ write.statements tenant, statement.WellNamed
  /-- Where the table is new, it is created. -/
  created : ∀ into columns, write.table = some (into, columns) → ∀ duck catalog,
    catalog.raw (rawName into) = none →
      ∃ after, applyAll duck catalog (prologue into columns) = .ok after
  /-- The tenant a row is stored for is the writer's. -/
  stamped : ∀ into columns, write.table = some (into, columns) → ∀ cells : List Cell,
    cells.length = columns.length →
      (rowOf (columns ++ ["tenant_id"]) (cells ++ [some tenant])).tenant = some tenant

/-! ### Raw tables -/

section
variable {into : Dataset} {columns : List String} {key tenant : String}

theorem ColumnsFit.stamped (fit : ColumnsFit columns) (idents : columns.all isIdent = true) :
    (∀ name ∈ columns ++ ["tenant_id"], isUnquotedName name = true) ∧
      ((columns ++ ["tenant_id"]).map foldName).Nodup := by
  constructor
  · intro name member
    rcases List.mem_append.mp member with own | added
    · rw [isUnquotedName_of_isIdent (List.all_eq_true.mp idents name own)]
      exact fit.named name own
    · rw [List.mem_singleton.mp added]
      decide
  · rw [List.map_append, List.nodup_append]
    refine ⟨fit.distinct, List.nodup_singleton _, fun name own other added same => ?_⟩
    have tenant : name = "tenant_id" := by
      rw [same, List.mem_singleton.mp added]
      decide
    exact fit.apart (tenant ▸ own)

/-- The table is created with names that may stand there exactly if the columns fit. -/
theorem createRaw_wellNamed_iff (system : isIdent into.system = true)
    (entity : isIdent into.entity = true) (idents : columns.all isIdent = true) :
    (Statement.createRaw into (columns ++ ["tenant_id"])).WellNamed ↔ ColumnsFit columns := by
  have names : namesIn (Statement.createRaw into (columns ++ ["tenant_id"])).wording =
      rawTable into :: (columns ++ ["tenant_id"]) := by
    rw [Statement.wording, namesIn_append, namesIn_append, namesIn_listed]
    exact congrArg (rawTable into :: ·) (List.append_nil _)
  constructor
  · rintro ⟨unquoted, distinct⟩
    have parts := List.nodup_append.mp (List.map_append ▸ distinct :
      (columns.map foldName ++ ["tenant_id"].map foldName).Nodup)
    refine ⟨fun column member => ?_, parts.1, fun own => ?_⟩
    · rw [← isUnquotedName_of_isIdent (List.all_eq_true.mp idents column member)]
      refine unquoted column (names ▸ ?_)
      exact List.mem_cons_of_mem _ (List.mem_append_left _ member)
    · exact parts.2.2 _ own "tenant_id" (List.mem_singleton_self _) rfl
  · intro fit
    obtain ⟨unquoted, distinct⟩ := fit.stamped idents
    refine ⟨fun name member => ?_, distinct⟩
    rw [names] at member
    rcases List.mem_cons.mp member with rfl | column
    · exact rawTable_unquoted system entity
    · exact unquoted name column

/-- The names of a statement about a raw table are that of the table and those of its columns. -/
theorem wellNamed_of_columns {statement : Statement} (system : isIdent into.system = true)
    (entity : isIdent into.entity = true)
    (unquoted : ∀ name ∈ columns ++ ["tenant_id"], isUnquotedName name = true)
    (names : ∀ name ∈ namesIn statement.wording,
      name = rawTable into ∨ name ∈ columns ++ ["tenant_id"])
    (distinct : (statement.columnNames.map foldName).Nodup) : statement.WellNamed := by
  refine ⟨fun name member => ?_, distinct⟩
  rcases names name member with rfl | column
  · exact rawTable_unquoted system entity
  · exact unquoted name column

theorem mem_namesIn_mergeUpsert {name : String} {count : Nat} {params : List Cell}
    (named : name ∈ namesIn (Statement.mergeUpsert into columns key count params).wording) :
    name = rawTable into ∨ name ∈ columns ∨ name = key := by
  simp only [Statement.wording, namesIn_append, namesIn_listed, namesIn_sql, namesIn_name,
    namesIn_nil, List.append_nil, List.mem_append, List.mem_cons, List.not_mem_nil, or_false,
    mem_namesIn_assigned] at named
  tauto

variable (system : isIdent into.system = true) (entity : isIdent into.entity = true)
  (idents : columns.all isIdent = true) (fit : ColumnsFit columns)
include system entity idents fit

theorem prologue_wellNamed : ∀ statement ∈ prologue into columns, statement.WellNamed := by
  intro statement member
  rcases List.mem_cons.mp member with rfl | last
  · exact (createRaw_wellNamed_iff system entity idents).mpr fit
  · rw [List.mem_singleton.mp last]
    refine wellNamed_of_columns system entity (fit.stamped idents).1 (fun name named => ?_)
      List.nodup_nil
    have among : name ∈ [rawTable into, "tenant_id"] := named
    rcases List.mem_cons.mp among with rfl | tenant
    · exact .inl rfl
    · exact .inr (List.mem_append_right _ tenant)

theorem insertStatement_wellNamed (chunk : List (List Cell)) :
    (insertStatement into columns tenant chunk).WellNamed := by
  refine wellNamed_of_columns system entity (fit.stamped idents).1 (fun name named => ?_)
    (fit.stamped idents).2
  rw [insertStatement, Statement.wording, namesIn_append, namesIn_append, namesIn_listed,
    List.append_assoc, List.mem_append] at named
  rcases named with table | column
  · exact .inl (List.mem_singleton.mp table)
  · exact .inr ((List.mem_append.mp column).resolve_right List.not_mem_nil)

theorem mergeUpsert_wellNamed (keyed : key ∈ columns) (count : Nat) (params : List Cell) :
    (Statement.mergeUpsert into (columns ++ ["tenant_id"]) key count params).WellNamed := by
  refine wellNamed_of_columns system entity (fit.stamped idents).1 (fun name named => ?_)
    (fit.stamped idents).2
  have key_ : key ∈ columns ++ ["tenant_id"] := List.mem_append_left _ keyed
  rcases mem_namesIn_mergeUpsert named with table | column | rfl
  · exact .inl table
  · exact .inr column
  · exact .inr key_

theorem mergeDelete_wellNamed (keyed : key ∈ columns) (keys : List String) :
    (Statement.mergeDelete into key keys tenant).WellNamed := by
  refine wellNamed_of_columns system entity (fit.stamped idents).1 (fun name named => ?_)
    (List.nodup_singleton _)
  have key_ : key ∈ columns ++ ["tenant_id"] := List.mem_append_left _ keyed
  have among : name ∈ [rawTable into, key, key, key, "tenant_id"] := named
  simp only [List.mem_cons, List.not_mem_nil, or_false] at among
  rcases among with rfl | rfl | rfl | rfl | rfl
  · exact .inl rfl
  iterate 3 exact .inr key_
  · exact .inr (List.mem_append_right _ (List.mem_singleton_self _))

end

/-! ### Wide views -/

theorem insertShort_nodup {shorts : List String} {short : String} (once : shorts.Nodup) :
    (insertShort shorts short).Nodup := by
  unfold insertShort
  split
  · exact once
  · next absent =>
    have fresh : short ∉ shorts := by simpa using absent
    refine List.perm_middle.nodup_iff.mpr (List.nodup_cons.mpr ?_)
    rw [List.takeWhile_append_dropWhile]
    exact ⟨fresh, once⟩

theorem foldl_insertShort_nodup {added shorts : List String} (once : shorts.Nodup) :
    (added.foldl insertShort shorts).Nodup := by
  induction added generalizing shorts with
  | nil => exact once
  | cons short added ih => exact ih (insertShort_nodup once)

theorem shortsIn_nodup (family : String) (rows : List StoredFeature) :
    (shortsIn family rows).Nodup := by
  rw [shortsIn]
  refine List.foldlRecOn _ _ List.nodup_nil fun shorts once row _ => ?_
  split
  · exact insertShort_nodup once
  · exact once

/-- A view is made with names that may stand there exactly if its short names can. -/
theorem createView_wellNamed_iff {family : String} {shorts : List String}
    (ident : isIdent family = true) (idents : ∀ short ∈ shorts, isIdent short = true)
    (once : shorts.Nodup) :
    (Statement.createView family shorts).WellNamed ↔
      (∀ short ∈ shorts, isColumnName short = true) ∧
      (∀ short ∈ shorts, foldName short ∉ ["user_id", "tenant_id"]) ∧
      ∀ first ∈ shorts, ∀ second ∈ shorts, foldName first = foldName second → first = second := by
  have names : namesIn (Statement.createView family shorts).wording =
      ["feature_wide_" ++ family, "user_id", "tenant_id"] ++ shorts := by
    simp only [Statement.wording, namesIn_append, namesIn_separated, namesIn_sql, namesIn_name,
      namesIn_nil, List.flatMap_cons, List.flatMap_map, List.flatMap_singleton', List.append_nil,
      List.cons_append, List.nil_append]
  have keys : ["user_id", "tenant_id"].map foldName = ["user_id", "tenant_id"] := by decide
  have distinct : (("user_id" :: "tenant_id" :: shorts).map foldName).Nodup ↔
      (∀ short ∈ shorts, foldName short ∉ ["user_id", "tenant_id"]) ∧
        ∀ first ∈ shorts, ∀ second ∈ shorts, foldName first = foldName second → first = second := by
    rw [← List.nodup_map_iff_inj_on once, show ("user_id" :: "tenant_id" :: shorts).map foldName =
      ["user_id", "tenant_id"] ++ shorts.map foldName by rw [← keys, ← List.map_append]; rfl,
      List.nodup_append]
    constructor
    · rintro ⟨-, shorts_, apart⟩
      exact ⟨fun short member key => apart _ key _ (List.mem_map_of_mem member) rfl, shorts_⟩
    · rintro ⟨apart, shorts_⟩
      refine ⟨by decide, shorts_, fun key listed folded member same => ?_⟩
      obtain ⟨short, among, rfl⟩ := List.mem_map.mp member
      exact apart short among (same ▸ listed)
  have unquoted : (∀ name ∈ namesIn (Statement.createView family shorts).wording,
      isUnquotedName name = true) ↔ ∀ short ∈ shorts, isColumnName short = true := by
    rw [names, List.forall_mem_append]
    constructor
    · intro all short member
      rw [← isUnquotedName_of_isIdent (idents short member)]
      exact all.2 short member
    · intro shorts_
      refine ⟨fun name own => ?_, fun short member => ?_⟩
      · rcases List.mem_cons.mp own with rfl | key
        · exact wideTable_unquoted ident
        · exact (by decide : ∀ key ∈ ["user_id", "tenant_id"], isUnquotedName key = true) name key
      · rw [isUnquotedName_of_isIdent (idents short member)]
        exact shorts_ short member
  exact ⟨fun named => ⟨unquoted.mp named.unquoted, distinct.mp named.distinct⟩,
    fun ⟨shorts_, apart⟩ => ⟨unquoted.mpr shorts_, distinct.mpr apart⟩⟩

theorem featurePrologue_plain {statement : Statement} (member : statement ∈ featurePrologue) :
    statement.Plain := by
  rcases List.mem_cons.mp member with rfl | last
  · exact ⟨rfl, rfl⟩
  · rw [List.mem_singleton.mp last]
    exact ⟨rfl, rfl⟩

theorem featureRows_plain {rows : List FeatureRow} {size : Nat} {tenant : String}
    {statement : Statement} (member : statement ∈ featurePrologue ++
      (chunks size rows).map fun chunk => .insertFeatures chunk tenant) :
    statement.Plain := by
  rcases List.mem_append.mp member with opening | inserted
  · exact featurePrologue_plain opening
  · obtain ⟨chunk, -, rfl⟩ := List.mem_map.mp inserted
    exact ⟨rfl, rfl⟩

/-- The short name of every row of a batch is listed under its family. -/
theorem batchFamilies_covers {rows : List FeatureRow} {families : SortedMap String (List String)}
    (grouped : batchFamilies rows = .ok families) {row : FeatureRow} (member : row ∈ rows)
    {family short : String} (split : splitFeatureName row.featureName = .ok (family, short)) :
    ∃ shorts, (family, shorts) ∈ families.entries ∧ short ∈ shorts := by
  have general (batch : List FeatureRow) (start : SortedMap String (List String))
      (grouped : batch.foldlM addFamily start = .ok families) :
      (∀ family short, short ∈ (start.get family).getD [] →
        short ∈ (families.get family).getD []) ∧
      ∀ row ∈ batch, ∀ family short, splitFeatureName row.featureName = .ok (family, short) →
        short ∈ (families.get family).getD [] := by
    induction batch generalizing start with
    | nil =>
      cases grouped
      exact ⟨fun _ _ => id, fun _ member => (nomatch member)⟩
    | cons row batch ih =>
      rw [List.foldlM_cons] at grouped
      obtain ⟨next, here, later⟩ := except_bind_eq_ok.mp grouped
      obtain ⟨own, first, split, rfl⟩ := addFamily_ok here
      obtain ⟨kept, others⟩ := ih _ later
      refine ⟨fun family short before => kept family short ?_, List.forall_mem_cons.mpr ⟨?_, others⟩⟩
      · by_cases same : family = own
        · rw [same, SortedMap.get_insert_self, Option.getD_some]
          exact mem_insertShort.mpr (.inr (same ▸ before))
        · rwa [SortedMap.get_insert_of_ne _ _ same]
      · intro family short split'
        rw [split, Except.ok.injEq, Prod.mk.injEq] at split'
        obtain ⟨rfl, rfl⟩ := split'
        refine kept own first ?_
        rw [SortedMap.get_insert_self, Option.getD_some]
        exact mem_insertShort.mpr (.inl rfl)
  have among := (general rows SortedMap.empty grouped).2 row member family short split
  cases found : families.get family with
  | none =>
    rw [found] at among
    cases among
  | some shorts =>
    rw [found] at among
    exact ⟨shorts, SortedMap.get_eq_some.mp found, among⟩

section
variable {rows : List FeatureRow} {stored : List StoredFeature}
  {families : SortedMap String (List String)} {entry : String × List String} {tenant : String}

/-- A view has a column for each feature of its family that is written or stored. -/
theorem mem_viewShorts
    (known : ∀ name ∈ featureNames rows stored, ∃ family short,
      splitFeatureName name = .ok (family, short))
    (grouped : batchFamilies rows = .ok families) (among : entry ∈ families.entries)
    {short : String} :
    short ∈ entry.2.foldl insertShort (shortsIn entry.1 stored) ↔
      ∃ name ∈ featureNames rows stored, splitFeatureName name = .ok (entry.1, short) := by
  obtain ⟨first, taken⟩ := List.exists_mem_of_ne_nil _ (batchFamilies_filled grouped entry among)
  obtain ⟨source, _, split⟩ := batchFamilies_short grouped entry among first taken
  have ident := (splitFeatureName_ident split).1
  rw [mem_foldl_insertShort, mem_shortsIn]
  constructor
  · rintro (batch | ⟨row, member, own⟩)
    · obtain ⟨row, member, split⟩ := batchFamilies_short grouped entry among short batch
      exact ⟨_, List.mem_append_left _ (List.mem_map_of_mem member), split⟩
    · have listed : row.featureName ∈ featureNames rows stored :=
        List.mem_append_right _ (List.mem_map_of_mem member)
      obtain ⟨family, other, split⟩ := known _ listed
      exact ⟨_, listed, (shortOf_eq_some ident split).mp own⟩
  · rintro ⟨name, listed, split⟩
    rcases List.mem_append.mp listed with written | kept
    · obtain ⟨row, member, rfl⟩ := List.mem_map.mp written
      obtain ⟨shorts, found, here⟩ := batchFamilies_covers grouped member split
      exact .inl (SortedMap.entry_unique families found among rfl ▸ here)
    · obtain ⟨row, member, rfl⟩ := List.mem_map.mp kept
      exact .inr ⟨row, member, (shortOf_eq_some ident split).mpr split⟩

theorem features_wellNamed_iff
    (known : ∀ name ∈ featureNames rows stored, ∃ family short,
      splitFeatureName name = .ok (family, short))
    (grouped : batchFamilies rows = .ok families) :
    (∀ statement ∈ featureStatements tenant rows families stored, statement.WellNamed) ↔
      ∀ row ∈ rows, ∀ family short, splitFeatureName row.featureName = .ok (family, short) →
        ShortsFit (featureNames rows stored) family := by
  have view : ∀ entry ∈ families.entries,
      (Statement.createView entry.1 (entry.2.foldl insertShort (shortsIn entry.1 stored))).WellNamed ↔
        ShortsFit (featureNames rows stored) entry.1 := by
    intro entry among
    have mem := @mem_viewShorts rows stored families entry known grouped among
    obtain ⟨first, taken⟩ := List.exists_mem_of_ne_nil _ (batchFamilies_filled grouped entry among)
    obtain ⟨source, _, split⟩ := batchFamilies_short grouped entry among first taken
    have idents : ∀ short ∈ entry.2.foldl insertShort (shortsIn entry.1 stored),
        isIdent short = true := by
      intro short member
      obtain ⟨name, -, split⟩ := mem.mp member
      exact (splitFeatureName_ident split).2
    rw [createView_wellNamed_iff (splitFeatureName_ident split).1 idents
      (foldl_insertShort_nodup (shortsIn_nodup _ _))]
    constructor
    · rintro ⟨named, apart, distinct⟩
      exact ⟨fun name listed short split => named short (mem.mpr ⟨name, listed, split⟩),
        fun name listed short split => apart short (mem.mpr ⟨name, listed, split⟩),
        fun name listed other listed' first second split split' =>
          distinct first (mem.mpr ⟨name, listed, split⟩) second (mem.mpr ⟨other, listed', split'⟩)⟩
    · rintro ⟨named, apart, distinct⟩
      refine ⟨fun short member => ?_, fun short member => ?_, fun first one second two => ?_⟩
      · obtain ⟨name, listed, split⟩ := mem.mp member
        exact named name listed short split
      · obtain ⟨name, listed, split⟩ := mem.mp member
        exact apart name listed short split
      · obtain ⟨name, listed, split⟩ := mem.mp one
        obtain ⟨other, listed', split'⟩ := mem.mp two
        exact distinct name listed other listed' first second split split'
  constructor
  · intro named row member family short split
    obtain ⟨shorts, among, -⟩ := batchFamilies_covers grouped member split
    refine (view _ among).mp (named _ (List.mem_append_right _ ?_))
    exact List.mem_flatMap.mpr ⟨_, among, List.mem_append_right _ (List.mem_singleton_self _)⟩
  · intro fit statement member
    rcases List.mem_append.mp member with before | viewed
    · exact plain_wellNamed (featureRows_plain before)
    · obtain ⟨entry, among, here⟩ := List.mem_flatMap.mp viewed
      rcases List.mem_append.mp here with opening | made
      · exact plain_wellNamed (featurePrologue_plain (List.mem_append.mp opening |>.elim id id))
      · obtain ⟨first, taken⟩ :=
          List.exists_mem_of_ne_nil _ (batchFamilies_filled grouped entry among)
        obtain ⟨row, written, split⟩ := batchFamilies_short grouped entry among first taken
        rw [List.mem_singleton.mp made]
        exact (view entry among).mpr (fit row written entry.1 first split)

end

/-! ### Accepted writes -/

section
variable {write : NamedWrite} {into : Dataset} {columns : List String} {tenant : String}

theorem KeyedTable.idents_of_sound {table : KeyedTable} (sound : table.sound = true) :
    isIdent table.system = true ∧ isIdent table.entity = true ∧
      table.columns.all isIdent = true ∧ table.key ∈ table.columns := by
  have keyed := KeyedTable.sound_keyed sound
  simp only [KeyedTable.sound, Bool.and_eq_true] at sound
  exact ⟨sound.1.2, sound.2, sound.1.1.1.1.2, by simpa using keyed⟩

theorem NamedWrite.Accepted.idents (accepted : write.Accepted)
    (owns : write.table = some (into, columns)) :
    isIdent into.system = true ∧ isIdent into.entity = true ∧ columns.all isIdent = true := by
  cases write with
  | onboard request =>
    cases owns
    have sound := (OnboardRequest.checked_of_ok accepted).sound
    simp only [IngestTable.sound, OnboardRequest.table, Bool.and_eq_true] at sound
    exact ⟨sound.1.2, sound.2, sound.1.1.2⟩
  | upsertRaw table rows =>
    cases owns
    obtain ⟨system, entity, idents, -⟩ := KeyedTable.idents_of_sound accepted
    exact ⟨system, entity, idents⟩
  | applyCdcBatch table upserts deletes offsets updatedAt =>
    cases owns
    obtain ⟨system, entity, idents, -⟩ := KeyedTable.idents_of_sound accepted
    exact ⟨system, entity, idents⟩
  | writeFeaturesAndRefresh rows stored => cases owns

/-- A raw write makes sure of its table; what follows is well named if the columns fit. -/
theorem raw_statements (accepted : write.Accepted) (owns : write.table = some (into, columns)) :
    ∃ rest, write.statements tenant = prologue into columns ++ rest ∧
      (ColumnsFit columns → ∀ statement ∈ rest, statement.WellNamed) := by
  obtain ⟨system, entity, idents⟩ := accepted.idents owns
  cases write with
  | onboard request =>
    cases owns
    refine ⟨_, rfl, fun fit statement member => ?_⟩
    obtain ⟨chunk, -, rfl⟩ := List.mem_map.mp member
    exact insertStatement_wellNamed system entity idents fit chunk
  | upsertRaw table rows =>
    cases owns
    obtain ⟨-, -, -, keyed⟩ := KeyedTable.idents_of_sound accepted
    refine ⟨_, rfl, fun fit statement member => ?_⟩
    obtain ⟨chunk, -, rfl⟩ := List.mem_map.mp member
    exact mergeUpsert_wellNamed system entity idents fit keyed _ _
  | applyCdcBatch table upserts deletes offsets updatedAt =>
    cases owns
    obtain ⟨-, -, -, keyed⟩ := KeyedTable.idents_of_sound accepted
    refine ⟨_, rfl, fun fit statement member => ?_⟩
    rcases List.mem_append.mp member with offsetTable | member
    · rw [List.mem_singleton.mp offsetTable]
      exact plain_wellNamed ⟨rfl, rfl⟩
    rcases List.mem_append.mp member with data | committed
    · rcases List.mem_append.mp data with upserted | deleted
      · obtain ⟨chunk, -, rfl⟩ := List.mem_map.mp upserted
        exact mergeUpsert_wellNamed system entity idents fit keyed _ _
      · obtain ⟨chunk, -, rfl⟩ := List.mem_map.mp deleted
        exact mergeDelete_wellNamed system entity idents fit keyed _
    · obtain ⟨offset, -, rfl⟩ := List.mem_map.mp committed
      exact plain_wellNamed ⟨rfl, rfl⟩
  | writeFeaturesAndRefresh rows stored => cases owns

theorem raw_wellNamed_iff (accepted : write.Accepted)
    (owns : write.table = some (into, columns)) :
    (∀ statement ∈ write.statements tenant, statement.WellNamed) ↔ ColumnsFit columns := by
  obtain ⟨system, entity, idents⟩ := accepted.idents owns
  obtain ⟨rest, whole, wellNamed⟩ := raw_statements accepted owns
  rw [whole, List.forall_mem_append]
  constructor
  · rintro ⟨ready, -⟩
    exact (createRaw_wellNamed_iff system entity idents).mp (ready _ List.mem_cons_self)
  · exact fun fit => ⟨prologue_wellNamed system entity idents fit, wellNamed fit⟩

/-- Columns that fit can be created with the tenant's. -/
theorem ColumnsFit.created (fit : ColumnsFit columns) (idents : columns.all isIdent = true)
    {catalog : Catalog} (new : catalog.raw (rawName into) = none) :
    ∃ known, catalog.ensured into columns = some known := by
  obtain ⟨unquoted, distinct⟩ := fit.stamped idents
  have named : (columns ++ ["tenant_id"]).all isColumnName = true := by
    refine List.all_eq_true.mpr fun name member => ?_
    exact (Bool.and_eq_true_iff.mp (unquoted name member)).2
  refine ⟨(columns ++ ["tenant_id"]).map foldName, ?_⟩
  rw [Catalog.ensured, Catalog.columnsOf, new]
  simp only [Option.map_none, named, distinct, decide_true, Bool.and_self, if_true]

/-- The stamp of a row is behind the cells of the caller, and read if no column is called so. -/
theorem ColumnsFit.tenant_read (fit : ColumnsFit columns) (idents : columns.all isIdent = true)
    {cells : List Cell} (aligned : cells.length = columns.length) (tenant : String) :
    (rowOf (columns ++ ["tenant_id"]) (cells ++ [some tenant])).tenant = some tenant := by
  have folded : foldName "tenant_id" = "tenant_id" := by decide
  have named : (columns ++ ["tenant_id"])[columns.length]? = some "tenant_id" := by simp
  have held : (cells ++ [some tenant])[columns.length]? = some (some tenant) := by
    simp [← aligned]
  have read := rowOf_eq_getElem (fit.stamped idents).2 named held
  rwa [folded] at read

/-- The features of a write that is accepted can be grouped by family. -/
theorem batchFamilies_of_known {rows : List FeatureRow}
    (known : ∀ row ∈ rows, ∃ family short, splitFeatureName row.featureName = .ok (family, short)) :
    ∃ families, batchFamilies rows = .ok families := by
  have general : ∀ start : SortedMap String (List String),
      ∃ families, rows.foldlM addFamily start = .ok families := by
    induction rows with
    | nil => exact fun start => ⟨start, rfl⟩
    | cons row rows ih =>
      intro start
      obtain ⟨family, short, split⟩ := known row List.mem_cons_self
      obtain ⟨families, rest⟩ := ih (fun other member => known other (List.mem_cons_of_mem _ member))
        (start.insert family (insertShort ((start.get family).getD []) short))
      refine ⟨families, ?_⟩
      rw [List.foldlM_cons, addFamily, split]
      exact rest
  exact general SortedMap.empty

end

/-- A source with these columns. -/
def usersWith (columns : List String) : OnboardRequest :=
  ⟨"crm", "users", columns, [columns.map some], none⟩

end ConsumerEngine.Ingress
