import Mathlib.Data.Finset.Max
import Mathlib.Data.Int.Order.Basic
import Mathlib.Data.Prod.Lex
import ConsumerEngine.Storage.Atomicity

/-! The wide views over whole runs of feature writes.

A view is made anew from what is stored with each batch of its family, and found by its name
without regard to case. After any run the view of a family lists exactly what is stored of it.
-/

set_option autoImplicit false

namespace ConsumerEngine.Storage

open ConsumerEngine.Core ConsumerEngine.Foundation FeatureBatch

/-! ### Reading a view -/

/-- The wide view a name finds. -/
def Catalog.wideView (catalog : Catalog) (family : String) : Option (String × List String) :=
  catalog.featureViews.find? fun view => foldName view.1 = foldName family

/-- What the cells of a view are made of; `newest` is `arg_max(num_value, as_of_ts)`. -/
structure ViewCells (V : Type) where
  null : V
  text : String → V
  newest : Multiset (F64 × Int) → V

section
variable {V : Type} (cells : ViewCells V)

/-- The rows that `GROUP BY user_id, tenant_id` puts together. -/
def groupOf (family user : String) (tenant : Option String) (rows : List StoredFeature) :
    List StoredFeature :=
  rows.filter fun row => (family ++ ".").toList.isPrefixOf row.featureName.toList &&
    (row.userId == user && row.tenantId == tenant)

/-- `arg_max(num_value, as_of_ts) FILTER (WHERE feature_name = '…')`. -/
def newestOf (name : String) (rows : List StoredFeature) : V :=
  cells.newest ((rows.filter fun row => row.featureName = name).map fun row =>
    (row.numValue, row.asOfTs) : List (F64 × Int))

/-- The columns of a view, with the cells of one group. -/
def viewRow (view : String × List String) (user : String) (tenant : Option String)
    (group : List StoredFeature) : List (String × V) :=
  ("user_id", cells.text user) :: ("tenant_id", tenant.elim cells.null cells.text) ::
    view.2.map fun short => (short, newestOf cells (view.1 ++ "." ++ short) group)

/-- The cell under a name: that of the first column called so. -/
def cellAt (row : List (String × V)) (column : String) : Option V :=
  (row.find? fun cell => foldName cell.1 = foldName column).map Prod.snd

/-- What a column of `feature_wide_<family>` holds for a user of a tenant. -/
def Catalog.wideCell (catalog : Catalog) (family column user tenant : String) : Option V := do
  let view ← catalog.wideView family
  let group := groupOf view.1 user (some tenant) (stored catalog)
  if group.isEmpty then none else cellAt (viewRow cells view user (some tenant) group) column

/-- `arg_max` over exactly the rows of a feature that a user of a tenant has. -/
def latest (rows : List StoredFeature) (tenant user name : String) : V :=
  newestOf cells name (rows.filter fun row => row.userId = user ∧ row.tenantId = some tenant)

end

/-- `arg_max(value, instant)`: a value at the highest instant. Which one of several is open. -/
structure ArgMax where
  pick : Multiset (F64 × Int) → Option F64
  pick_newest : ∀ rows value, pick rows = some value →
    ∃ instant, (value, instant) ∈ rows ∧ ∀ other ∈ rows, other.2 ≤ instant
  pick_isSome : ∀ rows, rows ≠ 0 → (pick rows).isSome = true

/-- The cells of a view as values of a query. -/
def storeCells (argMax : ArgMax) : ViewCells Value :=
  ⟨.null, .text, fun rows => (argMax.pick rows).elim .null .double⟩

/-- The instants with their values, in order. -/
def ordered (rows : Multiset (F64 × Int)) : Finset (Lex (Int × F64)) :=
  (rows.map fun row => toLex (row.2, row.1)).toFinset

theorem mem_ordered {rows : Multiset (F64 × Int)} {row : F64 × Int} :
    toLex (row.2, row.1) ∈ ordered rows ↔ row ∈ rows := by
  simp [ordered]

/-- Of several values at the highest instant, the highest. -/
def ArgMax.highest : ArgMax where
  pick rows := WithBot.recBotCoe none (fun top => some (ofLex top).2) (ordered rows).max
  pick_newest rows value picked := by
    cases found : (ordered rows).max using WithBot.recBotCoe with
    | bot => simp [found] at picked
    | coe top =>
      rw [found, WithBot.recBotCoe_coe, Option.some.injEq] at picked
      refine ⟨(ofLex top).1, mem_ordered.mp (picked ▸ Finset.mem_of_max found), fun other among => ?_⟩
      rcases Prod.Lex.le_iff.mp (Finset.le_max_of_eq (mem_ordered.mpr among) found) with less | tie
      · exact less.le
      · exact tie.1.le
  pick_isSome rows filled := by
    obtain ⟨row, member⟩ := Multiset.exists_mem_of_ne_zero filled
    obtain ⟨top, found⟩ := Finset.max_of_mem (mem_ordered.mpr member)
    rw [found]
    rfl

/-- The family of a stored feature. -/
def familyOf (row : StoredFeature) : Option String :=
  (splitFeatureName row.featureName).toOption.map Prod.fst

/-! ### Names -/

theorem familyOf_eq_some {row : StoredFeature} {family : String} :
    familyOf row = some family ↔ ∃ short, splitFeatureName row.featureName = .ok (family, short) := by
  unfold familyOf
  cases splitFeatureName row.featureName with
  | error failure => simp [Except.toOption]
  | ok parts =>
    obtain ⟨first, second⟩ := parts
    simp [Except.toOption]

theorem isIdent_noDot {name : String} (ident : isIdent name = true) :
    ∀ c ∈ name.toList, (c != '.') = true := by
  intro c member
  have word := isIdent_chars ident c member
  have notDot : c ≠ '.' := by
    rintro rfl
    exact absurd word (by decide)
  simpa using notDot

theorem takeWhile_dotted {name : String} (ident : isIdent name = true) (rest : List Char) :
    (name.toList ++ '.' :: rest).takeWhile (· != '.') = name.toList := by
  rw [List.takeWhile_append_of_pos (isIdent_noDot ident)]
  simp

/-- A name begins with a family and a dot exactly if that is its family. -/
theorem begins_iff {name family other short : String} (ident : isIdent other = true)
    (split : splitFeatureName name = .ok (family, short)) :
    (other ++ ".").toList.isPrefixOf name.toList = true ↔ other = family := by
  have idents := splitFeatureName_ident split
  have whole : name.toList = family.toList ++ '.' :: short.toList := by
    rw [splitFeatureName_eq split]
    simp
  rw [List.isPrefixOf_iff_prefix, whole, String.toList_append]
  constructor
  · rintro ⟨rest, same⟩
    have first := congrArg (List.takeWhile (· != '.')) same
    rw [takeWhile_dotted idents.1, show (".".toList : List Char) = ['.'] from rfl,
      List.append_assoc, List.singleton_append, takeWhile_dotted ident] at first
    exact String.toList_inj.mp first
  · rintro rfl
    exact ⟨short.toList, by simp⟩

theorem shortOf_eq_some {row : StoredFeature} {family short : String} (ident : isIdent family = true)
    {parts : String × String} (split : splitFeatureName row.featureName = .ok parts) :
    shortOf family row = some short ↔ splitFeatureName row.featureName = .ok (family, short) := by
  obtain ⟨first, second⟩ := parts
  have once := (splitFeatureName_parts split).1
  unfold shortOf
  rw [once, split, Option.map_some, Except.ok.injEq, Prod.mk.injEq]
  by_cases same : family = first
  · rw [if_pos ((begins_iff ident split).mpr same), Option.some.injEq]
    exact ⟨fun short => ⟨same.symm, short⟩, fun both => both.2⟩
  · rw [if_neg (mt (begins_iff ident split).mp same)]
    exact ⟨fun none => (nomatch none), fun both => absurd both.1.symm same⟩

/-! ### What a batch comes to -/

theorem applyAll_featurePrologue (duck : DuckDb) (catalog : Catalog) :
    applyAll duck catalog featurePrologue = .ok (catalog.addFeatures []) := by
  simp [featurePrologue, applyAll, Statement.apply, Catalog.addFeatures, bind, Except.bind]

/-- Chunk by chunk, the rows of a batch are stored behind those before. -/
theorem applyAll_insertFeatures {duck : DuckDb} {tenant : String} {pieces : List (List FeatureRow)}
    {catalog after : Catalog} {rows : List StoredFeature} (present : catalog.featureStore = some rows)
    (applied : applyAll duck catalog (pieces.map fun chunk => .insertFeatures chunk tenant) =
      .ok after) :
    ∃ added, pieces.flatten.mapM (storedFeature duck tenant) = .ok added ∧
      after = catalog.addFeatures added := by
  induction pieces generalizing catalog rows with
  | nil =>
    cases applied
    exact ⟨[], rfl, (Catalog.addFeatures_nil present).symm⟩
  | cons chunk pieces ih =>
    obtain ⟨⟨affected, middle⟩, inserted, later⟩ := except_bind_eq_ok.mp applied
    simp only [Statement.apply, present, presentIf] at inserted
    obtain ⟨_, ⟨⟩, inserted⟩ := except_bind_eq_ok.mp inserted
    obtain ⟨added, converted, placed⟩ := except_bind_eq_ok.mp inserted
    cases placed
    obtain ⟨others, rest, rfl⟩ := ih rfl later
    refine ⟨added ++ others, ?_, ?_⟩
    · rw [List.flatten_cons, List.mapM_append, converted]
      simp only [bind, Except.bind, rest]
      rfl
    · simp [Catalog.addFeatures, present]

/-- The views with the one of a family over these rows. -/
def redraw (rows : List StoredFeature) (views : List (String × List String))
    (entry : String × List String) : List (String × List String) :=
  (entry.1, entry.2.foldl insertShort (shortsIn entry.1 rows)) ::
    views.filter fun view => foldName view.1 ≠ foldName entry.1

theorem applyAll_viewStatements {duck : DuckDb} {entries : List (String × List String)}
    {catalog after : Catalog} {named rows : List StoredFeature}
    (present : catalog.featureStore = some rows)
    (applied : applyAll duck catalog (entries.flatMap (viewStatements named)) = .ok after) :
    after.featureStore = some rows ∧
      after.featureViews = entries.foldl (redraw named) catalog.featureViews := by
  induction entries generalizing catalog with
  | nil =>
    cases applied
    exact ⟨present, rfl⟩
  | cons entry entries ih =>
    have ready : applyAll duck catalog featurePrologue = .ok catalog := by
      rw [applyAll_featurePrologue, Catalog.addFeatures_nil present]
    rw [List.flatMap_cons, viewStatements, List.append_assoc, List.append_assoc,
      applyAll_append ready, applyAll_append ready] at applied
    obtain ⟨⟨affected, middle⟩, created, later⟩ := except_bind_eq_ok.mp applied
    simp only [Statement.apply, present, presentIf] at created
    obtain ⟨_, ⟨⟩, returned⟩ := except_bind_eq_ok.mp created
    cases returned
    obtain ⟨kept, drawn⟩ := ih rfl later
    exact ⟨kept, drawn⟩

/-- What a committed batch leaves. -/
structure BatchWritten (duck : DuckDb) (tenant : String) (rows : List FeatureRow)
    (before after : Catalog) : Prop where
  grouped : ∃ families, batchFamilies rows = .ok families ∧
    after.featureViews = families.entries.foldl (redraw (stored after)) before.featureViews
  added : ∃ added, rows.mapM (storedFeature duck tenant) = .ok added ∧
    stored after = stored before ++ added

theorem featureStatements_applied {duck : DuckDb} {tenant : String} {rows : List FeatureRow}
    {families : SortedMap String (List String)} {before after : Catalog}
    (grouped : batchFamilies rows = .ok families)
    (applied : applyAll duck before
      (featureStatements tenant rows families (stored after)) = .ok after) :
    BatchWritten duck tenant rows before after := by
  have positive : 0 < min 500 (maxParams / max 6 1) := by decide
  obtain ⟨middle, inserted, viewed⟩ := applyAll_append_ok applied
  rw [applyAll_append (applyAll_featurePrologue duck before)] at inserted
  obtain ⟨added, converted, rfl⟩ := applyAll_insertFeatures rfl inserted
  rw [chunks_flatten positive] at converted
  rw [Catalog.addFeatures_addFeatures, List.nil_append] at viewed
  obtain ⟨held, drawn⟩ := applyAll_viewStatements rfl viewed
  refine ⟨⟨families, grouped, drawn⟩, added, converted, ?_⟩
  rw [stored, held]
  rfl

/-! ### Names of a batch -/

theorem storedFeature_ok {duck : DuckDb} {tenant : String} {row : FeatureRow} {added : StoredFeature}
    (converted : storedFeature duck tenant row = .ok added) :
    ∃ instant, duck.castTimestamptz row.asOfTs = some instant ∧
      added = ⟨row.userId, row.featureName, row.numValue, instant, row.producerId, some tenant⟩ := by
  unfold storedFeature at converted
  cases cast : duck.castTimestamptz row.asOfTs with
  | none =>
    rw [cast] at converted
    cases converted
  | some instant =>
    rw [cast] at converted
    exact ⟨instant, rfl, (Except.ok.inj converted).symm⟩

/-- The rows of a batch, one by one. -/
theorem mem_mapM_ok {α β : Type} {f : α → Except String β} {items : List α} {made : List β}
    (mapped : items.mapM f = .ok made) :
    (∀ value ∈ made, ∃ item ∈ items, f item = .ok value) ∧
      ∀ item ∈ items, ∃ value ∈ made, f item = .ok value := by
  induction items generalizing made with
  | nil =>
    cases mapped
    exact ⟨fun _ member => (nomatch member), fun _ member => (nomatch member)⟩
  | cons item items ih =>
    rw [List.mapM_cons] at mapped
    obtain ⟨first, here, mapped⟩ := except_bind_eq_ok.mp mapped
    obtain ⟨others, rest, made⟩ := except_bind_eq_ok.mp mapped
    cases made
    obtain ⟨back, forth⟩ := ih rest
    constructor
    · intro value member
      rcases List.mem_cons.mp member with rfl | later
      · exact ⟨item, by simp, here⟩
      · obtain ⟨source, among, same⟩ := back value later
        exact ⟨source, List.mem_cons_of_mem _ among, same⟩
    · intro source member
      rcases List.mem_cons.mp member with rfl | later
      · exact ⟨first, by simp, here⟩
      · obtain ⟨value, among, same⟩ := forth source later
        exact ⟨value, List.mem_cons_of_mem _ among, same⟩

/-- Every row of a batch has its family among those of the batch. -/
theorem batchFamilies_family {rows : List FeatureRow} {families : SortedMap String (List String)}
    (grouped : batchFamilies rows = .ok families) :
    ∀ row ∈ rows, ∃ family short, splitFeatureName row.featureName = .ok (family, short) ∧
      (families.get family).isSome = true := by
  have general (batch : List FeatureRow) (start : SortedMap String (List String))
      (grouped : batch.foldlM addFamily start = .ok families) :
      (∀ key, (start.get key).isSome = true → (families.get key).isSome = true) ∧
        ∀ row ∈ batch, ∃ family short, splitFeatureName row.featureName = .ok (family, short) ∧
          (families.get family).isSome = true := by
    induction batch generalizing start with
    | nil =>
      cases grouped
      exact ⟨fun _ => id, fun _ member => (nomatch member)⟩
    | cons row batch ih =>
      rw [List.foldlM_cons] at grouped
      obtain ⟨next, here, later⟩ := except_bind_eq_ok.mp grouped
      obtain ⟨family, short, split, rfl⟩ := addFamily_ok here
      obtain ⟨kept, others⟩ := ih _ later
      refine ⟨fun key before => kept key ?_, List.forall_mem_cons.mpr ⟨?_, others⟩⟩
      · by_cases same : key = family
        · rw [same, SortedMap.get_insert_self]
          rfl
        · rwa [SortedMap.get_insert_of_ne _ _ same]
      · exact ⟨family, short, split, kept family (by rw [SortedMap.get_insert_self]; rfl)⟩
  exact (general rows SortedMap.empty grouped).2

/-- The short names of a batch are those of its rows. -/
theorem batchFamilies_short {rows : List FeatureRow} {families : SortedMap String (List String)}
    (grouped : batchFamilies rows = .ok families) :
    ∀ entry ∈ families.entries, ∀ short ∈ entry.2, ∃ row ∈ rows,
      splitFeatureName row.featureName = .ok (entry.1, short) := by
  have general (batch : List FeatureRow) (within : ∀ row ∈ batch, row ∈ rows)
      (start : SortedMap String (List String))
      (before : ∀ entry ∈ start.entries, ∀ short ∈ entry.2, ∃ row ∈ rows,
        splitFeatureName row.featureName = .ok (entry.1, short))
      (grouped : batch.foldlM addFamily start = .ok families) :
      ∀ entry ∈ families.entries, ∀ short ∈ entry.2, ∃ row ∈ rows,
        splitFeatureName row.featureName = .ok (entry.1, short) := by
    induction batch generalizing start with
    | nil =>
      cases grouped
      exact before
    | cons row batch ih =>
      rw [List.foldlM_cons] at grouped
      obtain ⟨next, here, later⟩ := except_bind_eq_ok.mp grouped
      obtain ⟨family, short, split, rfl⟩ := addFamily_ok here
      refine ih (fun other member => within other (List.mem_cons_of_mem _ member)) _ ?_ later
      intro entry member other among
      rcases SortedMap.mem_insert.mp member with rfl | ⟨-, old⟩
      · rcases mem_insertShort.mp among with rfl | held
        · exact ⟨row, within row (by simp), split⟩
        · cases found : start.get family with
          | none => simp [found] at held
          | some shorts =>
            rw [found, Option.getD_some] at held
            exact before _ (SortedMap.get_eq_some.mp found) other held
      · exact before entry old other among
  exact general rows (fun _ => id) SortedMap.empty (fun _ member => (nomatch member)) grouped

/-! ### Finding a view -/

theorem wideView_redraw (rows : List StoredFeature) (views : List (String × List String))
    (entry : String × List String) (name : String) :
    (redraw rows views entry).find? (fun view => foldName view.1 = foldName name) =
      if foldName entry.1 = foldName name
        then some (entry.1, entry.2.foldl insertShort (shortsIn entry.1 rows))
        else views.find? fun view => foldName view.1 = foldName name := by
  rw [redraw, List.find?_cons]
  by_cases same : foldName entry.1 = foldName name
  · simp only [same, decide_true, if_true]
  · simp only [same, decide_false, if_false, List.find?_filter]
    congr 1
    funext view
    by_cases found : foldName view.1 = foldName name
    · simp [found, Ne.symm same]
    · simp [found]

/-- A name finds the view that was made last under it, or the one before. -/
theorem wideView_redrawn (rows : List StoredFeature) (entries : List (String × List String))
    (views : List (String × List String)) (name : String) :
    (∃ entry ∈ entries, foldName entry.1 = foldName name ∧
      (entries.foldl (redraw rows) views).find? (fun view => foldName view.1 = foldName name) =
        some (entry.1, entry.2.foldl insertShort (shortsIn entry.1 rows))) ∨
    (∀ entry ∈ entries, foldName entry.1 ≠ foldName name) ∧
      (entries.foldl (redraw rows) views).find? (fun view => foldName view.1 = foldName name) =
        views.find? fun view => foldName view.1 = foldName name := by
  induction entries generalizing views with
  | nil => exact .inr ⟨fun _ member => (nomatch member), rfl⟩
  | cons entry entries ih =>
    rw [List.foldl_cons]
    rcases ih (redraw rows views entry) with ⟨other, member, same, found⟩ | ⟨none, found⟩
    · exact .inl ⟨other, List.mem_cons_of_mem _ member, same, found⟩
    · rw [found, wideView_redraw]
      by_cases same : foldName entry.1 = foldName name
      · exact .inl ⟨entry, by simp, same, if_pos same⟩
      · exact .inr ⟨List.forall_mem_cons.mpr ⟨same, none⟩, if_neg same⟩

/-! ### The views and what is stored -/

/-- Names of features that differ not only in letter case. -/
structure Spelled (names : Set String) : Prop where
  families : ∀ first ∈ names, ∀ second ∈ names, ∀ family short other short',
    splitFeatureName first = .ok (family, short) → splitFeatureName second = .ok (other, short') →
      foldName family = foldName other → family = other
  shorts : ∀ first ∈ names, ∀ second ∈ names, ∀ family short other,
    splitFeatureName first = .ok (family, short) → splitFeatureName second = .ok (family, other) →
      foldName short = foldName other → short = other

/-- Every family stored has its view, over all that is stored of it, and there are no others. -/
structure Synced (names : Set String) (catalog : Catalog) : Prop where
  known : ∀ row ∈ stored catalog, row.featureName ∈ names ∧ row.tenantId.isSome = true ∧
    ∃ family short, splitFeatureName row.featureName = .ok (family, short)
  drawn : ∀ row ∈ stored catalog, ∀ family, familyOf row = some family →
    catalog.wideView family = some (family, shortsIn family (stored catalog))
  backed : ∀ name view, catalog.wideView name = some view →
    ∃ row ∈ stored catalog, familyOf row = some view.1

theorem foldl_insertShort_of_subset {shorts added : List String} (within : ∀ short ∈ added, short ∈ shorts) :
    added.foldl insertShort shorts = shorts := by
  induction added with
  | nil => rfl
  | cons short added ih =>
    have held : insertShort shorts short = shorts := by
      rw [insertShort, if_pos (by simpa using within short (by simp))]
    rw [List.foldl_cons, held]
    exact ih fun other member => within other (List.mem_cons_of_mem _ member)

theorem shortsIn_append {family : String} {rows added : List StoredFeature}
    (others : ∀ row ∈ added, ¬ (family ++ ".").toList.isPrefixOf row.featureName.toList = true) :
    shortsIn family (rows ++ added) = shortsIn family rows := by
  have none : added.filter (fun row =>
      (family ++ ".").toList.isPrefixOf row.featureName.toList) = [] :=
    List.filter_eq_nil_iff.mpr others
  rw [shortsIn, shortsIn, List.filter_append, none, List.append_nil]

section
variable {names : Set String} {duck : DuckDb} {tenant : String} {rows : List FeatureRow}
  {before after : Catalog}

/-- A row a batch adds is one of the batch's, under the tenant. -/
theorem mem_added {added : List StoredFeature}
    (converted : rows.mapM (storedFeature duck tenant) = .ok added) {value : StoredFeature}
    (member : value ∈ added) :
    ∃ row ∈ rows, value.featureName = row.featureName ∧ value.tenantId = some tenant := by
  obtain ⟨row, among, made⟩ := (mem_mapM_ok converted).1 value member
  obtain ⟨instant, -, rfl⟩ := storedFeature_ok made
  exact ⟨row, among, rfl, rfl⟩

/-- The short names of a batch's families are among those stored. -/
theorem entry_stored {added : List StoredFeature} {families : SortedMap String (List String)}
    (grouped : batchFamilies rows = .ok families)
    (converted : rows.mapM (storedFeature duck tenant) = .ok added)
    {entry : String × List String} (listed : entry ∈ families.entries) {short : String}
    (member : short ∈ entry.2) :
    ∃ row ∈ added, splitFeatureName row.featureName = .ok (entry.1, short) := by
  obtain ⟨row, among, split⟩ := batchFamilies_short grouped entry listed short member
  obtain ⟨value, inside, made⟩ := (mem_mapM_ok converted).2 row among
  obtain ⟨instant, -, rfl⟩ := storedFeature_ok made
  exact ⟨_, inside, split⟩

/-- A batch keeps the views as they should be. -/
theorem Synced.step (spelled : Spelled names) (within : ∀ row ∈ rows, row.featureName ∈ names)
    (synced : Synced names before) (written : BatchWritten duck tenant rows before after) :
    Synced names after := by
  obtain ⟨⟨families, grouped, views⟩, added, converted, held⟩ := written
  have known : ∀ row ∈ stored after, row.featureName ∈ names ∧ row.tenantId.isSome = true ∧
      ∃ family short, splitFeatureName row.featureName = .ok (family, short) := by
    intro row member
    rcases List.mem_append.mp (held ▸ member) with old | fresh
    · exact synced.known row old
    · obtain ⟨source, among, named, owned⟩ := mem_added converted fresh
      obtain ⟨family, short, split, -⟩ := batchFamilies_family grouped source among
      rw [named, owned]
      exact ⟨within source among, rfl, family, short, split⟩
  have inAfter {row : StoredFeature} (fresh : row ∈ added) : row ∈ stored after := by
    rw [held]
    exact List.mem_append_right _ fresh
  refine ⟨known, fun row member family own => ?drawn, fun name view found => ?backed⟩
  case drawn =>
    obtain ⟨short, split⟩ := familyOf_eq_some.mp own
    rw [Catalog.wideView, views]
    rcases wideView_redrawn (stored after) families.entries before.featureViews family with
      ⟨entry, listed, same, found⟩ | ⟨others, found⟩
    · -- The family is one of the batch's: its view is made anew.
      obtain ⟨first, taken⟩ := List.exists_mem_of_ne_nil _ (batchFamilies_filled grouped entry listed)
      obtain ⟨source, fresh, first'⟩ := entry_stored grouped converted listed taken
      have equal : entry.1 = family :=
        spelled.families _ (known source (inAfter fresh)).1 _ (known row member).1 _ _ _ _ first' split
          same
      have whole : entry.2.foldl insertShort (shortsIn entry.1 (stored after)) =
          shortsIn entry.1 (stored after) :=
        foldl_insertShort_of_subset fun other inside => by
          obtain ⟨source, fresh, other'⟩ := entry_stored grouped converted listed inside
          exact mem_shortsIn.mpr ⟨source, inAfter fresh,
            (shortOf_eq_some (splitFeatureName_ident other').1 other').mpr other'⟩
      rw [found, whole, equal]
    · -- The batch has no row of the family.
      have strange : ∀ other ∈ added, ¬ (family ++ ".").toList.isPrefixOf other.featureName.toList := by
        intro other fresh begins
        obtain ⟨source, among, named, -⟩ := mem_added converted fresh
        obtain ⟨batchFamily, short', split', present⟩ := batchFamilies_family grouped source among
        rw [named] at begins
        have equal := (begins_iff (splitFeatureName_ident split).1 split').mp begins
        obtain ⟨shorts, listed⟩ := Option.isSome_iff_exists.mp present
        exact others _ (SortedMap.get_eq_some.mp listed) (by rw [equal])
      have old : row ∈ stored before := by
        rcases List.mem_append.mp (held ▸ member) with old | fresh
        · exact old
        · exact absurd ((begins_iff (splitFeatureName_ident split).1 split).mpr rfl)
            (strange row fresh)
      rw [found, held, shortsIn_append strange]
      exact synced.drawn row old family own
  case backed =>
    rw [Catalog.wideView, views] at found
    rcases wideView_redrawn (stored after) families.entries before.featureViews name with
      ⟨entry, listed, -, made⟩ | ⟨-, kept⟩
    · obtain ⟨first, taken⟩ := List.exists_mem_of_ne_nil _ (batchFamilies_filled grouped entry listed)
      obtain ⟨source, fresh, split⟩ := entry_stored grouped converted listed taken
      rw [made, Option.some.injEq] at found
      exact ⟨source, inAfter fresh, familyOf_eq_some.mpr ⟨first, by rw [← found]; exact split⟩⟩
    · obtain ⟨row, old, own⟩ := synced.backed name view (kept.symm.trans found)
      exact ⟨row, by rw [held]; exact List.mem_append_left _ old, own⟩

end

/-! ### Runs -/

/-- A call of `write_features_and_refresh`, for a tenant. -/
structure FeatureCall where
  tenant : String
  rows : List FeatureRow

namespace FeatureCall

def run (call : FeatureCall) (writer : Writer) : Except Error Nat × Writer :=
  writeFeaturesAndRefresh call.rows (writer.setTenant call.tenant)

/-- The writer after calls, whatever each came to. -/
def after (writer : Writer) : List FeatureCall → Writer
  | [] => writer
  | call :: rest => after (call.run writer).2 rest

/-- The calls that returned. -/
def accepted (writer : Writer) : List FeatureCall → List FeatureCall
  | [] => []
  | call :: rest =>
      match (call.run writer).1 with
      | .ok _ => call :: accepted (call.run writer).2 rest
      | .error _ => accepted (call.run writer).2 rest

/-- What a call comes to, between two others. -/
theorem run_spec (call : FeatureCall) {writer : Writer} (idle : writer.rollbackTo = none) :
    (call.run writer).2.rollbackTo = none ∧ (call.run writer).2.duck = writer.duck ∧
      ((∃ failure, (call.run writer).1 = .error failure) ∧
          (call.run writer).2.durable = writer.durable ∨
        (∃ n, (call.run writer).1 = .ok n) ∧
          BatchWritten writer.duck call.tenant call.rows writer.durable.catalog
            (call.run writer).2.durable.catalog) := by
  have whole := writeFeaturesAndRefresh_allOrNothing call.rows
    (show (writer.setTenant call.tenant).rollbackTo = none from idle)
  have same : (call.run writer).2.duck = writer.duck := by
    unfold run writeFeaturesAndRefresh
    split
    · rfl
    · exact transaction_duck (featuresBody_keeps call.rows)
  cases outcome : call.run writer with
  | mk result after =>
    rw [outcome] at same
    cases result with
    | error failure =>
      obtain ⟨kept, closed⟩ := whole.failed failure after outcome
      exact ⟨closed, same, .inl ⟨⟨failure, rfl⟩, kept⟩⟩
    | ok n =>
      obtain ⟨closed, statements, listed, -, applied⟩ := whole.returned n after outcome
      refine ⟨closed, same, .inr ⟨⟨n, rfl⟩, ?_⟩⟩
      rcases listed with ⟨none, rfl⟩ | ⟨families, grouped, rfl⟩
      · have unchanged : after.durable.catalog = writer.durable.catalog :=
          (Except.ok.inj applied).symm
        rw [none, unchanged]
        exact ⟨⟨SortedMap.empty, rfl, rfl⟩, [], rfl, (List.append_nil _).symm⟩
      · exact featureStatements_applied grouped applied

/-- What holds of the first catalogue and is kept by every batch written holds after any run. -/
theorem after_induction {holds : Catalog → List FeatureCall → Prop} {writer : Writer}
    (idle : writer.rollbackTo = none) {done : List FeatureCall}
    (first : holds writer.durable.catalog done) (calls : List FeatureCall)
    (step : ∀ call ∈ calls, ∀ before later before',
      holds before before' → BatchWritten writer.duck call.tenant call.rows before later →
        holds later (before' ++ [call])) :
    holds (after writer calls).durable.catalog (done ++ accepted writer calls) := by
  induction calls generalizing writer done with
  | nil => simpa [after, accepted] using first
  | cons call calls ih =>
    obtain ⟨closed, same, ended⟩ := call.run_spec idle
    have steps : ∀ other ∈ calls, ∀ before later before',
        holds before before' →
          BatchWritten (call.run writer).2.duck other.tenant other.rows before later →
            holds later (before' ++ [other]) := by
      rw [same]
      exact fun other member => step other (List.mem_cons_of_mem _ member)
    rcases ended with ⟨⟨failure, failed⟩, kept⟩ | ⟨⟨n, returned⟩, written⟩
    · rw [after, accepted, failed]
      exact ih closed (by rw [kept]; exact first) steps
    · rw [after, accepted, returned, List.append_cons]
      exact ih closed (step call (by simp) _ _ _ first written) steps

/-- The timestamps of a call that returned all cast. -/
theorem accepted_converts {writer : Writer} (idle : writer.rollbackTo = none)
    {calls : List FeatureCall} :
    ∀ call ∈ accepted writer calls, ∀ source ∈ call.rows,
      ∃ row, storedFeature writer.duck call.tenant source = .ok row := by
  refine @after_induction (fun _ done => ∀ call ∈ done, ∀ source ∈ call.rows,
    ∃ row, storedFeature writer.duck call.tenant source = .ok row) writer idle []
    (fun _ member => (nomatch member)) calls ?_
  intro call _ before later done stands written
  obtain ⟨-, added, converted, -⟩ := written
  refine List.forall_mem_append.mpr ⟨stands, fun other member source among => ?_⟩
  rw [List.mem_singleton.mp member] at among ⊢
  obtain ⟨row, -, made⟩ := (mem_mapM_ok converted).2 source among
  exact ⟨row, made⟩

/-- A call with one feature at one time is accepted where no statement is refused. -/
theorem run_accepts {batch : FeatureBatch} {tenant : String} {writer : Writer}
    (filled : batch.rows ≠ []) (never : ∀ i, writer.duck.rejects i = false) {instant : Int}
    (casts : writer.duck.castTimestamptz batch.asOf = some instant)
    (named : Named batch.family (stored writer.durable.catalog)) :
    (∃ n, (run ⟨tenant, batch.rows⟩ writer).1 = .ok n) ∧
      stored (run ⟨tenant, batch.rows⟩ writer).2.durable.catalog =
        stored writer.durable.catalog ++ store tenant instant batch.rows := by
  obtain ⟨catalog, ⟨n, after, ran, -, rfl⟩, held⟩ := writeFeaturesAndRefresh_accepts
    (show batch.rows ≠ [] from filled)
    (show ∀ i, (writer.setTenant tenant).duck.rejects i = false from never) casts named
  rw [run, ran]
  refine ⟨⟨n, rfl⟩, ?_⟩
  rw [stored, held]
  rfl

/-- A writer between calls, over a catalogue without features. -/
structure Unwritten (writer : Writer) : Prop where
  idle : writer.rollbackTo = none
  empty : stored writer.durable.catalog = []
  viewless : writer.durable.catalog.featureViews = []

section
variable {writer : Writer} {calls : List FeatureCall} (unwritten : Unwritten writer)

include unwritten

/-- After any calls, every family stored has its view, and no other has one. -/
theorem synced_after {names : Set String} (spelled : Spelled names)
    (within : ∀ call ∈ calls, ∀ row ∈ call.rows, row.featureName ∈ names) :
    Synced names (after writer calls).durable.catalog := by
  have first : Synced names writer.durable.catalog := by
    refine ⟨fun row member => ?_, fun row member => ?_, fun name view found => ?_⟩
    · rw [unwritten.empty] at member
      cases member
    · rw [unwritten.empty] at member
      cases member
    · rw [Catalog.wideView, unwritten.viewless] at found
      cases found
  exact @after_induction (fun catalog _ => Synced names catalog) writer unwritten.idle [] first calls
    fun call member _ _ _ synced written => synced.step spelled (within call member) written

/-- What is stored after calls are the rows of those that returned. -/
theorem mem_stored_after {row : StoredFeature} :
    row ∈ stored (after writer calls).durable.catalog ↔
      ∃ call ∈ accepted writer calls, ∃ source ∈ call.rows,
        storedFeature writer.duck call.tenant source = .ok row := by
  have all : ∀ row, row ∈ stored (after writer calls).durable.catalog ↔
      ∃ call ∈ [] ++ accepted writer calls, ∃ source ∈ call.rows,
        storedFeature writer.duck call.tenant source = .ok row := by
    refine @after_induction (fun catalog done => ∀ row, row ∈ stored catalog ↔
      ∃ call ∈ done, ∃ source ∈ call.rows, storedFeature writer.duck call.tenant source = .ok row)
      writer unwritten.idle [] (fun row => ?_) calls ?_
    · rw [unwritten.empty]
      simp
    · intro call member before later done stands written row
      obtain ⟨-, added, converted, held⟩ := written
      obtain ⟨back, forth⟩ := mem_mapM_ok converted
      have fresh : row ∈ added ↔
          ∃ source ∈ call.rows, storedFeature writer.duck call.tenant source = .ok row := by
        refine ⟨back row, fun ⟨source, among, made⟩ => ?_⟩
        obtain ⟨value, inside, made'⟩ := forth source among
        rw [made, Except.ok.injEq] at made'
        exact made' ▸ inside
      simp only [held, List.mem_append, stands, fresh, List.mem_singleton, or_and_right, exists_or,
        exists_eq_left]
  exact all row

end

/-- A fresh writer over a database that casts the one timestamp. -/
def datedWriter : Writer :=
  { freshWriter with duck := { freshWriter.duck with castTimestamptz := fun _ => some 0 } }

theorem datedWriter_unwritten : Unwritten datedWriter := ⟨rfl, rfl, rfl⟩

/-- One row of a feature, as a batch. -/
def oneFeature (family short : String) (value : F64)
    (split : splitFeatureName (family ++ "." ++ short) = .ok (family, short))
    (valid : isFeatureName (family ++ "." ++ short) = true) : FeatureBatch where
  family := family
  short := short
  name := family ++ "." ++ short
  asOf := "2025-01-01T00:00:00Z"
  rows := [⟨"u1", family ++ "." ++ short, value, "2025-01-01T00:00:00Z", family ++ "." ++ short⟩]
  split := split
  valid := valid
  named := fun row member => by rw [List.mem_singleton.mp member]
  produced := fun row member => by rw [List.mem_singleton.mp member]; exact valid
  dated := fun row member => by rw [List.mem_singleton.mp member]

end FeatureCall

end ConsumerEngine.Storage
