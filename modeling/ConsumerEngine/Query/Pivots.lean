import Mathlib.Data.List.Forall2
import ConsumerEngine.Query.Figures
import ConsumerEngine.Query.SnapshotPhrases

/-! What the pivots of the feature store freeze for each key of a segment.

A pivot has one row for each user of a tenant, so that its join finds at most one for a key.
-/

set_option autoImplicit false

namespace ConsumerEngine.Query

open ConsumerEngine.Core ConsumerEngine.Sql ConsumerEngine.Storage FeatureBatch

def ownerOf (row : StoredFeature) : String × Option String := (row.userId, row.tenantId)

/-- A family, and the rows of it that are frozen. -/
structure Pivot where
  family : String
  shorts : List String
  rows : Multiset StoredFeature

def Pivot.columns (pivot : Pivot) : List String :=
  "user_id" :: "tenant_id" :: pivot.shorts.map foldName

section
variable {V : Type} (E : Engine V)

/-- `starts_with(feature_name, '….')`. -/
def Engine.startsWith (row : StoredFeature) (family : String) : Truth :=
  match E.call "starts_with" [E.text row.featureName, E.text (family ++ ".")] with
  | some value => E.truth value
  | none => .failed

/-- `as_of_ts <= CAST(… AS TIMESTAMPTZ)`. -/
def Engine.notAfter (row : StoredFeature) (asOfTs : String) : Truth :=
  match E.castTimestamptz asOfTs with
  | some bound => .ofBool (decide (row.asOfTs ≤ bound))
  | none => .failed

/-- The pivot of a family, over the rows of the store. -/
def Engine.pivot (asOfTs : String) (store : Multiset StoredFeature)
    (family : String × List String) : Option Pivot :=
  (keep (fun row => (E.startsWith row family.1).both (E.notAfter row asOfTs)) store).map
    (Pivot.mk family.1 family.2)

/-- The newest value of a feature among the rows. -/
def Engine.frozen (name : String) (rows : Multiset StoredFeature) : V :=
  E.newest ((rows.filter fun row => row.featureName = name).map fun row =>
    (row.numValue, row.asOfTs))

/-- A row of a pivot. -/
def Engine.pivotRow (pivot : Pivot) (owner : String × Option String) : List V :=
  E.text owner.1 :: E.cell owner.2 :: pivot.shorts.map fun short =>
    E.frozen (pivot.family ++ "." ++ short) (pivot.rows.filter fun row => ownerOf row = owner)

def Engine.pivotTable (pivot : Pivot) : Table V :=
  ⟨pivot.columns, (pivot.rows.map ownerOf).dedup.map (E.pivotRow pivot)⟩

/-- The cells of a pivot's row. -/
def Engine.pivotCells (pivot : Pivot) (owner : String × Option String) (column : String) : V :=
  ((pivot.columns.zip (E.pivotRow pivot owner)).lookup column).getD E.null

/-- The row of a pivot that a key of the tenant is joined with. -/
def Pivot.partner (pivot : Pivot) (tenant : String) (user : Cell) : Option (String × Option String) :=
  (user.map fun user => (user, some tenant)).filter fun owner => owner ∈ pivot.rows.map ownerOf

/-- What a pivot shows of a key: nulls where it has no row. -/
def Engine.shownBy (pivot : Pivot) (tenant : String) (user : Cell) : String → V :=
  ((pivot.partner tenant user).map (E.pivotCells pivot)).getD fun _ => E.null

/-- What a key is joined with of the `idx`-th pivot. -/
def Engine.pivotBinding (tenant : String) (user : Cell) (idx : Nat) (pivot : Pivot) : Binding V :=
  ⟨pivotAlias idx, pivot.columns, E.shownBy pivot tenant user⟩

/-- What a key is joined with from the `idx`-th pivot on. -/
def Engine.pivotFrame (tenant : String) (user : Cell) (idx : Nat) : List Pivot → Frame V
  | [] => []
  | pivot :: rest =>
      E.pivotBinding tenant user idx pivot :: pivotFrame tenant user (idx + 1) rest

/-- What `json_object` is given for a key. -/
def Engine.frozenPairs (tenant : String) (user : Cell) (pivots : List Pivot) : List V :=
  pivots.flatMap fun pivot => pivot.shorts.flatMap fun short =>
    [E.text (pivot.family ++ "." ++ short), E.shownBy pivot tenant user (foldName short)]

/-- The row of a key in the wrapped segment. -/
def Engine.wrappedRow (hitReason tenant : String) (pivots : List Pivot) (user : Cell) :
    Option (List V) := do
  let features ← E.call "json_object" (E.frozenPairs tenant user pivots)
  let reason ← E.cast "json" (E.text hitReason)
  return [E.cell user, features, reason]

/-- The columns of the wrapped segment. -/
def wrappedColumns (key : String) : List String := [foldName key, "features", "hit_reason"]

/-- The row of a snapshot around a row of the wrapped segment. -/
def Engine.writtenRow (key : String) (spec : SnapshotSpec) (tenant : String) (wrapped : List V) :
    Option (List V) := do
  let shown (name : String) := (((wrappedColumns key).zip wrapped).lookup name).getD E.null
  let id ← E.cast "uuid" (E.text spec.snapshotId)
  let asOf ← E.cast "timestamptz" (E.text spec.asOfTs)
  return [id, E.text spec.campaignId, asOf, shown (foldName key), shown "features",
    shown "hit_reason", E.text tenant]

end

/-! ### One pivot -/

section
variable {V : Type} [DecidableEq V] {E : Engine V} {catalog : Catalog} {env : Env V}

theorem itemsOf_eval {first : Term × Option String} {rest : List (Term × Option String)}
    {values : List V} (each : List.Forall₂ (fun item value =>
      item.1.eval E.toScalars env = some value) (first :: rest) values) :
    (itemsOf first rest).eval E.toScalars env = some values := by
  induction rest generalizing first values with
  | nil =>
    obtain ⟨value, others, here, later, rfl⟩ := List.forall₂_cons_left_iff.mp each
    rw [itemsOf, eval_item, here, List.forall₂_nil_left_iff.mp later]
    rfl
  | cons second rest ih =>
    obtain ⟨value, others, here, later, rfl⟩ := List.forall₂_cons_left_iff.mp each
    rw [itemsOf, eval_itemThen, here, ih later]
    rfl

omit [DecidableEq V] in
theorem itemsOf_names (first : Term × Option String) (rest : List (Term × Option String)) :
    (itemsOf first rest).names =
      (first :: rest).map fun item => (item.2.or (ownName item.1)).getD "" := by
  induction rest generalizing first with
  | nil => rfl
  | cons second rest ih =>
    rw [itemsOf, Ast.names, ih]
    rfl

omit [DecidableEq V] in
theorem pivotItems_names (family : String) (shorts : List String) :
    (pivotItems family shorts).names = "user_id" :: "tenant_id" :: shorts.map foldName := by
  rw [pivotItems, itemsOf_names, List.map_cons, List.map_cons, List.map_map]
  rfl

/-- The row of the feature store, in scope. -/
def featureFrame (E : Engine V) (rows : List StoredFeature) (row : StoredFeature) : Frame V :=
  (E.featureStored rows).frame "feature_store" (E.listed (E.featureRow row))

omit [DecidableEq V] in
theorem bare_feature {rows : List StoredFeature} {row : StoredFeature} {name : String}
    {rest : List (Frame V)} {named : List (String × Table V)} {tables : Tables V}
    {group : Multiset (Frame V)} (listed : name ∈ (E.featureStored rows).columns) :
    Env.bare E.null ⟨tables, named, featureFrame E rows row, rest, group⟩ name =
      E.listed (E.featureRow row) name := by
  simp [Env.bare, featureFrame, Stored.frame, listed]

theorem pivotFilter_eval (rows : List StoredFeature) (row : StoredFeature) (family asOfTs : String) :
    (pivotFilter family asOfTs).eval E.toScalars (env.enter (featureFrame E rows row)) =
      (E.startsWith row family).both (E.notAfter row asOfTs) := by
  obtain ⟨-, -, named, -, dated⟩ := listed_feature (E := E) row
  have name : (env.enter (featureFrame E rows row)).bare E.null "feature_name" =
      E.text row.featureName := (bare_feature (by simp [Engine.featureStored])).trans named
  have date : (env.enter (featureFrame E rows row)).bare E.null "as_of_ts" =
      E.instant row.asOfTs := (bare_feature (by simp [Engine.featureStored])).trans dated
  have plain : isAggregate "starts_with" = false := by decide
  have begins : (Ast.holds (callTerm "starts_with" (.given (listOf (bareTerm "feature_name")
      [quotedTerm (family ++ ".")])))).eval E.toScalars (env.enter (featureFrame E rows row)) =
        E.startsWith row family := by
    cases called : E.call "starts_with" [E.text row.featureName, E.text (family ++ ".")] with
    | none =>
      simp only [callTerm, bareTerm, quotedTerm, listOf, Ast.eval, plain, Bool.false_eq_true,
        ↓reduceIte, name, Option.bind_eq_bind, Option.bind_some, Option.map_some, Option.pure_def,
        Option.bind_fun_some, Engine.startsWith, called]
    | some flag =>
      simp only [callTerm, bareTerm, quotedTerm, listOf, Ast.eval, plain, Bool.false_eq_true,
        ↓reduceIte, name, Option.bind_eq_bind, Option.bind_some, Option.map_some, Option.pure_def,
        Option.bind_fun_some, Engine.startsWith, called]
  have bound : (Ast.only (.compare .le (bareTerm "as_of_ts")
      (castTerm (boundTerm (.text asOfTs)) "timestamptz"))).eval E.toScalars
        (env.enter (featureFrame E rows row)) = E.notAfter row asOfTs := by
    simp only [castTerm, bareTerm, boundTerm, Ast.eval, date, E.bound_text, E.cast_timestamptz,
      compared, Option.bind_eq_bind, Option.bind_some, Option.bind_fun_some, Engine.notAfter]
    cases E.castTimestamptz asOfTs with
    | none => rfl
    | some instant => exact E.compare_instant _ _
  rw [pivotFilter, Ast.eval, Ast.eval]
  exact congrArg₂ Truth.both begins bound

omit [DecidableEq V] in
/-- The row of a group of a pivot, in scope. -/
theorem bare_owner (owner : String × Option String) (group : Multiset (Frame V)) :
    let refs : List ColumnRef := [⟨none, "user_id"⟩, ⟨none, "tenant_id"⟩]
    let entered := env.enterGroup (groupRow refs [E.text owner.1, E.cell owner.2]) group
    entered.bare E.null "user_id" = E.text owner.1 ∧
      entered.bare E.null "tenant_id" = E.cell owner.2 := by
  constructor <;> simp [Env.bare, Env.enterGroup, groupRow]

theorem pivotTerm_eval (rows : List StoredFeature) (group : Multiset StoredFeature)
    (frame : Frame V) (family short : String) :
    (pivotTerm family short).eval E.toScalars
        (env.enterGroup frame (group.map (featureFrame E rows))) =
      some (E.frozen (family ++ "." ++ short) group) := by
  have name (env : Env V) (row : StoredFeature) :
      (env.member (featureFrame E rows row)).bare E.null "feature_name" = E.text row.featureName :=
    (bare_feature (by simp [Engine.featureStored])).trans (listed_feature row).2.2.1
  have value (env : Env V) (row : StoredFeature) :
      (env.member (featureFrame E rows row)).bare E.null "num_value" =
        E.bound (.double row.numValue) :=
    (bare_feature (by simp [Engine.featureStored])).trans (listed_feature row).2.2.2.1
  have date (env : Env V) (row : StoredFeature) :
      (env.member (featureFrame E rows row)).bare E.null "as_of_ts" = E.instant row.asOfTs :=
    (bare_feature (by simp [Engine.featureStored])).trans (listed_feature row).2.2.2.2
  have kept (env : Env V) : keep (fun frame => (Ast.only (.compare .eq (bareTerm "feature_name")
      (quotedTerm (family ++ "." ++ short)))).eval E.toScalars (env.member frame))
        (group.map (featureFrame E rows)) =
      some ((group.filter fun row => row.featureName = family ++ "." ++ short).map
        (featureFrame E rows)) := by
    rw [keep_map]
    simp only [Ast.eval, bareTerm, quotedTerm, name, Option.bind_eq_bind, Option.bind_some, compared,
      E.compare_text, keep_ofBool, Option.map_some]
  have pairs : (group.filter fun row => row.featureName = family ++ "." ++ short).map (fun row =>
      [E.bound (.double row.numValue), E.instant row.asOfTs]) =
        ((group.filter fun row => row.featureName = family ++ "." ++ short).map fun row =>
          (row.numValue, row.asOfTs)).map fun pair =>
            [E.bound (.double pair.1), E.instant pair.2] := by
    rw [Multiset.map_map]
    rfl
  rw [pivotTerm, filtered_eval]
  simp only [Env.enterGroup] at kept ⊢
  rw [kept, Option.bind_some, aggregated, mapAll_map]
  simp only [Ast.eval, listOf, bareTerm, value, date, Option.bind_eq_bind, Option.bind_some,
    Option.map_some, Option.pure_def, mapAll_some, Ast.isDistinct, Bool.false_eq_true, ↓reduceIte]
  rw [pairs, E.aggregate_newest]
  rfl

/-- A pivot has one row for each user of a tenant. -/
theorem pivotPhrase_eval {family asOfTs : String} {shorts : List String}
    (tables : env.tables = E.tables writeCatalogAlias catalog)
    (present : catalog.featureStore.isSome = true) :
    (pivotPhrase family shorts asOfTs).eval E.toScalars env =
      (E.pivot asOfTs (stored catalog) (family, shorts)).map E.pivotTable := by
  obtain ⟨rows, found⟩ := Option.isSome_iff_exists.mp present
  have stored_ : stored catalog = rows := by rw [stored, found, Option.getD_some]
  have there : env.tables writeCatalogAlias "feature_store" = some (E.featureStored rows) := by
    rw [tables, Engine.tables, if_pos rfl, E.table_featureStore, found]
    rfl
  have source : (Ast.from (.table writeCatalogAlias "feature_store" none) .noJoin).eval E.toScalars
      env = some ((rows : Multiset StoredFeature).map fun row => (featureFrame E rows row, .yes)) := by
    rw [eval_from_uncalled there, Engine.featureStored, Multiset.map_map]
    rfl
  have injective : Function.Injective fun owner : String × Option String =>
      [E.text owner.1, E.cell owner.2] := by
    intro first second same
    simp only [List.cons.injEq, and_true] at same
    exact Prod.ext (E.text_inj.mp same.1) (E.cell_inj.mp same.2)
  have keyed (row : StoredFeature) : [(⟨none, "user_id"⟩ : ColumnRef), ⟨none, "tenant_id"⟩].map
      ((env.enter (featureFrame E rows row)).ref E.null) =
        [E.text (ownerOf row).1, E.cell (ownerOf row).2] := by
    have user : (env.enter (featureFrame E rows row)).bare E.null "user_id" = E.text row.userId :=
      (bare_feature (by simp [Engine.featureStored])).trans (listed_feature row).1
    have own : (env.enter (featureFrame E rows row)).bare E.null "tenant_id" =
        E.cell row.tenantId :=
      (bare_feature (by simp [Engine.featureStored])).trans (listed_feature row).2.1
    simp only [List.map_cons, List.map_nil, Env.ref, user, own, ownerOf]
  have items (owner : String × Option String) (group : Multiset StoredFeature) :
      (pivotItems family shorts).eval E.toScalars (env.enterGroup (groupRow
        [⟨none, "user_id"⟩, ⟨none, "tenant_id"⟩] [E.text owner.1, E.cell owner.2])
          (group.map (featureFrame E rows))) =
        some (E.text owner.1 :: E.cell owner.2 ::
          shorts.map fun short => E.frozen (family ++ "." ++ short) group) := by
    obtain ⟨user, own⟩ := @bare_owner _ E env owner (group.map (featureFrame E rows))
    refine itemsOf_eval (.cons ?_ (.cons ?_ ?_))
    · simp only [bareTerm, Ast.eval, user, Option.bind_eq_bind, Option.bind_some]
    · simp only [bareTerm, Ast.eval, own, Option.bind_eq_bind, Option.bind_some]
    · rw [List.forall₂_map_left_iff, List.forall₂_map_right_iff]
      exact List.forall₂_same.mpr fun short _ => pivotTerm_eval rows group _ family short
  rw [pivotPhrase, Ast.eval, eval_select_each_group (by simp) source, stored_, Engine.pivot]
  simp only [pivotFilter_eval]
  cases keep (fun row => (E.startsWith row family).both (E.notAfter row asOfTs))
      (rows : Multiset StoredFeature) with
  | none => rfl
  | some kept =>
    rw [Option.bind_some, groupsOf_keyed E.toScalars (by simp) injective keyed, mapAll_map]
    simp only [items, mapAll_some, Option.map_some]
    rw [finish, pivotItems_names]
    rfl

/-! ### Joins -/

theorem pivotAlias_inj {first second : Nat} : pivotAlias first = pivotAlias second ↔ first = second := by
  refine ⟨fun same => ?_, congrArg _⟩
  have chars := congrArg String.toList same
  rw [pivotAlias_chars, pivotAlias_chars, List.append_cancel_left_eq] at chars
  have read := congrArg (fun digits => Nat.ofDigitChars 10 digits 0) chars
  have digits (n : Nat) : (toString n).toList = Nat.toDigits 10 n := Nat.toList_repr
  simpa only [digits, Nat.ofDigitChars_ten_toDigits] using read

theorem pivotAlias_ne (idx : Nat) : pivotAlias idx ≠ "s" := by
  intro same
  have chars := congrArg String.toList same
  rw [pivotAlias_chars] at chars
  exact absurd (congrArg List.length chars) (by simp)

omit [DecidableEq V] in
theorem stored_pivot (pivot : Pivot) : (E.pivotTable pivot).stored E.null =
    ⟨pivot.columns, (pivot.rows.map ownerOf).dedup.map (E.pivotCells pivot)⟩ := by
  simp only [Table.stored, Engine.pivotTable, Multiset.map_map]
  rfl

/-- The relation of the segment's keys. -/
def segmentBinding (E : Engine V) (key : String) (user : Cell) : Binding V :=
  ⟨"s", [key], E.listed [(key, E.cell user)]⟩

section
variable {key tenant asOfTs : String} {others : Frame V} {idx : Nat} {user : Cell}

omit [DecidableEq V] in
theorem column_segment (rest : Frame V) :
    (env.enter (segmentBinding E key user :: rest)).column E.null "s" key = E.cell user := by
  simp [Env.column, Env.enter, segmentBinding, Engine.listed]

/-- The condition of a join: the key's row, and the tenant's. -/
theorem pivotOn_eval (apart : ∀ binding ∈ others, binding.name ≠ pivotAlias idx) (pivot : Pivot)
    (owner : String × Option String) :
    (pivotOn key idx tenant).eval E.toScalars (env.enter
        ((segmentBinding E (foldName key) user :: others) ++
          [⟨pivotAlias idx, pivot.columns, E.pivotCells pivot owner⟩])) =
      (alike (some owner.1) user).both (alike owner.2 (some tenant)) := by
  have named : ∀ binding ∈ segmentBinding E (foldName key) user :: others,
      binding.name ≠ pivotAlias idx :=
    List.forall_mem_cons.mpr ⟨(pivotAlias_ne idx).symm, apart⟩
  have column (name : String) : (env.enter ((segmentBinding E (foldName key) user :: others) ++
      [⟨pivotAlias idx, pivot.columns, E.pivotCells pivot owner⟩])).column E.null (pivotAlias idx)
        name = E.pivotCells pivot owner name :=
    Env.column_enter_amid [] named
  have first : E.pivotCells pivot owner "user_id" = E.cell (some owner.1) := by
    simp [Engine.pivotCells, Pivot.columns, Engine.pivotRow, Engine.cell]
  have second : E.pivotCells pivot owner "tenant_id" = E.cell owner.2 := by
    simp [Engine.pivotCells, Pivot.columns, Engine.pivotRow, List.lookup_cons]
  have own := tenantTest_eval tenant ((column "tenant_id").trans second)
  have same : (Ast.compare .eq (columnTerm (pivotAlias idx) "user_id")
      (columnTerm "s" (foldName key))).eval E.toScalars (env.enter
        ((segmentBinding E (foldName key) user :: others) ++
          [⟨pivotAlias idx, pivot.columns, E.pivotCells pivot owner⟩])) =
        alike (some owner.1) user := by
    have shown := (column "user_id").trans first
    simp only [Ast.eval, columnTerm_eval, compared, List.cons_append, column_segment] at shown ⊢
    rw [shown, E.compare_cell]
  rw [pivotOn, Ast.eval]
  refine congrArg₂ Truth.both same ?_
  rw [Ast.eval]
  exact own

/-- A key is joined with its one row of a pivot, or with nulls. -/
theorem joinRows_pivot (apart : ∀ binding ∈ others, binding.name ≠ pivotAlias idx) (pivot : Pivot) :
    joinRows E.toScalars true (pivotAlias idx) ((E.pivotTable pivot).stored E.null)
        (fun frame => (pivotOn key idx tenant).eval E.toScalars (env.enter frame))
        (segmentBinding E (foldName key) user :: others, .yes) =
      {((segmentBinding E (foldName key) user :: others) ++
        [E.pivotBinding tenant user idx pivot], .yes)} := by
  have met (owner : String × Option String) :
      (alike (some owner.1) user).both (alike owner.2 (some tenant)) = .yes ↔
        user.map (fun user => (user, some tenant)) = some owner := by
    rw [Truth.both_eq_yes, alike_owner, alike_eq_yes, joins_iff]
    obtain ⟨name, own⟩ := owner
    cases user with
    | none => simp
    | some user => simp [eq_comm]
  have one : (pivot.rows.map ownerOf).dedup.filter (fun owner =>
      user.map (fun user => (user, some tenant)) = some owner) =
        ((pivot.partner tenant user).toList : Multiset (String × Option String)) := by
    unfold Pivot.partner
    cases user with
    | none => simp
    | some user =>
      simp only [Option.map_some, Option.some.injEq, Option.filter]
      rw [Multiset.filter_eq]
      by_cases member : (user, some tenant) ∈ pivot.rows.map ownerOf
      · simp [member]
      · simp [member]
  rw [stored_pivot]
  refine joinRows_left_unique (fun owner _ => ?_) ?_
  · rw [pivotOn_eval apart]
    exact both_alike_ne_failed _ _ _ _
  · simp only [pivotOn_eval apart, met]
    exact one

/-! ### All pivots -/

/-- No relation is called like a pivot from the `idx`-th on. -/
def Unaliased (idx : Nat) (frame : Frame V) : Prop :=
  ∀ binding ∈ frame, ∀ later, idx ≤ later → binding.name ≠ pivotAlias later

omit [DecidableEq V] in
theorem Unaliased.snoc {frame : Frame V} {binding : Binding V} (apart : Unaliased idx frame)
    (called : binding.name = pivotAlias idx) : Unaliased (idx + 1) (frame ++ [binding]) := by
  intro other member later above
  rcases List.mem_append.mp member with before | last
  · exact apart other before later (Nat.le_of_succ_le above)
  · obtain rfl := List.mem_singleton.mp last
    rw [called]
    exact mt pivotAlias_inj.mp (Nat.ne_of_lt above)

/-- Each key is joined with what every pivot shows of it. -/
theorem pivotJoins_eval {families : Families} {others : Cell → Frame V} (users : Multiset Cell)
    (apart : ∀ user, Unaliased idx (others user))
    (tables : env.tables = E.tables writeCatalogAlias catalog)
    (present : families ≠ [] → catalog.featureStore.isSome = true) :
    (pivotJoinsPhrase key asOfTs tenant idx families).eval E.toScalars env
        (users.map fun user => (segmentBinding E (foldName key) user :: others user, .yes)) =
      (families.mapM (E.pivot asOfTs (stored catalog))).map fun pivots => users.map fun user =>
        (segmentBinding E (foldName key) user ::
          (others user ++ E.pivotFrame tenant user idx pivots), .yes) := by
  induction families generalizing idx others with
  | nil =>
    simp only [pivotJoinsPhrase, Ast.eval, List.mapM_nil, Option.pure_def, Option.map_some,
      Engine.pivotFrame, List.append_nil]
  | cons head rest ih =>
    obtain ⟨family, shorts⟩ := head
    have there := present (List.cons_ne_nil _ _)
    rw [pivotJoinsPhrase, List.mapM_cons]
    simp only [Ast.eval, pivotPhrase_eval tables there, Option.map_map, Option.bind_eq_bind]
    cases E.pivot asOfTs (stored catalog) (family, shorts) with
    | none => rfl
    | some pivot =>
      have joined : (users.map fun user =>
          (segmentBinding E (foldName key) user :: others user, Truth.yes)).bind
          (joinRows E.toScalars true (pivotAlias idx) ((E.pivotTable pivot).stored E.null)
            fun frame => (pivotOn key idx tenant).eval E.toScalars (env.enter frame)) =
          users.map fun user => (segmentBinding E (foldName key) user ::
            (others user ++ [E.pivotBinding tenant user idx pivot]), .yes) := by
        rw [Multiset.bind_map, ← Multiset.bind_singleton]
        refine Multiset.bind_congr fun user _ => ?_
        exact joinRows_pivot (fun binding member => apart user binding member idx le_rfl) pivot
      simp only [Option.map_some, Function.comp_apply, Option.bind_some, joined]
      rw [ih (fun user => (apart user).snoc rfl) fun _ => there]
      cases rest.mapM (E.pivot asOfTs (stored catalog)) with
      | none => rfl
      | some pivots =>
        simp only [Option.map_some, Option.bind_some, Option.pure_def, Engine.pivotFrame,
          List.append_assoc, List.singleton_append]

/-! ### Features -/

theorem listOf_eval {first : Term} {rest : List Term} {values : List V}
    (each : List.Forall₂ (fun term value => term.eval E.toScalars env = some value) (first :: rest)
      values) : (listOf first rest).eval E.toScalars env = some values := by
  induction rest generalizing first values with
  | nil =>
    obtain ⟨value, others, here, later, rfl⟩ := List.forall₂_cons_left_iff.mp each
    simp only [listOf, Ast.eval, here, Option.map_some, List.forall₂_nil_left_iff.mp later]
  | cons second rest ih =>
    obtain ⟨value, others, here, later, rfl⟩ := List.forall₂_cons_left_iff.mp each
    simp only [listOf, Ast.eval, here, ih later, Option.bind_eq_bind, Option.bind_some,
      Option.pure_def]

/-- Each name stands beside what its pivot shows of it. -/
theorem jsonTerms_eval {families : Families} {pivots : List Pivot}
    (frozen : families.mapM (E.pivot asOfTs (stored catalog)) = some pivots)
    (apart : Unaliased idx others) :
    List.Forall₂ (fun term value => term.eval E.toScalars
        (env.enter (others ++ E.pivotFrame tenant user idx pivots)) = some value)
      (jsonTerms idx families) (E.frozenPairs tenant user pivots) := by
  induction families generalizing idx others pivots with
  | nil =>
    obtain rfl := Option.some.inj frozen
    exact .nil
  | cons head rest ih =>
    obtain ⟨family, shorts⟩ := head
    rw [List.mapM_cons] at frozen
    obtain ⟨pivot, here, frozen⟩ := Option.bind_eq_some_iff.mp frozen
    obtain ⟨pivots, later, frozen⟩ := Option.bind_eq_some_iff.mp frozen
    obtain rfl := Option.some.inj frozen
    obtain ⟨rows, -, rfl⟩ := Option.map_eq_some_iff.mp here
    rw [jsonTerms, Engine.frozenPairs, List.flatMap_cons]
    refine List.rel_append ?_ ?_
    · refine List.rel_flatMap (@List.forall₂_refl _ Eq _ shorts) fun short _ same => ?_
      obtain rfl := same
      refine .cons rfl (.cons ?_ .nil)
      rw [columnTerm_eval]
      exact congrArg some (Env.column_enter_amid _ fun binding member =>
        apart binding member idx le_rfl)
    · have aliased : (E.pivotBinding tenant user idx ⟨family, shorts, rows⟩).name = pivotAlias idx :=
        rfl
      have each := ih later (apart.snoc aliased)
      rwa [List.append_assoc] at each

theorem featuresTerm_eval {families : Families} {pivots : List Pivot}
    (frozen : families.mapM (E.pivot asOfTs (stored catalog)) = some pivots) :
    (featuresTerm families).eval E.toScalars (env.enter
        (segmentBinding E (foldName key) user :: E.pivotFrame tenant user 0 pivots)) =
      E.call "json_object" (E.frozenPairs tenant user pivots) := by
  have plain : isAggregate "json_object" = false := by decide
  have apart : Unaliased 0 [segmentBinding E (foldName key) user] := fun binding member later _ => by
    cases List.mem_singleton.mp member
    exact (pivotAlias_ne later).symm
  have each := @jsonTerms_eval _ _ E catalog env tenant asOfTs _ 0 user families pivots frozen apart
  rw [List.singleton_append] at each
  have call (args : Ast Value .args) (values : List V) (given : args.eval E.toScalars (env.enter
      (segmentBinding E (foldName key) user :: E.pivotFrame tenant user 0 pivots)) = some values) :
      (callTerm "json_object" args).eval E.toScalars (env.enter
        (segmentBinding E (foldName key) user :: E.pivotFrame tenant user 0 pivots)) =
          E.call "json_object" values := by
    simp only [callTerm, Ast.eval, plain, Bool.false_eq_true, ↓reduceIte, given, Option.bind_eq_bind,
      Option.bind_some, Option.bind_fun_some]
  unfold featuresTerm
  cases terms : jsonTerms 0 families with
  | nil =>
    rw [terms] at each
    rw [List.forall₂_nil_left_iff.mp each]
    exact call _ _ rfl
  | cons first rest =>
    rw [terms] at each
    exact call _ _ (listOf_eval each)

end

omit [DecidableEq V] in
theorem jsonTerms_plain (families : Families) (idx : Nat) :
    ∀ term ∈ jsonTerms idx families, Ast.sums term = false := by
  induction families generalizing idx with
  | nil => exact fun _ member => absurd member List.not_mem_nil
  | cons head rest ih =>
    rw [jsonTerms, List.forall_mem_append]
    refine ⟨fun term member => ?_, ih (idx + 1)⟩
    obtain ⟨short, -, among⟩ := List.mem_flatMap.mp member
    rcases List.mem_cons.mp among with rfl | last
    · rfl
    · cases List.mem_singleton.mp last
      rfl

omit [DecidableEq V] in
theorem listOf_plain {first : Term} {rest : List Term}
    (plain : ∀ term ∈ first :: rest, Ast.sums term = false) : (listOf first rest).sums = false := by
  induction rest generalizing first with
  | nil => exact plain first List.mem_cons_self
  | cons second rest ih =>
    obtain ⟨here, later⟩ := List.forall_mem_cons.mp plain
    rw [listOf, Ast.sums, here, ih later]
    rfl

omit [DecidableEq V] in
theorem featuresTerm_plain (families : Families) : (featuresTerm families).sums = false := by
  have plain : isAggregate "json_object" = false := by decide
  have terms := jsonTerms_plain families 0
  unfold featuresTerm
  cases shown : jsonTerms 0 families with
  | nil => simp only [callTerm, Ast.sums, plain, Bool.or_self]
  | cons first rest =>
    rw [shown] at terms
    simp only [callTerm, Ast.sums, plain, listOf_plain terms, Bool.or_self]

/-! ### The wrapped segment -/

section
variable {key tenant asOfTs hitReason : String} {families : Families} {write : Ast Value .query}
  {users : Finset Cell}

/-- A text that is bound and cast. -/
theorem castText_eval (text type : String) :
    (castTerm (boundTerm (.text text)) type).eval E.toScalars env = E.cast type (E.text text) := by
  simp only [castTerm, Ast.eval, boundTerm, E.bound_text, Option.bind_eq_bind, Option.bind_some,
    Option.bind_fun_some]

/-- The segment with its pivots gives each key one row. -/
theorem wrapPhrase_eval (segment : write.eval E.toScalars env = some (E.keyTable (foldName key) users))
    (tables : env.tables = E.tables writeCatalogAlias catalog)
    (present : families ≠ [] → catalog.featureStore.isSome = true) :
    (wrapPhrase key families hitReason asOfTs tenant write).eval E.toScalars env =
      (families.mapM (E.pivot asOfTs (stored catalog))).bind fun pivots =>
        (mapAll (E.wrappedRow hitReason tenant pivots) users.val).map (Table.mk (wrappedColumns key)) := by
  have joined : (Ast.from (.derived write "s") (pivotJoinsPhrase key asOfTs tenant 0 families)).eval
      E.toScalars env = (families.mapM (E.pivot asOfTs (stored catalog))).map fun pivots =>
        users.val.map fun user => (segmentBinding E (foldName key) user ::
          E.pivotFrame tenant user 0 pivots, .yes) := by
    have chain := @pivotJoins_eval _ _ E catalog env key tenant asOfTs 0 families (fun _ => [])
      users.val (fun _ _ member => absurd member List.not_mem_nil) tables present
    simp only [Ast.eval, segment, Option.map_some, Option.bind_eq_bind, Option.bind_some, stored_keys,
      Multiset.map_map]
    exact chain
  rw [wrapPhrase, Ast.eval]
  cases frozen : families.mapM (E.pivot asOfTs (stored catalog)) with
  | none =>
    rw [frozen] at joined
    rw [Ast.eval]
    dsimp only
    rw [joined]
    rfl
  | some pivots =>
    rw [frozen] at joined
    have plain : (itemsOf (columnTerm "s" (foldName key), some (foldName key))
        [(featuresTerm families, some "features"),
          (castTerm (boundTerm (.text hitReason)) "json", some "hit_reason")]).sums = false := by
      simp only [itemsOf, Ast.sums, featuresTerm_plain]
      rfl
    have row (user : Cell) : (itemsOf (columnTerm "s" (foldName key), some (foldName key))
        [(featuresTerm families, some "features"),
          (castTerm (boundTerm (.text hitReason)) "json", some "hit_reason")]).eval E.toScalars
        (env.enter (segmentBinding E (foldName key) user :: E.pivotFrame tenant user 0 pivots)) =
          E.wrappedRow hitReason tenant pivots user := by
      rw [itemsOf, itemsOf, itemsOf, eval_itemThen, eval_itemThen, eval_item, columnTerm_eval,
        column_segment, featuresTerm_eval frozen, castText_eval, Engine.wrappedRow]
      cases E.call "json_object" (E.frozenPairs tenant user pivots) with
      | none => rfl
      | some features => cases E.cast "json" (E.text hitReason) <;> rfl
    rw [eval_select_plain plain joined]
    simp only [Ast.eval, keep_yes, Option.bind_some, row, itemsOf_names]
    rfl

/-- A snapshot has a row for each row of the wrapped segment. -/
theorem snapshotPhrase_eval {spec : SnapshotSpec} {subquery : Ast Value .query}
    {wrapped : Multiset (List V)}
    (given : subquery.eval E.toScalars env = some ⟨wrappedColumns key, wrapped⟩) :
    ((snapshotPhrase key spec tenant subquery).eval E.toScalars env).map Table.rows =
      mapAll (E.writtenRow key spec tenant) wrapped := by
  have source : (Ast.from (.derived subquery "sub") .noJoin).eval E.toScalars env =
      some (wrapped.map fun values => ((Stored.mk (wrappedColumns key) 0).frame "sub" fun name =>
        (((wrappedColumns key).zip values).lookup name).getD E.null, .yes)) := by
    rw [eval_from_derived given, Table.stored, Multiset.map_map]
    rfl
  have row (values : List V) : (itemsOf (castTerm (boundTerm (.text spec.snapshotId)) "uuid", none)
      [(boundTerm (.text spec.campaignId), none),
        (castTerm (boundTerm (.text spec.asOfTs)) "timestamptz", none),
        (columnTerm "sub" (foldName key), none), (columnTerm "sub" "features", none),
        (columnTerm "sub" "hit_reason", none), (boundTerm (.text tenant), none)]).eval E.toScalars
      (env.enter ((Stored.mk (wrappedColumns key) 0).frame "sub" fun name =>
        (((wrappedColumns key).zip values).lookup name).getD E.null)) =
          E.writtenRow key spec tenant values := by
    simp only [itemsOf, eval_itemThen, eval_item, columnTerm_eval, boundTerm_eval, castText_eval, E.bound_text,
      Env.column_enter_self, Engine.writtenRow, Option.map_some, Option.bind_some,
      Option.bind_eq_bind, Option.pure_def]
    cases E.cast "uuid" (E.text spec.snapshotId) with
    | none => rfl
    | some id => cases E.cast "timestamptz" (E.text spec.asOfTs) <;> rfl
  rw [snapshotPhrase, Ast.eval, eval_select_plain (by rfl) source]
  simp only [Ast.eval, keep_yes, Option.bind_some, row, Option.map_map]
  cases mapAll (E.writtenRow key spec tenant) wrapped <;> rfl

end

end

end ConsumerEngine.Query
