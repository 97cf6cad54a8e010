import ConsumerEngine.Query.Compiler
import ConsumerEngine.Query.Enforcement
import ConsumerEngine.Storage.WideViews

/-! Wide views for the compiler: after any feature writes, what is registered can be read.

The columns of a view's key come before those of the features, so a feature named like one of them
is never read.
-/

set_option autoImplicit false

namespace ConsumerEngine.Query

open ConsumerEngine.Core ConsumerEngine.Storage FeatureBatch FeatureCall

/-- The condition on a feature without a cut-off reads this column of this view. -/
def ReadsView (name family short : String) : Prop :=
  ∀ op cmp value baseKey params catalogAlias tenant, cmpSymbol op = .ok cmp →
    ∃ bound, compileFeature name op value baseKey params catalogAlias tenant none =
      .ok ("EXISTS (SELECT 1 FROM " ++ catalogAlias ++ ".feature_wide_" ++ family ++
        " f WHERE f.user_id = base." ++ baseKey ++ " AND " ++ "f.tenant_id = ?" ++ " AND " ++
        "f." ++ short ++ " " ++ cmp ++ " ?" ++ ")", bound)

/-- The wide views cover the store. -/
structure Covered (argMax : ArgMax) (catalog : Catalog) : Prop where
  viewed : ∀ family, (∃ shorts, catalog.wideView family = some (family, shorts)) ↔
    ∃ row ∈ stored catalog, familyOf row = some family
  columns : ∀ family shorts, catalog.wideView family = some (family, shorts) → ∀ short,
    short ∈ shorts ↔
      ∃ row ∈ stored catalog, splitFeatureName row.featureName = .ok (family, short)
  newest : ∀ family short,
    (∃ row ∈ stored catalog, splitFeatureName row.featureName = .ok (family, short)) →
      ∀ user tenant, catalog.wideCell (storeCells argMax) family short user tenant =
        if ∃ row ∈ stored catalog, familyOf row = some family ∧ row.userId = user ∧
            row.tenantId = some tenant
          then some (latest (storeCells argMax) (stored catalog) tenant user (family ++ "." ++ short))
          else none
  registered : ∀ name tenant, featureRegistered catalog name tenant = .ok true →
    ∃ family short shorts, ReadsView name family short ∧
      catalog.wideView family = some (family, shorts) ∧ short ∈ shorts

/-- The short name is that of a column of the view's key. -/
def isKeyColumn (short : String) : Bool := ["user_id", "tenant_id"].contains (foldName short)

theorem text_ne_newest {argMax : ArgMax} (key : String)
    (rows : Multiset (F64 × Int)) :
    (storeCells argMax).text key ≠ (storeCells argMax).newest rows := by
  cases value : argMax.pick rows <;> simp [storeCells, value]

theorem readsView {name family short : String}
    (split : splitFeatureName name = .ok (family, short)) : ReadsView name family short := by
  intro op cmp value baseKey params catalogAlias tenant symbol
  unfold compileFeature
  rw [split, symbol]
  exact ⟨_, rfl⟩

/-! ### Columns of a view -/

section
variable {V : Type} {cells : ViewCells V} {rows : List StoredFeature} {family short user tenant : String}

theorem isKeyColumn_iff : isKeyColumn short = true ↔
    foldName "user_id" = foldName short ∨ foldName "tenant_id" = foldName short := by
  rw [isKeyColumn, List.contains_iff_mem, List.mem_cons, List.mem_singleton,
    show foldName "user_id" = "user_id" from by decide,
    show foldName "tenant_id" = "tenant_id" from by decide, eq_comm,
    @eq_comm _ (foldName short) "tenant_id"]

/-- A column that no other is called like is found. -/
theorem cellAt_viewRow {view : String × List String} {owner : Option String}
    {group : List StoredFeature} (apart : isKeyColumn short = false) (member : short ∈ view.2)
    (only : ∀ other ∈ view.2, foldName other = foldName short → other = short) :
    cellAt (viewRow cells view user owner group) short =
      some (newestOf cells (view.1 ++ "." ++ short) group) := by
  have notKey : ¬ (foldName "user_id" = foldName short ∨ foldName "tenant_id" = foldName short) := by
    rw [← isKeyColumn_iff, apart]
    exact Bool.false_ne_true
  obtain ⟨notUser, notTenant⟩ := not_or.mp notKey
  have found : view.2.find? (fun other => foldName other = foldName short) = some short := by
    have some_ : (view.2.find? fun other => foldName other = foldName short).isSome = true :=
      List.find?_isSome.mpr ⟨short, member, decide_eq_true rfl⟩
    obtain ⟨other, first⟩ := Option.isSome_iff_exists.mp some_
    have same : foldName other = foldName short := by simpa using List.find?_some first
    rw [first, only other (List.mem_of_find?_eq_some first) same]
  rw [cellAt, viewRow, List.find?_cons_of_neg (by simpa using notUser),
    List.find?_cons_of_neg (by simpa using notTenant), List.find?_map]
  simp only [Function.comp_def, found, Option.map_some]

/-- A column called like one of the key's is that one. -/
theorem cellAt_key {view : String × List String} {group : List StoredFeature}
    (shadowed : isKeyColumn short = true) :
    ∃ key, cellAt (viewRow cells view user (some tenant) group) short = some (cells.text key) := by
  rw [cellAt, viewRow]
  by_cases own : foldName "user_id" = foldName short
  · rw [List.find?_cons_of_pos (by simpa using own)]
    exact ⟨user, rfl⟩
  · have theirs := (isKeyColumn_iff.mp shadowed).resolve_left own
    rw [List.find?_cons_of_neg (by simpa using own), List.find?_cons_of_pos (by simpa using theirs)]
    exact ⟨tenant, rfl⟩

theorem groupOf_isEmpty
    (known : ∀ row ∈ rows, ∃ family short, splitFeatureName row.featureName = .ok (family, short))
    (ident : isIdent family = true) :
    (groupOf family user (some tenant) rows).isEmpty = true ↔
      ¬ ∃ row ∈ rows, familyOf row = some family ∧ row.userId = user ∧ row.tenantId = some tenant := by
  rw [List.isEmpty_iff, groupOf, List.filter_eq_nil_iff, not_exists]
  refine forall_congr' fun row => ?_
  by_cases member : row ∈ rows
  · obtain ⟨own, short, split⟩ := known row member
    have begins : (family ++ ".").toList.isPrefixOf row.featureName.toList = true ↔
        familyOf row = some family := by
      rw [begins_iff ident split, familyOf_eq_some]
      constructor
      · rintro rfl
        exact ⟨short, split⟩
      · rintro ⟨other, split'⟩
        rw [split, Except.ok.injEq, Prod.mk.injEq] at split'
        exact split'.1.symm
    simp only [member, forall_const, true_and, Bool.and_eq_true, begins, beq_iff_eq]
  · simp only [member, false_and, not_false_eq_true, IsEmpty.forall_iff]

/-- The view sums up exactly the rows of the feature that the user has. -/
theorem newestOf_groupOf :
    newestOf cells (family ++ "." ++ short) (groupOf family user (some tenant) rows) =
      latest cells rows tenant user (family ++ "." ++ short) := by
  rw [latest, newestOf, newestOf, groupOf, List.filter_filter, List.filter_filter]
  refine congrArg (fun kept => cells.newest (Multiset.ofList (List.map _ kept)))
    (List.filter_congr fun row _ => ?_)
  by_cases named : row.featureName = family ++ "." ++ short
  · have begins : (family ++ ".").toList.isPrefixOf row.featureName.toList = true := by
      have whole : (family ++ "." ++ short).toList = (family ++ ".").toList ++ short.toList :=
        String.toList_append
      rw [named, whole, List.isPrefixOf_iff_prefix]
      exact List.prefix_append _ _
    rw [begins, Bool.true_and, Bool.decide_and, beq_eq_decide, beq_eq_decide]
  · rw [decide_eq_false named, Bool.false_and, Bool.false_and]

end

/-! ### Views over runs -/

section
variable {argMax : ArgMax} {names : Set String} {catalog : Catalog}

theorem registered_stored {name tenant : String}
    (registered : featureRegistered catalog name tenant = .ok true) :
    ∃ row ∈ stored catalog, row.featureName = name := by
  unfold featureRegistered tableRows at registered
  cases present : catalog.featureStore with
  | none =>
    rw [present] at registered
    cases registered
  | some rows =>
    rw [present] at registered
    have found : rows.any (fun row => row.featureName == name && row.tenantId == some tenant) = true :=
      Except.ok.inj registered
    obtain ⟨row, member, fits⟩ := List.any_eq_true.mp found
    rw [Bool.and_eq_true, beq_iff_eq] at fits
    exact ⟨row, by rw [stored, present]; exact member, fits.1⟩

theorem Synced.shorts_iff (synced : Synced names catalog) {family : String}
    (ident : isIdent family = true) (short : String) :
    short ∈ shortsIn family (stored catalog) ↔
      ∃ row ∈ stored catalog, splitFeatureName row.featureName = .ok (family, short) := by
  rw [mem_shortsIn]
  refine exists_congr fun row => and_congr_right fun member => ?_
  obtain ⟨-, -, first, second, split⟩ := synced.known row member
  exact shortOf_eq_some ident split

/-- Views in step with the store cover it unless a column of the key hides one of a feature. -/
theorem Synced.covered (spelled : Spelled names) (synced : Synced names catalog)
    (apart : ∀ row ∈ stored catalog, ∀ family short,
      splitFeatureName row.featureName = .ok (family, short) → isKeyColumn short = false) :
    Covered argMax catalog := by
  have split : ∀ row ∈ stored catalog, ∃ family short,
      splitFeatureName row.featureName = .ok (family, short) :=
    fun row member => (synced.known row member).2.2
  refine ⟨fun family => ⟨?_, ?_⟩, fun family shorts found short => ?_, fun family short stands user
    tenant => ?_, fun name tenant registered => ?_⟩
  · rintro ⟨shorts, found⟩
    exact synced.backed family _ found
  · rintro ⟨row, member, own⟩
    exact ⟨_, synced.drawn row member family own⟩
  · obtain ⟨row, member, own⟩ := synced.backed family _ found
    obtain ⟨other, named⟩ := familyOf_eq_some.mp own
    rw [synced.drawn row member family own, Option.some.injEq, Prod.mk.injEq] at found
    rw [← found.2, Synced.shorts_iff synced (splitFeatureName_ident named).1]
  · obtain ⟨row, member, named⟩ := stands
    have ident := (splitFeatureName_ident named).1
    have drawn := synced.drawn row member family (familyOf_eq_some.mpr ⟨short, named⟩)
    have listed : short ∈ shortsIn family (stored catalog) :=
      (Synced.shorts_iff synced ident short).mpr ⟨row, member, named⟩
    have only : ∀ other ∈ shortsIn family (stored catalog), foldName other = foldName short →
        other = short := by
      intro other inside same
      obtain ⟨row', member', named'⟩ := (Synced.shorts_iff synced ident other).mp inside
      exact spelled.shorts _ (synced.known row' member').1 _ (synced.known row member).1 _ _ _
        named' named same
    rw [Catalog.wideCell, drawn]
    by_cases present : ∃ row ∈ stored catalog, familyOf row = some family ∧ row.userId = user ∧
        row.tenantId = some tenant
    · have filled := mt (groupOf_isEmpty split ident).mp (not_not.mpr present)
      rw [if_pos present, ← newestOf_groupOf]
      simp only [bind, Option.bind]
      rw [if_neg filled, cellAt_viewRow (apart row member family short named) listed only]
    · have empty := (groupOf_isEmpty split ident).mpr present
      rw [if_neg present]
      simp only [bind, Option.bind]
      rw [if_pos empty]
  · obtain ⟨row, member, rfl⟩ := registered_stored registered
    obtain ⟨family, short, named⟩ := split row member
    have drawn := synced.drawn row member family (familyOf_eq_some.mpr ⟨short, named⟩)
    exact ⟨family, short, _, readsView named, drawn,
      (Synced.shorts_iff synced (splitFeatureName_ident named).1 short).mpr ⟨row, member, named⟩⟩

/-- A feature named like a column of the key is not covered. -/
theorem Synced.not_covered (synced : Synced names catalog) {row : StoredFeature}
    (member : row ∈ stored catalog) {family short : String}
    (named : splitFeatureName row.featureName = .ok (family, short))
    (shadowed : isKeyColumn short = true) : ¬ Covered argMax catalog := by
  intro covered
  obtain ⟨tenant, owned⟩ := Option.isSome_iff_exists.mp (synced.known row member).2.1
  have own : familyOf row = some family := familyOf_eq_some.mpr ⟨short, named⟩
  have present : ∃ row' ∈ stored catalog, familyOf row' = some family ∧ row'.userId = row.userId ∧
      row'.tenantId = some tenant := ⟨row, member, own, rfl, owned⟩
  have split : ∀ row ∈ stored catalog, ∃ family short,
      splitFeatureName row.featureName = .ok (family, short) :=
    fun row member => (synced.known row member).2.2
  have filled := mt (groupOf_isEmpty split (splitFeatureName_ident named).1).mp (not_not.mpr present)
  have reads := covered.newest family short ⟨row, member, named⟩ row.userId tenant
  obtain ⟨key, shown⟩ := @cellAt_key _ (storeCells argMax) short row.userId tenant
    (family, shortsIn family (stored catalog))
    (groupOf family row.userId (some tenant) (stored catalog)) shadowed
  rw [if_pos present, Catalog.wideCell, synced.drawn row member family own] at reads
  simp only [bind, Option.bind] at reads
  rw [if_neg filled, shown, Option.some.injEq] at reads
  exact text_ne_newest key _ reads

/-- After any calls the wide views cover the store exactly if no call that returned has a feature
named like a column of the key. -/
theorem covered_iff {writer : Writer} {calls : List FeatureCall} (unwritten : Unwritten writer)
    (spelled : Spelled names)
    (within : ∀ call ∈ calls, ∀ row ∈ call.rows, row.featureName ∈ names) :
    Covered argMax (after writer calls).durable.catalog ↔
      ∀ call ∈ accepted writer calls, ∀ row ∈ call.rows, ∀ family short,
        splitFeatureName row.featureName = .ok (family, short) → isKeyColumn short = false := by
  have synced := synced_after unwritten spelled within
  constructor
  · intro covered call member source among family short named
    obtain ⟨row, made⟩ := accepted_converts unwritten.idle call member source among
    obtain ⟨instant, -, rfl⟩ := storedFeature_ok made
    have held := (mem_stored_after unwritten).mpr ⟨call, member, source, among, made⟩
    refine Bool.eq_false_iff.mpr fun shadowed => ?_
    exact Synced.not_covered synced held named shadowed covered
  · intro apart
    refine Synced.covered spelled synced fun row member family short named => ?_
    obtain ⟨call, listed, source, among, made⟩ := (mem_stored_after unwritten).mp member
    obtain ⟨instant, -, rfl⟩ := storedFeature_ok made
    exact apart call listed source among family short named

end

/-! ### A feature named like the key -/

def regularityRows : List FeatureRow :=
  [⟨"u1", "cadence.regularity", 9 / 10, "2025-01-01T00:00:00Z", "cadence_sql"⟩]

theorem spelled_singleton (name : String) : Spelled {name} := by
  constructor
  · intro first firstly second secondly family short other short' named named' _
    rw [Set.mem_singleton_iff.mp firstly] at named
    rw [Set.mem_singleton_iff.mp secondly, named, Except.ok.injEq, Prod.mk.injEq] at named'
    exact named'.1
  · intro first firstly second secondly family short other named named' _
    rw [Set.mem_singleton_iff.mp firstly] at named
    rw [Set.mem_singleton_iff.mp secondly, named, Except.ok.injEq, Prod.mk.injEq] at named'
    exact named'.2

theorem covered_iff_regularity :
    Covered .highest (after datedWriter [⟨"acme", regularityRows⟩]).durable.catalog ↔
      ∀ call ∈ accepted datedWriter [⟨"acme", regularityRows⟩], ∀ row ∈ call.rows,
        ∀ family short, splitFeatureName row.featureName = .ok (family, short) →
          isKeyColumn short = false :=
  covered_iff datedWriter_unwritten (spelled_singleton "cadence.regularity") (by
    intro call member row among
    rw [List.mem_singleton.mp member] at among
    rw [List.mem_singleton.mp among]
    rfl)

def userIdFeature : FeatureBatch := oneFeature "profile" "user_id" 1 (by decide) (by decide)

/-- The column of a feature called `user_id` is the user. -/
theorem userId_feature_hidden :
    (∃ n, (run ⟨"acme", userIdFeature.rows⟩ datedWriter).1 = .ok n) ∧
      ¬ Covered .highest (after datedWriter [⟨"acme", userIdFeature.rows⟩]).durable.catalog := by
  obtain ⟨returned, held⟩ := @run_accepts userIdFeature "acme" datedWriter (by decide)
    (fun _ => rfl) 0 rfl (fun row member => absurd member List.not_mem_nil)
  refine ⟨returned, ?_⟩
  have synced := @synced_after datedWriter [⟨"acme", userIdFeature.rows⟩] datedWriter_unwritten _
    (spelled_singleton "profile.user_id") (by
      intro call member row among
      rw [List.mem_singleton.mp member] at among
      rw [List.mem_singleton.mp among]
      rfl)
  have stored_ : (⟨"u1", "profile.user_id", 1, 0, "profile.user_id", some "acme"⟩ : StoredFeature) ∈
      stored (after datedWriter [⟨"acme", userIdFeature.rows⟩]).durable.catalog := by
    rw [after, after, held]
    exact List.mem_append_right _ (List.mem_singleton.mpr rfl)
  exact Synced.not_covered synced stored_ (show splitFeatureName "profile.user_id" =
    .ok ("profile", "user_id") by decide) (by decide)

end ConsumerEngine.Query
