import ConsumerEngine.Storage.WideViews

/-! One value under each key of the feature store.

Rows are only ever added, and readers take a value at the highest instant. Where two rows of one
key differ, which of them is read is open.
-/

set_option autoImplicit false

namespace ConsumerEngine.Storage

open ConsumerEngine.Core ConsumerEngine.Foundation FeatureBatch FeatureCall

/-- What a value of the feature store is for. -/
structure FeatureKey where
  tenant : Option String
  user : String
  name : String
  instant : Int
  deriving DecidableEq

def StoredFeature.key (row : StoredFeature) : FeatureKey :=
  ⟨row.tenantId, row.userId, row.featureName, row.asOfTs⟩

/-- The value written last under a key. -/
def lastWritten (rows : List StoredFeature) (key : FeatureKey) : Option F64 :=
  ((rows.filter fun row => row.key = key).getLast?).map (·.numValue)

/-- The value the condition with a cut-off is about: `arg_max` over the rows up to it. -/
def latestUntil {V : Type} (cells : ViewCells V) (rows : List StoredFeature)
    (tenant user name : String) (cutoff : Int) : V :=
  newestOf cells name (rows.filter fun row =>
    row.userId = user ∧ row.tenantId = some tenant ∧ row.asOfTs ≤ cutoff)

/-- Every key has one value, the one written last, and both ways of reading a feature come to the
same however ties are broken. -/
structure SingleValued (catalog : Catalog) : Prop where
  last : ∀ row ∈ stored catalog, lastWritten (stored catalog) row.key = some row.numValue
  viewed : ∀ first second : ArgMax, ∀ family column user tenant,
    catalog.wideCell (storeCells first) family column user tenant =
      catalog.wideCell (storeCells second) family column user tenant
  bounded : ∀ first second : ArgMax, ∀ tenant user name cutoff,
    latestUntil (storeCells first) (stored catalog) tenant user name cutoff =
      latestUntil (storeCells second) (stored catalog) tenant user name cutoff

/-- Rows under one key have one value. -/
def OneValue (rows : List StoredFeature) : Prop :=
  ∀ first ∈ rows, ∀ second ∈ rows, first.key = second.key → first.numValue = second.numValue

/-- No row of one call contradicts one of the other: where tenant, user, feature and time are the
same, so is the value. -/
def FeatureCall.Agrees (duck : DuckDb) (first second : FeatureCall) : Prop :=
  first.tenant = second.tenant → ∀ row ∈ first.rows, ∀ other ∈ second.rows,
    row.userId = other.userId → row.featureName = other.featureName →
      duck.castTimestamptz row.asOfTs = duck.castTimestamptz other.asOfTs →
        row.numValue = other.numValue

/-! ### One value -/

theorem lastWritten_of_oneValue {rows : List StoredFeature} (single : OneValue rows)
    {row : StoredFeature} (member : row ∈ rows) :
    lastWritten rows row.key = some row.numValue := by
  have filled : rows.filter (fun other => other.key = row.key) ≠ [] :=
    List.ne_nil_of_mem (List.mem_filter.mpr ⟨member, decide_eq_true rfl⟩)
  obtain ⟨last, found⟩ := Option.isSome_iff_exists.mp (List.getLast?_isSome.mpr filled)
  obtain ⟨inside, same⟩ := List.mem_filter.mp (List.mem_of_getLast? found)
  rw [lastWritten, found, Option.map_some, single last inside row member (of_decide_eq_true same)]

theorem oneValue_of_lastWritten {rows : List StoredFeature}
    (last : ∀ row ∈ rows, lastWritten rows row.key = some row.numValue) : OneValue rows := by
  intro first firstly second secondly same
  have one := last first firstly
  rw [same, last second secondly] at one
  exact (Option.some.inj one).symm

/-- Where each instant has one value, no tie is open. -/
theorem ArgMax.pick_eq (first second : ArgMax) {rows : Multiset (F64 × Int)}
    (single : ∀ one ∈ rows, ∀ other ∈ rows, one.2 = other.2 → one.1 = other.1) :
    first.pick rows = second.pick rows := by
  by_cases empty : rows = 0
  · subst empty
    have none (argMax : ArgMax) : argMax.pick 0 = none := by
      cases picked : argMax.pick 0 with
      | none => rfl
      | some value =>
        obtain ⟨_, member, -⟩ := argMax.pick_newest 0 value picked
        exact absurd member (Multiset.notMem_zero _)
    rw [none, none]
  · obtain ⟨one, picked⟩ := Option.isSome_iff_exists.mp (first.pick_isSome rows empty)
    obtain ⟨other, picked'⟩ := Option.isSome_iff_exists.mp (second.pick_isSome rows empty)
    obtain ⟨instant, member, top⟩ := first.pick_newest rows one picked
    obtain ⟨instant', member', top'⟩ := second.pick_newest rows other picked'
    have same : instant = instant' := le_antisymm (top' _ member) (top _ member')
    rw [picked, picked']
    exact congrArg some (single _ member _ member' same)

section
variable {rows kept : List StoredFeature} {tenant user name : String}

/-- A feature of one user of one tenant is read alike, whichever rows of it are. -/
theorem newestOf_storeCells (single : OneValue rows) (first second : ArgMax)
    (within : ∀ row ∈ kept, row ∈ rows ∧ row.userId = user ∧ row.tenantId = some tenant) :
    newestOf (storeCells first) name kept = newestOf (storeCells second) name kept := by
  unfold newestOf storeCells
  refine congrArg (fun picked : Option F64 => picked.elim Value.null Value.double)
    (ArgMax.pick_eq first second fun one member other member' same => ?_)
  obtain ⟨row, among, rfl⟩ := List.mem_map.mp (Multiset.mem_coe.mp member)
  obtain ⟨row', among', rfl⟩ := List.mem_map.mp (Multiset.mem_coe.mp member')
  obtain ⟨inside, named⟩ := List.mem_filter.mp among
  obtain ⟨inside', named'⟩ := List.mem_filter.mp among'
  obtain ⟨held, own, tenanted⟩ := within row inside
  obtain ⟨held', own', tenanted'⟩ := within row' inside'
  refine single row held row' held' ?_
  rw [StoredFeature.key, StoredFeature.key, own, own', tenanted, tenanted',
    of_decide_eq_true named, of_decide_eq_true named']
  exact congrArg _ same

theorem singleValued_of_oneValue {catalog : Catalog} (single : OneValue (stored catalog)) :
    SingleValued catalog := by
  refine ⟨fun row member => lastWritten_of_oneValue single member,
    fun first second family column user tenant => ?_,
    fun first second tenant user name cutoff => ?_⟩
  · unfold Catalog.wideCell
    refine congrArg (Option.bind (catalog.wideView family)) (funext fun view => ?_)
    have group : ∀ row ∈ groupOf view.1 user (some tenant) (stored catalog),
        row ∈ stored catalog ∧ row.userId = user ∧ row.tenantId = some tenant := by
      intro row member
      obtain ⟨inside, fits⟩ := List.mem_filter.mp member
      simp only [Bool.and_eq_true, beq_iff_eq] at fits
      exact ⟨inside, fits.2⟩
    have cells : viewRow (storeCells first) view user (some tenant)
        (groupOf view.1 user (some tenant) (stored catalog)) =
        viewRow (storeCells second) view user (some tenant)
          (groupOf view.1 user (some tenant) (stored catalog)) := by
      unfold viewRow
      simp only [newestOf_storeCells single first second group]
      rfl
    dsimp only
    rw [cells]
  · refine @newestOf_storeCells _ _ tenant user name single first second fun row member => ?_
    obtain ⟨inside, fits⟩ := List.mem_filter.mp member
    obtain ⟨own, tenanted, -⟩ := of_decide_eq_true fits
    exact ⟨inside, own, tenanted⟩

end

/-! ### Runs of writes -/

/-- After any calls every key has one value exactly if no two calls that returned contradict each
other, and none itself. -/
theorem singleValued_iff {writer : Writer} {calls : List FeatureCall}
    (unwritten : Unwritten writer) :
    SingleValued (after writer calls).durable.catalog ↔
      ∀ first ∈ accepted writer calls, ∀ second ∈ accepted writer calls,
        first.Agrees writer.duck second := by
  constructor
  · intro single first firstly second secondly tenants row member other member' own named instants
    have oneValue := oneValue_of_lastWritten single.last
    obtain ⟨value, made⟩ := accepted_converts unwritten.idle first firstly row member
    obtain ⟨value', made'⟩ := accepted_converts unwritten.idle second secondly other member'
    have held := (mem_stored_after unwritten).mpr ⟨first, firstly, row, member, made⟩
    have held' := (mem_stored_after unwritten).mpr ⟨second, secondly, other, member', made'⟩
    obtain ⟨instant, cast, rfl⟩ := storedFeature_ok made
    obtain ⟨instant', cast', rfl⟩ := storedFeature_ok made'
    rw [cast, cast', Option.some.injEq] at instants
    refine oneValue _ held _ held' ?_
    rw [StoredFeature.key, StoredFeature.key, tenants, own, named, instants]
  · intro agree
    refine singleValued_of_oneValue fun row member other member' same => ?_
    obtain ⟨first, firstly, source, among, made⟩ := (mem_stored_after unwritten).mp member
    obtain ⟨second, secondly, source', among', made'⟩ := (mem_stored_after unwritten).mp member'
    obtain ⟨instant, cast, rfl⟩ := storedFeature_ok made
    obtain ⟨instant', cast', rfl⟩ := storedFeature_ok made'
    simp only [StoredFeature.key, FeatureKey.mk.injEq, Option.some.injEq] at same
    obtain ⟨tenants, own, named, instants⟩ := same
    exact agree first firstly second secondly tenants source among source' among' own named
      (by rw [cast, cast', instants])

/-! ### A second run at the same time -/

def regularityBatch (value : F64) : FeatureBatch :=
  oneFeature "cadence" "regularity" value (by decide) (by decide)

theorem singleValued_iff_regularity :
    SingleValued (after datedWriter [⟨"acme", (regularityBatch (9 / 10)).rows⟩]).durable.catalog ↔
      ∀ first ∈ accepted datedWriter [⟨"acme", (regularityBatch (9 / 10)).rows⟩],
        ∀ second ∈ accepted datedWriter [⟨"acme", (regularityBatch (9 / 10)).rows⟩],
          first.Agrees datedWriter.duck second :=
  singleValued_iff datedWriter_unwritten

/-- The value of a second run is stored beside that of the first. -/
theorem rerun_leaves_both :
    stored (after datedWriter [⟨"acme", (regularityBatch (9 / 10)).rows⟩,
        ⟨"acme", (regularityBatch (4 / 10)).rows⟩]).durable.catalog =
      [⟨"u1", "cadence.regularity", 9 / 10, 0, "cadence.regularity", some "acme"⟩,
        ⟨"u1", "cadence.regularity", 4 / 10, 0, "cadence.regularity", some "acme"⟩] ∧
    ¬ SingleValued (after datedWriter [⟨"acme", (regularityBatch (9 / 10)).rows⟩,
        ⟨"acme", (regularityBatch (4 / 10)).rows⟩]).durable.catalog := by
  have filled (value : F64) : (regularityBatch value).rows ≠ [] := List.cons_ne_nil _ _
  have unnamed : Named "cadence" (stored datedWriter.durable.catalog) :=
    fun row member => absurd member List.not_mem_nil
  obtain ⟨-, first⟩ := @run_accepts (regularityBatch (9 / 10)) "acme" datedWriter (filled _)
    (fun _ => rfl) 0 rfl unnamed
  have duck := (run_spec ⟨"acme", (regularityBatch (9 / 10)).rows⟩ datedWriter_unwritten.idle).2.1
  obtain ⟨-, second⟩ := @run_accepts (regularityBatch (4 / 10)) "acme"
    (run ⟨"acme", (regularityBatch (9 / 10)).rows⟩ datedWriter).2 (filled _)
    (by rw [duck]; exact fun _ => rfl) 0 (by rw [duck]; rfl) (by
      rw [first]
      exact (named_append _ _ _).mpr unnamed)
  have both : stored (after datedWriter [⟨"acme", (regularityBatch (9 / 10)).rows⟩,
      ⟨"acme", (regularityBatch (4 / 10)).rows⟩]).durable.catalog =
      [⟨"u1", "cadence.regularity", 9 / 10, 0, "cadence.regularity", some "acme"⟩,
        ⟨"u1", "cadence.regularity", 4 / 10, 0, "cadence.regularity", some "acme"⟩] := by
    rw [after, after, after, second, first]
    rfl
  refine ⟨both, fun single => ?_⟩
  have oneValue := oneValue_of_lastWritten single.last
  rw [both] at oneValue
  have same := oneValue _ (List.mem_cons_self ..) _ (List.mem_cons_of_mem _ (List.mem_cons_self ..)) rfl
  exact absurd same (by decide +kernel)

end ConsumerEngine.Storage
