import ConsumerEngine.Storage.Frames

/-! The engine's own tables over a session: no statement takes back what one of them holds, and each
operation leaves those of the others alone.
-/

set_option autoImplicit false

namespace ConsumerEngine.Storage

open ConsumerEngine.Core ConsumerEngine.Foundation

/-- The engine's own tables have the rows they had, in their order, and maybe more after them. A CDC
source keeps its row per partition, whatever offset that row is at. -/
structure Catalog.Appends (before after : Catalog) : Prop where
  features : before.featureStore.getD [] <+: after.featureStore.getD []
  descriptions : before.semanticCatalog.getD [] <+: after.semanticCatalog.getD []
  suppression : before.suppression.getD [] <+: after.suppression.getD []
  snapshots : before.audienceSnapshot.getD [] <+: after.audienceSnapshot.getD []
  sources : (before.cdcOffsets.getD []).map (fun row => (row.source, row.part)) <+:
    (after.cdcOffsets.getD []).map fun row => (row.source, row.part)

namespace Catalog.Appends

variable {before after : Catalog}

instance : IsPreorder Catalog Catalog.Appends where
  refl _ := ⟨List.prefix_rfl, List.prefix_rfl, List.prefix_rfl, List.prefix_rfl, List.prefix_rfl⟩
  trans _ _ _ first second :=
    ⟨first.features.trans second.features, first.descriptions.trans second.descriptions,
      first.suppression.trans second.suppression, first.snapshots.trans second.snapshots,
      first.sources.trans second.sources⟩

/-- The tables have the same rows. -/
theorem of_same (features : after.featureStore.getD [] = before.featureStore.getD [])
    (descriptions : after.semanticCatalog.getD [] = before.semanticCatalog.getD [])
    (suppression : after.suppression.getD [] = before.suppression.getD [])
    (snapshots : after.audienceSnapshot.getD [] = before.audienceSnapshot.getD [])
    (offsets : after.cdcOffsets.getD [] = before.cdcOffsets.getD []) : before.Appends after :=
  ⟨features ▸ List.prefix_rfl, descriptions ▸ List.prefix_rfl, suppression ▸ List.prefix_rfl,
    snapshots ▸ List.prefix_rfl, offsets ▸ List.prefix_rfl⟩

end Catalog.Appends

/-- No statement takes a row back. -/
theorem Statement.apply_appends {statement : Statement} {duck : DuckDb} {catalog after : Catalog}
    {affected : Nat} (applied : statement.apply duck catalog = .ok (affected, after)) :
    catalog.Appends after := by
  have raw (name : String) (table : RawTable) : catalog.Appends (catalog.setRaw name table) :=
    .of_same rfl rfl rfl rfl rfl
  have same : catalog.Appends catalog := refl_of Catalog.Appends catalog
  cases statement with
  | createRaw into columns =>
    simp only [Statement.apply] at applied
    split at applied
    · cases applied
      exact same
    · split at applied
      · cases applied
        exact raw _ _
      · cases applied
  | addTenantColumn into =>
    obtain ⟨found, -, rest⟩ := except_bind_eq_ok.mp applied
    split at rest
    · cases rest
      exact same
    · cases rest
      exact raw _ _
  | insertRaw into columns count params =>
    obtain ⟨found, -, rest⟩ := except_bind_eq_ok.mp applied
    split at rest
    · obtain ⟨tuples, -, rest⟩ := except_bind_eq_ok.mp rest
      cases rest
      exact raw _ _
    · cases rest
  | mergeUpsert into columns key count params =>
    obtain ⟨found, -, rest⟩ := except_bind_eq_ok.mp applied
    split at rest
    · obtain ⟨tuples, -, rest⟩ := except_bind_eq_ok.mp rest
      cases rest
      exact raw _ _
    · cases rest
  | mergeDelete into key keys tenant =>
    obtain ⟨found, -, rest⟩ := except_bind_eq_ok.mp applied
    split at rest
    · cases rest
      exact raw _ _
    · cases rest
  | createEngine table => cases table <;> cases applied <;> exact .of_same rfl rfl rfl rfl rfl
  | addEngineTenant table =>
    cases applied
    exact same
  | mergeOffset row =>
    obtain ⟨rows, held, rest⟩ := except_bind_eq_ok.mp applied
    obtain held := presentIf_eq_ok.mp held
    split at rest
    · cases rest
      refine { same with sources := ⟨[], (List.append_nil _).trans (Eq.symm ?_)⟩ }
      rw [held, Option.getD_some, Option.getD_some, List.map_map]
      -- A row that is replaced keeps its source and partition.
      have kept : ((fun row => (row.source, row.part)) ∘ fun stored : OffsetRow =>
          if stored.source = row.source ∧ stored.part = row.part then row else stored) =
            fun row => (row.source, row.part) := by
        funext stored
        by_cases hit : stored.source = row.source ∧ stored.part = row.part
        · simp [hit]
        · simp [hit]
      rw [kept]
    · cases rest
      refine { same with sources := ?_ }
      rw [held, Option.getD_some, Option.getD_some, List.map_append]
      exact List.prefix_append _ _
  | insertFeatures rows tenant =>
    obtain ⟨stored, held, rest⟩ := except_bind_eq_ok.mp applied
    obtain ⟨added, -, rest⟩ := except_bind_eq_ok.mp rest
    cases rest
    exact { same with features := by rw [presentIf_eq_ok.mp held]; exact List.prefix_append _ _ }
  | createView family shorts =>
    obtain ⟨stored, -, rest⟩ := except_bind_eq_ok.mp applied
    cases rest
    exact .of_same rfl rfl rfl rfl rfl
  | insertCatalogRow row tenant =>
    obtain ⟨stored, held, rest⟩ := except_bind_eq_ok.mp applied
    cases rest
    exact { same with descriptions := by rw [presentIf_eq_ok.mp held]; exact List.prefix_append _ _ }
  | insertSuppression row tenant =>
    obtain ⟨stored, held, rest⟩ := except_bind_eq_ok.mp applied
    obtain ⟨added, -, rest⟩ := except_bind_eq_ok.mp rest
    split at rest
    · cases rest
      exact same
    · cases rest
      exact { same with suppression := by rw [presentIf_eq_ok.mp held]; exact List.prefix_append _ _ }
  | insertSnapshot sql params =>
    obtain ⟨stored, held, rest⟩ := except_bind_eq_ok.mp applied
    obtain ⟨selected, -, rest⟩ := except_bind_eq_ok.mp rest
    cases rest
    exact { same with snapshots := by rw [presentIf_eq_ok.mp held]; exact List.prefix_append _ _ }
  | maintenance sql =>
    cases applied
    exact same

/-! ### Whose rows an operation leaves alone -/

/-- The rows of one of the engine's own tables are the same. -/
def Catalog.SameRows (before after : Catalog) : EngineTable → Prop
  | .featureStore => after.featureStore.getD [] = before.featureStore.getD []
  | .semanticCatalog => after.semanticCatalog.getD [] = before.semanticCatalog.getD []
  | .suppression => after.suppression.getD [] = before.suppression.getD []
  | .audienceSnapshot => after.audienceSnapshot.getD [] = before.audienceSnapshot.getD []
  | .cdcOffsets => after.cdcOffsets.getD [] = before.cdcOffsets.getD []

section
variable {before middle after : Catalog} {table other : EngineTable}

theorem Catalog.SameRows.refl (catalog : Catalog) (table : EngineTable) :
    catalog.SameRows catalog table := by
  cases table <;> rfl

theorem Catalog.SameRows.trans (first : before.SameRows middle table)
    (second : middle.SameRows after table) : before.SameRows after table := by
  cases table <;> exact Eq.trans second first

/-- A statement about one of the tables leaves the rows of the others alone. -/
theorem Statement.About.apply_same {statement : Statement} (about : statement.About table)
    (apart : other ≠ table) {duck : DuckDb} {affected : Nat}
    (applied : statement.apply duck before = .ok (affected, after)) : before.SameRows after other := by
  cases statement with
  | createRaw | addTenantColumn | insertRaw | mergeUpsert | mergeDelete => cases about
  | createEngine made => cases made <;> cases applied <;> cases other <;> rfl
  | addEngineTenant altered =>
    cases applied
    exact .refl _ _
  | maintenance sql =>
    cases applied
    exact .refl _ _
  | mergeOffset row =>
    obtain ⟨rows, -, rest⟩ := except_bind_eq_ok.mp applied
    obtain rfl : table = .cdcOffsets := about
    split at rest <;>
    · cases rest
      cases other <;> first | rfl | exact absurd rfl apart
  | insertFeatures rows tenant =>
    obtain ⟨stored, -, rest⟩ := except_bind_eq_ok.mp applied
    obtain ⟨added, -, rest⟩ := except_bind_eq_ok.mp rest
    obtain rfl : table = .featureStore := about
    cases rest
    cases other <;> first | rfl | exact absurd rfl apart
  | createView family shorts =>
    obtain ⟨stored, -, rest⟩ := except_bind_eq_ok.mp applied
    cases rest
    cases other <;> rfl
  | insertCatalogRow row tenant =>
    obtain ⟨stored, -, rest⟩ := except_bind_eq_ok.mp applied
    obtain rfl : table = .semanticCatalog := about
    cases rest
    cases other <;> first | rfl | exact absurd rfl apart
  | insertSuppression row tenant =>
    obtain ⟨stored, -, rest⟩ := except_bind_eq_ok.mp applied
    obtain ⟨added, -, rest⟩ := except_bind_eq_ok.mp rest
    obtain rfl : table = .suppression := about
    split at rest <;>
    · cases rest
      cases other <;> first | rfl | exact absurd rfl apart
  | insertSnapshot sql params =>
    obtain ⟨stored, -, rest⟩ := except_bind_eq_ok.mp applied
    obtain ⟨selected, -, rest⟩ := except_bind_eq_ok.mp rest
    obtain rfl : table = .audienceSnapshot := about
    cases rest
    cases other <;> first | rfl | exact absurd rfl apart

/-- A statement about a raw table leaves all but the offsets alone. -/
theorem Statement.Touches.apply_same {statement : Statement} {name : String}
    (touches : statement.Touches name) (apart : table ≠ .cdcOffsets) {duck : DuckDb} {affected : Nat}
    (applied : statement.apply duck before = .ok (affected, after)) : before.SameRows after table := by
  have visible := @Statement.Touches.apply_visible name (name ++ "_") (by simp) statement touches duck
    before after affected applied
  have store := congrArg Visible.featureStore visible
  have described := congrArg Visible.semanticCatalog visible
  have suppressed := congrArg Visible.suppression visible
  have snapshots := congrArg Visible.audienceSnapshot visible
  cases table with
  | featureStore => exact congrArg (·.getD []) store
  | semanticCatalog => exact congrArg (·.getD []) described
  | suppression => exact congrArg (·.getD []) suppressed
  | audienceSnapshot => exact congrArg (·.getD []) snapshots
  | cdcOffsets => exact absurd rfl apart

end

/-! ### Sessions -/

section
variable {allowed : Statement → Prop} {before after : Writer}

/-- A fact about the catalog that what is sent does not disturb. -/
theorem Sending.catalog (sending : Sending allowed before after) (idle : before.rollbackTo = none)
    {fact : Catalog → Prop}
    (undisturbed : ∀ statement catalog affected next, allowed statement → fact catalog →
      statement.apply before.duck catalog = .ok (affected, next) → fact next)
    (holds : fact before.durable.catalog) : fact after.durable.catalog :=
  (sending.keeps (fun durable => fact durable.catalog)
    (fun _ _ _ _ allows held applied => undisturbed _ _ _ _ allows held applied)
    ⟨holds, fun saved some_ => by rw [idle] at some_; cases some_⟩).1

/-- No session takes a row back. -/
theorem Sending.appends (sending : Sending allowed before after) (idle : before.rollbackTo = none) :
    before.durable.catalog.Appends after.durable.catalog :=
  sending.catalog idle
    (fun _ _ _ _ _ held applied => trans_of Catalog.Appends held (Statement.apply_appends applied))
    (refl_of Catalog.Appends _)

/-- A session whose statements each leave the rows of a table alone. -/
theorem Sending.sameRows {table : EngineTable} (sending : Sending allowed before after)
    (idle : before.rollbackTo = none)
    (each : ∀ statement, allowed statement → (∃ name, statement.Touches name ∧ table ≠ .cdcOffsets) ∨
      ∃ other, statement.About other ∧ table ≠ other) :
    before.durable.catalog.SameRows after.durable.catalog table := by
  refine @Sending.catalog _ _ _ sending idle (before.durable.catalog.SameRows · table)
    (fun statement _ _ _ allows held applied => ?_) (Catalog.SameRows.refl _ _)
  rcases each statement allows with ⟨name, touches, apart⟩ | ⟨other, about, apart⟩
  · exact held.trans (touches.apply_same apart applied)
  · exact held.trans (about.apply_same apart applied)

end

end ConsumerEngine.Storage
