import ConsumerEngine.Storage.Atomicity
import ConsumerEngine.Storage.Growth
import ConsumerEngine.Storage.KeyedContents

/-! Statements of the writer do not undo each other.

Inserts and schema changes only add, deletes only remove, and the chunks of an upsert have
their keys to themselves. So where statements leave the catalogue as it was before them, each
of them found nothing to change.
-/

set_option autoImplicit false

namespace ConsumerEngine.Storage

open ConsumerEngine.Core ConsumerEngine.Foundation

/-! ### Statements with nothing to do -/

def Catalog.holds (catalog : Catalog) : EngineTable → Bool
  | .featureStore => catalog.featureStore.isSome
  | .semanticCatalog => catalog.semanticCatalog.isSome
  | .suppression => catalog.suppression.isSome
  | .audienceSnapshot => catalog.audienceSnapshot.isSome
  | .cdcOffsets => catalog.cdcOffsets.isSome

/-- A statement finds nothing to change in a catalogue. -/
def Statement.Idle (duck : DuckDb) (catalog : Catalog) : Statement → Prop
  | .createRaw into _ => (catalog.raw (rawName into)).isSome = true
  | .addTenantColumn into =>
      ∀ found, catalog.raw (rawName into) = some found → found.columns.contains "tenant_id" = true
  | .insertRaw _ _ _ params => params = []
  | .mergeUpsert into columns key _ params =>
      mergeRows columns key ((chunks columns.length params).map (rowOf columns))
        (catalog.rowsOf (rawName into)) = catalog.rowsOf (rawName into)
  | .mergeDelete into key keys tenant =>
      ∀ row ∈ catalog.rowsOf (rawName into), deletes key keys tenant row = false
  | .createEngine table => catalog.holds table = true
  | .addEngineTenant _ | .maintenance _ => True
  | .insertCatalogRow _ _ => False
  | .insertSuppression row _ =>
      ∀ stored id, catalog.suppression = some stored → duck.castUuid row.suppressionId = some id →
        stored.any (fun seen => seen.suppressionId = id) = true
  | .insertSnapshot sql params => duck.select catalog sql params = .ok []
  | statement => ∃ affected, statement.apply duck catalog = .ok (affected, catalog)

theorem Catalog.rowsOf_of_raw {catalog : Catalog} {name : String} {found : RawTable}
    (present : catalog.raw name = some found) : catalog.rowsOf name = found.rows := by
  rw [rowsOf, present]

/-- Putting a table where one is leaves the catalogue exactly if it is that table. -/
theorem Catalog.setRaw_eq_iff {catalog : Catalog} {name : String} {found table : RawTable}
    (present : catalog.raw name = some found) : catalog.setRaw name table = catalog ↔ table = found := by
  constructor
  · intro same
    have here := congrArg (fun catalog => catalog.raw name) same
    simpa [present] using here
  · rintro rfl
    exact setRaw_eq_self present

theorem existing_eq_ok {catalog : Catalog} {into : Dataset} {found : RawTable} :
    existing catalog into = .ok found ↔ catalog.raw (rawName into) = some found := by
  unfold existing
  split <;> simp_all

theorem bindTuples_eq_ok {width count : Nat} {params : List Cell} {tuples : List (List Cell)}
    (bound : bindTuples width count params = .ok tuples) : tuples = chunks width params := by
  unfold bindTuples at bound
  split at bound <;> cases bound
  rfl

theorem storedSuppression_id {duck : DuckDb} {tenant : String} {row : SuppressionRow}
    {stored : StoredSuppression} (converted : storedSuppression duck tenant row = .ok stored) :
    duck.castUuid row.suppressionId = some stored.suppressionId := by
  obtain ⟨id, cast, rest⟩ := except_bind_eq_ok.mp converted
  obtain ⟨occurred, -, rest⟩ := except_bind_eq_ok.mp rest
  obtain ⟨received, -, rest⟩ := except_bind_eq_ok.mp rest
  cases rest
  unfold Storage.cast at cast
  split at cast <;> cases cast
  assumption

section
variable {duck : DuckDb} {catalog after : Catalog} {affected : Nat}

/-- What a taken insert makes of its table. -/
theorem insertRaw_applied {into : Dataset} {columns : List String} {count : Nat} {params : List Cell}
    (applied : (Statement.insertRaw into columns count params).apply duck catalog =
      .ok (affected, after)) :
    ∃ found, catalog.raw (rawName into) = some found ∧ after = catalog.setRaw (rawName into)
      { found with rows := found.rows + ((chunks columns.length params).map (rowOf columns)) } := by
  obtain ⟨found, present, rest⟩ := except_bind_eq_ok.mp applied
  split at rest
  · obtain ⟨tuples, bound, done⟩ := except_bind_eq_ok.mp rest
    cases done
    exact ⟨found, existing_eq_ok.mp present, by rw [bindTuples_eq_ok bound]⟩
  · cases rest

/-- What a taken upsert MERGE makes of its table. -/
theorem mergeUpsert_applied {into : Dataset} {columns : List String} {key : String} {count : Nat}
    {params : List Cell} (applied : (Statement.mergeUpsert into columns key count params).apply duck
      catalog = .ok (affected, after)) :
    ∃ found, catalog.raw (rawName into) = some found ∧
      (resolvesColumns found columns && found.columns.contains (foldName key)) = true ∧
      after = catalog.setRaw (rawName into) { found with
        rows := mergeRows columns key ((chunks columns.length params).map (rowOf columns)) found.rows } := by
  obtain ⟨found, present, rest⟩ := except_bind_eq_ok.mp applied
  split at rest
  case isTrue resolved =>
    obtain ⟨tuples, bound, done⟩ := except_bind_eq_ok.mp rest
    cases done
    exact ⟨found, existing_eq_ok.mp present, resolved, by rw [bindTuples_eq_ok bound]⟩
  case isFalse => cases rest

/-- What a taken delete MERGE makes of its table. -/
theorem mergeDelete_applied {into : Dataset} {key : String} {keys : List String} {tenant : String}
    (applied : (Statement.mergeDelete into key keys tenant).apply duck catalog = .ok (affected, after)) :
    ∃ found, catalog.raw (rawName into) = some found ∧ after = catalog.setRaw (rawName into)
      { found with rows := found.rows.filter fun row => deletes key keys tenant row = false } := by
  obtain ⟨found, present, rest⟩ := except_bind_eq_ok.mp applied
  split at rest
  · cases rest
    exact ⟨found, existing_eq_ok.mp present, rfl⟩
  · cases rest

/-- A table that is created if need be was there already. -/
theorem engine_idle {α : Type} (rows : Option (List α)) :
    rows.isSome = true ↔ some (rows.getD []) = rows := by
  cases rows <;> simp

/-- A taken statement leaves the catalogue exactly if it found nothing to change. -/
theorem Statement.idle_iff {statement : Statement}
    (applied : statement.apply duck catalog = .ok (affected, after)) :
    statement.Idle duck catalog ↔ after = catalog := by
  cases statement with
  | createRaw into columns =>
    simp only [Statement.apply] at applied
    split at applied
    case h_1 found present =>
      cases applied
      simp [Idle, present]
    case h_2 missing =>
      split at applied <;> cases applied
      simp only [Idle, missing, Option.isSome_none, Bool.false_eq_true, false_iff]
      intro same
      have here := congrArg (fun catalog => catalog.raw (rawName into)) same
      simp [missing] at here
  | addTenantColumn into =>
    obtain ⟨found, present, rest⟩ := except_bind_eq_ok.mp applied
    rw [existing_eq_ok] at present
    split at rest
    case isTrue owned =>
      cases rest
      refine iff_of_true (fun other here => ?_) rfl
      obtain rfl := Option.some.inj (present.symm.trans here)
      exact owned
    case isFalse missing =>
      cases rest
      rw [Catalog.setRaw_eq_iff present]
      refine iff_of_false (fun idle => missing (idle found present)) fun same => ?_
      have columns := congrArg (List.length ∘ RawTable.columns) same
      simp at columns
  | insertRaw into columns count params =>
    obtain ⟨found, present, rfl⟩ := insertRaw_applied applied
    rw [Catalog.setRaw_eq_iff present, Idle]
    constructor
    · rintro rfl
      simp
    · intro same
      have rows := congrArg RawTable.rows same
      have none_ : (chunks columns.length params).map (rowOf columns) = [] := by
        simpa using rows
      by_contra filled
      exact List.ne_nil_of_mem (take_mem_chunks columns.length filled) (List.map_eq_nil_iff.mp none_)
  | mergeUpsert into columns key count params =>
    obtain ⟨found, present, -, rfl⟩ := mergeUpsert_applied applied
    rw [Catalog.setRaw_eq_iff present, Idle, Catalog.rowsOf_of_raw present]
    exact ⟨fun same => by rw [same], fun same => congrArg RawTable.rows same⟩
  | mergeDelete into key keys tenant =>
    obtain ⟨found, present, rfl⟩ := mergeDelete_applied applied
    rw [Catalog.setRaw_eq_iff present, Idle, Catalog.rowsOf_of_raw present, ← Multiset.filter_eq_self]
    exact ⟨fun same => by rw [same], fun same => congrArg RawTable.rows same⟩
  | createEngine table =>
    -- an engine table that is made anew is empty, one that is there stays as it is
    cases table with
    | featureStore =>
      cases applied
      exact (engine_idle catalog.featureStore).trans
        ⟨fun same => by rw [same], congrArg Catalog.featureStore⟩
    | semanticCatalog =>
      cases applied
      exact (engine_idle catalog.semanticCatalog).trans
        ⟨fun same => by rw [same], congrArg Catalog.semanticCatalog⟩
    | suppression =>
      cases applied
      exact (engine_idle catalog.suppression).trans
        ⟨fun same => by rw [same], congrArg Catalog.suppression⟩
    | audienceSnapshot =>
      cases applied
      exact (engine_idle catalog.audienceSnapshot).trans
        ⟨fun same => by rw [same], congrArg Catalog.audienceSnapshot⟩
    | cdcOffsets =>
      cases applied
      exact (engine_idle catalog.cdcOffsets).trans
        ⟨fun same => by rw [same], congrArg Catalog.cdcOffsets⟩
  | addEngineTenant table =>
    cases applied
    exact iff_of_true trivial rfl
  | maintenance sql =>
    cases applied
    exact iff_of_true trivial rfl
  | insertCatalogRow row tenant =>
    obtain ⟨stored, present, done⟩ := except_bind_eq_ok.mp applied
    cases done
    refine iff_of_false id fun same => ?_
    have here := congrArg Catalog.semanticCatalog same
    rw [presentIf_eq_ok.mp present] at here
    simp at here
  | insertSuppression row tenant =>
    obtain ⟨stored, present, rest⟩ := except_bind_eq_ok.mp applied
    obtain ⟨added, converted, rest⟩ := except_bind_eq_ok.mp rest
    rw [presentIf_eq_ok] at present
    have id := storedSuppression_id converted
    split at rest
    case isTrue seen =>
      cases rest
      refine iff_of_true (fun other key here is => ?_) rfl
      obtain rfl := Option.some.inj (present.symm.trans here)
      obtain rfl := Option.some.inj (id.symm.trans is)
      exact seen
    case isFalse unseen =>
      cases rest
      refine iff_of_false (fun idle => unseen (idle stored _ present id)) fun same => ?_
      have here := congrArg Catalog.suppression same
      rw [present] at here
      simp at here
  | insertSnapshot sql params =>
    obtain ⟨stored, present, rest⟩ := except_bind_eq_ok.mp applied
    obtain ⟨selected, answered, done⟩ := except_bind_eq_ok.mp rest
    cases done
    rw [presentIf_eq_ok] at present
    rw [Idle, answered]
    constructor
    · intro none_
      obtain rfl := Except.ok.inj none_
      rw [List.append_nil, ← present]
    · intro same
      have here := congrArg Catalog.audienceSnapshot same
      rw [present] at here
      simpa using here
  | mergeOffset | insertFeatures | createView =>
    simp only [Idle]
    constructor
    · rintro ⟨_, same⟩
      rw [applied] at same
      cases same
      rfl
    · rintro rfl
      exact ⟨_, applied⟩

end

/-! ### Statements do not undo each other -/

/-- Rows are only ever put behind those that are there. -/
def Extends {α : Type} (before after : Option (List α)) : Prop :=
  ∀ rows, before = some rows → ∃ more, after = some more ∧ rows <+: more

theorem Extends.refl {α : Type} (rows : Option (List α)) : Extends rows rows :=
  fun _ here => ⟨_, here, List.prefix_refl _⟩

theorem Extends.trans {α : Type} {first second third : Option (List α)}
    (one : Extends first second) (two : Extends second third) : Extends first third := by
  intro rows here
  obtain ⟨more, there, longer⟩ := one rows here
  obtain ⟨most, last, longest⟩ := two more there
  exact ⟨most, last, longer.trans longest⟩

theorem Extends.antisymm {α : Type} {before after : Option (List α)}
    (one : Extends before after) (two : Extends after before) : before = after := by
  cases before with
  | none =>
    cases after with
    | none => rfl
    | some rows => obtain ⟨_, there, _⟩ := two rows rfl; cases there
  | some rows =>
    obtain ⟨more, rfl, longer⟩ := one rows rfl
    obtain ⟨again, same, shorter⟩ := two more rfl
    cases same
    rw [longer.eq_of_length_le shorter.length_le]

theorem Extends.append {α : Type} {stored : List α} {rows : Option (List α)}
    (present : rows = some stored) (more : List α) : Extends rows (some (stored ++ more)) := by
  rintro here same
  obtain rfl := Option.some.inj (present.symm.trans same)
  exact ⟨_, rfl, List.prefix_append _ _⟩

theorem Extends.create {α : Type} (rows : Option (List α)) : Extends rows (some (rows.getD [])) := by
  rintro here rfl
  exact ⟨_, rfl, List.prefix_refl _⟩

/-- Tables, columns and rows are only ever added. -/
structure Onward (before after : Catalog) : Prop where
  raw : ∀ name found, before.raw name = some found → ∃ grown, after.raw name = some grown ∧
    found.columns <+: grown.columns ∧ found.rows ≤ grown.rows
  cdcOffsets : Extends before.cdcOffsets after.cdcOffsets
  featureStore : Extends before.featureStore after.featureStore
  featureViews : after.featureViews = before.featureViews
  semanticCatalog : Extends before.semanticCatalog after.semanticCatalog
  suppression : Extends before.suppression after.suppression
  audienceSnapshot : Extends before.audienceSnapshot after.audienceSnapshot

namespace Onward

variable {before after : Catalog}

theorem refl (catalog : Catalog) : Onward catalog catalog :=
  ⟨fun _ _ here => ⟨_, here, List.prefix_refl _, le_rfl⟩, .refl _, .refl _, rfl, .refl _, .refl _,
    .refl _⟩

theorem trans {first second third : Catalog} (one : Onward first second)
    (two : Onward second third) : Onward first third where
  raw name found here := by
    obtain ⟨grown, there, columns, rows⟩ := one.raw name found here
    obtain ⟨last, final, columns', rows'⟩ := two.raw name grown there
    exact ⟨last, final, columns.trans columns', rows.trans rows'⟩
  cdcOffsets := one.cdcOffsets.trans two.cdcOffsets
  featureStore := one.featureStore.trans two.featureStore
  featureViews := two.featureViews.trans one.featureViews
  semanticCatalog := one.semanticCatalog.trans two.semanticCatalog
  suppression := one.suppression.trans two.suppression
  audienceSnapshot := one.audienceSnapshot.trans two.audienceSnapshot

theorem antisymm (one : Onward before after) (two : Onward after before) : before = after := by
  have raw : before.raw = after.raw := by
    funext name
    cases here : before.raw name with
    | none =>
      cases there : after.raw name with
      | none => rfl
      | some found =>
        obtain ⟨_, back, -⟩ := two.raw name found there
        rw [here] at back
        cases back
    | some found =>
      obtain ⟨grown, there, columns, rows⟩ := one.raw name found here
      obtain ⟨again, back, columns', rows'⟩ := two.raw name grown there
      obtain rfl := Option.some.inj (here.symm.trans back)
      rw [there]
      have width := columns.eq_of_length_le columns'.length_le
      have height := le_antisymm rows rows'
      cases found
      cases grown
      simp_all
  have cdcOffsets := one.cdcOffsets.antisymm two.cdcOffsets
  have featureStore := one.featureStore.antisymm two.featureStore
  have featureViews := two.featureViews
  have semanticCatalog := one.semanticCatalog.antisymm two.semanticCatalog
  have suppression := one.suppression.antisymm two.suppression
  have audienceSnapshot := one.audienceSnapshot.antisymm two.audienceSnapshot
  cases before
  cases after
  simp_all

/-- A raw table that grew, with everything else as it was. -/
theorem setRaw {catalog : Catalog} {name : String} {grown : RawTable}
    (larger : ∀ found, catalog.raw name = some found →
      found.columns <+: grown.columns ∧ found.rows ≤ grown.rows) :
    Onward catalog (catalog.setRaw name grown) where
  raw other found here := by
    by_cases same : other = name
    · subst same
      exact ⟨grown, catalog.setRaw_self _ _, larger found here⟩
    · exact ⟨found, (catalog.setRaw_of_ne _ same).trans here, List.prefix_refl _, le_rfl⟩
  cdcOffsets := .refl _
  featureStore := .refl _
  featureViews := rfl
  semanticCatalog := .refl _
  suppression := .refl _
  audienceSnapshot := .refl _

end Onward

/-- A statement that only adds. -/
def Statement.adds : Statement → Bool
  | .mergeUpsert .. | .mergeDelete .. | .mergeOffset _ | .createView .. => false
  | _ => true

section
variable {duck : DuckDb} {catalog after : Catalog} {affected : Nat}

theorem Statement.adds_onward {statement : Statement} (adds : statement.adds = true)
    (applied : statement.apply duck catalog = .ok (affected, after)) : Onward catalog after := by
  cases statement with
  | createRaw into columns =>
    simp only [Statement.apply] at applied
    split at applied
    case h_1 => cases applied; exact .refl _
    case h_2 missing =>
      split at applied <;> cases applied
      exact .setRaw fun found here => by rw [missing] at here; cases here
  | addTenantColumn into =>
    obtain ⟨found, present, rest⟩ := except_bind_eq_ok.mp applied
    rw [existing_eq_ok] at present
    split at rest <;> cases rest
    · exact .refl _
    · refine .setRaw fun other here => ?_
      obtain rfl := Option.some.inj (present.symm.trans here)
      exact ⟨List.prefix_append _ _, le_rfl⟩
  | insertRaw into columns count params =>
    obtain ⟨found, present, rfl⟩ := insertRaw_applied applied
    refine .setRaw fun other here => ?_
    obtain rfl := Option.some.inj (present.symm.trans here)
    exact ⟨List.prefix_refl _, Multiset.le_add_right _ _⟩
  | createEngine table =>
    have start := Onward.refl catalog
    cases table with
    | featureStore => cases applied; exact { start with featureStore := .create _ }
    | semanticCatalog => cases applied; exact { start with semanticCatalog := .create _ }
    | suppression => cases applied; exact { start with suppression := .create _ }
    | audienceSnapshot => cases applied; exact { start with audienceSnapshot := .create _ }
    | cdcOffsets => cases applied; exact { start with cdcOffsets := .create _ }
  | addEngineTenant | maintenance => cases applied; exact .refl _
  | insertFeatures rows tenant =>
    obtain ⟨stored, present, rest⟩ := except_bind_eq_ok.mp applied
    obtain ⟨added, -, done⟩ := except_bind_eq_ok.mp rest
    cases done
    exact { Onward.refl catalog with featureStore := .append (presentIf_eq_ok.mp present) _ }
  | insertCatalogRow row tenant =>
    obtain ⟨stored, present, done⟩ := except_bind_eq_ok.mp applied
    cases done
    exact { Onward.refl catalog with semanticCatalog := .append (presentIf_eq_ok.mp present) _ }
  | insertSuppression row tenant =>
    obtain ⟨stored, present, rest⟩ := except_bind_eq_ok.mp applied
    obtain ⟨added, -, rest⟩ := except_bind_eq_ok.mp rest
    split at rest <;> cases rest
    · exact .refl _
    · exact { Onward.refl catalog with suppression := .append (presentIf_eq_ok.mp present) _ }
  | insertSnapshot sql params =>
    obtain ⟨stored, present, rest⟩ := except_bind_eq_ok.mp applied
    obtain ⟨selected, -, done⟩ := except_bind_eq_ok.mp rest
    cases done
    exact { Onward.refl catalog with audienceSnapshot := .append (presentIf_eq_ok.mp present) _ }
  | mergeUpsert | mergeDelete | mergeOffset | createView => cases adds

/-- A delete goes the other way. -/
theorem mergeDelete_onward {into : Dataset} {key : String} {keys : List String} {tenant : String}
    (applied : (Statement.mergeDelete into key keys tenant).apply duck catalog = .ok (affected, after)) :
    Onward after catalog := by
  obtain ⟨found, present, rfl⟩ := mergeDelete_applied applied
  refine { Onward.refl catalog with raw := fun other table here => ?_ }
  by_cases same : other = rawName into
  · subst same
    rw [Catalog.setRaw_self] at here
    cases here
    exact ⟨found, present, List.prefix_refl _, Multiset.filter_le _ _⟩
  · rw [Catalog.setRaw_of_ne _ _ same] at here
    exact ⟨table, here, List.prefix_refl _, le_rfl⟩

end

section
variable {duck : DuckDb} (way : Catalog → Catalog → Prop)

/-- Statements that each go one way go that way together. -/
theorem applyAll_oneWay (refl : ∀ catalog, way catalog catalog)
    (trans : ∀ {first second third}, way first second → way second third → way first third)
    {statements : List Statement}
    (along : ∀ statement ∈ statements, ∀ catalog affected after,
      statement.apply duck catalog = .ok (affected, after) → way catalog after)
    {start finish : Catalog} (ran : applyAll duck start statements = .ok finish) : way start finish := by
  induction statements generalizing start with
  | nil =>
    cases ran
    exact refl _
  | cons statement rest ih =>
    obtain ⟨applied, one, more⟩ := except_bind_eq_ok.mp ran
    exact trans (along statement List.mem_cons_self _ _ _ one)
      (ih (fun other member => along other (List.mem_cons_of_mem _ member)) more)

/-- Statements that go one way and end where they began found nothing to change. -/
theorem idle_of_oneWay (refl : ∀ catalog, way catalog catalog)
    (trans : ∀ {first second third}, way first second → way second third → way first third)
    (antisymm : ∀ {first second}, way first second → way second first → first = second)
    {statements : List Statement}
    (along : ∀ statement ∈ statements, ∀ catalog affected after,
      statement.apply duck catalog = .ok (affected, after) → way catalog after)
    {catalog : Catalog} (ran : applyAll duck catalog statements = .ok catalog) :
    ∀ statement ∈ statements, statement.Idle duck catalog := by
  induction statements with
  | nil => exact fun _ member => nomatch member
  | cons statement rest ih =>
    obtain ⟨⟨affected, after⟩, one, more⟩ := except_bind_eq_ok.mp ran
    have later : ∀ other ∈ rest, ∀ catalog affected after,
        other.apply duck catalog = .ok (affected, after) → way catalog after :=
      fun other member => along other (List.mem_cons_of_mem _ member)
    obtain rfl : after = catalog := antisymm (applyAll_oneWay way refl trans later more)
      (along statement List.mem_cons_self _ _ _ one)
    intro other member
    rcases List.mem_cons.mp member with rfl | behind
    · exact (Statement.idle_iff one).mpr rfl
    · exact ih later more other behind

end

/-! ### Creating the table of a write -/

/-- How many columns a table has, counting its being there. -/
def Catalog.width (catalog : Catalog) (name : String) : Nat :=
  (catalog.columnsOf name).elim 0 fun known => known.length + 1

/-- Nothing happened, or a table became wider. -/
def Widens (name : String) (before after : Catalog) : Prop :=
  before = after ∨ before.width name < after.width name

theorem Widens.trans {name : String} {first second third : Catalog} (one : Widens name first second)
    (two : Widens name second third) : Widens name first third := by
  rcases one with rfl | wider
  · exact two
  · rcases two with rfl | widest
    · exact .inr wider
    · exact .inr (wider.trans widest)

theorem Widens.antisymm {name : String} {before after : Catalog} (one : Widens name before after)
    (two : Widens name after before) : before = after := by
  rcases one with same | wider
  · exact same
  · rcases two with same | narrower
    · exact same.symm
    · exact absurd narrower wider.asymm

theorem prologue_widens {duck : DuckDb} {dataset : Dataset} {columns : List String}
    {statement : Statement} (member : statement ∈ prologue dataset columns) {catalog after : Catalog}
    {affected : Nat} (applied : statement.apply duck catalog = .ok (affected, after)) :
    Widens (rawName dataset) catalog after := by
  rcases List.mem_cons.mp member with rfl | last
  · simp only [Statement.apply] at applied
    split at applied
    case h_1 => cases applied; exact .inl rfl
    case h_2 missing =>
      split at applied <;> cases applied
      refine .inr ?_
      simp [Catalog.width, Catalog.columnsOf, missing]
  · obtain rfl := List.mem_singleton.mp last
    obtain ⟨found, present, rest⟩ := except_bind_eq_ok.mp applied
    rw [existing_eq_ok] at present
    split at rest <;> cases rest
    · exact .inl rfl
    · refine .inr ?_
      simp [Catalog.width, Catalog.columnsOf, present]

theorem mergeUpsert_width {duck : DuckDb} {into : Dataset} {columns : List String} {key : String}
    {count : Nat} {params : List Cell} {catalog after : Catalog} {affected : Nat}
    (applied : (Statement.mergeUpsert into columns key count params).apply duck catalog =
      .ok (affected, after)) (name : String) : after.width name = catalog.width name := by
  obtain ⟨found, present, -, rfl⟩ := mergeUpsert_applied applied
  unfold Catalog.width Catalog.columnsOf
  by_cases same : name = rawName into
  · subst same
    rw [Catalog.setRaw_self, present]
    rfl
  · rw [Catalog.setRaw_of_ne _ _ same]

/-! ### The chunks of an upsert -/

/-- A merge leaves rows under the keys they had or were merged under. -/
theorem key_of_mem_mergeRows {columns : List String} {key : String} {sources : List RawRow}
    {rows : Multiset RawRow} {row : RawRow} (member : row ∈ mergeRows columns key sources rows) :
    (∃ target ∈ rows, target (foldName key) = row (foldName key)) ∨
      ∃ source ∈ sources, source (foldName key) = row (foldName key) := by
  rcases Multiset.mem_add.mp member with old | new
  · obtain ⟨target, inRows, rfl⟩ := Multiset.mem_map.mp old
    cases found : matching key sources target with
    | none => exact .inl ⟨target, inRows, rfl⟩
    | some source =>
      have joined := List.find?_some found
      have inSources := List.mem_of_find?_eq_some found
      by_cases listed : foldName key ∈ columns.map foldName
      · exact .inr ⟨source, inSources, by simp [overwrite, listed]⟩
      · exact .inl ⟨target, inRows, by simp [overwrite, listed]⟩
  · exact .inr ⟨row, List.mem_of_mem_filter (Multiset.mem_coe.mp new), rfl⟩

section
variable {table : KeyedTable} {known : List String} {tenant : String} {duck : DuckDb}

theorem key_of_mem_mergeAll {pieces : List (List (List Cell))} {rows : Multiset RawRow}
    {row : RawRow} (member : row ∈ table.mergeAll tenant pieces rows) :
    (∃ target ∈ rows, target (foldName table.key) = row (foldName table.key)) ∨
      ∃ cells ∈ pieces.flatten,
        table.stamped tenant cells (foldName table.key) = row (foldName table.key) := by
  induction pieces generalizing rows with
  | nil => exact .inl ⟨row, member, rfl⟩
  | cons piece rest ih =>
    have behind : row ∈ table.mergeAll tenant rest (table.merge tenant piece rows) := member
    rcases ih behind with ⟨target, merged, same⟩ | later
    · rcases key_of_mem_mergeRows merged with ⟨stored, inRows, under⟩ | ⟨source, inSources, under⟩
      · exact .inl ⟨stored, inRows, under.trans same⟩
      · obtain ⟨cells, inPiece, rfl⟩ := List.mem_map.mp inSources
        exact .inr ⟨cells, List.mem_append_left _ inPiece, under.trans same⟩
    · obtain ⟨cells, inRest, under⟩ := later
      exact .inr ⟨cells, List.mem_append_right _ inRest, under⟩

/-- Rows that could be merged one by one, each under a key of its own. -/
structure KeyedTable.Apart (table : KeyedTable) (rows : List (List Cell)) : Prop where
  aligned : ∀ row ∈ rows, row.length = table.columns.length
  keyed : ∀ row ∈ rows, keyCell table.keyIndex row ≠ none
  alone : ∀ text, (under table.keyIndex rows text).length ≤ 1

theorem KeyedTable.Apart.right {first second : List (List Cell)}
    (apart : table.Apart (first ++ second)) : table.Apart second where
  aligned row member := apart.aligned row (List.mem_append_right _ member)
  keyed row member := apart.keyed row (List.mem_append_right _ member)
  alone text := by
    have whole := apart.alone text
    rw [under, List.filter_append, List.length_append] at whole
    exact Nat.le_trans (Nat.le_add_left _ _) whole

theorem KeyedTable.Apart.left {first second : List (List Cell)}
    (apart : table.Apart (first ++ second)) : table.Apart first where
  aligned row member := apart.aligned row (List.mem_append_left _ member)
  keyed row member := apart.keyed row (List.mem_append_left _ member)
  alone text := by
    have whole := apart.alone text
    rw [under, List.filter_append, List.length_append] at whole
    exact Nat.le_trans (Nat.le_add_right _ _) whole

/-- No key is in two chunks. -/
theorem KeyedTable.Apart.disjoint {first second : List (List Cell)}
    (apart : table.Apart (first ++ second)) {one two : List Cell} (here : one ∈ first)
    (there : two ∈ second) : keyCell table.keyIndex one ≠ keyCell table.keyIndex two := by
  intro same
  obtain ⟨text, key⟩ := Option.ne_none_iff_exists'.mp
    (apart.keyed one (List.mem_append_left _ here))
  have whole := apart.alone text
  rw [under, List.filter_append, List.length_append] at whole
  have left : 0 < (first.filter fun row => keyCell table.keyIndex row = some text).length :=
    List.length_pos_of_mem (List.mem_filter.mpr ⟨here, by simpa using key⟩)
  have right : 0 < (second.filter fun row => keyCell table.keyIndex row = some text).length :=
    List.length_pos_of_mem (List.mem_filter.mpr ⟨there, by simpa using same.symm.trans key⟩)
  omega

/-- What later chunks do cannot undo what a chunk did. -/
theorem KeyedTable.merge_of_mergeAll (fits : table.fits known = true)
    (keyed : table.columns.contains table.key = true) {piece : List (List Cell)}
    {pieces : List (List (List Cell))} (apart : table.Apart (piece ++ pieces.flatten))
    {rows : Multiset RawRow}
    (round : table.mergeAll tenant pieces (table.merge tenant piece rows) = rows) :
    table.merge tenant piece rows = rows := by
  have key (cells : List Cell) (member : cells ∈ piece ++ pieces.flatten) :
      table.stamped tenant cells (foldName table.key) = keyCell table.keyIndex cells :=
    KeyedTable.stamped_key tenant fits keyed (apart.aligned cells member)
  -- the rows under the keys of the first chunk, and the others
  let mine (row : RawRow) : Prop :=
    ∃ cells ∈ piece, keyCell table.keyIndex cells = row (foldName table.key)
  classical
  have split : rows.filter mine + rows.filter (fun row => ¬ mine row) = rows :=
    Multiset.filter_add_not mine rows
  have missed : ∀ row ∈ rows.filter (fun row => ¬ mine row),
      ∀ source ∈ piece.map (table.stamped tenant),
        joins (row (foldName table.key)) (source (foldName table.key)) = false := by
    intro row member source inSources
    obtain ⟨cells, inPiece, rfl⟩ := List.mem_map.mp inSources
    rw [Bool.eq_false_iff]
    intro joined
    obtain ⟨text, rowKey, sourceKey⟩ := joins_eq_true.mp joined
    rw [key cells (List.mem_append_left _ inPiece)] at sourceKey
    exact (Multiset.mem_filter.mp member).2 ⟨cells, inPiece, sourceKey.trans rowKey.symm⟩
  have first : table.merge tenant piece rows =
      table.merge tenant piece (rows.filter mine) + rows.filter (fun row => ¬ mine row) := by
    conv_lhs => rw [← split]
    exact mergeRows_add missed _
  have stays : ∀ row ∈ table.merge tenant piece (rows.filter mine), mine row := by
    intro row member
    rcases key_of_mem_mergeRows member with ⟨target, inRows, under⟩ | ⟨source, inSources, under⟩
    · obtain ⟨cells, inPiece, same⟩ := (Multiset.mem_filter.mp inRows).2
      exact ⟨cells, inPiece, same.trans under⟩
    · obtain ⟨cells, inPiece, rfl⟩ := List.mem_map.mp inSources
      exact ⟨cells, inPiece, (key cells (List.mem_append_left _ inPiece)).symm.trans under⟩
  have spares : table.Spares tenant pieces.flatten [] (table.merge tenant piece (rows.filter mine)) := by
    refine ⟨fun row member cells inRest => ?_, fun row _ => by simp [deletes]⟩
    rw [Bool.eq_false_iff]
    intro joined
    obtain ⟨text, rowKey, sourceKey⟩ := joins_eq_true.mp joined
    rw [key cells (List.mem_append_right _ inRest)] at sourceKey
    obtain ⟨mineCells, inPiece, same⟩ := stays row member
    exact apart.disjoint inPiece inRest (same.trans (rowKey.trans sourceKey.symm))
  have others : ∀ row ∈ table.mergeAll tenant pieces (rows.filter fun row => ¬ mine row),
      ¬ mine row := by
    rintro row member ⟨mineCells, inPiece, same⟩
    rcases key_of_mem_mergeAll member with ⟨target, inRows, under⟩ | ⟨cells, inRest, under⟩
    · exact (Multiset.mem_filter.mp inRows).2 ⟨mineCells, inPiece, same.trans under.symm⟩
    · rw [key cells (List.mem_append_right _ inRest)] at under
      exact apart.disjoint inPiece inRest (same.trans under.symm)
  have ended : table.mergeAll tenant pieces (rows.filter fun row => ¬ mine row) +
      table.merge tenant piece (rows.filter mine) = rows := by
    rw [← mergeAll_add spares (fun other member _ inside => List.mem_flatten_of_mem member inside),
      add_comm _ (table.merge tenant piece (rows.filter mine)), ← first, round]
  have same : table.merge tenant piece (rows.filter mine) = rows.filter mine := by
    have kept := congrArg (Multiset.filter mine) ended
    rwa [Multiset.filter_add, Multiset.filter_eq_nil.mpr others, zero_add,
      Multiset.filter_eq_self.mpr stays] at kept
  rw [first, same, split]

/-- The merges of some chunks that are taken, and what they make of the rows. -/
theorem upserts_applied (fits : table.fits known = true) {pieces : List (List (List Cell))}
    (aligned : ∀ row ∈ pieces.flatten, row.length = table.columns.length) {catalog after : Catalog}
    (present : catalog.columnsOf table.name = some known)
    (ran : applyAll duck catalog (pieces.map (table.upsertStatement tenant)) = .ok after) :
    after = catalog.mapRows table.name (table.mergeAll tenant pieces) := by
  induction pieces generalizing catalog with
  | nil =>
    cases ran
    exact (Catalog.mapRows_id _ _).symm
  | cons piece rest ih =>
    rw [List.flatten_cons] at aligned
    obtain ⟨affected, taken⟩ : ∃ affected, (table.upsertStatement tenant piece).apply duck catalog =
        .ok (affected, catalog.mapRows table.name (table.merge tenant piece)) :=
      KeyedTable.upsertStatement_apply present fits tenant
        fun row member => aligned row (List.mem_append_left _ member)
    obtain ⟨applied, one, more⟩ := except_bind_eq_ok.mp ran
    rw [taken] at one
    cases one
    rw [ih (fun row member => aligned row (List.mem_append_right _ member))
      (by rw [Catalog.columnsOf_mapRows]; exact present) more, Catalog.mapRows_mapRows]
    rfl

/-- Merges that leave the catalogue as it was each found nothing to change. -/
theorem upserts_idle (keyed : table.columns.contains table.key = true)
    {pieces : List (List (List Cell))} (apart : table.Apart pieces.flatten) {catalog : Catalog}
    (ran : applyAll duck catalog (pieces.map (table.upsertStatement tenant)) = .ok catalog) :
    ∀ statement ∈ pieces.map (table.upsertStatement tenant), statement.Idle duck catalog := by
  induction pieces with
  | nil => exact fun _ member => nomatch member
  | cons piece rest ih =>
    rw [List.flatten_cons] at apart
    obtain ⟨⟨affected, after⟩, one, more⟩ := except_bind_eq_ok.mp ran
    obtain ⟨found, here, fits, merged⟩ := mergeUpsert_applied one
    have present : catalog.columnsOf table.name = some found.columns := by
      rw [Catalog.columnsOf_eq_some, KeyedTable.name, here, Catalog.rowsOf_of_raw here]
    obtain ⟨_, taken⟩ : ∃ affected, (table.upsertStatement tenant piece).apply duck catalog =
        .ok (affected, catalog.mapRows table.name (table.merge tenant piece)) :=
      KeyedTable.upsertStatement_apply present fits tenant
        fun row member => apart.aligned row (List.mem_append_left _ member)
    rw [taken] at one
    cases one
    have whole := upserts_applied fits apart.right.aligned
      (by rw [Catalog.columnsOf_mapRows]; exact present) more
    rw [Catalog.mapRows_mapRows] at whole
    have rows := congrArg (Catalog.rowsOf · table.name) whole
    simp only [Catalog.rowsOf_mapRows_self present] at rows
    have still := KeyedTable.merge_of_mergeAll fits keyed apart rows.symm
    have same : catalog.mapRows table.name (table.merge tenant piece) = catalog := by
      rw [Catalog.mapRows_eq_rewrite present, Catalog.rewrite, still, Catalog.setRaw_eq_self]
      exact Catalog.columnsOf_eq_some.mp present
    rw [same] at more
    intro statement member
    rcases List.mem_cons.mp member with rfl | behind
    · exact (Statement.idle_iff taken).mpr same
    · exact ih apart.right more statement behind

/-- What an upsert sent, if it left the catalogue as it was, found nothing to change. -/
theorem upsert_idle (keyed : table.columns.contains table.key = true)
    {pieces : List (List (List Cell))} (apart : table.Apart pieces.flatten) {sent : List Statement}
    (begins : sent <+: prologue table.dataset table.columns ++ pieces.map (table.upsertStatement tenant))
    {catalog : Catalog} (ran : applyAll duck catalog sent = .ok catalog) :
    ∀ statement ∈ sent, statement.Idle duck catalog := by
  obtain ⟨opening, merges, rfl, first, second⟩ : ∃ opening merges, sent = opening ++ merges ∧
      opening <+: prologue table.dataset table.columns ∧
      merges <+: pieces.map (table.upsertStatement tenant) := by
    obtain ⟨rest, whole⟩ := begins
    rcases List.append_eq_append_iff.mp whole with ⟨more, split, -⟩ | ⟨merges, split, tail⟩
    · exact ⟨sent, [], (List.append_nil _).symm, ⟨more, split.symm⟩, List.nil_prefix⟩
    · exact ⟨_, merges, split, List.prefix_refl _, ⟨rest, tail.symm⟩⟩
  obtain ⟨count, rfl⟩ : ∃ count, merges = (pieces.take count).map (table.upsertStatement tenant) :=
    ⟨merges.length, by rw [List.map_take]; exact List.prefix_iff_eq_take.mp second⟩
  obtain ⟨middle, opened, merged⟩ := applyAll_append_ok ran
  have along : ∀ statement ∈ opening, ∀ catalog affected after,
      statement.apply duck catalog = .ok (affected, after) → Widens table.name catalog after :=
    fun statement member _ _ _ => prologue_widens (first.subset member)
  have width : middle.width table.name = catalog.width table.name := by
    refine applyAll_oneWay (fun before after => before.width table.name =
      after.width table.name) (fun _ => rfl) (fun one two => one.trans two) ?_ merged
    intro statement member before affected after applied
    obtain ⟨piece, -, rfl⟩ := List.mem_map.mp member
    exact (mergeUpsert_width applied table.name).symm
  obtain rfl : catalog = middle := by
    rcases applyAll_oneWay (Widens table.name) (fun _ => .inl rfl) Widens.trans along opened with same | wider
    · exact same
    · exact absurd width wider.ne'
  have whole : (pieces.take count).flatten ++ (pieces.drop count).flatten = pieces.flatten := by
    rw [← List.flatten_append, List.take_append_drop]
  intro statement member
  rcases List.mem_append.mp member with early | late
  · exact idle_of_oneWay (Widens table.name) (fun _ => .inl rfl) Widens.trans Widens.antisymm along
      opened statement early
  · exact upserts_idle keyed (whole ▸ apart).left merged statement late

end

end ConsumerEngine.Storage
