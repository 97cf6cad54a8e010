import ConsumerEngine.Storage.Frames

/-! Materialised snapshots: the rows a selection appends to `audience_snapshot`. -/

set_option autoImplicit false

namespace ConsumerEngine.Storage

open ConsumerEngine.Core ConsumerEngine.Foundation

/-- `CREATE TABLE IF NOT EXISTS` of the snapshots. -/
def Catalog.openSnapshots (catalog : Catalog) : Catalog :=
  { catalog with audienceSnapshot := some (catalog.audienceSnapshot.getD []) }

def Catalog.addSnapshot (catalog : Catalog) (selected : List (List Value)) : Catalog :=
  { catalog with audienceSnapshot := some (catalog.audienceSnapshot.getD [] ++ selected) }

/-- The rows of all snapshots; none while the table does not exist. -/
def Catalog.snapshotRows (catalog : Catalog) : List (List Value) := catalog.audienceSnapshot.getD []

theorem addSnapshot_rows (catalog : Catalog) (selected : List (List Value)) :
    (catalog.addSnapshot selected).snapshotRows = catalog.snapshotRows ++ selected := rfl

section
variable (writer : Writer) (subquerySql : String) (subqueryParams : List Value)
  (keyColumn : String) (spec : SnapshotSpec)

/-- The rows the selection of a snapshot returns on a catalogue. -/
def Writer.snapshotRows (catalog : Catalog) : Except String (List (List Value)) :=
  writer.duck.select catalog.openSnapshots (snapshotStatement subquerySql keyColumn)
    (snapshotParams spec writer.tenant subqueryParams)

variable {writer subquerySql subqueryParams keyColumn spec}

theorem insertSnapshot_apply {duck : DuckDb} (catalog : Catalog) (sql : String)
    (params : List Value) :
    (Statement.insertSnapshot sql params).apply duck catalog.openSnapshots =
      (duck.select catalog.openSnapshots sql params).map
        fun selected => (selected.length, catalog.addSnapshot selected) := by
  simp only [Statement.apply, Catalog.openSnapshots, presentIf, bind, Except.bind]
  split <;> next selected => simp [selected, Except.map, Catalog.addSnapshot, pure, Except.pure]

theorem ensureSnapshots_sends (writer : Writer) :
    Sends (ensureEngineTable .audienceSnapshot) writer
      [.createEngine .audienceSnapshot, .addEngineTenant .audienceSnapshot]
      writer.durable.catalog.openSnapshots :=
  (Sends.execute writer rfl).bind fun _ =>
    (Sends.execute (writer.advanced _ _) rfl).andThen fun _ => Sends.pure _ ()

/-- The rows of a snapshot that was written. -/
theorem materializeSnapshot_eq_ok {after : Writer} {n : Nat}
    (ran : materializeSnapshot subquerySql subqueryParams keyColumn spec writer = (.ok n, after)) :
    isIdent keyColumn = true ∧ ∃ selected, writer.snapshotRows subquerySql subqueryParams keyColumn
      spec writer.durable.catalog = .ok selected := by
  obtain ⟨⟨⟩, reached, named, rest⟩ := Effect.bind_eq_ok.mp ran
  simp only [Effect.lift_apply, Prod.mk.injEq] at named
  obtain ⟨valid, rfl⟩ := named
  refine ⟨validateIdent_eq_ok.mp valid, ?_⟩
  cases selected : writer.snapshotRows subquerySql subqueryParams keyColumn spec
      writer.durable.catalog with
  | ok rows => exact ⟨rows, rfl⟩
  | error message =>
    refine absurd rest (Fails.not_ok ((ensureSnapshots_sends writer).bindFails
      fun _ opened same made => ?_))
    have failed : (Statement.insertSnapshot (snapshotStatement subquerySql keyColumn)
        (snapshotParams spec opened.tenant subqueryParams)).apply opened.duck
          opened.durable.catalog = .error message := by
      rw [made, insertSnapshot_apply, same.duck, same.tenant]
      rw [Writer.snapshotRows] at selected
      rw [selected]
      rfl
    exact (Fails.execute failed).bind

/-- A snapshot that was written has the rows of its selection. -/
theorem materializeSnapshot_wrote {after : Writer} {n : Nat}
    (ran : materializeSnapshot subquerySql subqueryParams keyColumn spec writer = (.ok n, after)) :
    ∃ selected, writer.snapshotRows subquerySql subqueryParams keyColumn spec
        writer.durable.catalog = .ok selected ∧ n = selected.length ∧
      after.durable.catalog = writer.durable.catalog.addSnapshot selected := by
  obtain ⟨valid, selected, answered⟩ := materializeSnapshot_eq_ok ran
  refine ⟨selected, answered, ?_⟩
  obtain ⟨⟨⟩, reached, named, rest⟩ := Effect.bind_eq_ok.mp ran
  simp only [Effect.lift_apply, Prod.mk.injEq] at named
  obtain ⟨-, rfl⟩ := named
  obtain ⟨⟨⟩, opened, ensured, rest⟩ := Effect.bind_eq_ok.mp rest
  have sends := ensureSnapshots_sends writer
  by_cases clear : writer.Clear
      [Statement.createEngine .audienceSnapshot, .addEngineTenant .audienceSnapshot].length
  · obtain ⟨⟨⟩, reached⟩ := sends.taken clear
    obtain ⟨-, rfl⟩ := Prod.mk.inj (ensured.symm.trans reached)
    generalize made : writer.advanced _ _ = opened at rest
    obtain ⟨same, got, copied, rest⟩ := Effect.bind_eq_ok.mp rest
    obtain ⟨copy, rfl⟩ := Prod.mk.inj copied
    obtain rfl := Except.ok.inj copy
    obtain ⟨count, wrote, inserted, rest⟩ := Effect.bind_eq_ok.mp rest
    obtain ⟨returned, rfl⟩ := Prod.mk.inj rest
    obtain rfl := Except.ok.inj returned
    rcases execute_cases (.insertSnapshot (snapshotStatement subquerySql keyColumn)
      (snapshotParams spec opened.tenant subqueryParams)) opened with
      ⟨failure, failed⟩ | ⟨affected, catalog, -, applied, taken⟩
    · cases failed.symm.trans inserted
    · obtain ⟨counted, rfl⟩ := Prod.mk.inj (inserted.symm.trans taken)
      obtain rfl := Except.ok.inj counted
      subst made
      rw [Writer.advanced_catalog, Writer.advanced_duck, Writer.advanced_tenant,
        insertSnapshot_apply] at applied
      rw [Writer.snapshotRows] at answered
      rw [answered] at applied
      obtain ⟨rfl, rfl⟩ := Prod.mk.inj (Except.ok.inj applied)
      exact ⟨rfl, rfl⟩
  · exact absurd ensured (Fails.not_ok (sends.refused clear))

/-- The rows of the snapshots are the same. -/
def Writer.KeepsSnapshots (before after : Writer) : Prop :=
  after.durable.catalog.snapshotRows = before.durable.catalog.snapshotRows

instance : IsPreorder Writer Writer.KeepsSnapshots where
  refl _ := rfl
  trans _ _ _ first second := Eq.trans second first

theorem execute_keepsSnapshots {statement : Statement} (keeps : ∀ duck catalog affected after,
    statement.apply duck catalog = .ok (affected, after) →
      after.snapshotRows = catalog.snapshotRows) :
    Effect.Within Writer.KeepsSnapshots (execute statement) := by
  intro writer
  rcases execute_cases statement writer with ⟨failure, ran⟩ | ⟨affected, catalog, -, applied, ran⟩
  · rw [ran]
    rfl
  · rw [ran]
    exact keeps _ _ _ _ applied

/-- A snapshot that could not be written leaves no row. -/
theorem materializeSnapshot_failed {after : Writer} {failure : Error}
    (ran : materializeSnapshot subquerySql subqueryParams keyColumn spec writer = (.error failure, after)) :
    after.durable.catalog.snapshotRows = writer.durable.catalog.snapshotRows := by
  have ensures : Effect.Within Writer.KeepsSnapshots (ensureEngineTable .audienceSnapshot) := by
    refine Effect.Within.bind (execute_keepsSnapshots fun _ _ _ _ applied => ?_) fun _ => ?_
    · cases applied
      rfl
    · refine Effect.Within.bind (execute_keepsSnapshots fun _ _ _ _ applied => ?_) fun _ =>
        Effect.Within.pure ()
      cases applied
      rfl
  unfold materializeSnapshot at ran
  cases named : validateIdent keyColumn with
  | error refused =>
    rw [Effect.bind_of_error (show Effect.lift (validateIdent keyColumn) writer =
      (.error refused, writer) by rw [Effect.lift_apply, named])] at ran
    obtain ⟨-, rfl⟩ := Prod.mk.inj ran
    rfl
  | ok =>
    rw [Effect.bind_of_ok (show Effect.lift (validateIdent keyColumn) writer =
      (.ok (), writer) by rw [Effect.lift_apply, named])] at ran
    have opens := ensures writer
    rcases ensured : ensureEngineTable .audienceSnapshot writer with ⟨outcome, opened⟩
    rw [ensured] at opens
    cases outcome with
    | error refused =>
      rw [Effect.bind_of_error ensured] at ran
      obtain ⟨-, rfl⟩ := Prod.mk.inj ran
      exact opens
    | ok =>
      rw [Effect.bind_of_ok ensured, Effect.bind_of_ok (Effect.get_apply opened)] at ran
      rcases execute_cases (.insertSnapshot (snapshotStatement subquerySql keyColumn)
        (snapshotParams spec opened.tenant subqueryParams)) opened with
        ⟨refused, inserted⟩ | ⟨affected, catalog, -, -, inserted⟩
      · rw [Effect.bind_of_error inserted] at ran
        obtain ⟨-, rfl⟩ := Prod.mk.inj ran
        exact opens
      · rw [Effect.bind_of_ok inserted] at ran
        cases ran

/-- A snapshot is written whole when no statement is refused. -/
theorem materializeSnapshot_accepts {selected : List (List Value)}
    (valid : isIdent keyColumn = true)
    (answered : writer.snapshotRows subquerySql subqueryParams keyColumn spec
      writer.durable.catalog = .ok selected) (never : ∀ i, writer.duck.rejects i = false) :
    Accepts (materializeSnapshot subquerySql subqueryParams keyColumn spec) writer
      (writer.durable.catalog.addSnapshot selected) := by
  unfold Accepts materializeSnapshot
  rw [Effect.bind_of_ok (show Effect.lift (validateIdent keyColumn) writer = (.ok (), writer) by
    rw [Effect.lift_apply, validateIdent_eq_ok.mpr valid])]
  refine (ensureSnapshots_sends writer).acceptsThen never fun _ opened same made => ?_
  have applied : (Statement.insertSnapshot (snapshotStatement subquerySql keyColumn)
      (snapshotParams spec opened.tenant subqueryParams)).apply opened.duck
        opened.durable.catalog =
          .ok (selected.length, writer.durable.catalog.addSnapshot selected) := by
    rw [made, insertSnapshot_apply, same.duck, same.tenant]
    rw [Writer.snapshotRows] at answered
    rw [answered]
    rfl
  have wrote := ((Sends.execute opened applied).accepts (by rw [same.duck]; exact never)).bumped
  exact wrote

end

end ConsumerEngine.Storage
