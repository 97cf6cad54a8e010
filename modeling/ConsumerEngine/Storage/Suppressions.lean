import ConsumerEngine.Foundation.FirstPerKey
import ConsumerEngine.Storage.Sessions

/-! The suppression table: one row per suppression id, whoever sent it first. -/

set_option autoImplicit false

namespace ConsumerEngine.Storage

open ConsumerEngine.Core ConsumerEngine.Foundation

/-- The stored writebacks; none while the table does not exist. -/
def Catalog.suppressionRows (catalog : Catalog) : List StoredSuppression :=
  catalog.suppression.getD []

/-- The row a writeback stores for the writer's tenant, if no statement is refused. -/
def Writer.recorded (writer : Writer) (row : SuppressionRow) : Option StoredSuppression :=
  if writer.Clear 3 then (storedSuppression writer.duck writer.tenant row).toOption else none

/-- How the write of one writeback ends. -/
structure Writes (writer : Writer) (outcome : Except Error Nat × Writer)
    (stored : Option StoredSuppression) : Prop where
  returned : outcome.1.isOk = stored.isSome
  rows : outcome.2.durable.catalog.suppressionRows =
    stored.toList.foldl (placeFirst StoredSuppression.suppressionId)
      writer.durable.catalog.suppressionRows
  duck : outcome.2.duck = writer.duck
  rollbackTo : outcome.2.rollbackTo = writer.rollbackTo

section
variable {writer : Writer} {row : SuppressionRow}

theorem insertSuppression_apply {duck : DuckDb} {catalog : Catalog} {tenant : String}
    {added : StoredSuppression} (present : catalog.suppression = some catalog.suppressionRows)
    (stored : storedSuppression duck tenant row = .ok added) :
    ∃ affected after, (Statement.insertSuppression row tenant).apply duck catalog =
        .ok (affected, after) ∧
      after.suppressionRows =
        placeFirst StoredSuppression.suppressionId catalog.suppressionRows added := by
  simp only [Statement.apply, presentIf, present, stored, bind, Except.bind, pure, Except.pure,
    placeFirst]
  split
  · exact ⟨0, catalog, rfl, rfl⟩
  · exact ⟨1, _, rfl, rfl⟩

theorem insertSuppression_fails {duck : DuckDb} {catalog : Catalog} {tenant message : String}
    (present : catalog.suppression = some catalog.suppressionRows)
    (failed : storedSuppression duck tenant row = .error message) :
    (Statement.insertSuppression row tenant).apply duck catalog = .error message := by
  simp only [Statement.apply, presentIf, present, failed, bind, Except.bind]

/-- The catalogue once the table exists. -/
def Catalog.openSuppression (catalog : Catalog) : Catalog :=
  { catalog with suppression := some catalog.suppressionRows }

/-- The table is created before the insert, or the write fails without a row. -/
theorem ensureSuppression (writer : Writer) :
    if writer.Clear 2 then
      ∃ reached, ensureEngineTable .suppression writer = (.ok (), reached) ∧
        reached.durable.catalog.suppression = some writer.durable.catalog.suppressionRows ∧
        reached.issued = writer.issued + 2 ∧ writer.SameHandle reached
    else
      ∃ failure reached, ensureEngineTable .suppression writer = (.error failure, reached) ∧
        reached.durable.catalog.suppressionRows = writer.durable.catalog.suppressionRows ∧
        writer.SameHandle reached := by
  have create : (Statement.createEngine .suppression).apply writer.duck writer.durable.catalog =
      .ok (0, writer.durable.catalog.openSuppression) := rfl
  split
  · next clear =>
    have opened := execute_accepted (clear 0 (by omega)) create
    have altered : execute (.addEngineTenant .suppression)
        (writer.accept (.createEngine .suppression) writer.durable.catalog.openSuppression) =
          (.ok 0, _) := execute_accepted (clear 1 (by omega)) rfl
    exact ⟨_, (Effect.bind_of_ok opened).trans ((Effect.bind_of_ok altered).trans rfl), rfl, rfl,
      ⟨rfl, rfl, rfl, rfl, rfl⟩⟩
  · next blocked =>
    cases first : writer.duck.rejects writer.issued with
    | true =>
      exact ⟨_, _, Effect.bind_of_error (execute_rejected first), rfl, ⟨rfl, rfl, rfl, rfl, rfl⟩⟩
    | false =>
      have opened := execute_accepted first create
      cases second : writer.duck.rejects (writer.issued + 1) with
      | true =>
        exact ⟨_, _, (Effect.bind_of_ok opened).trans (Effect.bind_of_error
          (execute_rejected (by exact second))), rfl, ⟨rfl, rfl, rfl, rfl, rfl⟩⟩
      | false =>
        refine absurd (fun i below => ?_) blocked
        have either : i = 0 ∨ i = 1 := by omega
        rcases either with rfl | rfl
        · exact first
        · exact second

/-- The insert of one writeback into a table that exists. -/
private def insertOne (row : SuppressionRow) (tenant : String) : Session Nat := do
  let written ← executeAll [.insertSuppression row tenant]
  bumpWrite
  return written

private theorem insertOne_writes {writer : Writer}
    (present : writer.durable.catalog.suppression = some writer.durable.catalog.suppressionRows)
    (row : SuppressionRow) : Writes writer (insertOne row writer.tenant writer)
      (if writer.duck.rejects writer.issued then none
        else (storedSuppression writer.duck writer.tenant row).toOption) := by
  cases refused : writer.duck.rejects writer.issued with
  | true =>
    have stuck : insertOne row writer.tenant writer = (.error (.storage "statement failed"), writer.sent) :=
      Effect.bind_of_error (Effect.bind_of_error (execute_rejected refused))
    rw [stuck, if_pos rfl]
    exact ⟨rfl, rfl, rfl, rfl⟩
  | false =>
    rw [if_neg Bool.false_ne_true]
    cases stored : storedSuppression writer.duck writer.tenant row with
    | error message =>
      obtain ⟨failure, ran⟩ := execute_failed (insertSuppression_fails present stored)
      have stuck : insertOne row writer.tenant writer = (.error (.storage failure), writer.sent) :=
        Effect.bind_of_error (Effect.bind_of_error ran)
      rw [stuck]
      exact ⟨rfl, rfl, rfl, rfl⟩
    | ok added =>
      obtain ⟨affected, after, applied, rows⟩ := insertSuppression_apply present stored
      have inserted : executeAll [.insertSuppression row writer.tenant] writer =
          (.ok (0 + affected), writer.accept (.insertSuppression row writer.tenant) after) :=
        Effect.bind_of_ok (execute_accepted refused applied)
      have ran : insertOne row writer.tenant writer = (.ok (0 + affected),
          { writer.accept (.insertSuppression row writer.tenant) after with
            writeGen := writer.writeGen + 1 }) := Effect.bind_of_ok inserted
      rw [ran]
      exact ⟨rfl, rows, rfl, rfl⟩

/-- A writeback is stored once its three statements are taken and its texts convert;
otherwise the write fails and stores nothing. -/
theorem writeSuppression_writes (writer : Writer) (row : SuppressionRow) :
    Writes writer (writeSuppressionIdempotent [row] writer) (writer.recorded row) := by
  have start : writeSuppressionIdempotent [row] writer =
      (do ensureEngineTable .suppression
          let writer ← Effect.get
          insertOne row writer.tenant : Session Nat) writer := rfl
  have ensured := ensureSuppression writer
  split at ensured
  · next clear =>
    obtain ⟨reached, opened, present, issued, same⟩ := ensured
    have rows : reached.durable.catalog.suppressionRows =
        writer.durable.catalog.suppressionRows := by
      rw [Catalog.suppressionRows, present]
      rfl
    rw [← rows] at present
    have inserted := insertOne_writes present row
    have stored : writer.recorded row = if reached.duck.rejects reached.issued then none
        else (storedSuppression reached.duck reached.tenant row).toOption := by
      rw [Writer.recorded, same.duck, same.tenant, issued]
      cases third : writer.duck.rejects (writer.issued + 2) with
      | true =>
        refine if_neg fun whole => ?_
        rw [whole 2 (by omega)] at third
        cases third
      | false =>
        refine if_pos fun i below => ?_
        by_cases last : i = 2
        · rw [last]
          exact third
        · exact clear i (by omega)
    rw [start, Effect.bind_of_ok opened, Effect.bind_of_ok (Effect.get_apply reached), stored]
    exact ⟨inserted.returned, by rw [inserted.rows, rows], inserted.duck.trans same.duck,
      inserted.rollbackTo.trans same.rollbackTo⟩
  · next blocked =>
    obtain ⟨failure, reached, refused, rows, same⟩ := ensured
    have nothing : writer.recorded row = none :=
      if_neg fun clear => blocked fun i below => clear i (by omega)
    rw [start, Effect.bind_of_error refused, nothing]
    exact ⟨rfl, rows, same.duck, same.rollbackTo⟩

end

end ConsumerEngine.Storage
