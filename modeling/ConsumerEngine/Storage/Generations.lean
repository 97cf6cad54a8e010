import ConsumerEngine.Storage.Announcements
import ConsumerEngine.Storage.Reversals

/-! When the write generation tells of every change to the committed catalogue.

An operation that stops short of its announcement has told nothing, so what its statements
did until then must be nothing.
-/

set_option autoImplicit false

namespace ConsumerEngine.Storage

open ConsumerEngine.Core ConsumerEngine.Foundation

/-- A fresh attach would see a change only behind an advance of the write generation. -/
def Tells (before after : Writer) : Prop :=
  after.committed.catalog ≠ before.committed.catalog → before.writeGen < after.writeGen

/-! ### Transactions and maintenance -/

section
variable {α β : Type} {writer : Writer}

theorem Tells.unchanged {before after : Writer}
    (same : after.committed.catalog = before.committed.catalog) : Tells before after :=
  fun changed => absurd same changed

/-- A transaction leaves the catalogue or announces what it made of it. -/
theorem transaction_tells {body : Session α} (keeps : KeepsHandle body)
    (idle : writer.rollbackTo = none) : Tells writer (transaction body writer).2 := by
  cases ran : transaction body writer with
  | mk outcome after =>
    cases outcome with
    | error failure =>
      obtain ⟨durable, closed⟩ := transaction_failed keeps ran
      refine .unchanged ?_
      rw [Writer.committed, Writer.committed, closed idle, idle, durable]
    | ok result =>
      intro _
      cases begins : writer.duck.rejects writer.issued with
      | true =>
        rw [transaction_unbegun begins] at ran
        cases ran
      | false =>
        have kept : (body writer.begun).2.writeGen = writer.writeGen := (keeps writer.begun).writeGen
        rw [transaction_ended begins] at ran
        cases ended : body writer.begun with
        | mk outcome reached =>
          rw [ended] at ran kept
          cases outcome with
          | error failure => cases ran
          | ok returned =>
            simp only [Writer.ended] at ran
            split at ran
            · cases ran
            · cases ran
              exact kept ▸ Nat.lt_succ_self _

theorem Tells.lift {check : Except Error β} {next : β → Session α}
    (rest : ∀ value, Tells writer (next value writer).2) :
    Tells writer ((Effect.lift check >>= next) writer).2 := by
  cases check with
  | ok value => exact rest value
  | error failure => exact .unchanged rfl

theorem Tells.ensure {condition : Bool} {failure : Error} {next : Unit → Session α}
    (rest : Tells writer (next () writer).2) :
    Tells writer ((Storage.ensure condition failure >>= next) writer).2 := by
  cases condition with
  | true => exact rest
  | false => exact .unchanged rfl

/-- The catalogue stays, and whether a transaction is open. -/
def Stays (before after : Writer) : Prop :=
  after.durable.catalog = before.durable.catalog ∧ after.rollbackTo = before.rollbackTo

instance : IsPreorder Writer Stays where
  refl _ := ⟨rfl, rfl⟩
  trans _ _ _ one two := ⟨two.1.trans one.1, two.2.trans one.2⟩

theorem Stays.tells {after : Writer} (stays : Stays writer after) (idle : writer.rollbackTo = none) :
    Tells writer after := by
  refine .unchanged ?_
  rw [Writer.committed, Writer.committed, stays.2, idle]
  exact stays.1

theorem maintenance_stays (sql : String) : Effect.Within Stays (execute (.maintenance sql)) := by
  intro writer
  rcases execute_cases (.maintenance sql) writer with ⟨failure, ran⟩ | ⟨affected, catalog, -, same, ran⟩
  · rw [ran]
    exact ⟨rfl, rfl⟩
  · cases same
    rw [ran]
    exact ⟨rfl, rfl⟩

theorem bumpWrite_stays : Effect.Within Stays bumpWrite := .modify fun _ => ⟨rfl, rfl⟩

theorem maintain_stays (procedure : String) (retentionDays : Nat) :
    Effect.Within Stays (maintain procedure retentionDays) := by
  have probes : Effect.Within Stays probeMaintenance := by
    refine .bind .get fun writer => ?_
    split
    · exact .pure ()
    · exact .bind (.attempt (maintenance_stays _)) fun _ => .modify fun _ => ⟨rfl, rfl⟩
  refine .bind probes fun _ => .bind .get fun writer => ?_
  split
  · exact .bind (maintenance_stays _) fun _ => bumpWrite_stays
  · exact .pure ()

end

/-! ### Every operation -/

/-- All that an operation sends outside a transaction is taken, and then announced, or what is
taken ahead of the first refusal finds nothing to change in the catalogue as it was before. -/
def WriterCall.Announces (call : WriterCall) (writer : Writer) : Prop :=
  call.sequential = true →
    (call.plan writer.tenant).announced writer = true ∨
      ∀ statement ∈ (call.plan writer.tenant).taken writer,
        statement.Idle writer.duck writer.durable.catalog

/-- The rows of an upsert have a cell for each of its columns. -/
def WriterCall.Aligned : WriterCall → Prop
  | .upsert table rows => ∀ row ∈ rows, row.length = table.columns.length
  | _ => True

section
variable {duck : DuckDb} {catalog : Catalog}

theorem applyAll_idle {statements : List Statement}
    (idle : ∀ statement ∈ statements, statement.Idle duck catalog) {after : Catalog}
    (ran : applyAll duck catalog statements = .ok after) : after = catalog := by
  induction statements with
  | nil =>
    cases ran
    rfl
  | cons statement rest ih =>
    obtain ⟨⟨affected, reached⟩, one, more⟩ := except_bind_eq_ok.mp ran
    obtain rfl := (Statement.idle_iff one).mp (idle statement List.mem_cons_self)
    exact ih (fun other member => idle other (List.mem_cons_of_mem _ member)) more

/-- Only adding statements that leave the catalogue found nothing to add. -/
theorem adds_idle {statements sent : List Statement} (adds : ∀ s ∈ statements, s.adds = true)
    (begins : sent <+: statements) (ran : applyAll duck catalog sent = .ok catalog) :
    ∀ statement ∈ sent, statement.Idle duck catalog :=
  idle_of_oneWay Onward Onward.refl Onward.trans Onward.antisymm
    (fun statement member _ _ _ applied =>
      Statement.adds_onward (adds statement (begins.subset member)) applied) ran

end

namespace WriterCall

variable {writer : Writer}

/-- Only upserts and deletes send what does not just add. -/
theorem plan_adds {call : WriterCall} (tenant : String)
    (inserts : ∀ table rows, call ≠ upsert table rows)
    (keeps : ∀ system entity key keys, call ≠ delete system entity key keys) :
    ∀ statement ∈ (call.plan tenant).statements, statement.adds = true := by
  have nothing : ∀ statement ∈ Plan.nothing.statements, statement.adds = true :=
    fun _ member => nomatch member
  have creating (dataset : Dataset) (columns : List String) :
      ∀ statement ∈ prologue dataset columns, statement.adds = true := by
    simp [prologue, Statement.adds]
  have opens (table : EngineTable) : ∀ statement ∈ opening table, statement.adds = true := by
    simp [opening, Statement.adds]
  have mapped {ι : Type} {send : ι → Statement} (one : ∀ item, (send item).adds = true)
      (items : List ι) : ∀ statement ∈ items.map send, statement.adds = true := by
    intro statement member
    obtain ⟨item, -, rfl⟩ := List.mem_map.mp member
    exact one item
  cases call with
  | upsert table rows => exact absurd rfl (inserts table rows)
  | delete system entity key keys => exact absurd rfl (keeps system entity key keys)
  | ingest table rows =>
    rw [plan]
    split
    · split
      · exact creating _ _
      · exact List.forall_mem_append.mpr ⟨creating _ _, mapped (fun _ => rfl) _⟩
    · exact nothing
  | catalogue rows =>
    rw [plan]
    split
    · exact nothing
    · split
      · exact List.forall_mem_append.mpr ⟨opens _, mapped (fun _ => rfl) _⟩
      · exact opens _
  | suppression rows =>
    rw [plan]
    split
    · exact nothing
    · exact List.forall_mem_append.mpr ⟨opens _, mapped (fun _ => rfl) _⟩
  | materialise sql params keyColumn spec =>
    rw [plan]
    split
    · exact List.forall_mem_append.mpr ⟨opens _, by simp [Statement.adds]⟩
    · exact nothing
  | readOffsets => simp [plan, Statement.adds]
  | applyCdc | features | exportParquet | compact | maintain => exact nothing

/-- An operation that leaves the catalogue sent nothing that found something to change. -/
theorem taken_idle (call : WriterCall) (aligned : call.Aligned)
    (ran : applyAll writer.duck writer.durable.catalog ((call.plan writer.tenant).taken writer) =
      .ok writer.durable.catalog) :
    ∀ statement ∈ (call.plan writer.tenant).taken writer,
      statement.Idle writer.duck writer.durable.catalog := by
  have begins : (call.plan writer.tenant).taken writer <+: (call.plan writer.tenant).statements :=
    taken_prefix ..
  cases call with
  | upsert table rows =>
    cases sound : table.sound with
    | false =>
      have none_ : (upsert table rows).plan writer.tenant = .nothing := by simp [plan, sound]
      rw [none_] at begins ⊢
      intro statement member
      rw [List.prefix_nil.mp begins] at member
      exact absurd member List.not_mem_nil
    | true =>
      have keyed := KeyedTable.sound_keyed sound
      have whole : (chunks mergeChunk (dedupByKey rows table.keyIndex)).flatten =
          dedupByKey rows table.keyIndex := chunks_flatten (by decide) _
      have apart : table.Apart (chunks mergeChunk (dedupByKey rows table.keyIndex)).flatten := by
        rw [whole]
        refine ⟨fun row member => aligned row (mem_of_mem_dedupByKey member),
          fun row member => keyed_of_mem_dedupByKey member, fun text => ?_⟩
        rw [under_dedupByKey]
        cases (under table.keyIndex rows text).getLast? <;> simp
      have sends : ((upsert table rows).plan writer.tenant).statements <+:
          prologue table.dataset table.columns ++
            (chunks mergeChunk (dedupByKey rows table.keyIndex)).map
              (table.upsertStatement writer.tenant) := by
        rw [plan, if_pos sound]
        split
        · exact List.prefix_append _ _
        · exact List.prefix_refl _
      exact upsert_idle keyed apart (begins.trans sends) ran
  | delete system entity key keys =>
    refine idle_of_oneWay (fun before after => Onward after before) Onward.refl
      (fun one two => two.trans one) (fun one two => two.antisymm one) ?_ ran
    intro statement member before affected after applied
    obtain ⟨chunk, rfl⟩ : ∃ chunk, statement =
        .mergeDelete ⟨system, entity⟩ key chunk writer.tenant := by
      have sent := begins.subset member
      rw [plan] at sent
      split at sent
      · obtain ⟨chunk, -, rfl⟩ := List.mem_map.mp sent
        exact ⟨chunk, rfl⟩
      · cases sent
    exact mergeDelete_onward applied
  | ingest | catalogue | suppression | materialise | readOffsets | applyCdc | features
  | exportParquet | compact | maintain =>
    exact adds_idle (plan_adds _ (by simp) (by simp)) begins ran

/-- An operation outside a transaction tells of a change exactly if it announces it or ends with
the catalogue it began with. -/
theorem tells_iff {call : WriterCall} (apart : call.sequential = true)
    (idle : writer.rollbackTo = none) : Tells writer (call.after writer) ↔
      (call.plan writer.tenant).announced writer = true ∨
        (call.after writer).durable.catalog = writer.durable.catalog := by
  have leads := call.leads writer apart
  have committed : writer.committed = writer.durable := by rw [Writer.committed, idle]; rfl
  have committed' : (call.after writer).committed = (call.after writer).durable := by
    rw [Writer.committed, leads.rollbackTo, idle]
    rfl
  rw [Tells, committed, committed', leads.writeGen]
  cases (call.plan writer.tenant).announced writer with
  | true => simp
  | false => simp

/-- Transactions and maintenance tell of every change. -/
theorem tells_of_not_sequential (call : WriterCall) (whole : call.sequential = false)
    (idle : writer.rollbackTo = none) : Tells writer (call.after writer) := by
  cases call with
  | applyCdc table upserts deletes offsets updatedAt =>
    refine .ensure (.lift fun _ => .lift fun _ => .ensure (.lift fun dataset =>
      transaction_tells ?_ idle))
    exact (ensureRawTable_keeps table.columns _).bind fun _ => (execute_keeps _).bind fun _ =>
      (mergeUpserts_keeps table.columns table.key _ _).bind fun _ =>
        (mergeDeletes_keeps table.key deletes _).bind fun _ =>
          (executeFrom_keeps _ 0).bind fun written => Effect.Within.pure _
  | features rows =>
    rw [after, writeFeaturesAndRefresh]
    split
    · exact .unchanged rfl
    · exact transaction_tells (featuresBody_keeps rows) idle
  | exportParquet snapshotId dest =>
    have stays : Effect.Within Stays (exportSnapshotParquet snapshotId dest) :=
      .bind (maintenance_stays _) fun _ => .pure ()
    exact (stays writer).tells idle
  | compact system entity =>
    have stays : Effect.Within Stays (Storage.compact system entity) :=
      .bind (.lift _) fun _ => .bind (maintenance_stays _) fun _ => bumpWrite_stays
    exact (stays writer).tells idle
  | maintain procedure retentionDays =>
    exact (maintain_stays procedure retentionDays writer).tells idle
  | ingest | upsert | delete | catalogue | suppression | materialise | readOffsets => cases whole

end WriterCall

/-- The write generation tells of every change an operation made, if the operation announces
what it did; and for rows of the right width only then. -/
theorem write_generation_tells (call : WriterCall) {writer : Writer}
    (idle : writer.rollbackTo = none) :
    (call.Announces writer → Tells writer (call.after writer)) ∧
      (call.Aligned → Tells writer (call.after writer) → call.Announces writer) := by
  cases apart : call.sequential with
  | false =>
    exact ⟨fun _ => call.tells_of_not_sequential apart idle,
      fun _ _ sequential => by rw [apart] at sequential; cases sequential⟩
  | true =>
    have leads := call.leads writer apart
    rw [WriterCall.tells_iff apart idle]
    constructor
    · intro announces
      refine (announces apart).imp_right fun nothing => ?_
      exact applyAll_idle nothing leads.applied
    · intro aligned tells _
      refine tells.imp_right fun same => ?_
      have round := leads.applied
      rw [same] at round
      exact call.taken_idle aligned round

/-- The users of a source. -/
def users : IngestTable := ⟨"crm", "users", ["id"]⟩

theorem write_generation_tells_users :
    Tells freshWriter ((WriterCall.ingest users [[some "u1"]]).after freshWriter) :=
  (write_generation_tells (.ingest users [[some "u1"]]) rfl).1 fun _ => .inl rfl

/-- Registering a table without rows commits it and tells nobody. -/
theorem empty_ingest_untold :
    ¬ ∀ (call : WriterCall) (writer : Writer), writer.rollbackTo = none →
      Tells writer (call.after writer) := by
  intro tells
  have told := tells (.ingest users []) freshWriter rfl
  refine absurd (told fun same => ?_) (Nat.lt_irrefl 0)
  have created := congrArg (fun catalog => (catalog.raw (rawName users.dataset)).isSome) same
  exact absurd created Bool.noConfusion

end ConsumerEngine.Storage
