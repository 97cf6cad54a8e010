import Mathlib.Data.List.Induction
import ConsumerEngine.Storage.Atomicity

/-! The parameters a chunked write binds.

A write sends its statements in order, up to the first that fails; a statement binds a
parameter for each placeholder of its text. The chunks of an insert shrink as rows get wider;
those of a MERGE do not.
-/

set_option autoImplicit false

namespace ConsumerEngine.Storage

open ConsumerEngine.Core ConsumerEngine.Foundation

/-! ### Placeholders and parameters -/

/-- What `write_feature_rows` binds for a row. -/
def featureValues (tenant : String) (row : FeatureRow) : List Value :=
  [.text row.userId, .text row.featureName, .double row.numValue, .text row.asOfTs,
    .text row.producerId, .text tenant]

/-- The placeholders in the text of a statement of the chunked writes. -/
def Statement.placeholders : Statement → Nat
  | .insertRaw _ columns count _ => columns.length * count
  | .mergeUpsert _ columns _ count _ => columns.length * count
  | .mergeDelete _ _ keys _ => keys.length + 1
  | .mergeOffset _ => 4
  | .insertFeatures rows _ => 6 * rows.length
  | _ => 0

/-- The parameters bound to it. -/
def Statement.parameters : Statement → Nat
  | .insertRaw _ _ _ params => params.length
  | .mergeUpsert _ _ _ _ params => params.length
  | .mergeDelete _ _ keys tenant => (keys ++ [tenant]).length
  | .mergeOffset row => [row.source, toString row.part, toString row.cdcOffset, row.updatedAt].length
  | .insertFeatures rows tenant => (rows.flatMap (featureValues tenant)).length
  | _ => 0

/-- A statement the database can prepare and bind. -/
def Statement.Binds (statement : Statement) : Prop :=
  statement.parameters = statement.placeholders ∧ statement.parameters ≤ maxParams

/-- Statements that each cover some of a batch, and all of it in order. -/
def Covers {ρ : Type} (batch : List ρ) (send : List ρ → Statement) (statements : List Statement) :
    Prop :=
  ∃ pieces : List (List ρ), statements = pieces.map send ∧ pieces.flatten = batch ∧ [] ∉ pieces

/-! ### What a session sends -/

/-- The session sends these statements in order, up to the first that fails. -/
structure Follows {α : Type} (act : Session α) (writer : Writer) (statements : List Statement) :
    Prop where
  begun : ∃ sent, sent <+: statements ∧
    (act writer).2.durable.history = writer.durable.history ++ sent
  whole : (act writer).1.isOk = true →
    (act writer).2.durable.history = writer.durable.history ++ statements

section
variable {α β : Type} {act : Session α} {next : α → Session β} {writer : Writer}
  {head tail : List Statement}

theorem Follows.nothing (same : (act writer).2.durable.history = writer.durable.history) :
    Follows act writer [] :=
  ⟨⟨[], List.prefix_rfl, by rw [same, List.append_nil]⟩, fun _ => by rw [same, List.append_nil]⟩

theorem Follows.pure (a : α) : Follows (Pure.pure a) writer [] := .nothing rfl

theorem Follows.failed {failure : Error} (statements : List Statement)
    (ran : act writer = (.error failure, writer)) : Follows act writer statements := by
  constructor
  · exact ⟨[], List.nil_prefix, by rw [ran, List.append_nil]⟩
  · rw [ran]
    exact fun ok => absurd ok Bool.false_ne_true

theorem Follows.of_eq {ran : Except Error α × Writer} {statements : List Statement}
    (same : act writer = ran)
    (begun : ∃ sent, sent <+: statements ∧ ran.2.durable.history = writer.durable.history ++ sent)
    (whole : ran.1.isOk = true → ran.2.durable.history = writer.durable.history ++ statements) :
    Follows act writer statements := by
  subst same
  exact ⟨begun, whole⟩

theorem Follows.bind (first : Follows act writer head)
    (rest : ∀ a reached, act writer = (.ok a, reached) → Follows (next a) reached tail) :
    Follows (act >>= next) writer (head ++ tail) := by
  obtain ⟨⟨sent, begins, history⟩, whole⟩ := first
  cases ran : act writer with
  | mk outcome reached =>
    rw [ran] at history whole
    cases outcome with
    | error failure =>
      exact .of_eq (Effect.bind_of_error ran)
        ⟨sent, begins.trans (List.prefix_append head tail), history⟩
        fun ok => absurd ok Bool.false_ne_true
    | ok a =>
      have grown := whole rfl
      obtain ⟨⟨later, follows, history'⟩, whole'⟩ := rest a reached ran
      refine .of_eq (Effect.bind_of_ok ran)
        ⟨head ++ later, (List.prefix_append_right_inj head).mpr follows, ?_⟩ fun ok => ?_
      · rw [history', grown, List.append_assoc]
      · rw [whole' ok, grown, List.append_assoc]

/-- A check ahead of a session. -/
theorem Follows.lift {check : Except Error α} {statements : List Statement}
    (rest : ∀ a, check = .ok a → Follows (next a) writer statements) :
    Follows (Effect.lift check >>= next) writer statements := by
  cases checked : check with
  | error failure => exact .failed statements (Effect.bind_of_error rfl)
  | ok a => exact rest a checked

theorem Follows.ensure {condition : Bool} {failure : Error} {statements : List Statement}
    {next : Unit → Session β} (rest : condition = true → Follows (next ()) writer statements) :
    Follows (Storage.ensure condition failure >>= next) writer statements := by
  cases met : condition with
  | false => exact .failed statements (Effect.bind_of_error (ensure_failed rfl failure writer))
  | true => exact rest met

/-- A look at the writer ahead of a session. -/
theorem Follows.get {statements : List Statement} {next : Writer → Session β}
    (rest : Follows (next writer) writer statements) :
    Follows (Effect.get >>= next) writer statements := ⟨rest.begun, rest.whole⟩

theorem Follows.execute (statement : Statement) (writer : Writer) :
    Follows (execute statement) writer [statement] := by
  rcases execute_cases statement writer with ⟨failure, ran⟩ | ⟨affected, catalog, -, -, ran⟩
  · constructor
    · exact ⟨[], List.nil_prefix, by rw [ran]; exact (List.append_nil _).symm⟩
    · rw [ran]
      exact fun ok => absurd ok Bool.false_ne_true
  · constructor
    · exact ⟨[statement], List.prefix_rfl, by rw [ran]; rfl⟩
    · exact fun _ => by rw [ran]; rfl

theorem Follows.executeFrom (statements : List Statement) (affected : Nat) (writer : Writer) :
    Follows (executeFrom affected statements) writer statements := by
  induction statements generalizing affected writer with
  | nil => exact .pure affected
  | cons statement rest ih =>
    exact (Follows.execute statement writer).bind fun n reached _ => ih (affected + n) reached

theorem Follows.executeAll (statements : List Statement) (writer : Writer) :
    Follows (executeAll statements) writer statements :=
  .executeFrom statements 0 writer

/-- What follows the statements and sends none. -/
theorem Follows.andThen (first : Follows act writer head)
    (rest : ∀ a reached, Follows (next a) reached []) : Follows (act >>= next) writer head := by
  have whole := first.bind fun a reached _ => rest a reached
  rwa [List.append_nil] at whole

theorem Follows.bumped (a : α) (writer : Writer) :
    Follows (bumpWrite >>= fun _ => Pure.pure a) writer [] := .nothing rfl

theorem Follows.ensureRawTable (table : Dataset) (columns : List String) (writer : Writer) :
    Follows (ensureRawTable table columns) writer (prologue table columns) :=
  (Follows.execute _ writer).bind fun _ reached _ =>
    (Follows.execute _ reached).andThen fun _ _ => .pure ()

theorem Follows.ensureFeatures (writer : Writer) :
    Follows (ensureEngineTable .featureStore) writer featurePrologue :=
  (Follows.execute _ writer).bind fun _ reached _ =>
    (Follows.execute _ reached).andThen fun _ _ => .pure ()

/-- A transaction sends what its body sends; one that does not commit leaves nothing of it. -/
theorem Follows.transaction {statements : List Statement} (keeps : KeepsHandle act)
    (body : Follows act writer.begun statements) :
    Follows (transaction act) writer statements := by
  cases ran : Storage.transaction act writer with
  | mk outcome after =>
    cases outcome with
    | error failure =>
      have restored := (transaction_failed keeps ran).1
      exact .of_eq ran ⟨[], List.nil_prefix, by rw [restored, List.append_nil]⟩
        fun ok => absurd ok Bool.false_ne_true
    | ok result =>
      obtain ⟨reached, ended, same, -⟩ := transaction_returned ran
      have grown := body.whole
      rw [ended] at grown
      have history : after.durable.history = writer.durable.history ++ statements :=
        same ▸ grown rfl
      exact .of_eq ran ⟨statements, List.prefix_rfl, history⟩ fun _ => history

end

/-! ### The chunked writes -/

/-- A write that cuts its batch into chunks. -/
inductive ChunkedWrite where
  | ingestRaw (system entity : String) (columns : List String) (rows : List (List Cell))
  | writeFeatureRows (rows : List FeatureRow)
  | upsertRaw (table : KeyedTable) (rows : List (List Cell))
  | deleteRaw (table : KeyedTable) (keys : List String)
  | applyCdcBatch (table : KeyedTable) (upserts : List (List Cell)) (deletes : List String)
      (offsets : List (Int × Int)) (updatedAt : String)

/-- The rows an insert of this width sends in one statement. -/
def insertChunk (cols : Nat) : Nat := min 500 (maxParams / max cols 1)

def insertStatement (dataset : Dataset) (columns : List String) (tenant : String)
    (chunk : List (List Cell)) : Statement :=
  .insertRaw dataset (columns ++ ["tenant_id"]) chunk.length
    (chunk.flatMap fun row => row ++ [some tenant])

namespace ChunkedWrite

def run : ChunkedWrite → Session Nat
  | .ingestRaw system entity columns rows => Storage.ingestRaw system entity columns rows
  | .writeFeatureRows rows => Storage.writeFeatureRows rows
  | .upsertRaw table rows => Storage.upsertRaw table.system table.entity table.columns table.key rows
  | .deleteRaw table keys => Storage.deleteRaw table.system table.entity table.key keys
  | .applyCdcBatch table upserts deletes offsets updatedAt =>
      Storage.applyCdcBatch table.system table.entity table.columns table.key upserts deletes offsets
        updatedAt

/-- The statements of the chunks of a write. -/
def chunked (tenant : String) : ChunkedWrite → List Statement
  | .ingestRaw system entity columns rows =>
      (chunks (insertChunk (columns.length + 1)) rows).map
        (insertStatement ⟨system, entity⟩ columns tenant)
  | .writeFeatureRows rows =>
      (chunks (insertChunk 6) rows).map fun chunk => .insertFeatures chunk tenant
  | .upsertRaw table rows =>
      (chunks mergeChunk (dedupByKey rows table.keyIndex)).map (table.upsertStatement tenant)
  | .deleteRaw table keys => (chunks mergeChunk keys).map (table.deleteStatement tenant)
  | .applyCdcBatch table upserts deletes _ _ =>
      (chunks mergeChunk (dedupByKey upserts table.keyIndex)).map (table.upsertStatement tenant) ++
        (chunks mergeChunk deletes).map (table.deleteStatement tenant)

/-- All statements of a write. -/
def statements (tenant : String) (write : ChunkedWrite) : List Statement :=
  match write with
  | .ingestRaw system entity columns _ =>
      prologue ⟨system, entity⟩ columns ++ write.chunked tenant
  | .writeFeatureRows rows => if rows = [] then [] else featurePrologue ++ write.chunked tenant
  | .upsertRaw table _ => prologue table.dataset table.columns ++ write.chunked tenant
  | .deleteRaw _ _ => write.chunked tenant
  | .applyCdcBatch table _ _ offsets updatedAt =>
      prologue table.dataset table.columns ++ ([.createEngine .cdcOffsets] ++
        (write.chunked tenant ++ offsets.map fun offset =>
          .mergeOffset ⟨table.system ++ "." ++ table.entity, offset.1, offset.2, updatedAt⟩))

/-- The columns of the write. -/
def columns : ChunkedWrite → List String
  | .ingestRaw _ _ columns _ => columns
  | .writeFeatureRows _ | .deleteRaw _ _ => []
  | .upsertRaw table _ | .applyCdcBatch table _ _ _ _ => table.columns

/-- Rows are as wide as the column list. -/
def Aligned : ChunkedWrite → Prop
  | .ingestRaw _ _ columns rows => ∀ row ∈ rows, row.length = columns.length
  | .upsertRaw table rows | .applyCdcBatch table rows _ _ _ =>
      ∀ row ∈ rows, row.length = table.columns.length
  | .writeFeatureRows _ | .deleteRaw _ _ => True

/-- The chunks each cover a row and together the batch, deduplicated where it is merged. -/
def Covered (tenant : String) (write : ChunkedWrite) : Prop :=
  match write with
  | .ingestRaw system entity columns rows =>
      Covers rows (insertStatement ⟨system, entity⟩ columns tenant) (write.chunked tenant)
  | .writeFeatureRows rows =>
      Covers rows (fun chunk => .insertFeatures chunk tenant) (write.chunked tenant)
  | .upsertRaw table rows =>
      Covers (dedupByKey rows table.keyIndex) (table.upsertStatement tenant) (write.chunked tenant)
  | .deleteRaw table keys => Covers keys (table.deleteStatement tenant) (write.chunked tenant)
  | .applyCdcBatch table upserts deletes _ _ => ∃ merges erasures,
      write.chunked tenant = merges ++ erasures ∧
      Covers (dedupByKey upserts table.keyIndex) (table.upsertStatement tenant) merges ∧
      Covers deletes (table.deleteStatement tenant) erasures

/-- The rows the first chunk of a MERGE sends, at the width of the table. -/
def mergedWidth : ChunkedWrite → Nat
  | .upsertRaw table rows | .applyCdcBatch table rows _ _ _ =>
      min mergeChunk (dedupByKey rows table.keyIndex).length * (table.columns.length + 1)
  | .ingestRaw _ _ _ _ | .writeFeatureRows _ | .deleteRaw _ _ => 0

/-- The write sends the chunks of its batch, each in a statement that can be bound. -/
structure Bound (write : ChunkedWrite) (writer : Writer) : Prop where
  follows : Follows write.run writer (write.statements writer.tenant)
  covered : write.Covered writer.tenant
  binds : ∀ statement ∈ write.statements writer.tenant, statement.Binds

end ChunkedWrite

/-! ### Chunks -/

section
variable {ρ : Type} {send : List ρ → Statement}

theorem covers_chunks {size : Nat} (positive : 0 < size) (batch : List ρ) (send : List ρ → Statement) :
    Covers batch send ((chunks size batch).map send) :=
  ⟨chunks size batch, rfl, chunks_flatten positive batch,
    fun member => (chunks_pieces positive member).1 rfl⟩

/-- A statement that binds as many parameters for each row as its width binds what its chunk
needs. -/
theorem binds_of_width {size width : Nat} (positive : 0 < size) {batch : List ρ}
    (exact : ∀ piece ∈ chunks size batch, (send piece).parameters = width * piece.length ∧
      (send piece).placeholders = width * piece.length)
    (fits : width * min size batch.length ≤ maxParams) :
    ∀ statement ∈ (chunks size batch).map send, statement.Binds := by
  intro statement member
  obtain ⟨piece, inChunks, rfl⟩ := List.mem_map.mp member
  obtain ⟨bound, placed⟩ := exact piece inChunks
  refine ⟨bound.trans placed.symm, bound ▸ (Nat.mul_le_mul_left width ?_).trans fits⟩
  refine Nat.le_min.mpr ⟨(chunks_pieces positive inChunks).2, ?_⟩
  have within := (List.sublist_flatten_of_mem inChunks).length_le
  rwa [chunks_flatten positive] at within

/-- The first chunk is the widest. -/
theorem fits_of_binds {size width : Nat} {batch : List ρ}
    (exact : ∀ piece ∈ chunks size batch, (send piece).parameters = width * piece.length)
    (binds : ∀ statement ∈ (chunks size batch).map send, statement.Binds) :
    width * min size batch.length ≤ maxParams := by
  cases batch with
  | nil => simp
  | cons first rest =>
    have inChunks := take_mem_chunks size (List.cons_ne_nil first rest)
    have bound := (binds _ (List.mem_map_of_mem inChunks)).2
    rwa [exact _ inChunks, List.length_take] at bound

end

theorem stamped_parameters {columns : List String} {chunk : List (List Cell)} (tenant : String)
    (aligned : ∀ row ∈ chunk, row.length = columns.length) :
    (chunk.flatMap fun row => row ++ [some tenant]).length = (columns.length + 1) * chunk.length := by
  have width := @length_flatten_of_width _ (columns.length + 1)
    (chunk.map fun row => row ++ [some tenant]) fun tuple member => by
      obtain ⟨row, inChunk, rfl⟩ := List.mem_map.mp member
      simp [aligned row inChunk]
  rwa [List.length_map, ← List.flatMap_def] at width

theorem insertChunk_fits {width : Nat} (positive : 0 < width) (narrow : width ≤ maxParams) (n : Nat) :
    0 < insertChunk width ∧ width * min (insertChunk width) n ≤ maxParams := by
  have same : max width 1 = width := Nat.max_eq_left positive
  rw [insertChunk, same]
  constructor
  · exact Nat.lt_min.mpr ⟨by decide, Nat.div_pos narrow positive⟩
  · have short : min (min 500 (maxParams / width)) n ≤ maxParams / width :=
      (Nat.min_le_left _ _).trans (Nat.min_le_right _ _)
    exact (Nat.mul_le_mul_left width short).trans (Nat.mul_div_le maxParams width)

theorem prologue_binds (table : Dataset) (columns : List String) :
    ∀ statement ∈ prologue table columns, statement.Binds := by
  simp [prologue, Statement.Binds, Statement.parameters, Statement.placeholders]

section
variable {table : KeyedTable} {tenant : String} {rows : List (List Cell)} {keys : List String}

theorem KeyedTable.upsertStatement_width
    (aligned : ∀ row ∈ rows, row.length = table.columns.length) :
    ∀ piece ∈ chunks mergeChunk rows,
      (table.upsertStatement tenant piece).parameters = (table.columns.length + 1) * piece.length ∧
      (table.upsertStatement tenant piece).placeholders =
        (table.columns.length + 1) * piece.length := by
  intro piece inChunks
  refine ⟨stamped_parameters tenant fun row member =>
    aligned row (mem_of_mem_chunks (by decide) inChunks member), ?_⟩
  simp [upsertStatement, Statement.placeholders]

theorem KeyedTable.deleteStatement_binds (table : KeyedTable) (tenant : String) :
    ∀ statement ∈ (chunks mergeChunk keys).map (table.deleteStatement tenant),
      statement.Binds := by
  intro statement member
  obtain ⟨piece, inChunks, rfl⟩ := List.mem_map.mp member
  have short : piece.length ≤ 500 := (chunks_pieces (by decide) inChunks).2
  refine ⟨by simp [deleteStatement, Statement.parameters, Statement.placeholders], ?_⟩
  simp only [deleteStatement, Statement.parameters, List.length_append, List.length_singleton,
    maxParams]
  omega

end

/-! ### The writes -/

section
variable {write : ChunkedWrite} {writer : Writer}

/-- The MERGEs of an upsert are sent for the tenant of the writer. -/
theorem Follows.mergeUpserts {table : KeyedTable} {reached : Writer} {deduped : List (List Cell)}
    (same : reached.tenant = writer.tenant) :
    Follows (mergeUpserts table.dataset table.columns table.key deduped) reached
      ((chunks mergeChunk deduped).map (table.upsertStatement writer.tenant)) :=
  same ▸ .get (.executeAll _ reached)

theorem Follows.mergeDeletes {table : KeyedTable} {reached : Writer} {keys : List String}
    (same : reached.tenant = writer.tenant) :
    Follows (mergeDeletes table.dataset table.key keys) reached
      ((chunks mergeChunk keys).map (table.deleteStatement writer.tenant)) :=
  same ▸ .get (.executeAll _ reached)

theorem Follows.insertChunked {ρ : Type} {cols : Nat} {rows : List ρ}
    (positive : 0 < insertChunk cols) (send : List ρ → Statement) (writer : Writer) :
    Follows (insertChunked cols rows send) writer ((chunks (insertChunk cols) rows).map send) := by
  unfold Storage.insertChunked
  split
  · next empty =>
    rw [List.isEmpty_iff.mp empty]
    exact .pure 0
  · rw [← insertChunk, if_neg positive.ne']
    exact .executeAll _ writer

/-- The tenant of a writer after a session that keeps its handle. -/
theorem tenant_after {α : Type} {act : Session α} {reached : Writer} {outcome : Except Error α}
    (keeps : KeepsHandle act) (ran : act writer = (outcome, reached)) :
    reached.tenant = writer.tenant := by
  have kept := (keeps writer).tenant
  rwa [ran] at kept

/-- However it ends, a chunked write sends its statements in order. -/
theorem ChunkedWrite.follows (narrow : write.columns.length < maxParams) :
    Follows write.run writer (write.statements writer.tenant) := by
  cases write with
  | ingestRaw system entity columns rows =>
    refine .ensure fun _ => .lift fun _ _ => .lift fun dataset named => ?_
    obtain ⟨-, -, rfl⟩ := rawTableName_eq_ok.mp named
    refine (Follows.ensureRawTable _ columns writer).bind fun _ reached ready => ?_
    rw [ChunkedWrite.chunked, ← tenant_after (ensureRawTable_keeps columns ⟨system, entity⟩) ready]
    split
    · next empty =>
      rw [List.isEmpty_iff.mp empty]
      exact .pure 0
    · have positive := (insertChunk_fits (Nat.succ_pos columns.length) narrow 0).1
      exact .get ((Follows.insertChunked positive _ reached).andThen fun n after => .bumped n after)
  | writeFeatureRows rows =>
    rw [ChunkedWrite.run, Storage.writeFeatureRows, ChunkedWrite.statements]
    split
    · next empty =>
      rw [if_pos (List.isEmpty_iff.mp empty)]
      exact .pure 0
    · next filled =>
      rw [if_neg fun none => filled (List.isEmpty_iff.mpr none)]
      refine .lift fun _ _ => (Follows.ensureFeatures writer).bind fun _ reached ready => ?_
      rw [ChunkedWrite.chunked, ← tenant_after (ensureEngineTable_keeps .featureStore) ready]
      exact .get (.insertChunked (by decide) _ reached)
  | upsertRaw table rows =>
    refine .ensure fun _ => .lift fun _ _ => .lift fun _ _ => .ensure fun _ => .lift fun dataset named => ?_
    obtain ⟨-, -, rfl⟩ := rawTableName_eq_ok.mp named
    refine (Follows.ensureRawTable _ table.columns writer).bind fun _ reached ready => ?_
    split
    · next empty =>
      rw [ChunkedWrite.chunked, List.isEmpty_iff.mp empty]
      exact .pure 0
    · have same := tenant_after (ensureRawTable_keeps table.columns table.dataset) ready
      exact (Follows.mergeUpserts same).andThen fun n after => .bumped n after
  | deleteRaw table keys =>
    refine .lift fun _ _ => .lift fun dataset named => ?_
    obtain ⟨-, -, rfl⟩ := rawTableName_eq_ok.mp named
    split
    · next empty =>
      rw [ChunkedWrite.statements, ChunkedWrite.chunked, List.isEmpty_iff.mp empty]
      exact .pure 0
    · exact (Follows.mergeDeletes rfl).andThen fun n after => .bumped n after
  | applyCdcBatch table upserts deletes offsets updatedAt =>
    refine .ensure fun _ => .lift fun _ _ => .lift fun _ _ => .ensure fun _ => .lift fun dataset named => ?_
    obtain ⟨-, -, rfl⟩ := rawTableName_eq_ok.mp named
    refine .transaction ?keeps ?body
    case keeps =>
      exact (ensureRawTable_keeps _ _).bind fun _ => (execute_keeps _).bind fun _ =>
        (mergeUpserts_keeps _ _ _ _).bind fun _ => (mergeDeletes_keeps _ _ _).bind fun _ =>
          (executeFrom_keeps _ 0).bind fun written => Effect.Within.pure _
    case body =>
      refine (Follows.ensureRawTable _ table.columns _).bind fun _ first ready => ?_
      refine (Follows.execute _ first).bind fun _ second opened => ?_
      have begun : first.tenant = writer.begun.tenant :=
        tenant_after (ensureRawTable_keeps table.columns table.dataset) ready
      have same : second.tenant = writer.tenant := (tenant_after (execute_keeps _) opened).trans begun
      rw [ChunkedWrite.chunked, List.append_assoc]
      refine (Follows.mergeUpserts same).bind fun written third merged => ?_
      have same' := (tenant_after (mergeUpserts_keeps _ _ _ _) merged).trans same
      exact (Follows.mergeDeletes same').bind fun _ fourth _ =>
        (Follows.executeAll _ fourth).andThen fun _ _ => .pure written

/-- The chunks of a write cover its batch. -/
theorem ChunkedWrite.covered (narrow : write.columns.length < maxParams) (tenant : String) :
    write.Covered tenant := by
  have merging : 0 < mergeChunk := by decide
  cases write with
  | ingestRaw system entity columns rows =>
    exact covers_chunks (insertChunk_fits (Nat.succ_pos columns.length) narrow 0).1 rows _
  | writeFeatureRows rows => exact covers_chunks (by decide) rows _
  | upsertRaw table rows => exact covers_chunks merging _ _
  | deleteRaw table keys => exact covers_chunks merging keys _
  | applyCdcBatch table upserts deletes offsets updatedAt =>
    exact ⟨_, _, rfl, covers_chunks merging _ _, covers_chunks merging deletes _⟩

/-- The statements that make a MERGE ready or record its offsets bind little. -/
theorem ChunkedWrite.binds_of_chunked (tenant : String)
    (binds : ∀ statement ∈ write.chunked tenant, statement.Binds) :
    ∀ statement ∈ write.statements tenant, statement.Binds := by
  cases write with
  | ingestRaw system entity columns rows =>
    exact List.forall_mem_append.mpr ⟨prologue_binds _ columns, binds⟩
  | writeFeatureRows rows =>
    rw [ChunkedWrite.statements]
    split
    · exact fun _ member => absurd member List.not_mem_nil
    · refine List.forall_mem_append.mpr ⟨?_, binds⟩
      simp [featurePrologue, Statement.Binds, Statement.parameters, Statement.placeholders]
  | upsertRaw table rows =>
    exact List.forall_mem_append.mpr ⟨prologue_binds _ table.columns, binds⟩
  | deleteRaw table keys => exact binds
  | applyCdcBatch table upserts deletes offsets updatedAt =>
    refine List.forall_mem_append.mpr ⟨prologue_binds _ table.columns, ?_⟩
    refine List.forall_mem_append.mpr ⟨?_, List.forall_mem_append.mpr ⟨binds, ?_⟩⟩
    · simp [Statement.Binds, Statement.parameters, Statement.placeholders]
    · intro statement member
      obtain ⟨offset, -, rfl⟩ := List.mem_map.mp member
      exact ⟨rfl, show 4 ≤ maxParams by decide⟩

end

/-! ### A wide batch -/

/-- Rows of different keys are all kept. -/
theorem dedupByKey_of_distinct {index : Nat} {rows : List (List Cell)}
    (keyed : ∀ row ∈ rows, keyCell index row ≠ none)
    (distinct : (rows.map (keyCell index)).Nodup) : dedupByKey rows index = rows := by
  induction rows using List.reverseRecOn with
  | nil => rfl
  | append_singleton rows last ih =>
    rw [List.map_append, List.map_singleton, ← List.concat_eq_append, List.nodup_concat] at distinct
    obtain ⟨fresh, distinctRows⟩ := distinct
    have kept := ih (fun row member => keyed row (List.mem_append_left _ member)) distinctRows
    obtain ⟨key, filled⟩ := Option.ne_none_iff_exists'.mp (keyed last (by simp))
    have unseen : rows.any (fun seen => keyCell index seen = some key) = false := by
      rw [List.any_eq_false]
      intro seen member same
      exact fresh (filled ▸ of_decide_eq_true same ▸ List.mem_map_of_mem member)
    rw [dedupByKey, List.foldl_append, ← dedupByKey, kept, List.foldl_cons, List.foldl_nil,
      dedupStep, filled]
    simp only [unseen, Bool.false_eq_true, ↓reduceIte]

/-- A table of 131 columns. -/
def customers : KeyedTable where
  system := "erp"
  entity := "customers"
  columns := "id" :: (List.range 130).map fun i => "c" ++ toString i
  key := "id"

/-- Rows for it whose keys have different lengths. -/
def customerRows (n : Nat) : List (List Cell) :=
  (List.range n).map fun i =>
    some (String.ofList (List.replicate i 'k')) :: List.replicate 130 none

theorem customers_width : customers.columns.length = 131 := by
  rw [customers, List.length_cons, List.length_map, List.length_range]

theorem customerRows_dedup (n : Nat) :
    dedupByKey (customerRows n) customers.keyIndex = customerRows n := by
  have first : customers.keyIndex = 0 := by
    rw [KeyedTable.keyIndex, customers, List.idxOf_cons_self]
  have keys : (customerRows n).map (keyCell 0) =
      (List.range n).map fun i => some (String.ofList (List.replicate i 'k')) := by
    rw [customerRows, List.map_map]
    exact List.map_congr_left fun _ _ => rfl
  rw [first]
  refine dedupByKey_of_distinct (fun row member => ?_) (keys ▸ List.nodup_range.map fun i j same => ?_)
  · obtain ⟨i, -, rfl⟩ := List.mem_map.mp member
    exact Option.some_ne_none _
  · have letters := String.ofList_injective (Option.some.inj same)
    simpa using congrArg List.length letters

end ConsumerEngine.Storage
