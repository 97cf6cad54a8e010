import ConsumerEngine.Foundation.SortedMap
import ConsumerEngine.Storage.KeyedWrites

/-! Debezium change envelopes, as the Kafka source maps and batches them. -/

set_option autoImplicit false

namespace ConsumerEngine.Ingestion

open ConsumerEngine.Core ConsumerEngine.Foundation ConsumerEngine.Storage

/-- `SourceBatch`: one batch of changes of a dataset. -/
structure SourceBatch where
  system : String
  entity : String
  columns : List String
  key : String
  upserts : List (List Cell)
  deletes : List String
  offsets : List (Int × Int)

/-- `DebeziumEnvelope`. -/
inductive DebeziumEnvelope where
  | mk (op : Option String) (after before : Option Json) (payload : Option DebeziumEnvelope)

def DebeziumEnvelope.op : DebeziumEnvelope → Option String
  | .mk op _ _ _ => op

def DebeziumEnvelope.after : DebeziumEnvelope → Option Json
  | .mk _ after _ _ => after

def DebeziumEnvelope.before : DebeziumEnvelope → Option Json
  | .mk _ _ before _ => before

def DebeziumEnvelope.payload : DebeziumEnvelope → Option DebeziumEnvelope
  | .mk _ _ _ payload => payload

/-- `DebeziumMapper`. `display` is `serde_json`'s rendering of a value that is
neither NULL nor a string. -/
structure DebeziumMapper where
  system : String
  entity : String
  columns : List String
  key : String
  display : Json → String

/-- A cell's text: `None` for NULL, a string as it is, anything else rendered. -/
def DebeziumMapper.cellOf (mapper : DebeziumMapper) : Json → Cell
  | .null => none
  | .string s => some s
  | other => some (mapper.display other)

/-- `DebeziumMapper::row_from_json`. -/
def DebeziumMapper.rowFromJson (mapper : DebeziumMapper) (object : Json) : List Cell :=
  mapper.columns.map fun column => (object.get column).bind mapper.cellOf

/-- The text of a deleted row's key; NULL renders like any other value. -/
def DebeziumMapper.keyText (mapper : DebeziumMapper) : Json → String
  | .string s => s
  | other => mapper.display other

/-- The rows and keys of an unwrapped envelope. `r` is a snapshot record. -/
def DebeziumMapper.changes (mapper : DebeziumMapper) (envelope : DebeziumEnvelope) :
    List (List Cell) × List String :=
  match envelope.op with
  | some "c" | some "u" | some "r" | none => ((envelope.after.map mapper.rowFromJson).toList, [])
  | some "d" => ([], ((envelope.before.bind (·.get mapper.key)).map mapper.keyText).toList)
  | some _ => ([], [])

/-- The envelope proper: the nested one, if there is one. -/
def DebeziumEnvelope.unwrap (envelope : DebeziumEnvelope) : DebeziumEnvelope :=
  envelope.payload.getD envelope

/-- `DebeziumMapper::map`. -/
def DebeziumMapper.map (mapper : DebeziumMapper) (envelope : DebeziumEnvelope)
    (partition offset : Int) : SourceBatch where
  system := mapper.system
  entity := mapper.entity
  columns := mapper.columns
  key := mapper.key
  upserts := (mapper.changes envelope.unwrap).1
  deletes := (mapper.changes envelope.unwrap).2
  offsets := [(partition, offset)]

/-- What a message carries: nothing, text that does not parse, or an envelope. -/
inductive Payload where
  | tombstone
  | unparseable
  | envelope (envelope : DebeziumEnvelope)

structure KafkaMessage where
  partition : Int
  offset : Int
  payload : Payload

/-- The local variables of `next_batch`. -/
structure Accumulated where
  upserts : List (List Cell)
  deletes : List String
  offsets : SortedMap Int Int

def Accumulated.empty : Accumulated := ⟨[], [], SortedMap.empty⟩

/-- What one received message adds: its offset always, its changes if it parses. -/
def Accumulated.absorb (mapper : DebeziumMapper) (pending : Accumulated)
    (message : KafkaMessage) : Accumulated :=
  let pending := { pending with
    offsets := pending.offsets.insert message.partition message.offset }
  match message.payload with
  | .tombstone => pending
  | .unparseable => pending
  | .envelope envelope =>
      let batch := mapper.map envelope message.partition message.offset
      { pending with
        upserts := pending.upserts ++ batch.upserts
        deletes := pending.deletes ++ batch.deletes }

/-- `MAX_BATCH_MESSAGES`. -/
def maxBatchMessages : Nat := 500

/-- What `recv` under the remaining time came back with. -/
inductive Received where
  | message (message : KafkaMessage)
  | pollError
  | timedOut

/-- The loop of `next_batch`: messages are absorbed until the batch is full, the
deadline has passed or a poll fails. -/
def Accumulated.receive (mapper : DebeziumMapper) (pending : Accumulated) :
    List Received → Accumulated
  | [] => pending
  | event :: rest =>
      if maxBatchMessages ≤ pending.upserts.length + pending.deletes.length then pending
      else
        match event with
        | .message message => (pending.absorb mapper message).receive mapper rest
        | .pollError => pending
        | .timedOut => pending

/-- The batch `next_batch` returns for what it accumulated, or `None`. -/
def Accumulated.batch (mapper : DebeziumMapper) (pending : Accumulated) : Option SourceBatch :=
  if pending.upserts.isEmpty && pending.deletes.isEmpty && pending.offsets.entries.isEmpty then none
  else some
    { system := mapper.system
      entity := mapper.entity
      columns := mapper.columns
      key := mapper.key
      upserts := pending.upserts
      deletes := pending.deletes
      offsets := pending.offsets.entries }

/-- `KafkaCdcAdapter::next_batch`. -/
def nextBatch (mapper : DebeziumMapper) (events : List Received) : Option SourceBatch :=
  (Accumulated.empty.receive mapper events).batch mapper

/-- The messages a call of `next_batch` takes off the source. -/
def Accumulated.consumed (mapper : DebeziumMapper) (pending : Accumulated) :
    List Received → List KafkaMessage
  | [] => []
  | event :: rest =>
      if maxBatchMessages ≤ pending.upserts.length + pending.deletes.length then []
      else
        match event with
        | .message message => message :: (pending.absorb mapper message).consumed mapper rest
        | .pollError => []
        | .timedOut => []

/-- What `next_batch` accumulates is what the messages it took add up to. -/
theorem Accumulated.receive_eq (mapper : DebeziumMapper) (pending : Accumulated)
    (events : List Received) :
    pending.receive mapper events =
      (pending.consumed mapper events).foldl (Accumulated.absorb mapper) pending := by
  induction events generalizing pending with
  | nil => rfl
  | cons event rest ih =>
    simp only [receive, consumed]
    split
    · rfl
    · cases event with
      | message message => exact ih _
      | pollError => rfl
      | timedOut => rfl

/-- The rows and keys a message contributes. -/
def KafkaMessage.upserts (mapper : DebeziumMapper) (message : KafkaMessage) : List (List Cell) :=
  match message.payload with
  | .tombstone | .unparseable => []
  | .envelope envelope => (mapper.map envelope message.partition message.offset).upserts

def KafkaMessage.deletes (mapper : DebeziumMapper) (message : KafkaMessage) : List String :=
  match message.payload with
  | .tombstone | .unparseable => []
  | .envelope envelope => (mapper.map envelope message.partition message.offset).deletes

/-- All upserts and all deletes of the absorbed messages, each in order. -/
theorem Accumulated.foldl_absorb (mapper : DebeziumMapper) (pending : Accumulated)
    (messages : List KafkaMessage) :
    (messages.foldl (absorb mapper) pending).upserts =
        pending.upserts ++ messages.flatMap (KafkaMessage.upserts mapper) ∧
      (messages.foldl (absorb mapper) pending).deletes =
        pending.deletes ++ messages.flatMap (KafkaMessage.deletes mapper) ∧
      (messages.foldl (absorb mapper) pending).offsets =
        messages.foldl (fun offsets message => offsets.insert message.partition message.offset)
          pending.offsets := by
  induction messages generalizing pending with
  | nil => simp
  | cons message messages ih =>
    obtain ⟨upserts, deletes, offsets⟩ := ih (pending.absorb mapper message)
    simp only [List.foldl_cons, List.flatMap_cons]
    rw [upserts, deletes, offsets]
    cases carried : message.payload <;>
      simp [absorb, carried, KafkaMessage.upserts, KafkaMessage.deletes]

theorem DebeziumMapper.rowFromJson_length (mapper : DebeziumMapper) (object : Json) :
    (mapper.rowFromJson object).length = mapper.columns.length := List.length_map ..

/-- The change a message reports: the row as it now is, or the row that is gone. -/
inductive RowChange where
  | upsert (after : Json)
  | delete (before : Json)

def DebeziumEnvelope.rowChange (envelope : DebeziumEnvelope) : Option RowChange :=
  match envelope.op with
  | some "c" | some "u" | some "r" | none => envelope.after.map .upsert
  | some "d" => envelope.before.map .delete
  | some _ => none

def KafkaMessage.rowChange (message : KafkaMessage) : Option RowChange :=
  match message.payload with
  | .tombstone | .unparseable => none
  | .envelope envelope => envelope.unwrap.rowChange

theorem DebeziumMapper.changes_eq (mapper : DebeziumMapper) (envelope : DebeziumEnvelope) :
    mapper.changes envelope =
      match envelope.rowChange with
      | none => ([], [])
      | some (.upsert after) => ([mapper.rowFromJson after], [])
      | some (.delete before) => ([], ((before.get mapper.key).map mapper.keyText).toList) := by
  unfold changes DebeziumEnvelope.rowChange
  split
  all_goals first
    | rfl
    | cases envelope.after <;> rfl
    | cases envelope.before <;> rfl

/-- A message contributes the change it reports and nothing else. -/
theorem KafkaMessage.contributes (mapper : DebeziumMapper) (message : KafkaMessage) :
    (message.upserts mapper, message.deletes mapper) =
      match message.rowChange with
      | none => ([], [])
      | some (.upsert after) => ([mapper.rowFromJson after], [])
      | some (.delete before) => ([], ((before.get mapper.key).map mapper.keyText).toList) := by
  cases carried : message.payload with
  | tombstone => simp [upserts, deletes, rowChange, carried]
  | unparseable => simp [upserts, deletes, rowChange, carried]
  | envelope envelope =>
    simp only [upserts, deletes, rowChange, carried]
    exact mapper.changes_eq envelope.unwrap

/-- Every upsert of a message is aligned with the mapped columns. -/
theorem KafkaMessage.upserts_aligned {mapper : DebeziumMapper} {message : KafkaMessage}
    {row : List Cell} (member : row ∈ message.upserts mapper) :
    row.length = mapper.columns.length := by
  have contributes := congrArg Prod.fst (message.contributes mapper)
  simp only at contributes
  rw [contributes] at member
  cases reported : message.rowChange with
  | none => simp [reported] at member
  | some change =>
    cases change with
    | upsert after =>
      simp only [reported, List.mem_singleton] at member
      rw [member, mapper.rowFromJson_length]
    | delete before => simp [reported] at member

end ConsumerEngine.Ingestion
