import ConsumerEngine.Foundation.Runs
import ConsumerEngine.Ingestion.CdcRefinement

/-! The change pump: take a batch off the source, have the writer apply it, repeat.

The source keeps its place in memory and moves past what it delivered, applied or not.
A restart goes back to the positions the committed batches recorded.
-/

set_option autoImplicit false

namespace ConsumerEngine.Ingestion

open ConsumerEngine.Core ConsumerEngine.Foundation ConsumerEngine.Storage

/-- A Kafka topic: what each partition holds at each offset, from its first offset on. -/
structure Topic where
  log : Int → Int → Option Payload
  first : Int → Int
  first_le : ∀ part offset, (log part offset).isSome → first part ≤ offset

/-- A message of the topic. -/
def Topic.Holds (topic : Topic) (message : KafkaMessage) : Prop :=
  topic.log message.partition message.offset = some message.payload

/-- The next message of its partition for a source at these positions. -/
def Topic.Next (topic : Topic) (position : Int → Int) (message : KafkaMessage) : Prop :=
  topic.Holds message ∧ position message.partition ≤ message.offset ∧
    ∀ offset, position message.partition ≤ offset → offset < message.offset →
      topic.log message.partition offset = none

/-- Messages a source hands out one after the other: each partition in offset order,
none left out and none twice. -/
inductive Topic.Delivers (topic : Topic) : (Int → Int) → List KafkaMessage → (Int → Int) → Prop
  | done (position : Int → Int) : topic.Delivers position [] position
  | next {position reached : Int → Int} {message : KafkaMessage} {rest : List KafkaMessage}
      (next : topic.Next position message)
      (delivers : topic.Delivers
        (Function.update position message.partition (message.offset + 1)) rest reached) :
      topic.Delivers position (message :: rest) reached

/-- A message with something to apply. -/
def KafkaMessage.IsChange (mapper : DebeziumMapper) (message : KafkaMessage) : Prop :=
  message.upserts mapper ≠ [] ∨ message.deletes mapper ≠ []

/-- A batch of messages the writer applied: its run committed. -/
structure CommittedBatch (mapper : DebeziumMapper) where
  messages : List KafkaMessage
  batch : SourceBatch
  now : String
  before : Writer
  after : Writer
  written : Nat
  made : batchOf mapper messages = some batch
  ran : batch.apply now before = (.ok written, after)

/-- The pump, its source and the writer behind it. `committed` and `refused` record
the batches applied so far and those that failed since the source last resumed. -/
structure Pump (mapper : DebeziumMapper) where
  writer : Writer
  position : Int → Int
  inFlight : Option (List KafkaMessage)
  committed : List (CommittedBatch mapper)
  refused : List (List KafkaMessage)

/-- Where a resumed source delivers from: behind the recorded offset of a partition,
or at its first message. -/
def Topic.resume (topic : Topic) (offsets : List (Int × Int)) (part : Int) : Int :=
  match offsets.find? (fun offset => offset.1 = part) with
  | some offset => offset.2 + 1
  | none => topic.first part

inductive PumpEvent where
  | poll (events : List Received)
  | apply (now : String)
  | unsent
  | restart
  | other

namespace Pump

variable {mapper : DebeziumMapper}

/-- A pump that has just started on a source that was never read. -/
def start (mapper : DebeziumMapper) (topic : Topic) (writer : Writer) : Pump mapper :=
  ⟨writer, topic.resume [], none, [], []⟩

def recorded (pump : Pump mapper) : List (Int × Int) :=
  pump.writer.durable.catalog.recorded mapper.table.source

/-- The loop of `run_cdc_pump`, a crash and restart at any point of it, and the
other commands the writer serves in between, none of which writes this source's offsets. -/
inductive Step (topic : Topic) (tenant : String) : PumpEvent → Pump mapper → Pump mapper → Prop
  | polled {pump : Pump mapper} {events : List Received} {position : Int → Int}
      (idle : pump.inFlight = none)
      (delivers : topic.Delivers pump.position (Accumulated.empty.consumed mapper events) position) :
      Step topic tenant (.poll events) pump { pump with
        position
        inFlight := (nextBatch mapper events).map fun _ => Accumulated.empty.consumed mapper events }
  | applied {pump : Pump mapper} {now : String} {messages : List KafkaMessage}
      {batch : SourceBatch} {written : Nat} {after : Writer}
      (taken : pump.inFlight = some messages) (made : batchOf mapper messages = some batch)
      (ran : batch.apply now (pump.writer.setTenant tenant) = (.ok written, after)) :
      Step topic tenant (.apply now) pump { pump with
        writer := after
        inFlight := none
        committed := pump.committed ++
          [⟨messages, batch, now, pump.writer.setTenant tenant, after, written, made, ran⟩] }
  | refused {pump : Pump mapper} {now : String} {messages : List KafkaMessage}
      {batch : SourceBatch} {failure : Error} {after : Writer}
      (taken : pump.inFlight = some messages) (made : batchOf mapper messages = some batch)
      (ran : batch.apply now (pump.writer.setTenant tenant) = (.error failure, after)) :
      Step topic tenant (.apply now) pump { pump with
        writer := after
        inFlight := none
        refused := pump.refused ++ [messages] }
  | unsent {pump : Pump mapper} {messages : List KafkaMessage}
      (taken : pump.inFlight = some messages) :
      Step topic tenant .unsent pump { pump with
        inFlight := none
        refused := pump.refused ++ [messages] }
  | restarted {pump : Pump mapper} {opened after : Writer} {offsets : List (Int × Int)}
      (kept : opened.durable.catalog = pump.writer.committed.catalog)
      (idle : opened.rollbackTo = none)
      (read : readCdcOffsets mapper.table.source opened = (.ok offsets, after)) :
      Step topic tenant .restart pump { pump with
        writer := after
        position := topic.resume offsets
        inFlight := none
        refused := [] }
  | other {pump : Pump mapper} {writer : Writer} (idle : writer.rollbackTo = none)
      (kept : writer.durable.catalog.recorded mapper.table.source = pump.recorded) :
      Step topic tenant .other pump { pump with writer }

/-- The message was in a batch that committed. -/
def Applied (pump : Pump mapper) (message : KafkaMessage) : Prop :=
  ∃ transaction ∈ pump.committed, message ∈ transaction.messages

/-- No change at or below a recorded position is missing from the table. -/
def LosesNothing (topic : Topic) (pump : Pump mapper) : Prop :=
  ∀ part offset, (part, offset) ∈ pump.recorded → ∀ message, topic.Holds message →
    message.IsChange mapper → message.partition = part → message.offset ≤ offset →
      pump.Applied message

/-- No batch commits that moves a partition past a change of a batch that failed since
the source last resumed. -/
def Settles (tenant : String) : PumpEvent → Pump mapper → Prop
  | .apply _, pump => ∀ messages batch, pump.inFlight = some messages →
      batchOf mapper messages = some batch →
      mapper.table.commits (pump.writer.setTenant tenant) batch.upserts batch.deletes
        batch.offsets = true →
      ∀ message ∈ messages, ∀ failed ∈ pump.refused, ∀ lost ∈ failed, lost.IsChange mapper →
        lost.partition ≠ message.partition
  | _, _ => True

end Pump

/-! ### What the source delivers -/

theorem Topic.Holds.unique {topic : Topic} {first second : KafkaMessage} (holds : topic.Holds first)
    (holds' : topic.Holds second) (part : first.partition = second.partition)
    (offset : first.offset = second.offset) : first = second := by
  obtain ⟨firstPart, firstOffset, firstPayload⟩ := first
  obtain ⟨secondPart, secondOffset, secondPayload⟩ := second
  simp only at part offset
  subst part offset
  have same : some firstPayload = some secondPayload := holds.symm.trans holds'
  cases same
  rfl

/-- A source never moves back, and is past everything it delivered. -/
theorem Topic.Delivers.ahead {topic : Topic} {position reached : Int → Int}
    {messages : List KafkaMessage} (delivers : topic.Delivers position messages reached) :
    (∀ part, position part ≤ reached part) ∧
      ∀ message ∈ messages, message.offset < reached message.partition := by
  induction delivers with
  | done position => simp
  | @next position reached message rest next delivers ih =>
    obtain ⟨forward, past⟩ := ih
    have here : message.offset < reached message.partition := by
      have moved := forward message.partition
      rw [Function.update_self] at moved
      omega
    constructor
    · intro part
      by_cases same : part = message.partition
      · subst same
        exact (next.2.1.trans_lt here).le
      · have moved := forward part
        rwa [Function.update_of_ne same] at moved
    · intro other member
      rcases List.mem_cons.mp member with rfl | member
      · exact here
      · exact past other member

/-- A source that takes the next message of a partition leaves no other message of it
behind. -/
theorem Topic.Next.eq_or_ahead {topic : Topic} {position : Int → Int}
    {message wanted : KafkaMessage} (next : topic.Next position message)
    (holds : topic.Holds wanted) (same : wanted.partition = message.partition)
    (after : position wanted.partition ≤ wanted.offset) :
    wanted = message ∨ message.offset + 1 ≤ wanted.offset := by
  obtain ⟨held, -, between⟩ := next
  rcases lt_trichotomy wanted.offset message.offset with early | equal | late
  · have absent := between wanted.offset (same ▸ after) early
    rw [← same, holds] at absent
    cases absent
  · exact Or.inl (holds.unique held same equal)
  · exact Or.inr late

/-- Everything between two positions was delivered. -/
theorem Topic.Delivers.complete {topic : Topic} {position reached : Int → Int}
    {messages : List KafkaMessage} (delivers : topic.Delivers position messages reached)
    {wanted : KafkaMessage} (holds : topic.Holds wanted)
    (after : position wanted.partition ≤ wanted.offset)
    (before : wanted.offset < reached wanted.partition) : wanted ∈ messages := by
  induction delivers with
  | done position => omega
  | @next position reached message rest next delivers ih =>
    by_cases same : wanted.partition = message.partition
    · rcases next.eq_or_ahead holds same after with rfl | late
      · exact List.mem_cons_self
      · refine List.mem_cons_of_mem _ (ih ?_ before)
        rwa [same, Function.update_self]
    · refine List.mem_cons_of_mem _ (ih ?_ before)
      rwa [Function.update_of_ne same]

theorem Topic.Delivers.single {topic : Topic} {position : Int → Int} {message : KafkaMessage}
    (holds : topic.Holds message) (here : position message.partition = message.offset) :
    topic.Delivers position [message]
      (Function.update position message.partition (message.offset + 1)) :=
  .next ⟨holds, here.le, fun offset after before => by omega⟩ (.done _)

theorem mem_positions {messages : List KafkaMessage} {part offset : Int}
    (member : (part, offset) ∈ (positions messages).entries) :
    ∃ message ∈ messages, message.partition = part ∧ message.offset = offset := by
  induction messages using List.reverseRecOn with
  | nil => cases member
  | append_singleton messages last ih =>
    simp only [positions, List.foldl_append, List.foldl_cons, List.foldl_nil] at member
    rcases SortedMap.mem_insert.mp member with placed | ⟨-, earlier⟩
    · cases placed
      exact ⟨last, by simp, rfl, rfl⟩
    · obtain ⟨message, inMessages, named⟩ := ih earlier
      exact ⟨message, by simp [inMessages], named⟩

theorem KafkaMessage.IsChange.batchOf {mapper : DebeziumMapper} {messages : List KafkaMessage}
    {message : KafkaMessage} (change : message.IsChange mapper) (member : message ∈ messages) :
    ∃ batch, batchOf mapper messages = some batch := by
  rw [batchOf_eq]
  refine ⟨_, if_neg ?_⟩
  simp only [Bool.and_eq_true, List.isEmpty_iff, List.flatMap_eq_nil_iff]
  rintro ⟨⟨upserts, deletes⟩, -⟩
  exact change.elim (absurd (upserts message member)) (absurd (deletes message member))

theorem batchOf_eq_some {mapper : DebeziumMapper} {messages : List KafkaMessage}
    {batch : SourceBatch} (made : batchOf mapper messages = some batch) :
    (batch.system = mapper.table.system ∧ batch.entity = mapper.table.entity ∧
        batch.columns = mapper.table.columns ∧ batch.key = mapper.table.key) ∧
      (∀ row ∈ batch.upserts, row.length = mapper.table.columns.length) ∧
      batch.offsets = (positions messages).entries := by
  rw [batchOf_eq] at made
  simp only [Option.ite_none_left_eq_some, Option.some.injEq] at made
  obtain ⟨-, rfl⟩ := made
  exact ⟨⟨rfl, rfl, rfl, rfl⟩, upserts_aligned messages, rfl⟩

/-- A committed batch was one the writer takes; it records the positions of its messages
over the ones before. -/
theorem CommittedBatch.effect {mapper : DebeziumMapper} (transaction : CommittedBatch mapper) :
    mapper.table.commits transaction.before transaction.batch.upserts transaction.batch.deletes
        transaction.batch.offsets = true ∧
      transaction.after.rollbackTo = none ∧
      ∀ part offset,
        (part, offset) ∈ transaction.after.durable.catalog.recorded mapper.table.source →
        (∃ message ∈ transaction.messages, message.partition = part ∧ message.offset = offset) ∨
          (part, offset) ∈ transaction.before.durable.catalog.recorded mapper.table.source := by
  obtain ⟨named, aligned, offsets⟩ := batchOf_eq_some transaction.made
  obtain ⟨commits, known, -, -, after⟩ :=
    SourceBatch.apply_committed mapper.table named aligned transaction.ran
  refine ⟨commits, by rw [after, KeyedTable.afterCdc_rollbackTo], fun part offset member => ?_⟩
  rw [after, KeyedTable.afterCdc_catalog] at member
  rw [offsets] at member
  exact (KeyedTable.mem_recorded_cdcCatalog member).imp_left mem_positions

theorem Topic.mem_of_resume {topic : Topic} {offsets : List (Int × Int)} {message : KafkaMessage}
    (holds : topic.Holds message) (behind : message.offset < topic.resume offsets message.partition) :
    ∃ offset, (message.partition, offset) ∈ offsets ∧ message.offset ≤ offset := by
  unfold Topic.resume at behind
  cases found : offsets.find? (fun offset => offset.1 = message.partition) with
  | none =>
    simp only [found] at behind
    have least := topic.first_le message.partition message.offset (by rw [holds]; rfl)
    omega
  | some offset =>
    simp only [found] at behind
    have named := List.find?_some found
    simp only [decide_eq_true_eq] at named
    exact ⟨offset.2, named ▸ List.mem_of_find?_eq_some found, by omega⟩

namespace Pump

variable {mapper : DebeziumMapper} {topic : Topic} {tenant : String}

/-! ### The invariant -/

/-- Where the source stands: what it has passed in a partition nothing failed in is
applied or about to be. -/
structure Resumable (topic : Topic) (pump : Pump mapper) : Prop where
  idle : pump.writer.rollbackTo = none
  recorded : pump.LosesNothing topic
  passed : ∀ message, topic.Holds message → message.IsChange mapper →
    message.offset < pump.position message.partition →
    (∀ failed ∈ pump.refused, ∀ lost ∈ failed, lost.IsChange mapper →
      lost.partition ≠ message.partition) →
    pump.Applied message ∨ ∃ messages, pump.inFlight = some messages ∧ message ∈ messages
  ahead : ∀ messages, pump.inFlight = some messages → ∀ message ∈ messages,
    message.offset < pump.position message.partition

theorem Resumable.start (topic : Topic) {writer : Writer} (idle : writer.rollbackTo = none)
    (unread : writer.durable.catalog.recorded mapper.table.source = []) :
    Resumable topic (start mapper topic writer) where
  idle := idle
  recorded part offset member := by
    rw [Pump.recorded, Pump.start, unread] at member
    cases member
  passed message holds _ behind _ := by
    obtain ⟨offset, member, -⟩ := Topic.mem_of_resume holds (show message.offset < topic.resume [] message.partition from behind)
    cases member
  ahead messages taken := by cases taken

theorem Resumable.polled {pump : Pump mapper} {events : List Received} {position : Int → Int}
    (sound : Resumable topic pump) (idle : pump.inFlight = none)
    (delivers : topic.Delivers pump.position (Accumulated.empty.consumed mapper events) position) :
    Resumable topic { pump with
      position
      inFlight := (nextBatch mapper events).map
        fun _ => Accumulated.empty.consumed mapper events } where
  idle := sound.idle
  recorded := sound.recorded
  passed message holds change behind calm := by
    by_cases old : message.offset < pump.position message.partition
    · rcases sound.passed message holds change old calm with applied | ⟨messages, taken, -⟩
      · exact Or.inl applied
      · rw [idle] at taken
        cases taken
    · have member := delivers.complete holds (not_lt.mp old) behind
      refine Or.inr ⟨_, ?_, member⟩
      have made : nextBatch mapper events =
          batchOf mapper (Accumulated.empty.consumed mapper events) := by
        rw [nextBatch, Accumulated.receive_eq, batchOf]
      obtain ⟨batch, some⟩ := change.batchOf member
      rw [made, some, Option.map_some]
  ahead messages taken message member := by
    obtain ⟨batch, -, rfl⟩ := Option.map_eq_some_iff.mp taken
    exact delivers.ahead.2 message member

/-- Moving past a batch that failed leaves the partitions with changes in it open. -/
theorem Resumable.dropped {pump : Pump mapper} {messages : List KafkaMessage} {writer : Writer}
    (sound : Resumable topic pump) (taken : pump.inFlight = some messages)
    (idle : writer.rollbackTo = none)
    (kept : writer.durable.catalog.recorded mapper.table.source = pump.recorded) :
    Resumable topic { pump with
      writer
      inFlight := none
      refused := pump.refused ++ [messages] } where
  idle := idle
  recorded part offset member := sound.recorded part offset (kept ▸ member)
  passed message holds change behind calm := by
    have calmBefore := fun failed inRefused => calm failed (List.mem_append_left _ inRefused)
    rcases sound.passed message holds change behind calmBefore with
      applied | ⟨flying, taken', member⟩
    · exact Or.inl applied
    · rw [taken] at taken'
      cases taken'
      exact absurd rfl (calm messages (by simp) message member change)
  ahead messages taken := by cases taken

/-- A batch that commits applies everything up to the positions it records. -/
theorem Resumable.applied {pump : Pump mapper} (sound : Resumable topic pump)
    (transaction : CommittedBatch mapper) (taken : pump.inFlight = some transaction.messages)
    (before : transaction.before = pump.writer.setTenant tenant)
    (settles : Settles tenant (.apply transaction.now) pump) :
    Resumable topic { pump with
      writer := transaction.after
      inFlight := none
      committed := pump.committed ++ [transaction] } := by
  obtain ⟨commits, idle, recorded⟩ := transaction.effect
  rw [before] at commits recorded
  have calm := settles transaction.messages transaction.batch taken transaction.made commits
  have earlier (message : KafkaMessage) : pump.Applied message →
      ∃ done ∈ pump.committed ++ [transaction], message ∈ done.messages :=
    fun ⟨done, inCommitted, member⟩ => ⟨done, List.mem_append_left _ inCommitted, member⟩
  have passed : ∀ message, topic.Holds message → message.IsChange mapper →
      message.offset < pump.position message.partition →
      (∀ failed ∈ pump.refused, ∀ lost ∈ failed, lost.IsChange mapper →
        lost.partition ≠ message.partition) →
      ∃ done ∈ pump.committed ++ [transaction], message ∈ done.messages := by
    intro message holds change behind unfailed
    rcases sound.passed message holds change behind unfailed with done | ⟨flying, taken', member⟩
    · exact earlier message done
    · rw [taken] at taken'
      cases taken'
      exact ⟨transaction, by simp, member⟩
  refine ⟨idle, ?_, fun message holds change behind unfailed =>
    Or.inl (passed message holds change behind unfailed), fun messages taken => by cases taken⟩
  intro part offset member message holds change samePart below
  rcases recorded part offset member with ⟨last, inMessages, lastPart, lastOffset⟩ | old
  · refine passed message holds change ?_ fun failed inRefused lost inFailed lostChange => ?_
    · have ahead := sound.ahead transaction.messages taken last inMessages
      rw [lastPart, lastOffset] at ahead
      rw [samePart]
      omega
    · rw [samePart, ← lastPart]
      exact calm last inMessages failed inRefused lost inFailed lostChange
  · exact earlier message (sound.recorded part offset old message holds change samePart below)

theorem Resumable.restarted {pump : Pump mapper} {opened after : Writer} {offsets : List (Int × Int)}
    (sound : Resumable topic pump)
    (kept : opened.durable.catalog = pump.writer.committed.catalog)
    (idle : opened.rollbackTo = none)
    (read : readCdcOffsets mapper.table.source opened = (.ok offsets, after)) :
    Resumable topic { pump with
      writer := after
      position := topic.resume offsets
      inFlight := none
      refused := [] } := by
  obtain ⟨found, same, closed⟩ := readCdcOffsets_eq_ok read
  have durable : pump.writer.committed = pump.writer.durable := by
    rw [Writer.committed, sound.idle, Option.getD_none]
  rw [kept, durable] at found same
  have recorded : pump.recorded = offsets := found.symm
  refine ⟨closed.trans idle, fun part offset member => ?_,
    fun message holds change behind _ => ?_, fun messages taken => by cases taken⟩
  · rw [Pump.recorded, same] at member
    exact sound.recorded part offset member
  · obtain ⟨offset, member, below⟩ := Topic.mem_of_resume holds behind
    exact Or.inl (sound.recorded _ offset (recorded ▸ member) message holds change rfl below)

/-- Every step that settles keeps the invariant. -/
theorem Resumable.step {event : PumpEvent} {pump next : Pump mapper} (sound : Resumable topic pump)
    (settles : Settles tenant event pump) (step : Step topic tenant event pump next) :
    Resumable topic next := by
  cases step with
  | polled idle delivers => exact sound.polled idle delivers
  | applied taken made ran => exact sound.applied ⟨_, _, _, _, _, _, made, ran⟩ taken rfl settles
  | refused taken made ran =>
    obtain ⟨named, aligned, -⟩ := batchOf_eq_some made
    obtain ⟨durable, closed⟩ := SourceBatch.apply_refused mapper.table named aligned ran
    exact sound.dropped taken (closed sound.idle) (by rw [durable]; rfl)
  | unsent taken => exact sound.dropped taken sound.idle rfl
  | restarted kept idle read => exact sound.restarted kept idle read
  | other idle kept =>
    exact ⟨idle, fun part offset member => sound.recorded part offset (kept ▸ member),
      sound.passed, sound.ahead⟩

/-- However the pump runs, fails and restarts, a recorded position has every change up
to it applied, as long as no batch commits past a change that failed. -/
theorem losesNothing_of_settles (mapper : DebeziumMapper) (topic : Topic) (tenant : String)
    (writer : Writer) (idle : writer.rollbackTo = none)
    (unread : writer.durable.catalog.recorded mapper.table.source = []) (pump : Pump mapper)
    (run : Reaches (Step topic tenant) (Settles tenant) (start mapper topic writer) pump) :
    pump.LosesNothing topic :=
  (run.invariant (fun _ _ _ sound settles step => sound.step settles step)
    (Resumable.start topic idle unread)).recorded

end Pump

/-! ### Two orders, one refused statement -/

/-- A topic of two orders. -/
def ordersTopic : Topic where
  log part offset :=
    if part = 0 ∧ offset = 0 then some (createOf 0 "u1" "A").payload
    else if part = 0 ∧ offset = 1 then some (createOf 1 "u2" "B").payload
    else none
  first := fun _ => 0
  first_le part offset held := by
    split at held
    · omega
    · split at held
      · omega
      · cases held

/-- A writer whose first statement is refused. -/
def stumblingWriter : Writer :=
  { freshWriter with duck := { freshWriter.duck with rejects := fun sent => decide (sent = 0) } }

private theorem holdsFirst : ordersTopic.Holds (createOf 0 "u1" "A") := rfl

private theorem holdsSecond : ordersTopic.Holds (createOf 1 "u2" "B") := rfl

private theorem isChange (offset : Int) (user sku : String) :
    (createOf offset user sku).IsChange ordersMapper := Or.inl (List.cons_ne_nil _ _)

/-- The pump polls one message. -/
private theorem polled_one {writer : Writer} {position : Int → Int} {message : KafkaMessage}
    {committed : List (CommittedBatch ordersMapper)} {refused : List (List KafkaMessage)}
    (holds : ordersTopic.Holds message) (here : position message.partition = message.offset)
    (change : message.IsChange ordersMapper) :
    Pump.Step ordersTopic "acme" (.poll [.message message])
      ⟨writer, position, none, committed, refused⟩
      ⟨writer, Function.update position message.partition (message.offset + 1), some [message],
        committed, refused⟩ := by
  have consumed : Accumulated.empty.consumed ordersMapper [.message message] = [message] := rfl
  have delivers := Topic.Delivers.single holds here
  rw [← consumed] at delivers
  have step : Pump.Step ordersTopic "acme" (.poll [.message message])
      ⟨writer, position, none, committed, refused⟩ _ := .polled rfl delivers
  obtain ⟨batch, made⟩ := change.batchOf (List.mem_singleton_self message)
  have taken : nextBatch ordersMapper [.message message] = some batch := by
    rw [nextBatch, Accumulated.receive_eq, consumed]
    exact made
  rw [taken] at step
  exact step

private theorem orders_sound : ordersMapper.table.sound = true := by decide

private theorem orders_usable : ordersMapper.table.usable Catalog.empty = true := by decide

/-- An order the writer takes is applied and its position recorded. -/
private theorem order_applied (writer : Writer) {message : KafkaMessage}
    (change : message.IsChange ordersMapper) (empty : writer.durable.catalog = Catalog.empty)
    (clear : ∀ i, writer.duck.rejects (writer.issued + i) = false) (now : String) :
    ∃ batch written after, batchOf ordersMapper [message] = some batch ∧
      batch.apply now writer = (.ok written, after) ∧
      (message.partition, message.offset) ∈
        after.durable.catalog.recorded ordersMapper.table.source := by
  obtain ⟨batch, made⟩ := change.batchOf (List.mem_singleton_self message)
  obtain ⟨written, known, -, -, ran⟩ :=
    SourceBatch.apply_succeeds made orders_sound (by rw [empty, orders_usable]) clear now
  refine ⟨batch, written, _, made, ran, ?_⟩
  have placed : (message.partition, message.offset) ∈ (positions [message]).entries :=
    SortedMap.mem_insert.mpr (Or.inl rfl)
  rw [KeyedTable.afterCdc_catalog, (batchOf_eq_some made).2.2]
  exact KeyedTable.recorded_cdcCatalog (positions [message]).keys_nodup placed ..

/-- An order is polled and applied, which records its position. -/
theorem Pump.losesNothing_of_settles_order :
    ∃ pump, Reaches (Step ordersTopic "acme") (Settles "acme")
        (start ordersMapper ordersTopic freshWriter) pump ∧
      (0, 0) ∈ pump.recorded ∧ pump.LosesNothing ordersTopic := by
  obtain ⟨batch, written, after, made, ran, recorded⟩ :=
    order_applied (freshWriter.setTenant "acme") (isChange 0 "u1" "A") rfl (fun _ => rfl) "t0"
  have polled : Reaches (Step ordersTopic "acme") (Settles "acme")
      (start ordersMapper ordersTopic freshWriter) _ :=
    (Reaches.refl _).snoc (polled_one holdsFirst rfl (isChange 0 "u1" "A")) trivial
  have applied := polled.snoc (.applied rfl made ran)
    fun _ _ _ _ _ _ _ failed inNone => by cases inNone
  exact ⟨_, applied, recorded, losesNothing_of_settles _ _ _ _ rfl rfl _ applied⟩

/-- The first order fails to apply; the second is applied and records its position. -/
theorem Pump.refused_order_lost :
    ∃ pump, Reaches (Step ordersTopic "acme") (fun _ _ => True)
        (start ordersMapper ordersTopic stumblingWriter) pump ∧
      (0, 1) ∈ pump.recorded ∧ ¬ pump.LosesNothing ordersTopic := by
  obtain ⟨first, madeFirst⟩ :=
    (isChange 0 "u1" "A").batchOf (List.mem_singleton_self (createOf 0 "u1" "A"))
  have stumbles : first.apply "t0" (stumblingWriter.setTenant "acme") = (.error _, _) :=
    SourceBatch.apply_unbegun ordersMapper.table (batchOf_eq_some madeFirst).1 orders_sound rfl "t0"
  obtain ⟨second, written, after, made, ran, recorded⟩ :=
    order_applied ((stumblingWriter.setTenant "acme").sent.setTenant "acme")
      (isChange 1 "u2" "B") rfl (fun i => decide_eq_false (by show ¬ 1 + i = 0; omega)) "t1"
  have polled : Reaches (Step ordersTopic "acme") (fun _ _ => True)
      (start ordersMapper ordersTopic stumblingWriter) _ :=
    (Reaches.refl _).snoc (polled_one holdsFirst rfl (isChange 0 "u1" "A")) trivial
  have refused := polled.snoc (.refused rfl madeFirst stumbles) trivial
  have polledAgain := refused.snoc (polled_one holdsSecond rfl (isChange 1 "u2" "B")) trivial
  have applied := polledAgain.snoc (.applied rfl made ran) trivial
  refine ⟨_, applied, recorded, fun nothingLost => ?_⟩
  obtain ⟨transaction, only, member⟩ := nothingLost 0 1 recorded (createOf 0 "u1" "A") holdsFirst
    (isChange 0 "u1" "A") rfl (by decide)
  rw [List.mem_singleton.mp only] at member
  have same := congrArg KafkaMessage.offset (List.mem_singleton.mp member)
  cases same

end ConsumerEngine.Ingestion
