import ConsumerEngine.Ingestion.GracefulStop

/-! What waits in the buffer of the writer thread, after any turns at any times.

A batch is made up of the latest ingests under its key. An ingest may bring no rows, so a batch
may have been opened before its oldest row arrived.
-/

set_option autoImplicit false

namespace ConsumerEngine.Ingestion

open ConsumerEngine.Core ConsumerEngine.Foundation ConsumerEngine.Storage

/-- An ingest: when it arrived, when it was to be buffered, its columns and its rows. -/
structure Arrival where
  now : Nat
  since : Nat
  columns : List String
  rows : List (List Cell)

/-- The ingest under a key that a wake brings. -/
def arrivalOf (key : BatchKey) : Wake → Option Arrival
  | .command clock (.ingestRaw system entity columns rows tenant) =>
      if BatchKey.of tenant system entity = key then some ⟨clock.now, clock.since, columns, rows⟩
      else none
  | _ => none

/-- All ingests under a key, in the order they arrived. -/
def arrivalsUnder (key : BatchKey) (wakes : List Wake) : List Arrival :=
  wakes.filterMap (arrivalOf key)

/-- A batch of the key's tenant holds exactly the rows of the latest ingests under the key, all of
its columns and fewer than would be flushed, and was started when the first of them arrived. -/
structure Gathers (config : MicroBatchConfig) (arrivals : List Arrival) (key : BatchKey)
    (batch : PendingBatch) (opening : Arrival) (later : List Arrival) : Prop where
  owned : batch.tenant = key.tenant
  latest : opening :: later <:+ arrivals
  shaped : ∀ arrival ∈ opening :: later, arrival.columns = batch.columns
  rows : batch.rows = (opening :: later).flatMap Arrival.rows
  short : batch.rows.length < config.flushRows
  since : batch.since = opening.since
  started : opening.now ≤ batch.since

/-- Every batch in the buffer gathers some of the ingests that arrived. -/
def Gathered (config : MicroBatchConfig) (wakes : List Wake) (loop : Loop) : Prop :=
  ∀ entry ∈ loop.pending.entries, ∃ opening later,
    Gathers config (arrivalsUnder entry.1 wakes) entry.1 entry.2 opening later

/-- A command that neither ingests nor drains. -/
def Cmd.leavesBuffer : Cmd → Bool
  | .ingestRaw .. | .compactAll _ | .shutdown => false
  | _ => true

namespace Loop

/-! ### What leaves the buffer alone -/

def KeepsBuffer (before after : Loop) : Prop := after.pending = before.pending

instance : IsPreorder Loop KeepsBuffer where
  refl _ := rfl
  trans _ _ _ first second := second.trans first

theorem setTenant_keeps (tenant : String) : Effect.Within KeepsBuffer (setTenant tenant) :=
  fun _ => rfl

theorem call_keeps {α : Type} (act : Session α) : Effect.Within KeepsBuffer (call act) := by
  intro loop
  rw [KeepsBuffer, call_state]

theorem callKnown_keeps {α : Type} (system entity : String) (act : Session α) :
    Effect.Within KeepsBuffer (callKnown system entity act) := by
  intro loop
  obtain ⟨known, state⟩ := callKnown_state system entity act loop
  rw [KeepsBuffer, state]

theorem callAs_keeps {α : Type} (tenant : String) (act : Session α) :
    Effect.Within KeepsBuffer (callAs tenant act) :=
  Effect.Within.bind (setTenant_keeps tenant) fun _ => call_keeps act

theorem compactKnown_keeps (last : Except Error Unit) (known : List (String × String)) :
    Effect.Within KeepsBuffer (compactKnown last known) := by
  induction known generalizing last with
  | nil => exact Effect.Within.pure last
  | cons dataset known ih =>
    refine Effect.Within.bind (call_keeps _) fun outcome => ?_
    cases outcome with
    | ok => exact ih last
    | error failure => exact ih (.error failure)


theorem counted_keeps {part : LoopEffect (Except Error Nat)} (tenant : String)
    (keeps : Effect.Within KeepsBuffer part) : Effect.Within KeepsBuffer (do
      setTenant tenant
      return Reply.count (← part)) :=
  Effect.Within.bind (setTenant_keeps tenant) fun _ => Effect.Within.bind keeps fun _ =>
    Effect.Within.pure _

theorem ingest_keeps {config : MicroBatchConfig} (since : Nat) (direct : config.flushRows = 0)
    (system entity : String) (columns : List String) (rows : List (List Cell)) (tenant : String) :
    Effect.Within KeepsBuffer (ingest config since system entity columns rows tenant) := by
  refine Effect.Within.bind (setTenant_keeps tenant) fun _ => ?_
  rw [if_pos direct]
  exact callKnown_keeps system entity _

theorem flushSome_entries {shouldFlush : PendingBatch → Bool} {loop after : Loop}
    (ran : flushSome shouldFlush loop = (.ok (), after)) :
    ∀ entry ∈ after.pending.entries, entry ∈ loop.pending.entries ∧ shouldFlush entry.2 = false := by
  rw [flushSome, Effect.bind_of_ok (Effect.get_apply loop)] at ran
  intro entry member
  obtain ⟨before, others⟩ := flushKeys_pending ran entry member
  refine ⟨before, Bool.eq_false_iff.mpr fun due => others ?_⟩
  exact List.mem_map_of_mem (List.mem_filter.mpr ⟨before, due⟩)

/-- What an age flush leaves waits, and is younger than the age. -/
theorem flushExpired_entries {ageSecs now : Nat} {loop after : Loop}
    (ran : flushExpired ageSecs now loop = (.ok (), after)) :
    ∀ entry ∈ after.pending.entries, entry ∈ loop.pending.entries ∧
      (0 < ageSecs → now - entry.2.since < ageSecs * 1000000000) := by
  rw [flushExpired] at ran
  split at ran
  case isTrue off =>
    cases ran
    exact fun entry member => ⟨member, fun positive => absurd off positive.ne'⟩
  case isFalse =>
    intro entry member
    obtain ⟨before, young⟩ := flushSome_entries ran entry member
    exact ⟨before, fun _ => Nat.not_le.mp (of_decide_eq_false young)⟩

/-- A batch of the ingest alone, or of what waited under the key in the same columns, and it. -/
def Joins (loop : Loop) (key : BatchKey) (columns : List String) (rows : List (List Cell))
    (tenant : String) (since : Nat) (batch : PendingBatch) : Prop :=
  batch = ⟨columns, rows, tenant, since⟩ ∨ ∃ old, loop.pending.get key = some old ∧
    old.columns = columns ∧ batch = { old with rows := old.rows ++ rows }

theorem extended_joins {loop after : Loop} {key : BatchKey} {columns : List String}
    {rows : List (List Cell)} {tenant : String} {since : Nat}
    (changed : changeShape key columns loop = (.ok (), after)) :
    loop.Joins key columns rows tenant since (after.extended key columns rows tenant since) := by
  unfold extended
  cases found : after.pending.get key with
  | none => exact .inl rfl
  | some old =>
    obtain ⟨rfl, shaped⟩ := changeShape_waiting changed found
    exact .inr ⟨old, found, shaped, rfl⟩

theorem changeShape_entries {loop after : Loop} {key : BatchKey} {columns : List String}
    (changed : changeShape key columns loop = (.ok (), after)) :
    ∀ entry ∈ after.pending.entries, entry ∈ loop.pending.entries := by
  rw [changeShape, Effect.bind_of_ok (Effect.get_apply loop)] at changed
  cases other : loop.otherShape key columns with
  | none =>
    rw [other] at changed
    cases changed
    exact fun entry member => member
  | some old =>
    rw [other] at changed
    have state := congrArg (fun result => result.2.pending) changed
    simp only [flushOut_state, flushBatch_pending] at state
    rw [← state]
    exact fun entry member => (SortedMap.mem_remove.mp member).1

/-- After an ingest, the other batches wait as before, and its own, if there is one, is too short
to be flushed. -/
theorem ingest_entries {config : MicroBatchConfig} {since : Nat} {system entity : String}
    {columns : List String} {rows : List (List Cell)} {tenant : String} {loop after : Loop}
    {outcome : Except Error Nat} (buffers : config.flushRows ≠ 0)
    (ran : ingest config since system entity columns rows tenant loop = (.ok outcome, after)) :
    ∀ entry ∈ after.pending.entries,
      (entry.1 ≠ .of tenant system entity ∧ entry ∈ loop.pending.entries) ∨
      (entry.1 = .of tenant system entity ∧ entry.2.rows.length < config.flushRows ∧
        loop.Joins (.of tenant system entity) columns rows tenant since entry.2) := by
  obtain ⟨⟨⟩, owned, stamped, ran⟩ := Effect.bind_eq_ok.mp ran
  cases stamped
  rw [if_neg buffers] at ran
  obtain ⟨⟨⟩, settled, changed, ran⟩ := Effect.bind_eq_ok.mp ran
  have joins := @extended_joins _ _ _ _ rows tenant since changed
  have before := changeShape_entries changed
  rw [buffer, Effect.bind_of_ok (Effect.get_apply settled)] at ran
  intro entry member
  split at ran
  case isTrue =>
    have state := congrArg (fun result => result.2.pending) ran
    simp only [removePending, Effect.bind_apply, Effect.modify_apply, flushBatch_pending] at state
    rw [← state] at member
    obtain ⟨waits, other⟩ := SortedMap.mem_remove.mp member
    exact .inl ⟨other, before entry waits⟩
  case isFalse short =>
    have state := congrArg (fun result => result.2.pending) ran
    simp only [Effect.bind_apply, Effect.modify_apply, Effect.pure_apply] at state
    rw [← state] at member
    rcases SortedMap.mem_insert.mp member with rfl | ⟨other, waits⟩
    · exact .inr ⟨rfl, Nat.not_le.mp short, joins⟩
    · exact .inl ⟨other, before entry waits⟩

/-- A command that neither ingests nor drains leaves the buffer alone. -/
theorem serve_keeps (config : MicroBatchConfig) (clock : Clock) {cmd : Cmd}
    (aside : cmd.leavesBuffer = true) : Effect.Within KeepsBuffer (serve config clock cmd) := by
  cases cmd with
  | ingestRaw | compactAll | shutdown => cases aside
  | upsertRaw | deleteRaw | applyCdcBatch => exact counted_keeps _ (callKnown_keeps _ _ _)
  | materialize | writeFeatures | writeCatalog | writeSuppression =>
    exact Effect.Within.bind (callAs_keeps _ _) fun _ => Effect.Within.pure _
  | exportParquet | readCdcOffset =>
    exact Effect.Within.bind (call_keeps _) fun _ => Effect.Within.pure _

/-- Compaction leaves nothing in the buffer. -/
theorem compactAll_drains {retentionDays : Nat} {loop after : Loop} {outcome : Except Error Unit}
    (ran : compactAll retentionDays loop = (.ok outcome, after)) : after.pending.entries = [] := by
  obtain ⟨⟨⟩, flushed, drained, ran⟩ := Effect.bind_eq_ok.mp ran
  have rest : Effect.Within KeepsBuffer (do
      let loop ← Effect.get
      let compacted ← compactKnown (.ok ()) loop.known
      let expired ← call (expireSnapshots retentionDays)
      let deleted ← call (deleteOrphanedFiles retentionDays)
      return lastError (lastError compacted expired) deleted : LoopEffect (Except Error Unit)) := by
    refine Effect.Within.bind Effect.Within.get fun loop => ?_
    refine Effect.Within.bind (compactKnown_keeps _ _) fun _ => ?_
    refine Effect.Within.bind (call_keeps _) fun _ => ?_
    exact Effect.Within.bind (call_keeps _) fun _ => Effect.Within.pure _
  have same := rest flushed
  rw [ran] at same
  rw [same, flushPending_entries drained]

end Loop

/-! ### Turns -/

theorem arrivalsUnder_append (key : BatchKey) (wakes : List Wake) (event : Wake) :
    arrivalsUnder key (wakes ++ [event]) = arrivalsUnder key wakes ++ (arrivalOf key event).toList := by
  rw [arrivalsUnder, List.filterMap_append, arrivalsUnder, List.filterMap_cons, List.filterMap_nil]
  cases arrivalOf key event <;> rfl

theorem arrivalOf_aside (key : BatchKey) (clock : Loop.Clock) {cmd : Cmd}
    (aside : cmd.leavesBuffer = true) : arrivalOf key (.command clock cmd) = none := by
  cases cmd <;> first | rfl | cases aside

section
variable {config : MicroBatchConfig} {wakes : List Wake} {loop after : Loop}

theorem Gathered.fewer (gathered : Gathered config wakes loop)
    (fewer : ∀ entry ∈ after.pending.entries, entry ∈ loop.pending.entries) :
    Gathered config wakes after := fun entry member => gathered entry (fewer entry member)

/-- Without buffering, nothing is in the buffer. -/
theorem Gathered.unbuffered (gathered : Gathered config wakes loop) (direct : config.flushRows = 0) :
    loop.pending.entries = [] := by
  refine List.eq_nil_iff_forall_not_mem.mpr fun entry member => ?_
  obtain ⟨opening, later, gathers⟩ := gathered entry member
  have short := gathers.short
  rw [direct] at short
  exact Nat.not_lt_zero _ short

/-- What brings no ingest under a key leaves its ingests as they are. -/
theorem Gathered.unmoved (gathered : Gathered config wakes loop) {event : Wake}
    (brings : ∀ key, arrivalOf key event = none) : Gathered config (wakes ++ [event]) loop := by
  intro entry member
  rw [arrivalsUnder_append, brings, Option.toList_none, List.append_nil]
  exact gathered entry member

theorem Gathers.join {arrivals : List Arrival} {key : BatchKey} {old : PendingBatch}
    {opening arrival : Arrival} {later : List Arrival}
    (gathers : Gathers config arrivals key old opening later) (shaped : arrival.columns = old.columns)
    (short : (old.rows ++ arrival.rows).length < config.flushRows) :
    Gathers config (arrivals ++ [arrival]) key { old with rows := old.rows ++ arrival.rows } opening
      (later ++ [arrival]) where
  owned := gathers.owned
  latest := by
    obtain ⟨earlier, split⟩ := gathers.latest
    exact ⟨earlier, by rw [← split, List.append_assoc, List.cons_append]⟩
  shaped := by
    rw [← List.cons_append]
    exact List.forall_mem_append.mpr ⟨gathers.shaped, List.forall_mem_singleton.mpr shaped⟩
  rows := by
    rw [← List.cons_append, List.flatMap_append, ← gathers.rows, List.flatMap_singleton]
  short := short
  since := gathers.since
  started := gathers.started

/-- An ingest joins the batch under its key. -/
theorem Gathered.ingest (gathered : Gathered config wakes loop) {clock : Loop.Clock}
    (forward : clock.now ≤ clock.since) {system entity : String} {columns : List String}
    {rows : List (List Cell)} {tenant : String}
    (entries : ∀ entry ∈ after.pending.entries,
      (entry.1 ≠ .of tenant system entity ∧ entry ∈ loop.pending.entries) ∨
      (entry.1 = .of tenant system entity ∧ entry.2.rows.length < config.flushRows ∧
        loop.Joins (.of tenant system entity) columns rows tenant clock.since entry.2)) :
    Gathered config (wakes ++ [.command clock (.ingestRaw system entity columns rows tenant)])
      after := by
  rintro ⟨key, batch⟩ member
  rw [arrivalsUnder_append]
  rcases entries _ member with ⟨other, waits⟩ | ⟨rfl, short, rfl | ⟨old, found, rfl, rfl⟩⟩
  · rw [arrivalOf, if_neg (Ne.symm other), Option.toList_none, List.append_nil]
    exact gathered _ waits
  · rw [arrivalOf, if_pos rfl, Option.toList_some]
    refine ⟨⟨clock.now, clock.since, columns, rows⟩, [], rfl, List.suffix_append _ _, ?_, ?_, short,
      rfl, forward⟩
    · exact List.forall_mem_singleton.mpr rfl
    · rw [List.flatMap_singleton]
  · obtain ⟨opening, later, gathers⟩ := gathered _ (SortedMap.get_eq_some.mp found)
    rw [arrivalOf, if_pos rfl, Option.toList_some]
    exact ⟨opening, _, @Gathers.join _ _ _ _ _ ⟨clock.now, clock.since, old.columns, rows⟩ _ gathers
      rfl short⟩

end

/-! ### Runs -/

namespace Service

/-- The clock does not run backwards while a command is served. -/
def Forward : Wake → List Wake × Service → Prop
  | .command clock _, _ => clock.now ≤ clock.since
  | _, _ => True

/-- A turn, with what woke the loop up so far. -/
def Recorded (config : MicroBatchConfig) (event : Wake) (before after : List Wake × Service) : Prop :=
  Turns config event before.2 after.2 ∧ after.1 = before.1 ++ [event]

/-- A turn that does not panic has run its part of the loop. -/
theorem run_returned {α : Type} {service : Service} {act : LoopEffect α} {next : Service → α → Service}
    (alive : (service.run act next).status ≠ .panicked) :
    ∃ result after, act service.loop = (.ok result, after) ∧
      service.run act next = next { service with loop := after } result := by
  unfold run at alive ⊢
  rcases ran : act service.loop with ⟨outcome, after⟩
  cases outcome with
  | ok result => exact ⟨result, after, rfl, rfl⟩
  | error message =>
    rw [ran] at alive
    exact absurd rfl alive

/-- What holds of the buffer after a turn that `event` began. -/
structure Buffers (config : MicroBatchConfig) (wakes : List Wake) (service : Service) : Prop where
  gathered : Gathered config wakes service.loop
  compacted : ∀ clock retentionDays, wakes.getLast? = some (.command clock (.compactAll retentionDays)) →
    service.loop.pending.entries = []

theorem wake_buffers {config : MicroBatchConfig} {wakes : List Wake} {service : Service} {event : Wake}
    (gathered : Gathered config wakes service.loop) (forward : Forward event (wakes, service))
    (alive : (service.wake config event).status ≠ .panicked) :
    Buffers config (wakes ++ [event]) (service.wake config event) := by
  have other (loop : Loop) (gathers : Gathered config (wakes ++ [event]) loop)
      (command : ∀ clock retentionDays, event ≠ .command clock (.compactAll retentionDays))
      (same : (service.wake config event).loop = loop) :
      Buffers config (wakes ++ [event]) (service.wake config event) := by
    refine ⟨same ▸ gathers, fun clock retentionDays last => ?_⟩
    rw [List.getLast?_concat] at last
    exact absurd (Option.some.inj last) (command clock retentionDays)
  cases event with
  | timeout now =>
    obtain ⟨⟨⟩, after, ran, ended⟩ := run_returned alive
    refine other after ?_ (fun _ _ => Wake.noConfusion) (congrArg Service.loop ended)
    exact (gathered.unmoved fun _ => rfl).fewer fun entry member =>
      (Loop.flushExpired_entries ran entry member).1
  | disconnected =>
    obtain ⟨⟨⟩, after, ran, ended⟩ := run_returned alive
    refine other after ?_ (fun _ _ => Wake.noConfusion) (congrArg Service.loop ended)
    exact (gathered.unmoved fun _ => rfl).fewer fun entry member =>
      (Loop.flushSome_entries ran entry member).1
  | command clock cmd =>
    rcases wake_command_cases config service clock cmd with
      ⟨reached, after, reply, expired, served, woken⟩ | ⟨after, woken⟩
    · have waiting : Gathered config wakes reached := gathered.fewer fun entry member =>
        (Loop.flushExpired_entries expired entry member).1
      have ended : (service.wake config (.command clock cmd)).loop = after :=
        congrArg Service.loop woken
      by_cases aside : cmd.leavesBuffer = true
      · have same : after.pending = reached.pending := by
          have keeps := Loop.serve_keeps config clock aside reached
          rwa [served] at keeps
        refine other after ?_ (fun clock days compacts => ?_) ended
        · refine (waiting.unmoved fun key => arrivalOf_aside key clock aside).fewer fun entry member => ?_
          rwa [same] at member
        · cases compacts
          cases aside
      · cases cmd with
        | ingestRaw system entity columns rows tenant =>
          refine other after ?_ (fun _ _ compacts => (by cases compacts)) ended
          obtain ⟨outcome, _, ran, answered⟩ := Effect.bind_eq_ok.mp served
          cases answered
          by_cases direct : config.flushRows = 0
          · have same : after.pending = reached.pending := by
              have keeps := Loop.ingest_keeps clock.since direct system entity columns rows tenant reached
              rwa [ran] at keeps
            rw [Gathered, same, waiting.unbuffered direct]
            exact List.forall_mem_nil _
          · exact waiting.ingest forward (Loop.ingest_entries direct ran)
        | compactAll retentionDays =>
          obtain ⟨outcome, compacted, ran, answered⟩ := Effect.bind_eq_ok.mp served
          cases answered
          have drained := Loop.compactAll_drains ran
          refine ⟨?_, fun _ _ _ => ended ▸ drained⟩
          rw [Gathered, ended, drained]
          exact List.forall_mem_nil _
        | shutdown =>
          obtain ⟨⟨⟩, flushed, drained, answered⟩ := Effect.bind_eq_ok.mp served
          cases answered
          refine other after ?_ (fun _ _ compacts => (by cases compacts)) ended
          exact (waiting.unmoved fun _ => rfl).fewer fun entry member =>
            (Loop.flushSome_entries drained entry member).1
        | _ => exact absurd rfl aside
    · rw [woken] at alive
      exact absurd rfl alive

/-- After every turn of any run, each batch that waits is of its key's tenant, holds the rows of the
latest ingests under its key and of its columns, fewer than are flushed, and was started when the
first of them arrived; none waits unbuffered or after a compaction, nor past its age. -/
theorem pending_gathered (config : MicroBatchConfig) (writer : Writer) (wakes : List Wake)
    (service : Service)
    (run : Reaches (Recorded config) Forward ([], start writer) (wakes, service))
    (alive : service.status ≠ .panicked) :
    Gathered config wakes service.loop ∧
    (config.flushRows = 0 → service.loop.pending.entries = []) ∧
    (∀ clock retentionDays, wakes.getLast? = some (.command clock (.compactAll retentionDays)) →
      service.loop.pending.entries = []) ∧
    ∀ (loop after : Loop) (ageSecs now : Nat), 0 < ageSecs →
      Loop.flushExpired ageSecs now loop = (.ok (), after) →
        ∀ entry ∈ after.pending.entries, now - entry.2.since < ageSecs * 1000000000 := by
  have kept : ∀ event (before after : List Wake × Service),
      (before.2.status ≠ .panicked → Buffers config before.1 before.2) →
      Forward event before → Recorded config event before after →
      after.2.status ≠ .panicked → Buffers config after.1 after.2 := by
    rintro event ⟨wakes, service⟩ ⟨_, _⟩ buffers forward ⟨⟨running, rfl⟩, rfl⟩ alive
    have gathered := (buffers (by rw [running]; decide)).gathered
    exact wake_buffers gathered forward alive
  have started : Buffers config [] (start writer) :=
    ⟨List.forall_mem_nil _, fun _ _ last => (by cases last)⟩
  have buffers := run.invariant kept (fun _ => started) alive
  exact ⟨buffers.gathered, buffers.gathered.unbuffered, buffers.compacted,
    fun _ _ _ _ positive ran entry member => (Loop.flushExpired_entries ran entry member).2 positive⟩

def emptyIngest : Wake :=
  .command ⟨0, 0, "t0"⟩ (.ingestRaw "crm" "orders" ["user_id", "sku"] [] "acme")

def laterIngest : Wake := .command ⟨5, 5, "t5"⟩ orderIngest

/-- An ingest of no order, and later one of an order. -/
def emptyThenOrder : List Wake := [emptyIngest, laterIngest]

def openedEarly : Service := emptyThenOrder.foldl (wake pairs) (start freshWriter)

theorem openedEarly_run :
    Reaches (Recorded pairs) Forward ([], start freshWriter) (emptyThenOrder, openedEarly) := by
  have first : Recorded pairs emptyIngest ([], start freshWriter)
      ([emptyIngest], (start freshWriter).wake pairs emptyIngest) := ⟨⟨rfl, rfl⟩, rfl⟩
  have second : Recorded pairs laterIngest ([emptyIngest], (start freshWriter).wake pairs emptyIngest)
      (emptyThenOrder, openedEarly) := ⟨⟨rfl, rfl⟩, rfl⟩
  exact ((Reaches.refl _).snoc first (Nat.le_refl 0)).snoc second (Nat.le_refl 5)

theorem openedEarly_entries : openedEarly.loop.pending.entries = [(orderKey, orderBatch)] := rfl

theorem pending_gathered_openedEarly : Gathered pairs emptyThenOrder openedEarly.loop :=
  (pending_gathered pairs freshWriter emptyThenOrder openedEarly openedEarly_run (by decide)).1

/-- The batch was started before its only row arrived. -/
theorem started_before_rows : ¬ ∀ (config : MicroBatchConfig) (writer : Writer) (wakes : List Wake)
    (service : Service), Reaches (Recorded config) Forward ([], start writer) (wakes, service) →
    service.status ≠ .panicked → ∀ entry ∈ service.loop.pending.entries,
      ∃ received, received <:+ arrivalsUnder entry.1 wakes ∧
        entry.2.rows = received.flatMap Arrival.rows ∧
        ∀ oldest, received.find? (fun arrival => !arrival.rows.isEmpty) = some oldest →
          oldest.now ≤ entry.2.since := by
  intro started
  obtain ⟨received, latest, rows, oldest⟩ := started pairs freshWriter emptyThenOrder openedEarly
    openedEarly_run (by decide) (orderKey, orderBatch) (by rw [openedEarly_entries]; exact List.mem_cons_self)
  have arrivals : arrivalsUnder orderKey emptyThenOrder =
      [⟨0, 0, ["user_id", "sku"], []⟩, ⟨5, 5, ["user_id", "sku"], [[some "u1", some "A"]]⟩] := rfl
  rw [arrivals, List.suffix_cons_iff, List.suffix_cons_iff, List.suffix_nil] at latest
  rcases latest with rfl | rfl | rfl
  · exact absurd (oldest _ rfl) (by decide)
  · exact absurd (oldest _ rfl) (by decide)
  · cases rows

end Service

end ConsumerEngine.Ingestion
