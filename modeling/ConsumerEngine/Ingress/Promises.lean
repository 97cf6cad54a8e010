import Mathlib.Algebra.Order.BigOperators.Group.List
import Mathlib.Algebra.Order.Group.Multiset
import ConsumerEngine.Ingress.Onboarding

/-! What the freshness registry promises of the rows that were acknowledged.

A handler registers its source as soon as the writer has answered it, and the answer to an ingest
may only mean that its rows wait. The epochs are kept exactly where no acknowledged row waits.
-/

set_option autoImplicit false

namespace ConsumerEngine.Ingress

open ConsumerEngine.Core ConsumerEngine.Foundation ConsumerEngine.Storage ConsumerEngine.Ingestion

/-! ### The engine and those who use it -/

/-- An onboarding the writer acknowledged: its source, its rows, when. -/
structure Acknowledgement where
  source : Dataset
  rows : List Placed
  epoch : Int

/-- What a handler or a pump still has to do once the writer has answered it. -/
structure Registration where
  source : Dataset
  sourceType : SourceType
  since : Int
  deriving DecidableEq

structure Situation where
  engine : Engine
  now : Int
  acknowledged : List Acknowledgement
  inFlight : List Registration

inductive EngineEvent where
  | pass (seconds : Nat)
  /-- The writer wakes for anything but an ingest: an age tick, another command, its end. -/
  | wake (event : Wake)
  | onboard (clock : Loop.Clock) (request : OnboardRequest) (tenant : String)
  /-- The pump has a batch applied. -/
  | capture (clock : Loop.Clock) (batch : SourceBatch) (tenant : String)
  /-- A handler or a pump sets the epoch it read after its answer. -/
  | register (registration : Registration) (epoch : Int)

/-- The event brings no ingest. -/
def Bare : Wake → Prop
  | .command _ (.ingestRaw ..) => False
  | _ => True

namespace Situation

/-- Nothing has been asked of the engine yet. -/
def start (writer : Writer) (now : Int) : Situation :=
  ⟨⟨Service.start writer, FreshnessRegistry.new⟩, now, [], []⟩

def history (situation : Situation) : List Statement :=
  situation.engine.service.loop.writer.committed.history

/-- What the engine and its users do next. An onboarding of an unknown source type is rejected
after its ingest, so it acknowledges nothing. -/
inductive Step (config : MicroBatchConfig) : EngineEvent → Situation → Situation → Prop where
  | passed (situation : Situation) (seconds : Nat) :
      Step config (.pass seconds) situation { situation with now := situation.now + seconds }
  | woken (situation : Situation) (event : Wake) (bare : Bare event)
      (running : situation.engine.service.status = .running) :
      Step config (.wake event) situation { situation with
        engine := { situation.engine with service := situation.engine.service.wake config event } }
  | acknowledges (situation : Situation) {clock : Loop.Clock} {request : OnboardRequest}
      {tenant : String} {n : Nat} {after : Engine} {sourceType : SourceType}
      (passed : request.check = .ok ())
      (ingested : submitCount config clock (request.ingest tenant) situation.engine = (.ok n, after))
      (known : parseSourceType request.sourceType = .ok sourceType) :
      Step config (.onboard clock request tenant) situation { situation with
        engine := after
        acknowledged := situation.acknowledged ++
          [⟨request.table.dataset, (request.ingest tenant).placed, situation.now⟩]
        inFlight := situation.inFlight ++ [⟨request.table.dataset, sourceType, situation.now⟩] }
  | rejects (situation : Situation) {clock : Loop.Clock} {request : OnboardRequest}
      {tenant : String} {outcome : Except Error Nat} {after : Engine}
      (passed : request.check = .ok ())
      (ingested : submitCount config clock (request.ingest tenant) situation.engine = (outcome, after))
      (refused : outcome.isOk = false ∨ ¬ request.KnownSource) :
      Step config (.onboard clock request tenant) situation { situation with engine := after }
  | captures (situation : Situation) {clock : Loop.Clock} {batch : SourceBatch} {tenant : String}
      {n : Nat} {after : Engine}
      (applied : submitCount config clock (.applyCdcBatch batch tenant) situation.engine =
        (.ok n, after)) :
      Step config (.capture clock batch tenant) situation { situation with
        engine := after
        inFlight := situation.inFlight ++
          [⟨⟨batch.system, batch.entity⟩, .cdc, situation.now⟩] }
  | registers (situation : Situation) {registration : Registration} {epoch : Int} {after : Engine}
      (waits : registration ∈ situation.inFlight)
      (read : registration.since ≤ epoch ∧ epoch ≤ situation.now)
      (set : registerSource registration.source.system registration.source.entity
        registration.sourceType epoch situation.engine = (.ok (), after)) :
      Step config (.register registration epoch) situation { situation with
        engine := after
        inFlight := situation.inFlight.erase registration }

/-- The rows of a source acknowledged at or before an epoch. -/
def promised (situation : Situation) (source : Dataset) (epoch : Int) : Multiset Placed :=
  ((situation.acknowledged.filter fun ack => ack.source = source ∧ ack.epoch ≤ epoch).map
    fun ack => (ack.rows : Multiset Placed)).sum

/-- The rows acknowledged up to a registered epoch are committed, and so are those as old as the
worst lag says. -/
structure NeverOverPromises (situation : Situation) : Prop where
  registered : ∀ source known,
    situation.engine.freshness.get source.system source.entity = some known →
      situation.promised source known.lastEpochSecs ≤ appended situation.history
  reported : ∀ touched, ∀ source ∈ touched,
    situation.promised source
        (situation.now - (situation.engine.freshness.worst touched situation.now).lagSeconds) ≤
      appended situation.history

end Situation

/-! ### Rows that wait -/

/-- A batch that is flushed before the next command is served. -/
def due (config : MicroBatchConfig) (now : Nat) (batch : PendingBatch) : Bool :=
  config.flushAgeSecs != 0 && Loop.expired config.flushAgeSecs now batch

/-- How many rows the batch of a key has with those of an ingest in it. -/
def joinedRows (config : MicroBatchConfig) (now : Nat) (loop : Loop) (key : BatchKey)
    (columns : List String) (rows : List (List Cell)) : Nat :=
  (((loop.pending.get key).filter fun batch =>
    decide (batch.columns = columns) && !due config now batch).map
      fun batch => batch.rows.length).getD 0 + rows.length

/-- An onboarding of a known source type leaves none of its rows waiting: it has none, or its batch
is long enough with them. -/
def CommitsAtOnce (config : MicroBatchConfig) : EngineEvent → Situation → Prop
  | .onboard clock request tenant, situation =>
      request.KnownSource → request.rows = [] ∨ config.flushRows ≤
        joinedRows config clock.now situation.engine.service.loop
          (.of tenant request.system request.entity) request.columns request.rows
  | _, _ => True

theorem get_congr {first second : SortedMap BatchKey PendingBatch}
    (same : first.entries = second.entries) (key : BatchKey) : first.get key = second.get key := by
  unfold SortedMap.get
  rw [same]

theorem flushKeys_get {keys : List BatchKey} {loop after : Loop}
    (ran : Loop.flushKeys keys loop = (.ok (), after)) (key : BatchKey) :
    after.pending.get key = if key ∈ keys then none else loop.pending.get key := by
  induction keys generalizing loop with
  | nil =>
    cases ran
    exact (if_neg List.not_mem_nil).symm
  | cons first keys ih =>
    obtain ⟨⟨⟩, reached, flushed, rest⟩ := Effect.bind_eq_ok.mp ran
    rw [ih rest, get_congr (Loop.flushKey_pending flushed) key]
    by_cases same : key = first
    · subst same
      rw [SortedMap.get_remove_self, ite_self, if_pos List.mem_cons_self]
    · rw [SortedMap.get_remove_of_ne _ same]
      simp only [List.mem_cons, same, false_or]

/-- What is due leaves the buffer. -/
theorem flushExpired_get {config : MicroBatchConfig} {now : Nat} {loop after : Loop}
    (ran : Loop.flushExpired config.flushAgeSecs now loop = (.ok (), after)) (key : BatchKey) :
    after.pending.get key = (loop.pending.get key).filter fun batch => !due config now batch := by
  unfold Loop.flushExpired at ran
  split at ran
  · next ageless =>
    cases ran
    have none : ∀ batch, due config now batch = false := fun batch => by
      rw [due, ageless]
      rfl
    simp only [none, Bool.not_false]
    cases loop.pending.get key <;> rfl
  · next ages =>
    rw [flushKeys_get ran]
    have among : key ∈ loop.keysOf (Loop.expired config.flushAgeSecs now) ↔
        ∃ batch, loop.pending.get key = some batch ∧ due config now batch = true := by
      simp only [Loop.keysOf, List.mem_map, List.mem_filter, Prod.exists, exists_and_right,
        exists_eq_right, SortedMap.get_eq_some, due, bne_iff_ne.mpr ages, Bool.true_and]
    cases found : loop.pending.get key with
    | none => rw [Option.filter_none, ite_self]
    | some batch =>
      rw [Option.filter_some]
      cases aged : due config now batch with
      | true => exact if_pos (among.mpr ⟨batch, found, aged⟩)
      | false =>
        refine if_neg fun member => ?_
        obtain ⟨_, same, old⟩ := among.mp member
        cases found.symm.trans same
        exact Bool.false_ne_true (aged.symm.trans old)

/-- The length of the batch an ingest extends. -/
theorem extended_length {config : MicroBatchConfig} {now since : Nat} {loop reached shaped : Loop}
    {key : BatchKey} {columns : List String} {rows : List (List Cell)} {tenant : String}
    (expired : Loop.flushExpired config.flushAgeSecs now loop = (.ok (), reached))
    (changed : Loop.changeShape key columns
      { reached with writer := reached.writer.setTenant tenant } = (.ok (), shaped)) :
    (shaped.extended key columns rows tenant since).rows.length =
      joinedRows config now loop key columns rows := by
  have left := flushExpired_get expired key
  have waits : shaped.pending.get key = (loop.pending.get key).filter fun batch =>
      decide (batch.columns = columns) && !due config now batch := by
    rcases changeShape_cases changed with rfl | ⟨old, found, differs, removed⟩
    · rw [left]
      have settled := fun batch => @Loop.changeShape_settles _ _ _ _ changed batch
      simp only [left] at settled
      cases found : loop.pending.get key with
      | none => rfl
      | some batch =>
        rw [found] at settled
        simp only [Option.filter_some] at settled ⊢
        cases aged : due config now batch with
        | true => simp
        | false => simp [settled batch (by simp [aged])]
    · rw [removed, SortedMap.get_remove_self]
      simp only [left] at found
      obtain ⟨found, -⟩ := Option.filter_eq_some_iff.mp found
      rw [found, Option.filter_some, decide_eq_false differs]
      rfl
  unfold Loop.extended joinedRows
  rw [← waits]
  cases shaped.pending.get key with
  | none => simp
  | some batch => simp

/-! ### Rows that are committed -/

section
variable {config : MicroBatchConfig} {base supply : Multiset Placed} {loop : Loop}

/-- The accounts can be closed over any rows that were appended. -/
theorem Accounted.rebase {rows : Multiset Placed} (accounted : loop.Accounted base supply 0)
    (grown : rows ≤ appended loop.writer.durable.history) :
    ∃ supply, loop.Accounted rows supply 0 :=
  ⟨appended loop.writer.durable.history + loop.buffered, accounted.sound, accounted.idle, grown, by
    rw [add_zero]
    exact Multiset.le_add_left _ _⟩

/-- Rows handed to `ingest_raw` that came back acknowledged are appended. -/
theorem appended_ingestRaw {table : IngestTable} {rows : List (List Cell)} {writer : Writer} {n : Nat}
    (aligned : ∀ row ∈ rows, row.length = table.columns.length)
    (grown : base ≤ appended writer.durable.history)
    (ran : (ingestRaw table.system table.entity table.columns rows writer).1 = .ok n) :
    base + (rows.map (table.placed writer.tenant) : List Placed) ≤ appended
      (ingestRaw table.system table.entity table.columns rows writer).2.durable.history := by
  obtain ⟨stored, lands⟩ := IngestTable.lands writer aligned
  obtain rfl := lands.whole (by rw [ran]; rfl)
  rw [lands.history]
  exact add_le_add_left grown _

/-- An ingest whose batch is long enough with its rows commits them. -/
theorem Ingested.committed {clock : Loop.Clock} {table : IngestTable} {rows : List (List Cell)}
    {tenant : String} {reached after : Loop} {n : Nat}
    (aligned : ∀ row ∈ rows, row.length = table.columns.length)
    (expired : Loop.flushExpired config.flushAgeSecs clock.now loop = (.ok (), reached))
    (accounted : reached.Accounted base supply 0)
    (ingested : Ingested config clock.since table rows tenant reached after (.ok n))
    (fills : rows = [] ∨ config.flushRows ≤ joinedRows config clock.now loop
      (.of tenant table.system table.entity) table.columns rows) :
    base + (rows.map (table.placed tenant) : List Placed) ≤
      appended after.writer.durable.history := by
  cases ingested with
  | stored off ran writer =>
    rw [writer]
    exact appended_ingestRaw aligned accounted.grown ran
  | flushed shaped batch changed extended full ran writer =>
    have settled := Loop.changeShape_conserves (.of tenant table.system table.entity) table.columns
      _ _ _ _ (Loop.setTenant_conserves tenant reached _ _ _ accounted)
    rw [show (Loop.setTenant tenant reached).2 =
      { reached with writer := reached.writer.setTenant tenant } from rfl, changed] at settled
    have shapes := fun batch => @Loop.changeShape_settles _ _ _ _ changed batch
    have sound : batch.Sound (.of tenant table.system table.entity) := extended ▸
      Loop.extended_sound (fun _ found => settled.sound_of_get found) shapes aligned clock.since
    have placed := Loop.extended_placed (fun _ found => settled.sound_of_get found) shapes rows
      clock.since
    rw [← extended] at placed
    have appends := @appended_ingestRaw base (batch.table (.of tenant table.system table.entity))
      batch.rows (shaped.writer.setTenant batch.tenant) n sound.aligned settled.grown ran
    rw [writer]
    refine le_trans (add_le_add_right ?_ base) appends
    change _ ≤ (batch.placed (.of tenant table.system table.entity) : Multiset Placed)
    rw [placed, ← Multiset.coe_add]
    exact Multiset.le_add_left _ _
  | buffered shaped changed short answered writer =>
    rcases fills with rfl | full
    · have settled := Loop.changeShape_conserves (.of tenant table.system table.entity) table.columns
        _ _ _ _ (Loop.setTenant_conserves tenant reached _ _ _ accounted)
      rw [show (Loop.setTenant tenant reached).2 =
        { reached with writer := reached.writer.setTenant tenant } from rfl, changed] at settled
      rw [writer, List.map_nil]
      exact (add_zero base).le.trans settled.grown
    · rw [extended_length expired changed] at short
      omega

end

section
variable {config : MicroBatchConfig} {clock : Loop.Clock} {cmd : Cmd} {engine after : Engine}
  {outcome : Except Error Nat} {base supply : Multiset Placed}

/-- A command is served in one turn of the loop, if the loop runs. -/
theorem submitCount_service
    (ran : submitCount config clock cmd engine = (outcome, after)) :
    after.service = engine.service ∨
      after.service = engine.service.wake config (.command clock cmd) := by
  have state : (submitCount config clock cmd engine).2 = (submit config clock cmd engine).2 := by
    unfold submitCount
    rw [Effect.bind_apply]
    rcases submit config clock cmd engine with ⟨replied, reached⟩
    cases replied with
    | error failure => rfl
    | ok reply =>
      cases reply with
      | count counted => cases counted <;> rfl
      | done _ | offsets _ | drained => rfl
  rw [ran] at state
  obtain rfl : after = _ := state
  unfold submit
  split
  · dsimp only
    split <;> exact .inr rfl
  · exact .inl rfl

theorem submitCount_accounted (aligned : cmd.Aligned)
    (accounted : engine.service.loop.Accounted base supply 0)
    (ran : submitCount config clock cmd engine = (outcome, after)) :
    ∃ supply, after.service.loop.Accounted base supply 0 := by
  rcases submitCount_service ran with same | woken
  · rw [same]
    exact ⟨supply, accounted⟩
  · rw [woken]
    exact ⟨_, Service.wake_conserves (show Service.Aligned (.command clock cmd) engine.service from
      aligned) accounted⟩

end

namespace Situation

variable {config : MicroBatchConfig} {situation next : Situation}

/-- Every acknowledged row. -/
def owed (situation : Situation) : Multiset Placed :=
  (situation.acknowledged.map fun ack => (ack.rows : Multiset Placed)).sum

theorem promised_le (situation : Situation) (source : Dataset) (epoch : Int) :
    situation.promised source epoch ≤ situation.owed :=
  (List.filter_sublist.map _).sum_le_sum fun _ _ => Multiset.zero_le _

/-- Every acknowledged row is committed. -/
def Settled (situation : Situation) : Prop :=
  ∃ supply, situation.engine.service.loop.Accounted situation.owed supply 0

theorem Settled.step {event : EngineEvent} (settled : situation.Settled)
    (commits : CommitsAtOnce config event situation) (step : Step config event situation next) :
    next.Settled := by
  obtain ⟨supply, accounted⟩ := settled
  cases step with
  | passed => exact ⟨supply, accounted⟩
  | woken _ event bare running =>
    have aligned : Service.Aligned event situation.engine.service := by
      cases event with
      | command clock cmd => cases cmd <;> first | exact bare.elim | trivial
      | timeout _ | disconnected => trivial
    exact ⟨_, Service.wake_conserves aligned accounted⟩
  | @acknowledges _ clock request tenant n after sourceType passed ingested known =>
    have checked := OnboardRequest.checked_of_ok passed
    obtain ⟨_, kept⟩ := submitCount_accounted (show (request.ingest tenant).Aligned from
      checked.aligned) accounted ingested
    rcases submitIngest_answer ingested with ⟨_, ⟨⟩, -⟩ | ⟨reached, expired, stored⟩
    have flushed := Loop.flushExpired_conserves config.flushAgeSecs clock.now _ _ _ _ accounted
    rw [expired] at flushed
    have grown := stored.committed checked.aligned expired flushed
      (commits (by rw [OnboardRequest.KnownSource, known]; rfl))
    obtain ⟨supply, accounted⟩ := Accounted.rebase kept grown
    refine ⟨supply, ?_⟩
    rw [owed, List.map_append, List.sum_append, List.map_singleton, List.sum_singleton]
    exact accounted
  | @rejects _ clock request tenant outcome after passed ingested refused =>
    exact submitCount_accounted (show (request.ingest tenant).Aligned from
      (OnboardRequest.checked_of_ok passed).aligned) accounted ingested
  | @captures _ clock batch tenant n after applied =>
    exact submitCount_accounted (show (Cmd.applyCdcBatch batch tenant).Aligned from trivial)
      accounted applied
  | registers _ waits read set =>
    refine ⟨supply, ?_⟩
    unfold registerSource at set
    split at set
    · cases set
      exact accounted
    · cases set

/-- No epoch is kept from the rows it covers where each onboarding has its rows committed by the
time it is answered. -/
theorem neverOverPromises (config : MicroBatchConfig) (writer : Writer) (now : Int)
    (idle : writer.rollbackTo = none)
    (run : Reaches (Step config) (CommitsAtOnce config) (start writer now) situation) :
    situation.NeverOverPromises := by
  have started : (start writer now).Settled :=
    ⟨appended writer.durable.history, fun entry member => absurd member List.not_mem_nil, idle,
      Multiset.zero_le _, by
        simp [start, Service.start, owed, Loop.buffered, SortedMap.empty]⟩
  obtain ⟨supply, accounted⟩ := run.invariant (fun event _ _ settled commits step =>
    settled.step commits step) started
  have committed : situation.history = situation.engine.service.loop.writer.durable.history := by
    rw [history, Writer.committed, accounted.idle]
    rfl
  constructor
  · intro source known _
    rw [committed]
    exact (situation.promised_le source _).trans accounted.grown
  · intro touched source _
    rw [committed]
    exact (situation.promised_le source _).trans accounted.grown

/-! ### An order that waits -/

def orderSource : Registration := ⟨⟨"crm", "orders"⟩, .batch, 1000⟩

/-- One order was ingested in second 1000, and its handler is about to register the source. -/
def answered (config : MicroBatchConfig) : Situation where
  engine := (submitCount config ⟨0, 0, "t0"⟩ ((orderRequest none).ingest "acme")
    (start freshWriter 1000).engine).2
  now := 1000
  acknowledged := [⟨⟨"crm", "orders"⟩, ((orderRequest none).ingest "acme").placed, 1000⟩]
  inFlight := [orderSource]

/-- The source is registered in the same second. -/
def ordered (config : MicroBatchConfig) : Situation :=
  { answered config with
    engine := { (answered config).engine with freshness := ⟨fun key =>
      if key = "crm" ++ "." ++ "orders" then some ⟨.batch, 1000⟩
      else (answered config).engine.freshness.sources key⟩ }
    inFlight := [] }

theorem reaches_ordered {config : MicroBatchConfig} {allowed : EngineEvent → Situation → Prop}
    {n : Nat} (counts : (submitCount config ⟨0, 0, "t0"⟩ ((orderRequest none).ingest "acme")
      (start freshWriter 1000).engine).1 = .ok n)
    (first : allowed (.onboard ⟨0, 0, "t0"⟩ (orderRequest none) "acme") (start freshWriter 1000))
    (second : allowed (.register orderSource 1000) (answered config)) :
    Reaches (Step config) allowed (start freshWriter 1000) (ordered config) := by
  have acknowledged : Step config (.onboard ⟨0, 0, "t0"⟩ (orderRequest none) "acme")
      (start freshWriter 1000) (answered config) := .acknowledges _ rfl (Prod.ext counts rfl) rfl
  have registered : Step config (.register orderSource 1000) (answered config) (ordered config) :=
    .registers _ List.mem_cons_self ⟨le_rfl, le_rfl⟩ rfl
  exact ((Reaches.refl _).snoc acknowledged first).snoc registered second

/-- A batch of one row is stored before the order is answered. -/
theorem neverOverPromises_order : (ordered ⟨1, 0⟩).NeverOverPromises :=
  neverOverPromises ⟨1, 0⟩ freshWriter 1000 rfl
    (reaches_ordered rfl (fun _ => .inr (by decide)) trivial)

/-- In a batch of two the order waits, and the registry has its second. -/
theorem waiting_order_promised : ∃ situation,
    Reaches (Step Service.pairs) (fun _ _ => True) (start freshWriter 1000) situation ∧
      ¬ situation.NeverOverPromises := by
  refine ⟨ordered Service.pairs, reaches_ordered rfl trivial trivial, fun kept => ?_⟩
  have within := Multiset.card_le_card (kept.registered ⟨"crm", "orders"⟩ ⟨.batch, 1000⟩ rfl)
  exact absurd within (by decide)

end Situation

end ConsumerEngine.Ingress
