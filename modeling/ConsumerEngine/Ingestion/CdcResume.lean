import ConsumerEngine.Ingestion.CdcPump

/-! Resuming the Kafka source.

`resume` polls the consumer until the group has given it partitions, then seeks those with
a committed offset. A poll may bring a message besides the partitions, and the message is
thrown away: a seek brings it back only where there is an offset to seek to.
-/

set_option autoImplicit false

namespace ConsumerEngine.Ingestion

open ConsumerEngine.Core

/-- The consumer: the partitions the group gave it and where each is read next. -/
structure Consumer where
  assignment : List Int
  position : Int → Int

/-- What the consumer goes through while it is polled. -/
inductive ConsumerEvent where
  | assigned (parts : List Int)
  | received (message : KafkaMessage)

/-- One turn of the wait loop of `resume`: what its `recv` goes through and, if asking for
the assignment fails then, the client's error. -/
structure WaitTurn where
  events : List ConsumerEvent
  failure : Option String

section
variable (topic : Topic)

/-- Nothing is ever committed to the group, so partitions it gives out are read from their
earliest message; a received message is passed. -/
def Consumer.after (consumer : Consumer) : ConsumerEvent → Consumer
  | .assigned parts => ⟨parts, topic.first⟩
  | .received message => { consumer with
      position := Function.update consumer.position message.partition (message.offset + 1) }

def Consumer.run (consumer : Consumer) (events : List ConsumerEvent) : Consumer :=
  events.foldl (Consumer.after topic) consumer

/-- Events as the client delivers them: messages of assigned partitions, each the next one. -/
def Consumer.Follows : Consumer → List ConsumerEvent → Prop
  | _, [] => True
  | consumer, .assigned parts :: rest => Follows (consumer.after topic (.assigned parts)) rest
  | consumer, .received message :: rest =>
      (message.partition ∈ consumer.assignment ∧ topic.Next consumer.position message) ∧
        Follows (consumer.after topic (.received message)) rest

/-- The wait loop of `resume`, over the turns there is time for. -/
def Consumer.await (consumer : Consumer) : List WaitTurn → Except Error Consumer
  | [] => .ok consumer
  | turn :: rest =>
      if consumer.assignment.isEmpty then
        match turn.failure with
        | some failure => .error (.ingestion ("kafka assignment: " ++ failure))
        | none => (consumer.run topic turn.events).await rest
      else .ok consumer

/-- Seek the partitions that have a committed offset. -/
def Consumer.seekAll (offsets : List (Int × Int)) (refuses : Int → Option String) :
    List Int → Consumer → Except Error Consumer
  | [], consumer => .ok consumer
  | part :: parts, consumer =>
      match offsets.find? (fun offset => offset.1 = part) with
      | none => seekAll offsets refuses parts consumer
      | some offset =>
          match refuses part with
          | some failure => .error (.ingestion ("kafka seek: " ++ failure))
          | none => seekAll offsets refuses parts
              { consumer with position := Function.update consumer.position part offset.2 }

/-- `KafkaCdcAdapter::resume`. -/
def Consumer.resume (offsets : List (Int × Int)) (failure : Option String) (turns : List WaitTurn)
    (refuses : Int → Option String) (consumer : Consumer) : Except Error Consumer :=
  match failure with
  | some failure => .error (.ingestion ("kafka assignment: " ++ failure))
  | none => do
      let assigned ← consumer.await topic turns
      assigned.seekAll offsets refuses assigned.assignment

/-- What the consumer goes through in the turns the loop takes. -/
def Consumer.awaited (consumer : Consumer) : List WaitTurn → List ConsumerEvent
  | [] => []
  | turn :: rest =>
      if consumer.assignment.isEmpty then
        turn.events ++ (consumer.run topic turn.events).awaited rest
      else []

/-- Every assigned partition is read from its committed offset or before, a partition
without one from its earliest message; so no message that was not applied is passed by. -/
structure Consumer.SkipsNothing (offsets : List (Int × Int)) (consumer : Consumer) : Prop where
  placed : ∀ part ∈ consumer.assignment,
    match offsets.find? (fun offset => offset.1 = part) with
    | some offset => consumer.position part ≤ offset.2 + 1
    | none => consumer.position part = topic.first part
  delivered : ∀ events, consumer.Follows topic events → ∀ message, topic.Holds message →
    message.partition ∈ (consumer.run topic events).assignment →
    message.offset < (consumer.run topic events).position message.partition →
    (∀ offset, offsets.find? (fun offset => offset.1 = message.partition) = some offset →
      offset.2 < message.offset) →
    .received message ∈ events

end

/-- The messages received since partitions were last given out. -/
def sinceAssigned (messages : List KafkaMessage) : List ConsumerEvent → List KafkaMessage
  | [] => messages
  | .assigned _ :: rest => sinceAssigned [] rest
  | .received message :: rest => sinceAssigned (message :: messages) rest

variable {topic : Topic}

theorem Consumer.run_append (consumer : Consumer) (first second : List ConsumerEvent) :
    consumer.run topic (first ++ second) = (consumer.run topic first).run topic second :=
  List.foldl_append

/-- A message ahead of its partition's position is received before it is passed. -/
theorem Consumer.Follows.complete {consumer : Consumer} {events : List ConsumerEvent}
    (follows : consumer.Follows topic events) {wanted : KafkaMessage} (holds : topic.Holds wanted)
    (ahead : wanted.partition ∈ consumer.assignment →
      consumer.position wanted.partition ≤ wanted.offset)
    (mine : wanted.partition ∈ (consumer.run topic events).assignment)
    (past : wanted.offset < (consumer.run topic events).position wanted.partition) :
    .received wanted ∈ events := by
  induction events generalizing consumer with
  | nil =>
    have behind := ahead mine
    have here : wanted.offset < consumer.position wanted.partition := past
    omega
  | cons event rest ih =>
    cases event with
    | assigned parts =>
      refine List.mem_cons_of_mem _ (ih follows (fun _ => ?_) mine past)
      exact topic.first_le _ _ (by rw [holds]; rfl)
    | received message =>
      obtain ⟨⟨held, next⟩, later⟩ := follows
      have rest' := fun ahead' => ih later ahead' mine past
      by_cases same : wanted.partition = message.partition
      · rcases next.eq_or_ahead holds same (ahead (same ▸ held)) with rfl | late
        · exact List.mem_cons_self
        · refine List.mem_cons_of_mem _ (rest' fun _ => ?_)
          simp only [after, same, Function.update_self]
          exact late
      · refine List.mem_cons_of_mem _ (rest' fun inAssignment => ?_)
        simp only [after, Function.update_of_ne same]
        exact ahead inAssignment

/-! ### Where the wait leaves the consumer -/

/-- The positions after some messages since the partitions were given out. -/
structure Consumer.Tracks (topic : Topic) (consumer : Consumer) (messages : List KafkaMessage) :
    Prop where
  untouched : ∀ part, (∀ message ∈ messages, message.partition ≠ part) →
    consumer.position part = topic.first part
  passed : ∀ message ∈ messages, message.partition ∈ consumer.assignment ∧
    topic.first message.partition < consumer.position message.partition

theorem Consumer.Tracks.run {consumer : Consumer} {messages : List KafkaMessage}
    {events : List ConsumerEvent} (tracks : consumer.Tracks topic messages)
    (follows : consumer.Follows topic events) :
    (consumer.run topic events).Tracks topic (sinceAssigned messages events) := by
  induction events generalizing consumer messages with
  | nil => exact tracks
  | cons event rest ih =>
    cases event with
    | assigned parts =>
      refine ih ⟨fun part _ => rfl, fun message member => absurd member List.not_mem_nil⟩ follows
    | received message =>
      obtain ⟨⟨held, next⟩, later⟩ := follows
      refine ih ⟨fun part apart => ?_, fun other member => ?_⟩ later
      · have fresh : part ≠ message.partition := Ne.symm (apart message List.mem_cons_self)
        simp only [after, Function.update_of_ne fresh]
        exact tracks.untouched part fun other member => apart other (List.mem_cons_of_mem _ member)
      · by_cases same : other.partition = message.partition
        · have least := topic.first_le message.partition message.offset (by rw [next.1]; rfl)
          simp only [after, same, Function.update_self]
          exact ⟨held, by omega⟩
        · have earlier : other ∈ messages := by
            rcases List.mem_cons.mp member with rfl | earlier
            · exact absurd rfl same
            · exact earlier
          simp only [after, Function.update_of_ne same]
          exact tracks.passed other earlier

/-- The wait leaves the consumer as the turns it took leave it. -/
theorem Consumer.await_eq_ok {consumer assigned : Consumer} {turns : List WaitTurn}
    (ran : consumer.await topic turns = .ok assigned) :
    assigned = consumer.run topic (consumer.awaited topic turns) := by
  induction turns generalizing consumer with
  | nil =>
    cases ran
    rfl
  | cons turn rest ih =>
    unfold await at ran
    unfold awaited
    split at ran
    · next empty =>
      rw [if_pos empty, run_append]
      split at ran
      · cases ran
      · exact ih ran
    · next filled =>
      rw [if_neg filled]
      cases ran
      rfl

/-- The seeks change the positions of the partitions with a committed offset only. -/
theorem Consumer.seekAll_eq_ok {offsets : List (Int × Int)} {refuses : Int → Option String}
    {parts : List Int} {consumer sought : Consumer}
    (ran : seekAll offsets refuses parts consumer = .ok sought) :
    sought.assignment = consumer.assignment ∧
      ∀ part, sought.position part =
        match offsets.find? (fun offset => offset.1 = part) with
        | some offset => if part ∈ parts then offset.2 else consumer.position part
        | none => consumer.position part := by
  induction parts generalizing consumer with
  | nil =>
    cases ran
    refine ⟨rfl, fun part => ?_⟩
    cases offsets.find? (fun offset => offset.1 = part) <;> rfl
  | cons head parts ih =>
    unfold seekAll at ran
    cases found : offsets.find? (fun offset => offset.1 = head) with
    | none =>
      simp only [found] at ran
      obtain ⟨same, positions⟩ := ih ran
      refine ⟨same, fun part => ?_⟩
      rw [positions part]
      cases committed : offsets.find? (fun offset => offset.1 = part) with
      | none => rfl
      | some offset =>
        have apart : part ≠ head := by
          rintro rfl
          rw [found] at committed
          cases committed
        simp only [List.mem_cons, apart, false_or]
    | some offset =>
      simp only [found] at ran
      cases refused : refuses head with
      | some failure =>
        simp only [refused] at ran
        cases ran
      | none =>
        simp only [refused] at ran
        obtain ⟨same, positions⟩ := ih ran
        refine ⟨same, fun part => ?_⟩
        rw [positions part]
        by_cases here : part = head
        · subst here
          simp [found]
        · simp only [List.mem_cons, here, false_or, Function.update_of_ne here]

/-- A `resume` that returns skips nothing, exactly when the wait for the partitions has
thrown away no message of a partition without a committed offset. -/
theorem resume_skipsNothing_iff (topic : Topic) (offsets : List (Int × Int))
    (failure : Option String) (turns : List WaitTurn) (refuses : Int → Option String)
    {consumer resumed : Consumer} (fresh : consumer.position = topic.first)
    (follows : consumer.Follows topic (consumer.awaited topic turns))
    (ran : consumer.resume topic offsets failure turns refuses = .ok resumed) :
    resumed.SkipsNothing topic offsets ↔
      ∀ message ∈ sinceAssigned [] (consumer.awaited topic turns),
        ∃ offset, (message.partition, offset) ∈ offsets := by
  have started : consumer.Tracks topic [] :=
    ⟨fun part _ => by rw [fresh], fun message member => absurd member List.not_mem_nil⟩
  have tracks := started.run follows
  have committed (part : Int) : (∃ offset, (part, offset) ∈ offsets) ↔
      offsets.find? (fun offset => offset.1 = part) ≠ none := by
    rw [Ne, List.find?_eq_none]
    simp
  unfold Consumer.resume at ran
  cases failure with
  | some text => cases ran
  | none =>
    obtain ⟨assigned, awaited, sought⟩ := Foundation.except_bind_eq_ok.mp ran
    obtain rfl := Consumer.await_eq_ok awaited
    obtain ⟨same, positions⟩ := Consumer.seekAll_eq_ok sought
    constructor
    · intro skips message member
      rw [committed]
      intro missing
      obtain ⟨mine, past⟩ := tracks.passed message member
      have placed := skips.placed message.partition (same ▸ mine)
      have position := positions message.partition
      simp only [missing] at placed position
      omega
    · intro kept
      have placed : ∀ part ∈ resumed.assignment,
          match offsets.find? (fun offset => offset.1 = part) with
          | some offset => resumed.position part ≤ offset.2 + 1
          | none => resumed.position part = topic.first part := by
        intro part mine
        have position := positions part
        cases found : offsets.find? (fun offset => offset.1 = part) with
        | some offset =>
          simp only [found, if_pos (same ▸ mine)] at position ⊢
          omega
        | none =>
          simp only [found] at position ⊢
          rw [position]
          refine tracks.untouched part fun message member isPart => ?_
          exact (committed part).mp (isPart ▸ kept message member) found
      refine ⟨placed, fun events follows message holds mine past unapplied => ?_⟩
      refine follows.complete holds (fun inAssignment => ?_) mine past
      have here := placed message.partition inAssignment
      cases found : offsets.find? (fun offset => offset.1 = message.partition) with
      | some offset =>
        have behind := unapplied offset found
        simp only [found] at here
        omega
      | none =>
        simp only [found] at here
        rw [here]
        exact topic.first_le _ _ (by rw [holds]; rfl)

/-! ### A partition that was not there before -/

/-- Two partitions with one order each. -/
def widenedTopic : Topic where
  log part offset :=
    if part = 0 ∧ offset = 0 ∨ part = 1 ∧ offset = 0 then some (createOf 0 "u1" "A").payload
    else none
  first := fun _ => 0
  first_le part offset held := by
    split at held
    · omega
    · cases held

/-- The order at the start of the partition nothing was committed for. -/
def firstOfSecond : KafkaMessage := ⟨1, 0, (createOf 0 "u1" "A").payload⟩

/-- The group gives out both partitions, and a message comes with them. -/
def assignedWith (message : KafkaMessage) : List WaitTurn :=
  [⟨[.assigned [0, 1], .received message], none⟩]

def subscribed : Consumer := ⟨[], fun _ => 0⟩

private theorem subscribed_follows {message : KafkaMessage} (mine : message.partition ∈ [0, 1])
    (holds : widenedTopic.Holds message) (here : message.offset = 0) :
    subscribed.Follows widenedTopic (subscribed.awaited widenedTopic (assignedWith message)) :=
  ⟨⟨mine, holds, here.ge, fun offset after before => by
    have first : 0 ≤ offset := after
    omega⟩, trivial⟩

theorem resume_skipsNothing_iff_committed :
    ∃ resumed, subscribed.resume widenedTopic [(0, 0)] none
        (assignedWith ⟨0, 0, (createOf 0 "u1" "A").payload⟩) (fun _ => none) = .ok resumed ∧
      (resumed.SkipsNothing widenedTopic [(0, 0)] ↔
        ∀ message ∈ sinceAssigned [] (subscribed.awaited widenedTopic
            (assignedWith ⟨0, 0, (createOf 0 "u1" "A").payload⟩)),
          ∃ offset, (message.partition, offset) ∈ [((0 : Int), (0 : Int))]) :=
  ⟨_, rfl, resume_skipsNothing_iff widenedTopic [(0, 0)] none _ (fun _ => none) rfl
    (subscribed_follows (by decide) rfl rfl) rfl⟩

/-- The message that came with the partitions is gone: its partition has no offset to seek
to, and is read on behind it. -/
theorem firstOfSecond_skipped :
    subscribed.Follows widenedTopic
        (subscribed.awaited widenedTopic (assignedWith firstOfSecond)) ∧
      ∃ resumed, subscribed.resume widenedTopic [(0, 0)] none (assignedWith firstOfSecond)
          (fun _ => none) = .ok resumed ∧
        ¬ resumed.SkipsNothing widenedTopic [(0, 0)] := by
  refine ⟨subscribed_follows (by decide) rfl rfl, _, rfl, fun skips => ?_⟩
  have placed := skips.placed 1 (by decide)
  have moved : (1 : Int) = 0 := placed
  omega

end ConsumerEngine.Ingestion
