import ConsumerEngine.Foundation.Runs
import Mathlib.Logic.Function.Basic
import Mathlib.Data.List.Basic

/-! The job registry, and polls that overlap.

Every operation on the map is one moment; a poll is two of them, so anything may happen
between its expiry check and what it does next.
-/

set_option autoImplicit false

namespace ConsumerEngine.Ingress

open ConsumerEngine.Foundation

/-- Terminal-ish status of a job. -/
inductive JobStatus where
  | running
  | done (snapshot : String)
  | failed (err : String)
  deriving DecidableEq, Repr

/-- What the registry holds for a job: its status, its tenant and when it was set. -/
structure JobEntry where
  status : JobStatus
  tenant : String
  since : Nat
  deriving DecidableEq, Repr

structure JobRegistry where
  map : String → Option JobEntry
  ttl : Nat

namespace JobRegistry

def withTtl (ttl : Nat) : JobRegistry := ⟨fun _ => none, ttl⟩

def insert (registry : JobRegistry) (id : String) (entry : JobEntry) : JobRegistry :=
  { registry with map := Function.update registry.map id (some entry) }

def remove (registry : JobRegistry) (id : String) : JobRegistry :=
  { registry with map := Function.update registry.map id none }

/-- Mark `id` as running. -/
def insertRunning (registry : JobRegistry) (id tenant : String) (now : Nat) : JobRegistry :=
  registry.insert id ⟨.running, tenant, now⟩

/-- Mark `id` as done. -/
def setDone (registry : JobRegistry) (id tenant snapshot : String) (now : Nat) : JobRegistry :=
  registry.insert id ⟨.done snapshot, tenant, now⟩

/-- Mark `id` as failed. -/
def setFailed (registry : JobRegistry) (id tenant err : String) (now : Nat) : JobRegistry :=
  registry.insert id ⟨.failed err, tenant, now⟩

/-- The entry of `id` is older than the registry's TTL. -/
def expired (registry : JobRegistry) (id : String) (now : Nat) : Bool :=
  match registry.map id with
  | some entry => now - entry.since > registry.ttl
  | none => false

/-- The status of `id`, if it is the tenant's. -/
def owned (registry : JobRegistry) (id tenant : String) : Option JobStatus :=
  ((registry.map id).filter fun entry => entry.tenant = tenant).map (·.status)

/-- `get_owned` when nothing else happens meanwhile. -/
def getOwned (registry : JobRegistry) (id tenant : String) (now : Nat) :
    JobRegistry × Option JobStatus :=
  if registry.expired id now then (registry.remove id, none)
  else (registry, registry.owned id tenant)

end JobRegistry

/-- How the materialise task came back to its supervisor. -/
inductive Outcome where
  | ok (snapshot : String)
  | error (text : String)
  | panicked (join : String)
  deriving DecidableEq, Repr

/-- The status the supervisor sets. -/
def Outcome.status : Outcome → JobStatus
  | .ok snapshot => .done snapshot
  | .error text => .failed text
  | .panicked join => .failed ("materialise task failed: " ++ join)

/-- The supervisor's one write at the end of a job. -/
def JobRegistry.finish (registry : JobRegistry) (id tenant : String) (now : Nat) :
    Outcome → JobRegistry
  | .ok snapshot => registry.setDone id tenant snapshot now
  | .error text => registry.setFailed id tenant text now
  | .panicked join => registry.setFailed id tenant ("materialise task failed: " ++ join) now

theorem finish_eq (registry : JobRegistry) (id tenant : String) (now : Nat) (outcome : Outcome) :
    registry.finish id tenant now outcome =
      registry.insert id ⟨outcome.status, tenant, now⟩ := by
  cases outcome <;> rfl

/-- Where a poll is in `get_owned`. -/
inductive Stage where
  | checking
  | removing
  | reading
  deriving DecidableEq, Repr

/-- A poll under way: the clock it read and, if it started within the TTL of the job's
terminal status, that status. -/
structure Poll where
  id : String
  tenant : String
  now : Nat
  stage : Stage
  due : Option JobStatus
  deriving DecidableEq, Repr

/-- A poll that has returned. -/
structure Answer where
  id : String
  tenant : String
  due : Option JobStatus
  status : Option JobStatus
  deriving DecidableEq, Repr

/-- A submitted job, and how and when it ended. -/
structure Job where
  tenant : String
  ended : Option (JobStatus × Nat)
  deriving DecidableEq, Repr

structure Jobs where
  registry : JobRegistry
  clock : Nat
  jobs : String → Option Job
  polls : Nat → Option Poll
  answers : List Answer

def Jobs.start (ttl : Nat) : Jobs :=
  ⟨JobRegistry.withTtl ttl, 0, fun _ => none, fun _ => none, []⟩

inductive JobEvent where
  | tick (now : Nat)
  | insertRunning (id tenant : String) (since : Nat)
  | finish (id : String) (outcome : Outcome) (since : Nat)
  | poll (number : Nat) (id tenant : String)
  | proceed (number : Nat)
  deriving DecidableEq, Repr

/-- The terminal status a poll started now has to see. -/
def Jobs.dueTo (state : Jobs) (id tenant : String) : Option JobStatus := do
  let job ← state.jobs id
  let (status, since) ← job.ended
  if job.tenant = tenant ∧ state.clock - since ≤ state.registry.ttl then some status else none

def Jobs.answer (state : Jobs) (number : Nat) (poll : Poll) (status : Option JobStatus) : Jobs :=
  { state with
    polls := Function.update state.polls number none
    answers := state.answers ++ [⟨poll.id, poll.tenant, poll.due, status⟩] }

/-- The next map operation of a poll. -/
def Jobs.proceed (state : Jobs) (number : Nat) (poll : Poll) : Jobs :=
  match poll.stage with
  | .checking =>
    let next := if state.registry.expired poll.id poll.now then .removing else .reading
    { state with polls := Function.update state.polls number (some { poll with stage := next }) }
  | .removing =>
    { state with registry := state.registry.remove poll.id }.answer number poll none
  | .reading => state.answer number poll (state.registry.owned poll.id poll.tenant)

/-- One moment. A writer may have read its clock a while before its insert lands; ids are
minted fresh and a supervisor ends its job once. -/
def Jobs.step (state : Jobs) : JobEvent → Option Jobs
  | .tick now => if state.clock ≤ now then some { state with clock := now } else none
  | .insertRunning id tenant since =>
    if state.jobs id = none ∧ since ≤ state.clock then
      some { state with
        registry := state.registry.insertRunning id tenant since
        jobs := Function.update state.jobs id (some ⟨tenant, none⟩) }
    else none
  | .finish id outcome since =>
    match state.jobs id with
    | some ⟨tenant, none⟩ =>
      if since ≤ state.clock then
        some { state with
          registry := state.registry.finish id tenant since outcome
          jobs := Function.update state.jobs id (some ⟨tenant, some (outcome.status, since)⟩) }
      else none
    | _ => none
  | .poll number id tenant =>
    match state.polls number with
    | some _ => none
    | none =>
      some { state with
        polls := Function.update state.polls number
          (some ⟨id, tenant, state.clock, .checking, state.dueTo id tenant⟩) }
  | .proceed number => (state.polls number).map (state.proceed number)

/-- The statuses a tenant's polls of a job have seen, in order. -/
def Jobs.seen (state : Jobs) (id tenant : String) : List (Option JobStatus) :=
  (state.answers.filter fun answer => answer.id = id ∧ answer.tenant = tenant).map (·.status)

/-- What the owners of jobs have seen so far is as it should be: running, then the one
terminal status, then absence; and whoever was due a terminal status saw it. -/
structure Jobs.Monotone (state : Jobs) : Prop where
  ordered : ∀ id job, state.jobs id = some job → ∃ ran told gone,
    state.seen id job.tenant = List.replicate ran (some .running) ++
      List.replicate told (job.ended.map (·.1)) ++ List.replicate gone none
  visible : ∀ answer ∈ state.answers, ∀ status, answer.due = some status →
    answer.status = some status

/-- The moments at which nothing slips between a check and a removal. A job is inserted
before its owner has any answer; it ends while its running entry is there and no poll has
found that entry expired; and an expired entry is removed when no poll is under way that
started in time to see the terminal status. -/
def Orderly : JobEvent → Jobs → Prop
  | .insertRunning id tenant _, state => state.seen id tenant = []
  | .finish id _ _, state => state.registry.map id ≠ none ∧
      ∀ number poll, state.polls number = some poll → poll.id = id → poll.stage ≠ .removing
  | .proceed number, state => ∀ poll, state.polls number = some poll → poll.stage = .removing →
      ∀ other slower, state.polls other = some slower → slower.id = poll.id → slower.due = none
  | _, _ => True

section Runs

theorem update_eq_some {key value : Type} [DecidableEq key] {map : key → Option value}
    {changed asked : key} {put got : value}
    (found : Function.update map changed (some put) asked = some got) :
    asked = changed ∧ got = put ∨ asked ≠ changed ∧ map asked = some got := by
  by_cases same : asked = changed
  · subst same
    rw [Function.update_self] at found
    exact .inl ⟨rfl, (Option.some.inj found).symm⟩
  · rw [Function.update_of_ne same] at found
    exact .inr ⟨same, found⟩

theorem update_none_eq_some {key value : Type} [DecidableEq key] {map : key → Option value}
    {changed asked : key} {got : value}
    (found : Function.update map changed none asked = some got) :
    asked ≠ changed ∧ map asked = some got := by
  by_cases same : asked = changed
  · subst same
    rw [Function.update_self] at found
    cases found
  · rw [Function.update_of_ne same] at found
    exact ⟨same, found⟩

variable {state next : Jobs} {id : String}

/-- Every poll of the job under way is one of these. -/
def Jobs.PollsOf (state : Jobs) (id : String) (kind : Poll → Prop) : Prop :=
  ∀ number poll, state.polls number = some poll → poll.id = id → kind poll

/-- Where a job stands: not submitted, running (its entry in the map or expired away), or
ended (likewise), with what its owner has seen. -/
inductive Phase (state : Jobs) (id : String) : Prop where
  | unborn (job : state.jobs id = none) (entry : state.registry.map id = none)
      (polls : state.PollsOf id fun poll => poll.stage ≠ .removing ∧ poll.due = none)
  | running (tenant : String) (since ran : Nat) (job : state.jobs id = some ⟨tenant, none⟩)
      (entry : state.registry.map id = some ⟨.running, tenant, since⟩)
      (polls : state.PollsOf id fun poll => poll.due = none)
      (seen : state.seen id tenant = List.replicate ran (some .running))
  | lost (tenant : String) (ran gone : Nat) (job : state.jobs id = some ⟨tenant, none⟩)
      (entry : state.registry.map id = none)
      (polls : state.PollsOf id fun poll => poll.due = none)
      (seen : state.seen id tenant =
        List.replicate ran (some .running) ++ List.replicate gone none)
  | ended (tenant : String) (status : JobStatus) (since ran told : Nat)
      (job : state.jobs id = some ⟨tenant, some (status, since)⟩)
      (entry : state.registry.map id = some ⟨status, tenant, since⟩)
      (polls : state.PollsOf id fun poll =>
        (poll.stage = .removing → state.registry.ttl < poll.now - since) ∧
        ∀ owed, poll.due = some owed →
          owed = status ∧ poll.tenant = tenant ∧ poll.now - since ≤ state.registry.ttl)
      (seen : state.seen id tenant =
        List.replicate ran (some .running) ++ List.replicate told (some status))
  | gone (tenant : String) (status : JobStatus) (since ran told gone : Nat)
      (job : state.jobs id = some ⟨tenant, some (status, since)⟩)
      (entry : state.registry.map id = none)
      (late : state.registry.ttl < state.clock - since)
      (polls : state.PollsOf id fun poll => poll.due = none)
      (seen : state.seen id tenant = List.replicate ran (some .running) ++
        List.replicate told (some status) ++ List.replicate gone none)

structure Kept (state : Jobs) : Prop where
  read : ∀ number poll, state.polls number = some poll → poll.now ≤ state.clock
  phases : ∀ id, Phase state id
  visible : ∀ answer ∈ state.answers, ∀ status, answer.due = some status →
    answer.status = some status

theorem Kept.monotone (kept : Kept state) : state.Monotone where
  visible := kept.visible
  ordered id job submitted := by
    cases kept.phases id with
    | unborn none_ => exact absurd (submitted.symm.trans none_) (by simp)
    | running tenant since ran is _ _ seen =>
      obtain rfl := Option.some.inj (submitted.symm.trans is)
      exact ⟨ran, 0, 0, by simpa using seen⟩
    | lost tenant ran gone is _ _ seen =>
      obtain rfl := Option.some.inj (submitted.symm.trans is)
      exact ⟨ran, 0, gone, by simpa using seen⟩
    | ended tenant status since ran told is _ _ seen =>
      obtain rfl := Option.some.inj (submitted.symm.trans is)
      exact ⟨ran, told, 0, by simpa using seen⟩
    | gone tenant status since ran told gone is _ _ _ seen =>
      obtain rfl := Option.some.inj (submitted.symm.trans is)
      exact ⟨ran, told, gone, by simpa using seen⟩

theorem start_kept (ttl : Nat) : Kept (Jobs.start ttl) where
  read number poll under := by cases under
  phases id := .unborn rfl rfl fun number poll under => by cases under
  visible answer member := by cases member

/-- A moment that does not touch the job leaves it where it stands. -/
theorem Phase.frame (phase : Phase state id) (jobs : next.jobs id = state.jobs id)
    (map : next.registry.map id = state.registry.map id)
    (ttl : next.registry.ttl = state.registry.ttl) (clock : state.clock ≤ next.clock)
    (polls : ∀ number poll, next.polls number = some poll → poll.id = id →
      state.polls number = some poll)
    (seen : ∀ tenant, next.seen id tenant = state.seen id tenant) : Phase next id := by
  have lift : ∀ {kind : Poll → Prop}, state.PollsOf id kind → next.PollsOf id kind :=
    fun held number poll under own => held number poll (polls number poll under own) own
  cases phase with
  | unborn job entry kinds => exact .unborn (jobs.trans job) (map.trans entry) (lift kinds)
  | running tenant since ran job entry kinds saw =>
    exact .running tenant since ran (jobs.trans job) (map.trans entry) (lift kinds)
      ((seen tenant).trans saw)
  | lost tenant ran gone job entry kinds saw =>
    exact .lost tenant ran gone (jobs.trans job) (map.trans entry) (lift kinds)
      ((seen tenant).trans saw)
  | ended tenant status since ran told job entry kinds saw =>
    exact .ended tenant status since ran told (jobs.trans job) (map.trans entry)
      (by rw [ttl]; exact lift kinds) ((seen tenant).trans saw)
  | gone tenant status since ran told gone job entry late kinds saw =>
    exact .gone tenant status since ran told gone (jobs.trans job) (map.trans entry)
      (by rw [ttl]; omega) (lift kinds) ((seen tenant).trans saw)

theorem kept_tick {now : Nat} (kept : Kept state) (later : state.clock ≤ now) :
    Kept { state with clock := now } where
  read number poll under := Nat.le_trans (kept.read number poll under) later
  phases id := (kept.phases id).frame rfl rfl rfl later (fun _ _ under _ => under) fun _ => rfl
  visible := kept.visible

theorem kept_insertRunning {tenant : String} {since : Nat} (kept : Kept state)
    (fresh : state.jobs id = none) (unseen : state.seen id tenant = []) :
    Kept { state with
      registry := state.registry.insertRunning id tenant since
      jobs := Function.update state.jobs id (some ⟨tenant, none⟩) } where
  read := kept.read
  visible := kept.visible
  phases other := by
    by_cases same : other = id
    · subst same
      cases kept.phases other with
      | unborn _ _ polls =>
        exact .running tenant since 0 (Function.update_self ..) (Function.update_self ..)
          (fun number poll under own => (polls number poll under own).2) unseen
      | running _ _ _ job | lost _ _ _ job | ended _ _ _ _ _ job | gone _ _ _ _ _ _ job =>
        exact absurd (job.symm.trans fresh) (by simp)
    · exact (kept.phases other).frame (Function.update_of_ne same ..)
        (Function.update_of_ne same ..) rfl (Nat.le_refl _) (fun _ _ under _ => under) fun _ => rfl

theorem kept_finish {tenant : String} {outcome : Outcome} {since : Nat} (kept : Kept state)
    (job : state.jobs id = some ⟨tenant, none⟩)
    (orderly : Orderly (.finish id outcome since) state) :
    Kept { state with
      registry := state.registry.finish id tenant since outcome
      jobs := Function.update state.jobs id
        (some ⟨tenant, some (outcome.status, since)⟩) } where
  read := kept.read
  visible := kept.visible
  phases other := by
    rw [finish_eq]
    by_cases same : other = id
    · subst same
      cases kept.phases other with
      | unborn none_ => exact absurd (job.symm.trans none_) (by simp)
      | running tenant' since' ran is _ polls seen =>
        obtain ⟨rfl, -⟩ := Job.mk.inj (Option.some.inj (job.symm.trans is))
        -- No poll is about to remove the entry, and none is owed the new status yet.
        refine .ended tenant outcome.status since ran 0 (Function.update_self ..)
          (Function.update_self ..) (fun number poll under own => ⟨fun removing => ?_, ?_⟩)
          (by rw [List.replicate_zero, List.append_nil]; exact seen)
        · exact absurd removing (orderly.2 number poll under own)
        · intro owed due
          exact absurd ((polls number poll under own).symm.trans due) (by simp)
      | lost _ _ _ _ entry => exact absurd entry orderly.1
      | ended _ _ _ _ _ is | gone _ _ _ _ _ _ is =>
        exact absurd (job.symm.trans is) (by simp)
    · exact (kept.phases other).frame (Function.update_of_ne same ..)
        (Function.update_of_ne same ..) rfl (Nat.le_refl _) (fun _ _ under _ => under) fun _ => rfl

/-- A poll takes its place; it is owed what its owner may by now expect. -/
theorem kept_poll {number : Nat} {tenant : String} (kept : Kept state) :
    Kept { state with
      polls := Function.update state.polls number
        (some ⟨id, tenant, state.clock, .checking, state.dueTo id tenant⟩) } where
  visible := kept.visible
  read other poll under := by
    obtain ⟨-, rfl⟩ | ⟨-, under⟩ := update_eq_some under
    · exact Nat.le_refl _
    · exact kept.read other poll under
  phases id' := by
    have split : ∀ {kind : Poll → Prop},
        (id = id' → kind ⟨id, tenant, state.clock, .checking, state.dueTo id tenant⟩) →
        state.PollsOf id' kind →
        Jobs.PollsOf { state with
          polls := Function.update state.polls number
            (some ⟨id, tenant, state.clock, .checking, state.dueTo id tenant⟩) } id' kind := by
      intro kind new old other poll under own
      obtain ⟨-, rfl⟩ | ⟨-, under⟩ := update_eq_some under
      · exact new own
      · exact old other poll under own
    cases kept.phases id' with
    | unborn job entry polls =>
      refine .unborn job entry (split (fun own => ⟨fun is => Stage.noConfusion is, ?_⟩) polls)
      simp [Jobs.dueTo, own, job]
    | running tenant' since ran job entry polls seen =>
      refine .running tenant' since ran job entry (split (fun own => ?_) polls) seen
      simp [Jobs.dueTo, own, job]
    | lost tenant' ran gone job entry polls seen =>
      refine .lost tenant' ran gone job entry (split (fun own => ?_) polls) seen
      simp [Jobs.dueTo, own, job]
    | ended tenant' status since ran told job entry polls seen =>
      refine .ended tenant' status since ran told job entry (split (fun own => ?_) polls) seen
      refine ⟨fun is => Stage.noConfusion is, fun owed due => ?_⟩
      simp only [Jobs.dueTo, own, job, Option.bind_eq_bind, Option.bind_some,
        Option.ite_none_right_eq_some, Option.some.injEq] at due
      exact ⟨due.2.symm, due.1.1.symm, due.1.2⟩
    | gone tenant' status since ran told gone job entry late polls seen =>
      refine .gone tenant' status since ran told gone job entry late (split (fun own => ?_) polls) seen
      have missed : ¬ state.clock - since ≤ state.registry.ttl := Nat.not_le_of_lt late
      simp only [Jobs.dueTo, own, job, Option.bind_eq_bind, Option.bind_some, missed, and_false,
        if_false]

theorem seen_answer_other {number : Nat} {poll : Poll} {status : Option JobStatus}
    (other : poll.id ≠ id) (tenant : String) :
    (state.answer number poll status).seen id tenant = state.seen id tenant := by
  simp [Jobs.seen, Jobs.answer, other]

/-- One more answer of the kind last seen. -/
theorem seen_answer (number : Nat) {count : Nat} {poll : Poll} (status : Option JobStatus)
    {value : Option JobStatus} {tenant : String} {before : List (Option JobStatus)}
    (own : poll.id = id)
    (saw : state.seen id tenant = before ++ List.replicate count value)
    (tells : poll.tenant = tenant → status = value) :
    ∃ count', (state.answer number poll status).seen id tenant =
      before ++ List.replicate count' value := by
  by_cases owner : poll.tenant = tenant
  · refine ⟨count + 1, ?_⟩
    have appended : (state.answer number poll status).seen id tenant =
        state.seen id tenant ++ [status] := by
      simp [Jobs.seen, Jobs.answer, own, owner]
    rw [appended, saw, tells owner, List.replicate_succ', List.append_assoc]
  · refine ⟨count, ?_⟩
    rw [← saw]
    simp [Jobs.seen, Jobs.answer, owner]

theorem owned_of_none {registry : JobRegistry} {tenant : String} (entry : registry.map id = none) :
    registry.owned id tenant = none := by
  simp [JobRegistry.owned, entry]

theorem owned_of_some {registry : JobRegistry} {tenant : String} {status : JobStatus} {since : Nat}
    (entry : registry.map id = some ⟨status, tenant, since⟩) :
    registry.owned id tenant = some status := by
  simp [JobRegistry.owned, entry]

/-- The first operation of a poll: it looks at the entry's age. -/
theorem kept_check {number : Nat} {poll : Poll} (kept : Kept state)
    (under : state.polls number = some poll) (checking : poll.stage = .checking) :
    Kept (state.proceed number poll) := by
  unfold Jobs.proceed
  rw [checking]
  refine ⟨fun other poll' under' => ?_, fun id => ?_, kept.visible⟩
  · obtain ⟨-, rfl⟩ | ⟨-, under'⟩ := update_eq_some under'
    · exact kept.read number poll under
    · exact kept.read other poll' under'
  · have split : ∀ {kind kind' : Poll → Prop} {stage : Stage}, state.PollsOf id kind →
        (∀ poll, kind poll → kind' poll) →
        (poll.id = id → kind poll → kind' { poll with stage := stage }) →
        Jobs.PollsOf { state with
          polls := Function.update state.polls number (some { poll with stage := stage }) }
          id kind' := by
      intro kind kind' stage old same new other poll' under' own
      obtain ⟨-, rfl⟩ | ⟨-, under'⟩ := update_eq_some under'
      · exact new own (old number poll under own)
      · exact same _ (old other poll' under' own)
    cases kept.phases id with
    | unborn job entry polls =>
      refine .unborn job entry (split polls (fun _ same => same) fun own held => ⟨?_, held.2⟩)
      simp [JobRegistry.expired, own, entry]
    | running tenant since ran job entry polls seen =>
      exact .running tenant since ran job entry
        (split polls (fun _ same => same) fun _ held => held) seen
    | lost tenant ran gone job entry polls seen =>
      exact .lost tenant ran gone job entry
        (split polls (fun _ same => same) fun _ held => held) seen
    | ended tenant status since ran told job entry polls seen =>
      refine .ended tenant status since ran told job entry
        (split polls (fun _ same => same) fun own held => ⟨fun removing => ?_, held.2⟩) seen
      by_contra young
      simp [JobRegistry.expired, own, entry, young] at removing
    | gone tenant status since ran told gone job entry late polls seen =>
      exact .gone tenant status since ran told gone job entry late
        (split polls (fun _ same => same) fun _ held => held) seen

/-- Once a poll has answered, what is under way was under way before. -/
theorem pollsOf_answer {number : Nat} {poll : Poll} {status : Option JobStatus}
    {kind : Poll → Prop} (held : state.PollsOf id kind) :
    (state.answer number poll status).PollsOf id kind := by
  intro other poll' under own
  exact held other poll' (update_none_eq_some under).2 own

/-- The second operation of a poll whose entry was young enough: it reads. -/
theorem kept_read {number : Nat} {poll : Poll} (kept : Kept state)
    (under : state.polls number = some poll) (reading : poll.stage = .reading) :
    Kept (state.proceed number poll) := by
  unfold Jobs.proceed
  rw [reading]
  refine ⟨fun other poll' under' => ?_, fun id => ?_, fun answer member owed due => ?_⟩
  · exact kept.read other poll' (update_none_eq_some under').2
  · by_cases own : poll.id = id
    · cases kept.phases id with
      | unborn job entry polls => exact .unborn job entry (pollsOf_answer polls)
      | running tenant since ran job entry polls seen =>
        obtain ⟨ran', saw⟩ := seen_answer number
          (state.registry.owned poll.id poll.tenant) own (seen.trans (List.nil_append _).symm)
          fun owner => by rw [own, owner, owned_of_some entry]
        exact .running tenant since ran' job entry (pollsOf_answer polls) saw
      | lost tenant ran gone job entry polls seen =>
        obtain ⟨gone', saw⟩ := seen_answer number
          (state.registry.owned poll.id poll.tenant) own seen
          fun _ => by rw [own, owned_of_none entry]
        exact .lost tenant ran gone' job entry (pollsOf_answer polls) saw
      | ended tenant status since ran told job entry polls seen =>
        obtain ⟨told', saw⟩ := seen_answer number
          (state.registry.owned poll.id poll.tenant) own seen
          fun owner => by rw [own, owner, owned_of_some entry]
        exact .ended tenant status since ran told' job entry (pollsOf_answer polls) saw
      | gone tenant status since ran told gone job entry late polls seen =>
        obtain ⟨gone', saw⟩ := seen_answer number
          (state.registry.owned poll.id poll.tenant) own seen
          fun _ => by rw [own, owned_of_none entry]
        exact .gone tenant status since ran told gone' job entry late (pollsOf_answer polls) saw
    · exact (kept.phases id).frame rfl rfl rfl (Nat.le_refl _)
        (fun _ _ under' _ => (update_none_eq_some under').2) (seen_answer_other own)
  · rcases List.mem_append.mp member with old | new
    · exact kept.visible answer old owed due
    · obtain rfl := List.mem_singleton.mp new
      cases kept.phases poll.id with
      | unborn _ _ polls => exact absurd (due.symm.trans (polls number poll under rfl).2) (by simp)
      | running _ _ _ _ _ polls | lost _ _ _ _ _ polls | gone _ _ _ _ _ _ _ _ _ polls =>
        exact absurd (due.symm.trans (polls number poll under rfl)) (by simp)
      | ended tenant status since ran told job entry polls seen =>
        obtain ⟨rfl, owner, _⟩ := (polls number poll under rfl).2 owed due
        exact owner ▸ owned_of_some entry

/-- The second operation of a poll that found its entry expired: whatever the entry is by
now, it goes. -/
theorem kept_remove {number : Nat} {poll : Poll} (kept : Kept state)
    (under : state.polls number = some poll) (removing : poll.stage = .removing)
    (idle : ∀ other slower, state.polls other = some slower → slower.id = poll.id →
      slower.due = none) :
    Kept (state.proceed number poll) := by
  unfold Jobs.proceed
  rw [removing]
  refine ⟨fun other poll' under' => ?_, fun id => ?_, fun answer member owed due => ?_⟩
  · exact kept.read other poll' (update_none_eq_some under').2
  · by_cases own : poll.id = id
    · have removed : (state.registry.remove poll.id).map id = none := by
        rw [← own]
        exact Function.update_self ..
      have quiet : state.PollsOf id fun poll => poll.due = none :=
        fun other slower under' same => idle other slower under' (same.trans own.symm)
      cases kept.phases id with
      | unborn _ _ polls => exact absurd removing (polls number poll under own).1
      | running tenant since ran job entry polls seen =>
        have none_yet : state.seen id tenant = state.seen id tenant ++ List.replicate 0 none := by
          rw [List.replicate_zero, List.append_nil]
        obtain ⟨gone, saw⟩ := seen_answer number none own none_yet fun _ => rfl
        rw [seen] at saw
        exact .lost tenant ran gone job removed (pollsOf_answer quiet) saw
      | lost tenant ran gone job entry polls seen =>
        obtain ⟨gone', saw⟩ := seen_answer number none own seen
          fun _ => rfl
        exact .lost tenant ran gone' job removed (pollsOf_answer quiet) saw
      | ended tenant status since ran told job entry polls seen =>
        have none_yet : state.seen id tenant = state.seen id tenant ++ List.replicate 0 none := by
          rw [List.replicate_zero, List.append_nil]
        obtain ⟨gone, saw⟩ := seen_answer number none own none_yet fun _ => rfl
        rw [seen] at saw
        have late : state.registry.ttl < state.clock - since := by
          have old := (polls number poll under own).1 removing
          have read := kept.read number poll under
          omega
        exact .gone tenant status since ran told gone job removed late (pollsOf_answer quiet) saw
      | gone tenant status since ran told gone job entry late polls seen =>
        obtain ⟨gone', saw⟩ := seen_answer number none own seen
          fun _ => rfl
        exact .gone tenant status since ran told gone' job removed late (pollsOf_answer quiet) saw
    · exact (kept.phases id).frame rfl (Function.update_of_ne (Ne.symm own) ..) rfl (Nat.le_refl _)
        (fun _ _ under' _ => (update_none_eq_some under').2) (seen_answer_other own)
  · rcases List.mem_append.mp member with old | new
    · exact kept.visible answer old owed due
    · obtain rfl := List.mem_singleton.mp new
      exact absurd (due.symm.trans (idle number poll under rfl)) (by simp)

/-- One orderly moment keeps every job where its owner expects it. -/
theorem kept_step {event : JobEvent} (kept : Kept state) (orderly : Orderly event state)
    (taken : state.step event = some next) : Kept next := by
  cases event with
  | tick now =>
    simp only [Jobs.step, Option.ite_none_right_eq_some, Option.some.injEq] at taken
    exact taken.2 ▸ kept_tick kept taken.1
  | insertRunning id tenant since =>
    simp only [Jobs.step, Option.ite_none_right_eq_some, Option.some.injEq] at taken
    exact taken.2 ▸ kept_insertRunning kept taken.1.1 orderly
  | finish id outcome since =>
    simp only [Jobs.step] at taken
    split at taken
    · next tenant job =>
      simp only [Option.ite_none_right_eq_some, Option.some.injEq] at taken
      exact taken.2 ▸ kept_finish kept job orderly
    · cases taken
  | poll number id tenant =>
    simp only [Jobs.step] at taken
    split at taken
    · cases taken
    · exact Option.some.inj taken ▸ kept_poll kept
  | proceed number =>
    obtain ⟨poll, under, rfl⟩ := Option.map_eq_some_iff.mp taken
    cases stage : poll.stage with
    | checking => exact kept_check kept under stage
    | removing => exact kept_remove kept under stage (orderly poll under stage)
    | reading => exact kept_read kept under stage

end Runs

/-- A poll nothing comes between is `getOwned`. -/
theorem proceed_alone {state : Jobs} {number : Nat} {poll : Poll} (checking : poll.stage = .checking) :
    let (registry, status) := state.registry.getOwned poll.id poll.tenant poll.now
    let checked := state.proceed number poll
    (checked.polls number).map (checked.proceed number) =
      some (({ state with registry := registry }).answer number poll status) := by
  cases old : state.registry.expired poll.id poll.now <;>
    simp [Jobs.proceed, checking, JobRegistry.getOwned, old, Jobs.answer]

/-- In a run of orderly moments no status an owner has seen is taken back, and none is
missed in its time. -/
theorem job_status_monotone {ttl : Nat} {state : Jobs}
    (run : Reaches (fun event before after => before.step event = some after) Orderly
      (Jobs.start ttl) state) : state.Monotone := by
  have kept : Kept state :=
    run.invariant (fun _ _ _ kept orderly taken => kept_step kept orderly taken) (start_kept ttl)
  exact kept.monotone

/-- A job that ends and is polled in time -/
theorem job_status_monotone_polled :
    ∃ state : Jobs, state.seen "j_1" "default" = [some (.done "snap_1")] ∧ state.Monotone := by
  have calm : ∀ {state : Jobs} {number : Nat} {poll : Poll}, state.polls number = some poll →
      poll.stage ≠ .removing → Orderly (.proceed number) state := by
    intro state number poll under stays poll' under' removing
    exact absurd (Option.some.inj (under.symm.trans under') ▸ removing) stays
  have inserted : Reaches (fun event (before : Jobs) after => before.step event = some after)
      Orderly (Jobs.start 10) _ :=
    (Reaches.refl _).snoc
      (show (Jobs.start 10).step (.insertRunning "j_1" "default" 0) = some _ from rfl)
      (show Orderly (.insertRunning "j_1" "default" 0) (Jobs.start 10) from rfl)
  have finished := inserted.snoc
    (show Jobs.step _ (.finish "j_1" (.ok "snap_1") 0) = some _ from rfl)
    ⟨fun lost => Option.some_ne_none _ lost, fun _ _ under => nomatch under⟩
  have polled := finished.snoc (show Jobs.step _ (.poll 0 "j_1" "default") = some _ from rfl) trivial
  have checked := polled.snoc (show Jobs.step _ (.proceed 0) = some _ from rfl) (calm rfl (by decide))
  have read := checked.snoc (show Jobs.step _ (.proceed 0) = some _ from rfl) (calm rfl (by decide))
  exact ⟨_, rfl, job_status_monotone read⟩

/-- A running entry older than the TTL is dropped, and the job then ends. -/
theorem job_status_reappears :
    ¬ ∀ ttl state, Reaches (fun event (before : Jobs) after => before.step event = some after)
      (fun _ _ => True) (Jobs.start ttl) state → state.Monotone := by
  intro monotone
  obtain ⟨last, followed, submitted, seen⟩ : ∃ last : Jobs,
      Reaches.follow Jobs.step (fun _ _ => True)
        [.insertRunning "j_1" "default" 0, .tick 20, .poll 0 "j_1" "default", .proceed 0,
          .proceed 0, .finish "j_1" (.ok "snap_1") 20, .poll 1 "j_1" "default", .proceed 1,
          .proceed 1] (Jobs.start 10) = some last ∧
      last.jobs "j_1" = some ⟨"default", some (.done "snap_1", 20)⟩ ∧
      last.seen "j_1" "default" = [none, some (.done "snap_1")] := ⟨_, rfl, rfl, rfl⟩
  obtain ⟨ran, told, gone, shape⟩ :=
    (monotone 10 last (Reaches.of_follow followed)).ordered "j_1" _ submitted
  -- The first answer is an absence, so nothing but absences may follow it.
  rw [seen] at shape
  cases ran with
  | succ => simp [List.replicate_succ] at shape
  | zero =>
    cases told with
    | succ => simp [List.replicate_succ] at shape
    | zero =>
      have absent : some (JobStatus.done "snap_1") ∈ List.replicate gone (none : Option JobStatus) := by
        have member : some (JobStatus.done "snap_1") ∈ [none, some (JobStatus.done "snap_1")] := by
          simp
        rw [shape] at member
        exact member
      exact absurd (List.eq_of_mem_replicate absent) (by simp)

end ConsumerEngine.Ingress
