import ConsumerEngine.Execution.ReaderPool

/-! What a failed refresh leaves of a reader worker.

The refresh is one batch, `DETACH` and then `ATTACH`. When the attach fails the worker
is left detached, and from then on every refresh stops at its first statement.
-/

set_option autoImplicit false

namespace ConsumerEngine.Execution.Pool

open ConsumerEngine.Foundation

variable {ι : Type} [DecidableEq ι]

/-- The events of one worker, at moments when the catalogue can be attached. -/
def Own (i : ι) : Event ι → Prop
  | .take j | .compare j _ | .record j | .run j => j = i
  | .refresh j available => j = i ∧ available = true
  | .commit | .bump | .ack => False

/-- The worker can still serve a query: going on by itself, it answers one more. -/
def Serves (policy : RefreshPolicy) (i : ι) (pool : Pool ι) : Prop :=
  ∃ next, Reaches (Steps policy) (fun event _ => Own i event) pool next ∧
    pool.served.length < next.served.length

/-- No worker is lost: a refresh at a moment when the catalogue can be attached attaches
it, a query that is ready runs on a view that is current for it, and every worker can
serve again. -/
structure Serving (policy : RefreshPolicy) (pool : Pool ι) : Prop where
  refreshes : ∀ i floor next, (pool.worker i).phase = .refreshing floor →
    Steps policy (.refresh i true) pool next →
    (next.worker i).phase = .attached floor ∧ (next.worker i).snapshot = some pool.commits ∧
      floor ≤ pool.commits
  runs : ∀ i floor next, (pool.worker i).phase = .ready floor → Steps policy (.run i) pool next →
    ∃ seen, next.served = pool.served ++ [⟨floor, seen⟩] ∧ floor ≤ seen
  revives : ∀ i, Serves policy i pool

/-- No refresh meets a catalogue that cannot be attached. -/
def Attachable : Event ι → Prop
  | .refresh _ available => available = true
  | _ => True

/-- Views are current when recorded, and no refresh meets a catalogue that cannot be
attached. -/
def Uninterrupted (policy : RefreshPolicy) (event : Event ι) (pool : Pool ι) : Prop :=
  Current policy event pool ∧ Attachable event

omit [DecidableEq ι] in
instance (event : Event ι) : Decidable (Attachable event) :=
  match event with
  | .refresh _ available => inferInstanceAs (Decidable (available = true))
  | .commit | .bump | .ack | .take _ | .compare .. | .record _ | .run _ => isTrue trivial

instance (policy : RefreshPolicy) (event : Event ι) (pool : Pool ι) :
    Decidable (Uninterrupted policy event pool) :=
  inferInstanceAs (Decidable (_ ∧ _))

variable {policy : RefreshPolicy} {pool next : Pool ι} {i : ι}

@[simp] theorem setWorker_self (worker : Worker) : (pool.setWorker i worker).worker i = worker :=
  Function.update_self ..

theorem setWorker_other {j : ι} (other : j ≠ i) (worker : Worker) :
    (pool.setWorker i worker).worker j = pool.worker j := Function.update_of_ne other ..

/-- Every worker is attached. -/
def Attached (pool : Pool ι) : Prop := ∀ i, (pool.worker i).snapshot ≠ none

theorem Attached.setWorker (attached : pool.Attached) (worker : Worker)
    (view : worker.snapshot ≠ none) : (pool.setWorker i worker).Attached := by
  intro j
  by_cases same : j = i
  · rw [same, setWorker_self]
    exact view
  · rw [setWorker_other same]
    exact attached j

/-- Only a refresh that cannot attach takes a view away. -/
theorem Attached.step {event : Event ι} (attached : pool.Attached)
    (steps : Steps policy event pool next) (kept : Attachable event) :
    next.Attached := by
  have did := did_of_steps steps
  cases event with
  | commit | bump | ack =>
    obtain ⟨-, rfl⟩ := did
    exact attached
  | take i =>
    subst did
    exact attached.setWorker _ (attached i)
  | compare i aged =>
    obtain ⟨floor, taken, rfl | ⟨-, -, rfl⟩⟩ := did
    · exact attached.setWorker _ (attached i)
    · exact attached.setWorker _ (attached i)
  | refresh i available =>
    obtain ⟨seen, view⟩ := Option.ne_none_iff_exists'.mp (attached i)
    obtain rfl : available = true := kept
    cases phase : (pool.worker i).phase <;>
      simp only [Steps, Pool.step, phase, view, reattached, if_true] at steps <;> cases steps
    exact attached.setWorker _ (by simp)
  | record i =>
    obtain ⟨floor, phase, lastGen, -, rfl⟩ := did
    exact attached.setWorker _ (attached i)
  | run i =>
    obtain ⟨floor, ready, served, rfl, -⟩ := did
    exact Attached.setWorker attached _ (attached i)

theorem refresh_attached {floor : Nat} (attached : pool.Attached)
    (phase : (pool.worker i).phase = .refreshing floor) :
    Steps policy (.refresh i true) pool (pool.setWorker i
      { pool.worker i with snapshot := some pool.commits, phase := .attached floor }) := by
  obtain ⟨seen, view⟩ := Option.ne_none_iff_exists'.mp (attached i)
  simp [Steps, Pool.step, phase, view, reattached]

/-- The pool once worker `i` has answered a query that is ready. -/
def answered (pool : Pool ι) (i : ι) (query : Served) : Pool ι :=
  { pool with served := pool.served ++ [query] }.setWorker i { pool.worker i with phase := .idle }

theorem run_attached {floor seen : Nat} (phase : (pool.worker i).phase = .ready floor)
    (view : (pool.worker i).snapshot = some seen) :
    Steps policy (.run i) pool (pool.answered i ⟨floor, seen⟩) := by
  simp [Steps, Pool.step, phase, view, answered]

/-- A step of the worker's own brings it nearer to its answer. -/
theorem Serves.before {event : Event ι} (own : Own i event) (steps : Steps policy event pool next)
    (same : next.served = pool.served) (serves : Serves policy i next) : Serves policy i pool := by
  obtain ⟨last, run, more⟩ := serves
  exact ⟨last, Relation.ReflTransGen.head ⟨event, own, steps⟩ run, same ▸ more⟩

theorem serves_ready {floor : Nat} (attached : pool.Attached)
    (phase : (pool.worker i).phase = .ready floor) : Serves policy i pool := by
  obtain ⟨seen, view⟩ := Option.ne_none_iff_exists'.mp (attached i)
  refine ⟨_, Reaches.snoc (Reaches.refl pool) (run_attached phase view) (show Own i (.run i) from rfl), ?_⟩
  simp [answered, Pool.setWorker]

theorem serves_attached {floor : Nat} (attached : pool.Attached)
    (phase : (pool.worker i).phase = .attached floor) : Serves policy i pool := by
  obtain ⟨lastGen, step⟩ : ∃ lastGen, Steps policy (.record i) pool
      (pool.setWorker i { pool.worker i with phase := .ready floor, lastGen }) := by
    cases policy with
    | always => exact ⟨(pool.worker i).lastGen, by simp only [Steps, Pool.step, phase]⟩
    | onWrite => exact ⟨pool.writeGen, by simp only [Steps, Pool.step, phase]⟩
  exact Serves.before (show Own i (.record i) from rfl) step rfl
    (serves_ready (attached.step step trivial) (congrArg Worker.phase (setWorker_self _)))

theorem serves_refreshing {floor : Nat} (attached : pool.Attached)
    (phase : (pool.worker i).phase = .refreshing floor) : Serves policy i pool := by
  have step : Steps policy (.refresh i true) pool _ := refresh_attached attached phase
  exact Serves.before (show Own i (.refresh i true) from ⟨rfl, rfl⟩) step rfl
    (serves_attached (attached.step step rfl) (congrArg Worker.phase (setWorker_self _)))

theorem serves_taken {floor : Nat} (attached : pool.Attached)
    (phase : (pool.worker i).phase = .taken floor) : Serves policy i pool := by
  have step : Steps policy (.compare i true) pool
      (pool.setWorker i { pool.worker i with phase := .refreshing floor }) := by
    cases policy <;> simp [Steps, Pool.step, phase]
  exact Serves.before (show Own i (.compare i true) from rfl) step rfl
    (serves_refreshing (attached.step step trivial) (congrArg Worker.phase (setWorker_self _)))

/-- From wherever it is, an attached worker gets to its answer. -/
theorem serves_of_attached (attached : pool.Attached) : Serves policy i pool := by
  cases phase : (pool.worker i).phase with
  | ready floor => exact serves_ready attached phase
  | attached floor => exact serves_attached attached phase
  | refreshing floor => exact serves_refreshing attached phase
  | taken floor => exact serves_taken attached phase
  | idle =>
    have step : Steps policy (.take i) pool
        (pool.setWorker i { pool.worker i with phase := .taken pool.acked }) := by
      simp [Steps, Pool.step, phase]
    exact Serves.before (show Own i (.take i) from rfl) step rfl
      (serves_taken (attached.step step trivial) (congrArg Worker.phase (setWorker_self _)))

/-- Attached workers whose views are in order serve. -/
theorem serving_of_attached (sound : pool.Sound policy) (attached : pool.Attached) :
    pool.Serving policy where
  revives _ := serves_of_attached attached
  refreshes i floor next phase steps := by
    have floors := sound.floors i
    simp only [Worker.Floors, phase] at floors
    have attach : Steps policy (.refresh i true) pool _ := refresh_attached attached phase
    have same := attach.symm.trans steps
    obtain rfl := Option.some.inj same
    simpa using floors.trans (sound.acked_le.trans sound.announced_le)
  runs i floor next phase steps := by
    obtain ⟨seen, view⟩ := Option.ne_none_iff_exists'.mp (attached i)
    have floors := sound.floors i
    simp only [Worker.Floors, phase] at floors
    have answer : Steps policy (.run i) pool _ := run_attached phase view
    have same := answer.symm.trans steps
    obtain rfl := Option.some.inj same
    exact ⟨seen, rfl, floors seen view⟩

/-- In a run in which no refresh meets a catalogue that cannot be attached, no worker
is lost. -/
theorem workers_survive (policy : RefreshPolicy) (commits generation : Nat) (pool : Pool ι)
    (run : Reaches (Steps policy) (Uninterrupted policy) (start commits generation) pool) :
    pool.Serving policy := by
  have sound : pool.Sound policy := run.invariant
    (fun _ _ _ sound allowed steps => Sound.step sound allowed.1 steps)
    (start_sound commits generation)
  have attached : pool.Attached := run.invariant
    (fun _ _ _ attached allowed steps => Attached.step attached steps allowed.2)
    (fun _ view => by cases view)
  exact serving_of_attached sound attached

theorem workers_survive_writeThenRead :
    ∃ pool : Pool Unit, pool.served = [⟨1, 1⟩] ∧ pool.Serving .onWrite := by
  obtain ⟨pool, followed, served⟩ : ∃ pool : Pool Unit,
      Reaches.follow (step .onWrite) (Uninterrupted .onWrite) writeThenRead (start 0 0) = some pool ∧
        pool.served = [⟨1, 1⟩] := ⟨_, rfl, rfl⟩
  have run : Reaches (Steps .onWrite) (Uninterrupted .onWrite) (start 0 0) pool :=
    Reaches.of_follow followed
  exact ⟨pool, served, workers_survive .onWrite 0 0 pool run⟩

/-! ### After a failed attach -/

/-- A worker that has lost its view stays without one. -/
theorem detached_stays {event : Event ι} (lost : (pool.worker i).snapshot = none)
    (steps : Steps policy event pool next) : (next.worker i).snapshot = none := by
  have elsewhere : ∀ {pool : Pool ι} {j : ι} {worker : Worker}, (pool.worker i).snapshot = none →
      (j = i → worker.snapshot = none) → ((pool.setWorker j worker).worker i).snapshot = none := by
    intro pool j worker lost own
    by_cases same : i = j
    · subst same
      rw [setWorker_self]
      exact own rfl
    · rw [setWorker_other same]
      exact lost
  have did := did_of_steps steps
  cases event with
  | commit | bump | ack =>
    obtain ⟨-, rfl⟩ := did
    exact lost
  | take j =>
    subst did
    exact elsewhere lost fun same => same ▸ lost
  | compare j aged =>
    obtain ⟨floor, -, rfl | ⟨-, -, rfl⟩⟩ := did
    · exact elsewhere lost fun same => same ▸ lost
    · exact elsewhere lost fun same => same ▸ lost
  | refresh j available =>
    by_cases same : j = i
    · -- DETACH fails on a connection without the catalogue, so ATTACH is not reached.
      subst same
      cases phase : (pool.worker j).phase <;>
        simp only [Steps, Pool.step, phase, lost, reattached] at steps <;> cases steps
      rw [setWorker_self]
    · obtain ⟨floor, -, rfl | rfl⟩ := did
      · exact elsewhere lost fun own => absurd own same
      · exact elsewhere lost fun own => absurd own same
  | record j =>
    obtain ⟨floor, -, lastGen, -, rfl⟩ := did
    exact elsewhere lost fun same => same ▸ lost
  | run j =>
    obtain ⟨floor, -, served, rfl, -⟩ := did
    have still : (({ pool with served } : Pool ι).worker i).snapshot = none := lost
    exact elsewhere still fun same => same ▸ lost

theorem detached_unserved {event : Event ι} (own : Own i event)
    (lost : (pool.worker i).snapshot = none) (steps : Steps policy event pool next) :
    next.served = pool.served := by
  cases event with
  | commit | bump | ack => exact own.elim
  | take j | compare j aged | refresh j available | record j =>
    cases phase : (pool.worker j).phase <;> simp only [Steps, Pool.step, phase] at steps <;>
      cases steps
    rfl
  | run j =>
    obtain rfl : j = i := own
    cases phase : (pool.worker j).phase <;> simp only [Steps, Pool.step, phase, lost] at steps <;>
      cases steps
    rfl

/-- A detached worker answers no query, however long and at whatever moments it runs. -/
theorem detached_never_serves (lost : (pool.worker i).snapshot = none) :
    ¬ Serves policy i pool := by
  rintro ⟨next, run, more⟩
  have kept : (next.worker i).snapshot = none ∧ next.served = pool.served := by
    clear more
    induction run with
    | refl => exact ⟨lost, rfl⟩
    | tail _ taken ih =>
      obtain ⟨event, own, steps⟩ := taken
      exact ⟨detached_stays ih.1 steps, (detached_unserved own ih.1 steps).trans ih.2⟩
  exact absurd (congrArg List.length kept.2) (Nat.ne_of_gt more)

/-- A write, and a query whose refresh meets a locked catalogue. -/
def refreshWhileLocked : List (Event Unit) :=
  [.commit, .bump, .ack, .take (), .compare () false, .refresh () false]

/-- One failed attach and the worker never serves again. -/
theorem worker_lost :
    ¬ ∀ (policy : RefreshPolicy) (commits generation : Nat) (pool : Pool Unit),
      Reaches (Steps policy) (fun _ _ => True) (start commits generation) pool →
        pool.Serving policy := by
  intro serving
  obtain ⟨pool, followed, lost⟩ : ∃ pool : Pool Unit,
      Reaches.follow (step .onWrite) (fun _ _ => True) refreshWhileLocked (start 0 0) = some pool ∧
        (pool.worker ()).snapshot = none := ⟨_, rfl, rfl⟩
  have serves := (serving .onWrite 0 0 pool (Reaches.of_follow followed)).revives ()
  exact detached_never_serves lost serves

end ConsumerEngine.Execution.Pool
