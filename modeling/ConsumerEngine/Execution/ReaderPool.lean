import Mathlib.Order.Nat
import ConsumerEngine.Foundation.Runs

/-! Read-your-writes across the reader pool.

The writer commits, bumps the shared generation and acknowledges. A worker compares
the generation with the one it recorded, re-attaches if they differ, and records the
generation by loading it again: a bump that falls between the attach and this second
load is recorded although the attached view does not show the write.
-/

set_option autoImplicit false

namespace ConsumerEngine.Execution

open ConsumerEngine.Foundation

/-- `RefreshPolicy`. The interval is represented by the age check it decides. -/
inductive RefreshPolicy where
  | always
  | onWrite
  deriving DecidableEq, Repr

/-- Where a worker is in serving a query. `floor` is the number of commits that were
acknowledged when the query was taken. -/
inductive Phase where
  | idle
  | taken (floor : Nat)
  | refreshing (floor : Nat)
  | attached (floor : Nat)
  | ready (floor : Nat)
  deriving DecidableEq, Repr

/-- The local variables of `worker_loop`. `snapshot` is the number of commits the
attached view shows; it is `none` while nothing is attached. -/
structure Worker where
  phase : Phase
  snapshot : Option Nat
  lastGen : Nat
  deriving DecidableEq, Repr

/-- The commits a worker's view must show, by where the worker is. -/
def Worker.Floors (acked : Nat) (worker : Worker) : Prop :=
  match worker.phase with
  | .idle => True
  | .taken floor | .refreshing floor => floor ≤ acked
  | .attached floor | .ready floor => ∀ seen, worker.snapshot = some seen → floor ≤ seen

/-- A worker that has recorded the current generation has a view that shows it. -/
def Worker.Recorded (policy : RefreshPolicy) (writeGen announced : Nat) (worker : Worker) : Prop :=
  policy = .onWrite → worker.lastGen ≤ writeGen ∧
    (worker.lastGen = writeGen → ∀ seen, worker.snapshot = some seen → announced ≤ seen)

inductive Writing where
  | idle
  | committed
  | bumped
  deriving DecidableEq, Repr

/-- A query that ran: the commits acknowledged when it was taken, and those it saw. -/
structure Served where
  floor : Nat
  seen : Nat
  deriving DecidableEq, Repr

/-- The shared state. `announced` is the number of commits at the last bump. -/
structure Pool (ι : Type) where
  commits : Nat
  writing : Writing
  writeGen : Nat
  announced : Nat
  acked : Nat
  worker : ι → Worker
  served : List Served

/-- The atomic steps. The parameters are what the environment decides: whether the
attach is older than the interval, and whether the catalogue can be attached. -/
inductive Event (ι : Type) where
  | commit
  | bump
  | ack
  | take (i : ι)
  | compare (i : ι) (aged : Bool)
  | refresh (i : ι) (available : Bool)
  | record (i : ι)
  | run (i : ι)

namespace Pool

variable {ι : Type}

/-- Readers attached before the first query; each has recorded generation 0. -/
def start (commits generation : Nat) : Pool ι where
  commits := commits
  writing := .idle
  writeGen := generation
  announced := commits
  acked := commits
  worker := fun _ => ⟨.idle, some commits, 0⟩
  served := []

variable [DecidableEq ι]

def setWorker (pool : Pool ι) (i : ι) (worker : Worker) : Pool ι :=
  { pool with worker := Function.update pool.worker i worker }

/-- `DETACH` then `ATTACH`: the view after it, and whether both succeeded. -/
def reattached (pool : Pool ι) (available : Bool) : Option Nat → Option Nat × Bool
  | none => (none, false)
  | some _ => if available then (some pool.commits, true) else (none, false)

/-- One atomic step, if it is enabled. A write commits one or more statements before
it bumps the generation, a `u64`. -/
def step (policy : RefreshPolicy) (pool : Pool ι) : Event ι → Option (Pool ι)
  | .commit =>
      if pool.writing = .bumped then none
      else some { pool with commits := pool.commits + 1, writing := .committed }
  | .bump =>
      if pool.writing = .committed then some { pool with
        writing := .bumped
        writeGen := (pool.writeGen + 1) % UInt64.size
        announced := pool.commits }
      else none
  | .ack =>
      if pool.writing = .bumped then some { pool with writing := .idle, acked := pool.commits }
      else none
  | .take i =>
      let worker := pool.worker i
      match worker.phase with
      | .idle => some (pool.setWorker i { worker with phase := .taken pool.acked })
      | _ => none
  | .compare i aged =>
      let worker := pool.worker i
      match worker.phase with
      | .taken floor =>
          let needsRefresh := match policy with
            | .always => true
            | .onWrite => decide (pool.writeGen ≠ worker.lastGen) || aged
          some (pool.setWorker i { worker with
            phase := if needsRefresh then .refreshing floor else .ready floor })
      | _ => none
  | .refresh i available =>
      let worker := pool.worker i
      match worker.phase with
      | .refreshing floor =>
          let (snapshot, succeeded) := pool.reattached available worker.snapshot
          some (pool.setWorker i { worker with
            snapshot
            phase := if succeeded then .attached floor else .idle })
      | _ => none
  | .record i =>
      let worker := pool.worker i
      match worker.phase with
      | .attached floor =>
          let lastGen := match policy with
            | .always => worker.lastGen
            | .onWrite => pool.writeGen
          some (pool.setWorker i { worker with phase := .ready floor, lastGen })
      | _ => none
  | .run i =>
      let worker := pool.worker i
      match worker.phase, worker.snapshot with
      | .ready floor, some seen =>
          let answered : Pool ι := { pool with served := pool.served ++ [⟨floor, seen⟩] }
          some (answered.setWorker i { worker with phase := .idle })
      | .ready _, none => some (pool.setWorker i { worker with phase := .idle })
      | _, _ => none

/-- The pool takes a step. -/
def Steps (policy : RefreshPolicy) (event : Event ι) (pool next : Pool ι) : Prop :=
  pool.step policy event = some next

/-- A worker records only a generation whose commits its view shows, and the counter
does not wrap around. -/
def Current (policy : RefreshPolicy) : Event ι → Pool ι → Prop
  | .bump, pool => pool.writeGen + 1 < UInt64.size
  | .record i, pool => policy = .onWrite →
      ∀ seen, (pool.worker i).snapshot = some seen → pool.announced ≤ seen
  | _, _ => True

/-! ### The invariant -/

structure Sound (policy : RefreshPolicy) (pool : Pool ι) : Prop where
  acked_le : pool.acked ≤ pool.announced
  announced_le : pool.announced ≤ pool.commits
  bumped : pool.writing = .bumped → pool.announced = pool.commits
  floors : ∀ i, (pool.worker i).Floors pool.acked
  recorded : ∀ i, (pool.worker i).Recorded policy pool.writeGen pool.announced
  served : ∀ query ∈ pool.served, query.floor ≤ query.seen

variable {policy : RefreshPolicy} {pool next : Pool ι}

omit [DecidableEq ι] in
theorem start_sound (commits generation : Nat) :
    (start commits generation : Pool ι).Sound policy where
  acked_le := Nat.le_refl _
  announced_le := Nat.le_refl _
  bumped _ := rfl
  floors _ := trivial
  recorded _ _ := ⟨Nat.zero_le _, fun _ seen shown => by cases shown; exact Nat.le_refl _⟩
  served query member := absurd member List.not_mem_nil

/-- Replacing one worker by one in order keeps the pool in order. -/
theorem Sound.setWorker (sound : pool.Sound policy) (i : ι) {worker : Worker}
    (floors : worker.Floors pool.acked)
    (recorded : worker.Recorded policy pool.writeGen pool.announced) :
    (pool.setWorker i worker).Sound policy where
  acked_le := sound.acked_le
  announced_le := sound.announced_le
  bumped := sound.bumped
  floors j := by
    by_cases same : j = i
    · subst same
      simpa [Pool.setWorker] using floors
    · simpa [Pool.setWorker, Function.update_of_ne same] using sound.floors j
  recorded j := by
    by_cases same : j = i
    · subst same
      simpa [Pool.setWorker] using recorded
    · simpa [Pool.setWorker, Function.update_of_ne same] using sound.recorded j
  served := sound.served

/-- What a step does to the pool. -/
def Did (policy : RefreshPolicy) (pool next : Pool ι) : Event ι → Prop
  | .commit => pool.writing ≠ .bumped ∧
      next = { pool with commits := pool.commits + 1, writing := .committed }
  | .bump => pool.writing = .committed ∧ next = { pool with
      writing := .bumped
      writeGen := (pool.writeGen + 1) % UInt64.size
      announced := pool.commits }
  | .ack => pool.writing = .bumped ∧
      next = { pool with writing := .idle, acked := pool.commits }
  | .take i => next = pool.setWorker i { pool.worker i with phase := .taken pool.acked }
  | .compare i _ => ∃ floor, (pool.worker i).phase = .taken floor ∧
      (next = pool.setWorker i { pool.worker i with phase := .refreshing floor } ∨
        policy = .onWrite ∧ (pool.worker i).lastGen = pool.writeGen ∧
          next = pool.setWorker i { pool.worker i with phase := .ready floor })
  | .refresh i _ => ∃ floor, (pool.worker i).phase = .refreshing floor ∧
      (next = pool.setWorker i
          { pool.worker i with snapshot := some pool.commits, phase := .attached floor } ∨
        next = pool.setWorker i { pool.worker i with snapshot := none, phase := .idle })
  | .record i => ∃ floor, (pool.worker i).phase = .attached floor ∧
      ∃ lastGen, (policy = .onWrite → lastGen = pool.writeGen) ∧
        next = pool.setWorker i { pool.worker i with phase := .ready floor, lastGen }
  | .run i => ∃ floor, (pool.worker i).phase = .ready floor ∧
      ∃ served, next = { pool with served }.setWorker i { pool.worker i with phase := .idle } ∧
        ∀ query ∈ served, query ∈ pool.served ∨
          (pool.worker i).snapshot = some query.seen ∧ query.floor = floor

theorem did_of_steps {event : Event ι} (steps : Steps policy event pool next) :
    Did policy pool next event := by
  unfold Steps at steps
  cases event with
  | commit =>
    simp only [step, Option.ite_none_left_eq_some, Option.some.injEq] at steps
    exact ⟨steps.1, steps.2.symm⟩
  | bump =>
    simp only [step, Option.ite_none_right_eq_some, Option.some.injEq] at steps
    exact ⟨steps.1, steps.2.symm⟩
  | ack =>
    simp only [step, Option.ite_none_right_eq_some, Option.some.injEq] at steps
    exact ⟨steps.1, steps.2.symm⟩
  | take i =>
    cases phase : (pool.worker i).phase <;> simp only [step, phase] at steps <;> cases steps
    rfl
  | compare i aged =>
    cases phase : (pool.worker i).phase <;> simp only [step, phase] at steps <;> cases steps
    next floor =>
    refine ⟨floor, phase, ?_⟩
    cases policy with
    | always => exact Or.inl rfl
    | onWrite =>
      by_cases same : pool.writeGen = (pool.worker i).lastGen
      · cases aged with
        | true => exact Or.inl (by simp)
        | false => exact Or.inr ⟨rfl, same.symm, by simp [same]⟩
      · exact Or.inl (by simp [same])
  | refresh i available =>
    cases phase : (pool.worker i).phase <;> simp only [step, phase] at steps <;> cases steps
    next floor =>
    refine ⟨floor, phase, ?_⟩
    cases (pool.worker i).snapshot with
    | none => exact Or.inr rfl
    | some seen =>
      cases available with
      | true => exact Or.inl rfl
      | false => exact Or.inr rfl
  | record i =>
    cases phase : (pool.worker i).phase <;> simp only [step, phase] at steps <;> cases steps
    next floor =>
    exact ⟨floor, phase, _, fun onWrite => by rw [onWrite], rfl⟩
  | run i =>
    cases phase : (pool.worker i).phase <;> simp only [step, phase] at steps <;> try cases steps
    next floor =>
    refine ⟨floor, phase, ?_⟩
    cases shown : (pool.worker i).snapshot with
    | none =>
      simp only [shown, Option.some.injEq] at steps
      refine ⟨pool.served, ?_, fun query member => Or.inl member⟩
      rw [← steps]
      simp only [shown]
    | some seen =>
      simp only [shown, Option.some.injEq] at steps
      refine ⟨pool.served ++ [⟨floor, seen⟩], ?_, fun query member => ?_⟩
      · rw [← steps]
        simp only [shown]
      · rcases List.mem_append.mp member with old | new
        · exact Or.inl old
        · cases List.mem_singleton.mp new
          exact Or.inr ⟨rfl, rfl⟩

/-- Every step keeps the pool in order if workers record generations their views show. -/
theorem Sound.step {event : Event ι} (sound : pool.Sound policy)
    (current : Current policy event pool) (steps : Steps policy event pool next) :
    next.Sound policy := by
  have did := did_of_steps steps
  clear steps
  cases event with
  | commit =>
    obtain ⟨-, rfl⟩ := did
    exact { sound with
      announced_le := sound.announced_le.trans (Nat.le_succ _)
      bumped := fun bumped => by cases bumped }
  | bump =>
    obtain ⟨-, rfl⟩ := did
    have unwrapped : (pool.writeGen + 1) % UInt64.size = pool.writeGen + 1 := Nat.mod_eq_of_lt current
    refine { sound with
      acked_le := sound.acked_le.trans sound.announced_le
      announced_le := Nat.le_refl _
      bumped := fun _ => rfl
      recorded := fun i onWrite => ?_ }
    -- the new generation is ahead of every recorded one
    have behind := (sound.recorded i onWrite).1
    simp only [unwrapped]
    exact ⟨by omega, fun same => by omega⟩
  | ack =>
    obtain ⟨bumped, rfl⟩ := did
    have announced := sound.bumped bumped
    refine { sound with
      acked_le := announced.ge
      bumped := fun bumped => by cases bumped
      floors := fun i => ?_ }
    have below := sound.floors i
    have more := sound.acked_le.trans sound.announced_le
    unfold Worker.Floors at below ⊢
    cases phase : (pool.worker i).phase <;> simp only [phase] at below ⊢
    case taken => exact below.trans more
    case refreshing => exact below.trans more
    case attached => exact below
    case ready => exact below
  | take i =>
    subst did
    exact sound.setWorker i (Nat.le_refl _) (sound.recorded i)
  | compare i aged =>
    obtain ⟨floor, taken, rfl | ⟨onWrite, same, rfl⟩⟩ := did
    · refine sound.setWorker i ?_ (sound.recorded i)
      have below := sound.floors i
      simpa only [Worker.Floors, taken] using below
    · refine sound.setWorker i (fun seen shown => ?_) (sound.recorded i)
      -- the recorded generation is current, so the view shows every acknowledged write
      have below : floor ≤ pool.acked := by
        have floors := sound.floors i
        simpa only [Worker.Floors, taken] using floors
      have shows := (sound.recorded i onWrite).2 same seen shown
      exact below.trans (sound.acked_le.trans shows)
  | refresh i available =>
    obtain ⟨floor, refreshing, rfl | rfl⟩ := did
    · have below : floor ≤ pool.acked := by
        have floors := sound.floors i
        simpa only [Worker.Floors, refreshing] using floors
      refine sound.setWorker i (fun seen shown => ?_) fun onWrite => ?_
      · cases shown
        exact below.trans (sound.acked_le.trans sound.announced_le)
      · refine ⟨(sound.recorded i onWrite).1, fun _ seen shown => ?_⟩
        cases shown
        exact sound.announced_le
    · refine sound.setWorker i trivial fun onWrite => ?_
      exact ⟨(sound.recorded i onWrite).1, fun _ seen shown => by cases shown⟩
  | record i =>
    obtain ⟨floor, attached, lastGen, loaded, rfl⟩ := did
    refine sound.setWorker i ?_ fun onWrite => ?_
    · have floors := sound.floors i
      simpa only [Worker.Floors, attached] using floors
    · exact ⟨(loaded onWrite).le, fun _ seen shown => current onWrite seen shown⟩
  | run i =>
    obtain ⟨floor, ready, served, rfl, answered⟩ := did
    have floors := sound.floors i
    have kept : Sound policy { pool with served } := { sound with
      served := fun query member => by
        rcases answered query member with old | ⟨seen, at_floor⟩
        · exact sound.served query old
        · rw [at_floor]
          simp only [Worker.Floors, ready] at floors
          exact floors query.seen seen }
    exact kept.setWorker i trivial (sound.recorded i)

/-- Every query that ran saw the commits acknowledged when it was taken, if no worker
recorded a generation whose commits its view does not show. -/
theorem served_of_current (policy : RefreshPolicy) (commits generation : Nat) (pool : Pool ι)
    (run : Reaches (Steps policy) (Current policy) (start commits generation) pool) :
    ∀ query ∈ pool.served, query.floor ≤ query.seen :=
  have sound : pool.Sound policy := run.invariant
    (fun _ _ _ sound current steps => Sound.step sound current steps) (start_sound commits generation)
  sound.served

instance (policy : RefreshPolicy) (event : Event ι) (pool : Pool ι) :
    Decidable (Current policy event pool) :=
  match event with
  | .bump => inferInstanceAs (Decidable (pool.writeGen + 1 < UInt64.size))
  | .record i =>
      match shown : (pool.worker i).snapshot with
      | none => isTrue fun _ seen some => by rw [shown] at some; cases some
      | some seen =>
          decidable_of_iff (policy = .onWrite → pool.announced ≤ seen)
            ⟨fun shows onWrite other same => by
              cases shown.symm.trans same
              exact shows onWrite, fun shows onWrite => shows onWrite seen shown⟩
  | .commit | .ack | .take _ | .compare .. | .refresh .. | .run _ => isTrue trivial

/-- One write, then one query that finds the generation advanced. -/
def writeThenRead : List (Event Unit) :=
  [.commit, .bump, .ack, .take (), .compare () false, .refresh () true, .record (), .run ()]

theorem served_of_current_writeThenRead :
    ∃ pool : Pool Unit, Reaches (Steps .onWrite) (Current .onWrite) (start 0 0) pool ∧
      pool.served = [⟨1, 1⟩] ∧ ∀ query ∈ pool.served, query.floor ≤ query.seen := by
  obtain ⟨pool, followed, served⟩ : ∃ pool : Pool Unit,
      Reaches.follow (step .onWrite) (Current .onWrite) writeThenRead (start 0 0) = some pool ∧
        pool.served = [⟨1, 1⟩] := ⟨_, rfl, rfl⟩
  have run : Reaches (Steps .onWrite) (Current .onWrite) (start 0 0) pool :=
    Reaches.of_follow followed
  exact ⟨pool, run, served, served_of_current .onWrite 0 0 pool run⟩

/-- The second write is committed and bumped between the attach and the second load. -/
def writeWhileAttached : List (Event Unit) :=
  [.commit, .bump, .ack, .take (), .compare () false, .refresh () true, .commit, .bump, .record (),
    .run (), .ack, .take (), .compare () false, .run ()]

/-- The query taken after the second write was acknowledged does not see it. -/
theorem acknowledged_write_unseen :
    ∃ pool : Pool Unit, Reaches (Steps .onWrite) (fun _ _ => True) (start 0 0) pool ∧
      ∃ query ∈ pool.served, ¬ query.floor ≤ query.seen := by
  obtain ⟨pool, followed, served⟩ : ∃ pool : Pool Unit,
      Reaches.follow (step .onWrite) (fun _ _ => True) writeWhileAttached (start 0 0) = some pool ∧
        pool.served = [⟨1, 1⟩, ⟨2, 1⟩] := ⟨_, rfl, rfl⟩
  refine ⟨pool, Reaches.of_follow followed, ⟨2, 1⟩, ?_, by decide⟩
  rw [served]
  exact List.mem_cons_of_mem _ List.mem_cons_self

end Pool

end ConsumerEngine.Execution
