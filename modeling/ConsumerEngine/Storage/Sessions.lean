import ConsumerEngine.Storage.Writer

/-! What a session of statements does to a writer.

Every operation above is a few statements in a row, so its meaning is the fold of
their effects over the statements that got through. The lemmas here say so once.
-/

set_option autoImplicit false

namespace ConsumerEngine.Storage

open ConsumerEngine.Core ConsumerEngine.Foundation

/-- The writer after its next statement was sent, whatever came of it. -/
def Writer.sent (writer : Writer) : Writer := { writer with issued := writer.issued + 1 }

/-- The writer after an accepted statement. -/
def Writer.accept (writer : Writer) (statement : Statement) (catalog : Catalog) : Writer :=
  { writer.sent with durable := ⟨catalog, writer.durable.history ++ [statement]⟩ }

theorem execute_rejected {writer : Writer} {statement : Statement}
    (rejected : writer.duck.rejects writer.issued = true) :
    execute statement writer = (.error (.storage "statement failed"), writer.sent) := by
  simp [execute, rejected, Writer.sent]

theorem execute_accepted {writer : Writer} {statement : Statement} {affected : Nat}
    {catalog : Catalog} (taken : writer.duck.rejects writer.issued = false)
    (applied : statement.apply writer.duck writer.durable.catalog = .ok (affected, catalog)) :
    execute statement writer = (.ok affected, writer.accept statement catalog) := by
  simp [execute, taken, applied, Writer.sent, Writer.accept]

theorem execute_failed {writer : Writer} {statement : Statement} {message : String}
    (failed : statement.apply writer.duck writer.durable.catalog = .error message) :
    ∃ failure, execute statement writer = (.error (.storage failure), writer.sent) := by
  unfold execute
  cases rejected : writer.duck.rejects writer.issued with
  | true => exact ⟨_, by simp [Writer.sent]; rfl⟩
  | false => exact ⟨message, by simp [failed, Writer.sent]⟩

/-- A read that answered changed nothing but the count. -/
theorem read_eq_ok {α : Type} {query : Catalog → Except String α} {writer after : Writer} {value : α}
    (ran : read query writer = (.ok value, after)) :
    query writer.durable.catalog = .ok value ∧ after = writer.sent := by
  unfold read at ran
  cases rejected : writer.duck.rejects writer.issued with
  | true => simp [rejected] at ran
  | false =>
    simp only [rejected, Bool.false_eq_true, if_false] at ran
    cases answer : query writer.durable.catalog with
    | error message => simp [answer] at ran
    | ok found =>
      simp only [answer] at ran
      cases ran
      exact ⟨rfl, rfl⟩

/-- Every statement either took effect whole or changed nothing but the count. -/
theorem execute_cases (statement : Statement) (writer : Writer) :
    (∃ failure, execute statement writer = (.error (.storage failure), writer.sent)) ∨
    ∃ affected catalog, writer.duck.rejects writer.issued = false ∧
      statement.apply writer.duck writer.durable.catalog = .ok (affected, catalog) ∧
      execute statement writer = (.ok affected, writer.accept statement catalog) := by
  cases rejected : writer.duck.rejects writer.issued with
  | true => exact Or.inl ⟨_, execute_rejected rejected⟩
  | false =>
    cases applied : statement.apply writer.duck writer.durable.catalog with
    | error message => exact Or.inl (execute_failed applied)
    | ok result =>
      exact Or.inr ⟨result.1, result.2, rfl, rfl, execute_accepted rejected applied⟩

/-- What a run of `count` statements leaves: the accepted ones in the history, their
effects in the catalogue, and one more statement sent when one was refused. -/
def Writer.ran (writer : Writer) (count : Nat) (accepted : List Statement) (catalog : Catalog) :
    Writer :=
  { writer with
    issued := writer.issued + min (accepted.length + 1) count
    durable := ⟨catalog, writer.durable.history ++ accepted⟩ }

@[simp] theorem Writer.ran_catalog (writer : Writer) (count : Nat) (accepted : List Statement)
    (catalog : Catalog) : (writer.ran count accepted catalog).durable.catalog = catalog := rfl

section
variable {ι : Type} (invariant : Catalog → Prop) (send : ι → Statement)
  (effect : ι → Catalog → Catalog)

private theorem sendFrom_eq (items : List ι) (writer : Writer) (affected : Nat)
    (applies : ∀ item ∈ items, ∀ catalog, invariant catalog →
      (∃ changed, (send item).apply writer.duck catalog = .ok (changed, effect item catalog)) ∧
        invariant (effect item catalog))
    (start : invariant writer.durable.catalog) :
    ∃ outcome, executeFrom affected (items.map send) writer =
        (outcome, writer.ran items.length
          ((landed writer.duck.rejects writer.issued items).map send)
          ((landed writer.duck.rejects writer.issued items).foldl
            (fun catalog item => effect item catalog) writer.durable.catalog)) ∧
      (outcome.isOk = true ↔ landed writer.duck.rejects writer.issued items = items) := by
  induction items generalizing writer affected with
  | nil =>
    exact ⟨.ok affected, by simp [executeFrom, landed, Writer.ran],
      by simp [landed, Except.isOk, Except.toBool]⟩
  | cons item rest ih =>
    cases refused : writer.duck.rejects writer.issued with
    | true =>
      refine ⟨.error (.storage "statement failed"), ?_,
        by simp [landed, refused, Except.isOk, Except.toBool]⟩
      simp [executeFrom, Effect.bind_apply, execute_rejected refused, landed, refused, Writer.ran,
        Writer.sent]
    | false =>
      obtain ⟨⟨changed, applied⟩, holds⟩ := applies item (by simp) _ start
      obtain ⟨outcome, ranRest, complete⟩ :=
        ih (writer.accept (send item) (effect item writer.durable.catalog)) (affected + changed)
          (fun other member => applies other (List.mem_cons_of_mem _ member)) holds
      refine ⟨outcome, ?_, by
        simpa [landed, refused, Writer.accept, Writer.sent] using complete⟩
      simp only [List.map_cons, executeFrom, Effect.bind_apply, execute_accepted refused applied,
        ranRest]
      simp only [landed, refused, Writer.ran, Writer.accept, Writer.sent, List.length_map,
        List.append_assoc, List.cons_append, List.nil_append]
      simp only [Bool.false_eq_true, if_false, List.foldl_cons, List.map_cons, List.length_cons,
        Nat.add_min_add_right, Prod.mk.injEq, true_and]
      congr 1
      omega

/-- Statements that all apply in turn, run against a database that may refuse any of
them: the effects are those of the statements before the first refusal. -/
theorem executeAll_eq (items : List ι) (writer : Writer)
    (applies : ∀ item ∈ items, ∀ catalog, invariant catalog →
      (∃ changed, (send item).apply writer.duck catalog = .ok (changed, effect item catalog)) ∧
        invariant (effect item catalog))
    (start : invariant writer.durable.catalog) :
    ∃ outcome, executeAll (items.map send) writer =
        (outcome, writer.ran items.length
          ((landed writer.duck.rejects writer.issued items).map send)
          ((landed writer.duck.rejects writer.issued items).foldl
            (fun catalog item => effect item catalog) writer.durable.catalog)) ∧
      (outcome.isOk = true ↔ landed writer.duck.rejects writer.issued items = items) :=
  sendFrom_eq invariant send effect items writer 0 applies start

end

/-- A run of statements whose first one does not apply changes no table. -/
theorem executeAll_stuck {statement : Statement} (rest : List Statement) {writer : Writer}
    {message : String}
    (failed : statement.apply writer.duck writer.durable.catalog = .error message) :
    ∃ failure, executeAll (statement :: rest) writer = (.error (.storage failure), writer.sent) := by
  obtain ⟨failure, sent⟩ := execute_failed failed
  exact ⟨failure, Effect.bind_of_error sent⟩

/-! ### Runs that send a fixed list of statements -/

/-- None of the next `count` statements is refused. -/
def Writer.Clear (writer : Writer) (count : Nat) : Prop :=
  ∀ i < count, writer.duck.rejects (writer.issued + i) = false

instance (writer : Writer) (count : Nat) : Decidable (writer.Clear count) :=
  inferInstanceAs (Decidable (∀ i < count, writer.duck.rejects (writer.issued + i) = false))

/-- The writer after statements that were all accepted. -/
def Writer.advanced (writer : Writer) (statements : List Statement) (catalog : Catalog) : Writer :=
  { writer with
    issued := writer.issued + statements.length
    durable := ⟨catalog, writer.durable.history ++ statements⟩ }

/-- Everything but the catalogue, its history and the count of statements is as before. -/
structure Writer.SameHandle (before after : Writer) : Prop where
  duck : after.duck = before.duck
  rollbackTo : after.rollbackTo = before.rollbackTo
  tenant : after.tenant = before.tenant
  writeGen : after.writeGen = before.writeGen
  maintenanceAvailable : after.maintenanceAvailable = before.maintenanceAvailable

theorem Writer.SameHandle.refl (writer : Writer) : writer.SameHandle writer :=
  ⟨rfl, rfl, rfl, rfl, rfl⟩

theorem Writer.SameHandle.trans {first second third : Writer} (one : first.SameHandle second)
    (two : second.SameHandle third) : first.SameHandle third :=
  ⟨two.duck.trans one.duck, two.rollbackTo.trans one.rollbackTo, two.tenant.trans one.tenant,
    two.writeGen.trans one.writeGen, two.maintenanceAvailable.trans one.maintenanceAvailable⟩

@[simp] theorem Writer.advanced_catalog (writer : Writer) (statements : List Statement)
    (catalog : Catalog) : (writer.advanced statements catalog).durable.catalog = catalog := rfl

@[simp] theorem Writer.advanced_tenant (writer : Writer) (statements : List Statement)
    (catalog : Catalog) : (writer.advanced statements catalog).tenant = writer.tenant := rfl

@[simp] theorem Writer.advanced_duck (writer : Writer) (statements : List Statement)
    (catalog : Catalog) : (writer.advanced statements catalog).duck = writer.duck := rfl

@[simp] theorem Writer.advanced_issued (writer : Writer) (statements : List Statement)
    (catalog : Catalog) :
    (writer.advanced statements catalog).issued = writer.issued + statements.length := rfl

theorem Writer.sameHandle_advanced (writer : Writer) (statements : List Statement)
    (catalog : Catalog) : writer.SameHandle (writer.advanced statements catalog) :=
  ⟨rfl, rfl, rfl, rfl, rfl⟩

/-- A failure that leaves the handle as it was. -/
def Fails {α : Type} (act : Session α) (writer : Writer) : Prop :=
  ∃ failure reached, act writer = (.error failure, reached) ∧ writer.SameHandle reached

theorem Fails.bind {α β : Type} {act : Session α} {next : α → Session β} {writer : Writer}
    (head : Fails act writer) : Fails (act >>= next) writer := by
  obtain ⟨failure, reached, ran, same⟩ := head
  exact ⟨failure, reached, Effect.bind_of_error ran, same⟩

theorem Fails.execute {writer : Writer} {statement : Statement} {message : String}
    (failed : statement.apply writer.duck writer.durable.catalog = .error message) :
    Fails (execute statement) writer := by
  obtain ⟨failure, ran⟩ := execute_failed failed
  exact ⟨_, _, ran, ⟨rfl, rfl, rfl, rfl, rfl⟩⟩

/-- A run that returns and leaves `catalog`. -/
def Accepts {α : Type} (act : Session α) (writer : Writer) (catalog : Catalog) : Prop :=
  ∃ result after, act writer = (.ok result, after) ∧ after.duck = writer.duck ∧
    after.durable.catalog = catalog

theorem Fails.not_ok {α : Type} {act : Session α} {writer after : Writer} {result : α}
    (fails : Fails act writer) : act writer ≠ (.ok result, after) := by
  obtain ⟨failure, reached, ran, -⟩ := fails
  rw [ran]
  exact fun same => nomatch same

theorem Accepts.eq {α : Type} {act : Session α} {writer after : Writer} {catalog : Catalog}
    {outcome : Except Error α} (accepts : Accepts act writer catalog)
    (ran : act writer = (outcome, after)) :
    outcome.isOk = true ∧ after.duck = writer.duck ∧ after.durable.catalog = catalog := by
  obtain ⟨result, reached, returned, duck, left⟩ := accepts
  cases ran.symm.trans returned
  exact ⟨rfl, duck, left⟩

/-- A run that returns `result`, leaves `catalog` and keeps the handle. -/
def Leaves {α : Type} (act : Session α) (writer : Writer) (result : α) (catalog : Catalog) : Prop :=
  ∃ after, act writer = (.ok result, after) ∧ writer.SameHandle after ∧
    after.durable.catalog = catalog

namespace Leaves

variable {α β : Type} {act : Session α} {next : α → Session β} {writer : Writer} {result : α}
  {middle final : Catalog}

theorem pure (writer : Writer) (result : α) :
    Leaves (Pure.pure result) writer result writer.durable.catalog :=
  ⟨writer, rfl, Writer.SameHandle.refl writer, rfl⟩

theorem lift {check : Except Error α} (passed : check = .ok result) (writer : Writer) :
    Leaves (Effect.lift check) writer result writer.durable.catalog :=
  ⟨writer, by rw [Effect.lift_apply, passed], Writer.SameHandle.refl writer, rfl⟩

theorem execute {statement : Statement} {affected : Nat}
    (never : ∀ i, writer.duck.rejects i = false)
    (applied : statement.apply writer.duck writer.durable.catalog = .ok (affected, final)) :
    Leaves (execute statement) writer affected final :=
  ⟨_, execute_accepted (never _) applied, ⟨rfl, rfl, rfl, rfl, rfl⟩, rfl⟩

theorem read {query : Catalog → Except String α} (never : ∀ i, writer.duck.rejects i = false)
    (answered : query writer.durable.catalog = .ok result) :
    Leaves (read query) writer result writer.durable.catalog := by
  refine ⟨writer.sent, ?_, ⟨rfl, rfl, rfl, rfl, rfl⟩, rfl⟩
  simp [Storage.read, never writer.issued, answered, Writer.sent]

theorem bind {value : β} (head : Leaves act writer result middle)
    (tail : ∀ reached, writer.SameHandle reached → reached.durable.catalog = middle →
      Leaves (next result) reached value final) : Leaves (act >>= next) writer value final := by
  obtain ⟨reached, ran, same, left⟩ := head
  obtain ⟨after, rest, same', left'⟩ := tail reached same left
  exact ⟨after, (Effect.bind_of_ok ran).trans rest, same.trans same', left'⟩

theorem andPure (head : Leaves act writer result final) (value : β) :
    Leaves (act >>= fun _ => Pure.pure value) writer value final :=
  head.bind fun reached _ left => left ▸ pure reached value

/-- What follows a run decides whether the whole returns. -/
theorem bindFails (head : Leaves act writer result middle)
    (tail : ∀ reached, writer.SameHandle reached → reached.durable.catalog = middle →
      Fails (next result) reached) : Fails (act >>= next) writer := by
  obtain ⟨reached, ran, same, left⟩ := head
  obtain ⟨failure, after, rest, same'⟩ := tail reached same left
  exact ⟨failure, after, (Effect.bind_of_ok ran).trans rest, same.trans same'⟩

end Leaves

theorem Fails.lift {α : Type} {check : Except Error α} {failure : Error}
    (refused : check = .error failure) (writer : Writer) : Fails (Effect.lift check) writer :=
  ⟨failure, writer, by rw [Effect.lift_apply, refused], Writer.SameHandle.refl writer⟩

/-- A bump of the generation after a run leaves what the run left. -/
theorem Accepts.bumped {α : Type} {act : Session α} {writer : Writer} {catalog : Catalog}
    (accepts : Accepts act writer catalog) :
    Accepts (do let result ← act; bumpWrite; return result) writer catalog := by
  obtain ⟨result, after, ran, duck, left⟩ := accepts
  exact ⟨result, { after with writeGen := after.writeGen + 1 }, (Effect.bind_of_ok ran).trans rfl,
    duck, left⟩

/-- A run that sends `statements`: unless one of them is refused it returns and leaves
`catalog`, and otherwise it fails. -/
structure Sends {α : Type} (act : Session α) (writer : Writer) (statements : List Statement)
    (catalog : Catalog) : Prop where
  taken : writer.Clear statements.length →
    ∃ result, act writer = (.ok result, writer.advanced statements catalog)
  refused : ¬ writer.Clear statements.length → Fails act writer

theorem Writer.clear_add {writer : Writer} {first second : List Statement} (catalog : Catalog) :
    writer.Clear (first ++ second).length ↔
      writer.Clear first.length ∧ (writer.advanced first catalog).Clear second.length := by
  unfold Clear
  rw [List.length_append]
  constructor
  · intro whole
    refine ⟨fun i below => whole i (by omega), fun i below => ?_⟩
    have later := whole (first.length + i) (by omega)
    rwa [← Nat.add_assoc] at later
  · rintro ⟨head, tail⟩ i below
    by_cases early : i < first.length
    · exact head i early
    · have later := tail (i - first.length) (by omega)
      have position : writer.issued + first.length + (i - first.length) = writer.issued + i := by
        omega
      simpa only [advanced, position] using later

theorem Sends.accepts {α : Type} {act : Session α} {writer : Writer} {statements : List Statement}
    {catalog : Catalog} (sends : Sends act writer statements catalog)
    (never : ∀ i, writer.duck.rejects i = false) : Accepts act writer catalog := by
  obtain ⟨result, ran⟩ := sends.taken fun _ _ => never _
  exact ⟨result, _, ran, rfl, rfl⟩

theorem Sends.leaves {α : Type} {act : Session α} {writer : Writer} {statements : List Statement}
    {catalog : Catalog} (sends : Sends act writer statements catalog)
    (never : ∀ i, writer.duck.rejects i = false) : ∃ result, Leaves act writer result catalog := by
  obtain ⟨result, ran⟩ := sends.taken fun _ _ => never _
  exact ⟨result, _, ran, ⟨rfl, rfl, rfl, rfl, rfl⟩, rfl⟩

/-- What follows a run whose statements are taken goes on from its writer. -/
theorem Sends.acceptsThen {α β : Type} {act : Session α} {next : α → Session β} {writer : Writer}
    {statements : List Statement} {middle final : Catalog}
    (head : Sends act writer statements middle) (never : ∀ i, writer.duck.rejects i = false)
    (tail : ∀ result reached, writer.SameHandle reached → reached.durable.catalog = middle →
      Accepts (next result) reached final) : Accepts (act >>= next) writer final := by
  obtain ⟨result, ran⟩ := head.taken fun _ _ => never _
  obtain ⟨final', after, ranTail, duck, left⟩ :=
    tail result _ (writer.sameHandle_advanced statements middle) rfl
  exact ⟨final', after, (Effect.bind_of_ok ran).trans ranTail, duck, left⟩

namespace Sends

theorem pure {α : Type} (writer : Writer) (result : α) :
    Sends (Pure.pure result) writer [] writer.durable.catalog where
  taken _ := ⟨result, by simp [Writer.advanced]⟩
  refused blocked := absurd (fun _ below => absurd below (Nat.not_lt_zero _)) blocked

theorem bind {α β : Type} {act : Session α} {next : α → Session β} {writer : Writer}
    {first second : List Statement} {middle final : Catalog}
    (head : Sends act writer first middle)
    (tail : ∀ result, Sends (next result) (writer.advanced first middle) second final) :
    Sends (act >>= next) writer (first ++ second) final where
  taken clear := by
    obtain ⟨clearHead, clearTail⟩ := (Writer.clear_add middle).mp clear
    obtain ⟨result, ranHead⟩ := head.taken clearHead
    obtain ⟨final', ranTail⟩ := (tail result).taken clearTail
    refine ⟨final', (Effect.bind_of_ok ranHead).trans (ranTail.trans ?_)⟩
    simp [Writer.advanced, Nat.add_assoc]
  refused blocked := by
    rw [Writer.clear_add middle] at blocked
    by_cases clearHead : writer.Clear first.length
    · obtain ⟨result, ranHead⟩ := head.taken clearHead
      obtain ⟨failure, reached, ranTail, same⟩ :=
        (tail result).refused fun clearTail => blocked ⟨clearHead, clearTail⟩
      exact ⟨failure, reached, (Effect.bind_of_ok ranHead).trans ranTail,
        (writer.sameHandle_advanced first middle).trans same⟩
    · exact (head.refused clearHead).bind

/-- As `bind`, with the writer in between known only by its handle and catalogue. -/
theorem seq {α β : Type} {act : Session α} {next : α → Session β} {writer : Writer}
    {first second : List Statement} {middle final : Catalog}
    (head : Sends act writer first middle)
    (tail : ∀ result reached, writer.SameHandle reached → reached.durable.catalog = middle →
      Sends (next result) reached second final) :
    Sends (act >>= next) writer (first ++ second) final :=
  head.bind fun result => tail result _ (writer.sameHandle_advanced first middle) rfl

/-- A run fails when what follows its first part does, refused or not. -/
theorem bindFails {α β : Type} {act : Session α} {next : α → Session β} {writer : Writer}
    {statements : List Statement} {middle : Catalog} (head : Sends act writer statements middle)
    (tail : ∀ result reached, writer.SameHandle reached → reached.durable.catalog = middle →
      Fails (next result) reached) : Fails (act >>= next) writer := by
  by_cases clear : writer.Clear statements.length
  · obtain ⟨result, ran⟩ := head.taken clear
    obtain ⟨failure, reached, ranTail, same⟩ :=
      tail result _ (writer.sameHandle_advanced statements middle) rfl
    exact ⟨failure, reached, (Effect.bind_of_ok ran).trans ranTail,
      (writer.sameHandle_advanced statements middle).trans same⟩
  · exact (head.refused clear).bind

/-- Going on without sending anything changes nothing. -/
theorem andThen {α β : Type} {act : Session α} {next : α → Session β} {writer : Writer}
    {statements : List Statement} {catalog : Catalog} (head : Sends act writer statements catalog)
    (tail : ∀ result, Sends (next result) (writer.advanced statements catalog) [] catalog) :
    Sends (act >>= next) writer statements catalog := by
  simpa using head.bind tail

theorem execute (writer : Writer) {statement : Statement} {affected : Nat} {catalog : Catalog}
    (applied : statement.apply writer.duck writer.durable.catalog = .ok (affected, catalog)) :
    Sends (execute statement) writer [statement] catalog where
  taken clear := ⟨affected, execute_accepted (clear 0 (by simp)) applied⟩
  refused blocked := by
    have rejected : writer.duck.rejects writer.issued = true := by
      by_contra passed
      refine blocked fun i below => ?_
      have zero : i = 0 := by simpa using below
      subst zero
      simpa using passed
    exact ⟨_, _, execute_rejected rejected, ⟨rfl, rfl, rfl, rfl, rfl⟩⟩

theorem executeAll {ι : Type} (invariant : Catalog → Prop) (send : ι → Statement)
    (effect : ι → Catalog → Catalog) (items : List ι) (writer : Writer)
    (applies : ∀ item ∈ items, ∀ catalog, invariant catalog →
      (∃ changed, (send item).apply writer.duck catalog = .ok (changed, effect item catalog)) ∧
        invariant (effect item catalog))
    (start : invariant writer.durable.catalog) :
    Sends (executeAll (items.map send)) writer (items.map send)
      (items.foldl (fun catalog item => effect item catalog) writer.durable.catalog) := by
  obtain ⟨outcome, ran, complete⟩ := executeAll_eq invariant send effect items writer applies start
  rw [landed_eq_self_iff] at complete
  constructor
  · intro clear
    rw [List.length_map] at clear
    have all := (landed_eq_self_iff _ _ items).mpr clear
    cases outcome with
    | error failure => exact absurd (complete.mpr clear) (by simp [Except.isOk, Except.toBool])
    | ok affected =>
      refine ⟨affected, ran.trans ?_⟩
      simp [Writer.ran, Writer.advanced, all]
  · intro blocked
    rw [List.length_map] at blocked
    cases outcome with
    | error failure => exact ⟨failure, _, ran, ⟨rfl, rfl, rfl, rfl, rfl⟩⟩
    | ok affected => exact absurd (complete.mp rfl) blocked

end Sends

/-- The writer after its BEGIN was taken. -/
def Writer.begun (writer : Writer) : Writer :=
  { writer with issued := writer.issued + 1, rollbackTo := some writer.durable }

theorem beginTransaction_taken {writer : Writer}
    (begins : writer.duck.rejects writer.issued = false) :
    beginTransaction writer = (.ok (), writer.begun) := by
  simp [beginTransaction, begins, Writer.begun]

/-- A transaction whose statements are all taken commits once and bumps the generation. -/
theorem transaction_taken {α : Type} {body : Session α} {writer : Writer}
    {statements : List Statement} {catalog : Catalog}
    (sends : Sends body writer.begun statements catalog)
    (clear : writer.Clear (statements.length + 2)) :
    ∃ result, transaction body writer =
      (.ok result, { writer with
        issued := writer.issued + statements.length + 2
        rollbackTo := none
        writeGen := writer.writeGen + 1
        durable := ⟨catalog, writer.durable.history ++ statements⟩ }) := by
  have inside : writer.begun.Clear statements.length := by
    intro i below
    have later := clear (1 + i) (by omega)
    rwa [← Nat.add_assoc] at later
  have begins : writer.duck.rejects writer.issued = false := clear 0 (by omega)
  have commits : writer.duck.rejects (writer.issued + 1 + statements.length) = false := by
    have later := clear (1 + statements.length) (by omega)
    rwa [← Nat.add_assoc] at later
  obtain ⟨result, ran⟩ := sends.taken inside
  refine ⟨result, ?_⟩
  simp only [transaction, Effect.bind_apply, beginTransaction_taken begins,
    Effect.attempt_apply, ran]
  simp only [Writer.advanced, Writer.begun, commit, commits, Bool.false_eq_true, if_false,
    bumpWrite, Effect.modify_apply, Effect.pure_apply]
  congr 2
  omega

/-- A transaction over a body that returns leaves what the body left. -/
theorem transaction_accepts {α : Type} {body : Session α} {writer : Writer} {result : α}
    {catalog : Catalog} (never : ∀ i, writer.duck.rejects i = false)
    (leaves : Leaves body writer.begun result catalog) :
    Accepts (transaction body) writer catalog := by
  obtain ⟨reached, ran, same, left⟩ := leaves
  have commits : reached.duck.rejects reached.issued = false := by
    rw [same.duck]
    exact never _
  refine ⟨result, { reached with
    issued := reached.issued + 1
    rollbackTo := none
    writeGen := reached.writeGen + 1 }, ?_, same.duck, left⟩
  simp only [transaction, Effect.bind_apply, beginTransaction_taken (never writer.issued),
    Effect.attempt_apply, ran]
  simp only [commit, commits, Bool.false_eq_true, if_false, bumpWrite, Effect.modify_apply,
    Effect.pure_apply]

/-- A failure that leaves the catalogue and its history as they were. -/
def RollsBack {α : Type} (act : Session α) (writer : Writer) : Prop :=
  ∃ failure issued rollbackTo, act writer = (.error failure, { writer with issued, rollbackTo }) ∧
    (rollbackTo = writer.rollbackTo ∨ rollbackTo = none)

/-- Without a BEGIN nothing of a transaction is sent. -/
theorem transaction_unbegun {α : Type} {writer : Writer}
    (rejected : writer.duck.rejects writer.issued = true) (body : Session α) :
    transaction body writer = (.error (.storage "statement failed"), writer.sent) := by
  simp [transaction, Effect.bind_apply, beginTransaction, rejected, Writer.sent]

theorem RollsBack.unbegun {α : Type} {writer : Writer}
    (rejected : writer.duck.rejects writer.issued = true) (body : Session α) :
    RollsBack (transaction body) writer :=
  ⟨_, writer.issued + 1, writer.rollbackTo, transaction_unbegun rejected body, Or.inl rfl⟩

/-- A transaction whose body fails rolls back. -/
theorem transaction_of_fails {α : Type} {body : Session α} {writer : Writer}
    (fails : Fails body writer.begun) : RollsBack (transaction body) writer := by
  cases begins : writer.duck.rejects writer.issued with
  | true => exact RollsBack.unbegun begins body
  | false =>
    obtain ⟨failure, reached, ran, same⟩ := fails
    refine ⟨failure, reached.issued + 1, none, ?_, Or.inr rfl⟩
    obtain ⟨duck, durable, rollbackTo, issued, tenant, writeGen, available⟩ := reached
    obtain ⟨sameDuck, sameRollback, sameTenant, sameGen, sameAvailable⟩ := same
    simp only at sameDuck sameRollback sameTenant sameGen sameAvailable
    subst sameDuck sameRollback sameTenant sameGen sameAvailable
    simp only [transaction, Effect.bind_apply, beginTransaction_taken begins,
      Effect.attempt_apply, ran]
    simp only [rollback, Effect.throw_apply, Writer.committed, Writer.begun, Option.getD_some]

/-- A transaction with a refused statement rolls back. -/
theorem transaction_refused {α : Type} {body : Session α} {writer : Writer}
    {statements : List Statement} {catalog : Catalog}
    (sends : Sends body writer.begun statements catalog)
    (blocked : ¬ writer.Clear (statements.length + 2)) : RollsBack (transaction body) writer := by
  cases begins : writer.duck.rejects writer.issued with
  | true => exact RollsBack.unbegun begins body
  | false =>
    by_cases inside : writer.begun.Clear statements.length
    · obtain ⟨result, ran⟩ := sends.taken inside
      have rejected : writer.duck.rejects (writer.issued + 1 + statements.length) = true := by
        by_contra commits
        refine blocked fun i below => ?_
        rcases Nat.lt_trichotomy i (statements.length + 1) with early | last | late
        · cases i with
          | zero => exact begins
          | succ i => simpa [Writer.begun, Nat.add_assoc, Nat.add_comm 1 i] using inside i (by omega)
        · subst last
          simpa [Nat.add_assoc, Nat.add_comm 1] using commits
        · omega
      refine ⟨.storage "statement failed", writer.issued + 1 + statements.length + 1, none, ?_,
        Or.inr rfl⟩
      simp only [transaction, Effect.bind_apply, beginTransaction_taken begins,
        Effect.attempt_apply, ran]
      simp only [Writer.advanced, Writer.begun, commit, rejected, if_true, Writer.committed,
        Option.getD_some]
    · exact transaction_of_fails (sends.refused inside)

end ConsumerEngine.Storage
