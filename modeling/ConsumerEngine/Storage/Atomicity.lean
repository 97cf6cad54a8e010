import ConsumerEngine.Storage.Features
import ConsumerEngine.Storage.KeyedWrites

/-! Transactional writes are all-or-nothing.

Whichever statement the database refuses, a failed write leaves what was committed before it,
outside any transaction. A write that returns has committed every statement of its batch.
-/

set_option autoImplicit false

namespace ConsumerEngine.Storage

open ConsumerEngine.Core ConsumerEngine.Foundation

/-- The catalogue after statements that apply one after the other. -/
def applyAll (duck : DuckDb) (catalog : Catalog) : List Statement → Except String Catalog
  | [] => .ok catalog
  | statement :: rest => do
      let applied ← statement.apply duck catalog
      applyAll duck applied.2 rest

theorem applyAll_append {duck : DuckDb} {first second : List Statement}
    {catalog middle : Catalog} (head : applyAll duck catalog first = .ok middle) :
    applyAll duck catalog (first ++ second) = applyAll duck middle second := by
  induction first generalizing catalog with
  | nil =>
    cases head
    rfl
  | cons statement rest ih =>
    obtain ⟨applied, here, later⟩ := except_bind_eq_ok.mp head
    rw [List.cons_append, applyAll, here]
    exact ih later

theorem applyAll_append_ok {duck : DuckDb} {first second : List Statement} {catalog after : Catalog}
    (applied : applyAll duck catalog (first ++ second) = .ok after) :
    ∃ middle, applyAll duck catalog first = .ok middle ∧
      applyAll duck middle second = .ok after := by
  induction first generalizing catalog with
  | nil => exact ⟨catalog, rfl, applied⟩
  | cons statement rest ih =>
    obtain ⟨next, here, later⟩ := except_bind_eq_ok.mp applied
    obtain ⟨middle, head, tail⟩ := ih later
    exact ⟨middle, except_bind_eq_ok.mpr ⟨next, here, head⟩, tail⟩

/-- From one writer to the other these statements took effect, in order, and nothing else. -/
structure Wrote (before : Writer) (statements : List Statement) (after : Writer) : Prop where
  handle : before.SameHandle after
  history : after.durable.history = before.durable.history ++ statements
  applied : applyAll before.duck before.durable.catalog statements = .ok after.durable.catalog

theorem Wrote.nothing {before after : Writer} (handle : before.SameHandle after)
    (durable : after.durable = before.durable) : Wrote before [] after where
  handle := handle
  history := by rw [durable, List.append_nil]
  applied := by rw [durable, applyAll]

theorem Wrote.trans {first second third : Writer} {head tail : List Statement}
    (one : Wrote first head second) (two : Wrote second tail third) :
    Wrote first (head ++ tail) third where
  handle := one.handle.trans two.handle
  history := by rw [two.history, one.history, List.append_assoc]
  applied := by
    have later := two.applied
    rw [one.handle.duck] at later
    rw [applyAll_append one.applied, later]

instance : IsPreorder Writer Writer.SameHandle where
  refl := Writer.SameHandle.refl
  trans _ _ _ := Writer.SameHandle.trans

/-- However the session ends, it leaves the handle as it was. -/
abbrev KeepsHandle {α : Type} (act : Session α) : Prop := Effect.Within Writer.SameHandle act

section
variable {α : Type} {writer after : Writer}

theorem execute_keeps (statement : Statement) : KeepsHandle (execute statement) := by
  intro writer
  rcases execute_cases statement writer with ⟨failure, ran⟩ | ⟨affected, catalog, -, -, ran⟩
  · rw [ran]
    exact ⟨rfl, rfl, rfl, rfl, rfl⟩
  · rw [ran]
    exact ⟨rfl, rfl, rfl, rfl, rfl⟩

theorem executeFrom_keeps (statements : List Statement) (affected : Nat) :
    KeepsHandle (executeFrom affected statements) := by
  induction statements generalizing affected with
  | nil => exact Effect.Within.pure affected
  | cons statement rest ih => exact (execute_keeps statement).bind fun n => ih (affected + n)

theorem read_keeps (query : Catalog → Except String α) : KeepsHandle (read query) := by
  intro writer
  unfold read
  dsimp only
  split
  · exact ⟨rfl, rfl, rfl, rfl, rfl⟩
  · split <;> exact ⟨rfl, rfl, rfl, rfl, rfl⟩

theorem execute_wrote {statement : Statement} {affected : Nat}
    (ran : execute statement writer = (.ok affected, after)) : Wrote writer [statement] after := by
  rcases execute_cases statement writer with ⟨failure, failed⟩ | ⟨n, catalog, -, applied, taken⟩
  · rw [failed] at ran
    cases ran
  · rw [taken] at ran
    cases ran
    refine ⟨⟨rfl, rfl, rfl, rfl, rfl⟩, rfl, ?_⟩
    rw [applyAll, applied]
    rfl

theorem executeFrom_wrote {statements : List Statement} {affected total : Nat}
    (ran : executeFrom affected statements writer = (.ok total, after)) :
    Wrote writer statements after := by
  induction statements generalizing affected writer with
  | nil =>
    cases ran
    exact .nothing (.refl _) rfl
  | cons statement rest ih =>
    obtain ⟨n, reached, here, later⟩ := Effect.bind_eq_ok.mp ran
    exact (execute_wrote here).trans (ih later)

theorem read_wrote {query : Catalog → Except String α} {value : α}
    (ran : read query writer = (.ok value, after)) : Wrote writer [] after := by
  obtain ⟨-, rfl⟩ := read_eq_ok ran
  exact .nothing ⟨rfl, rfl, rfl, rfl, rfl⟩ rfl

end

/-! ### Transactions -/

section
variable {α : Type} {body : Session α} {writer after : Writer}

/-- What a transaction comes to, by how its body ended and whether the COMMIT is taken. -/
def Writer.ended (reached : Writer) (outcome : Except Error α) : Except Error α × Writer :=
  match outcome with
  | .error failure => (.error failure,
      { reached with
        issued := reached.issued + 1
        durable := reached.committed
        rollbackTo := none })
  | .ok result =>
      if reached.duck.rejects reached.issued then (.error (.storage "statement failed"),
        { reached with
          issued := reached.issued + 1
          durable := reached.committed
          rollbackTo := none })
      else (.ok result,
        { reached with
          issued := reached.issued + 1
          rollbackTo := none
          writeGen := reached.writeGen + 1 })

theorem transaction_ended (begins : writer.duck.rejects writer.issued = false) :
    transaction body writer = (body writer.begun).2.ended (body writer.begun).1 := by
  simp only [transaction, Effect.bind_apply, beginTransaction_taken begins, Effect.attempt_apply]
  rcases body writer.begun with ⟨outcome, reached⟩
  cases outcome with
  | error failure => rfl
  | ok result =>
    cases refused : reached.duck.rejects reached.issued with
    | true => simp only [Effect.bind_apply, commit, Writer.ended, refused, ↓reduceIte]
    | false => simp only [Effect.bind_apply, commit, Writer.ended, refused, Bool.false_eq_true,
        ↓reduceIte, bumpWrite, Effect.modify_apply, Effect.pure_apply]

/-- A failed transaction leaves what was committed before it. -/
theorem transaction_failed (keeps : KeepsHandle body) {failure : Error}
    (ran : transaction body writer = (.error failure, after)) :
    after.durable = writer.durable ∧ (writer.rollbackTo = none → after.rollbackTo = none) := by
  cases begins : writer.duck.rejects writer.issued with
  | true =>
    rw [transaction_unbegun begins] at ran
    cases ran
    exact ⟨rfl, id⟩
  | false =>
    rw [transaction_ended begins] at ran
    have committed : (body writer.begun).2.committed = writer.durable := by
      rw [Writer.committed, (keeps writer.begun).rollbackTo]
      rfl
    rw [← committed]
    generalize (body writer.begun).2 = reached at ran
    cases outcome : (body writer.begun).1 with
    | error e =>
      rw [outcome] at ran
      cases ran
      exact ⟨rfl, fun _ => rfl⟩
    | ok result =>
      rw [outcome, Writer.ended] at ran
      split at ran
      · cases ran
        exact ⟨rfl, fun _ => rfl⟩
      · cases ran

theorem transaction_duck (keeps : KeepsHandle body) :
    (transaction body writer).2.duck = writer.duck := by
  cases begins : writer.duck.rejects writer.issued with
  | true =>
    rw [transaction_unbegun begins]
    rfl
  | false =>
    have same : (body writer.begun).2.duck = writer.duck := (keeps writer.begun).duck
    rw [transaction_ended begins, ← same]
    unfold Writer.ended
    split
    · rfl
    · split <;> rfl

/-- A transaction that returned committed what its body left. -/
theorem transaction_returned {result : α} (ran : transaction body writer = (.ok result, after)) :
    ∃ reached, body writer.begun = (.ok result, reached) ∧ after.durable = reached.durable ∧
      after.rollbackTo = none := by
  cases begins : writer.duck.rejects writer.issued with
  | true =>
    rw [transaction_unbegun begins] at ran
    cases ran
  | false =>
    rw [transaction_ended begins] at ran
    cases ended : body writer.begun with
    | mk outcome reached =>
      rw [ended] at ran
      cases outcome with
      | error e => cases ran
      | ok returned =>
        simp only [Writer.ended] at ran
        split at ran
        · cases ran
        · cases ran
          exact ⟨reached, rfl, rfl, rfl⟩

end

/-! ### The two transactional writes -/

/-- A write that fails leaves what was committed before it, and one that returns has committed
`batch`; either way no transaction is left open. -/
structure AllOrNothing {α : Type} (act : Session α) (writer : Writer)
    (batch : Catalog → List Statement → Prop) : Prop where
  failed : ∀ failure after, act writer = (.error failure, after) →
    after.durable = writer.durable ∧ after.rollbackTo = none
  returned : ∀ result after, act writer = (.ok result, after) → after.rollbackTo = none ∧
    ∃ statements, batch after.durable.catalog statements ∧
      after.durable.history = writer.durable.history ++ statements ∧
      applyAll writer.duck writer.durable.catalog statements = .ok after.durable.catalog

section
variable {α : Type} {body : Session α} {writer : Writer} {batch : Catalog → List Statement → Prop}

theorem transaction_allOrNothing (keeps : KeepsHandle body) (idle : writer.rollbackTo = none)
    (writes : ∀ result reached, body writer.begun = (.ok result, reached) →
      ∃ statements, batch reached.durable.catalog statements ∧ Wrote writer.begun statements reached) :
    AllOrNothing (transaction body) writer batch where
  failed _ _ ran := (transaction_failed keeps ran).imp_right fun closed => closed idle
  returned result after ran := by
    obtain ⟨reached, ended, same, closed⟩ := transaction_returned ran
    obtain ⟨statements, listed, wrote⟩ := writes result reached ended
    rw [same]
    exact ⟨closed, statements, listed, wrote.history, wrote.applied⟩

/-- A check before the transaction changes nothing. -/
theorem AllOrNothing.checked {β : Type} {check : Except Error β} {act : β → Session α}
    (idle : writer.rollbackTo = none)
    (rest : ∀ b, check = .ok b → AllOrNothing (act b) writer batch) :
    AllOrNothing (Effect.lift check >>= act) writer batch := by
  cases outcome : check with
  | ok b => exact rest b outcome
  | error e =>
    refine ⟨fun failure after ran => ?_, fun result after ran => ?_⟩
    · cases ran
      exact ⟨rfl, idle⟩
    · cases ran

theorem AllOrNothing.ensured {condition : Bool} {failure : Error} {act : Session α}
    (idle : writer.rollbackTo = none) (rest : AllOrNothing act writer batch) :
    AllOrNothing (ensure condition failure >>= fun _ => act) writer batch := by
  cases condition with
  | true => exact rest
  | false =>
    refine ⟨fun failure after ran => ?_, fun result after ran => ?_⟩
    · cases ran
      exact ⟨rfl, idle⟩
    · cases ran

end

/-- What `apply_cdc_batch` sends between BEGIN and COMMIT. -/
def cdcStatements (tenant : String) (table : Dataset) (columns : List String) (key : String)
    (upserts : List (List Cell)) (deletes : List String) (offsets : List (Int × Int))
    (updatedAt : String) : List Statement :=
  prologue table columns ++ [.createEngine .cdcOffsets] ++
    (chunks mergeChunk (dedupByKey upserts (columns.idxOf key))).map (fun chunk =>
      .mergeUpsert table (columns ++ ["tenant_id"]) key chunk.length
        (chunk.flatMap fun row => row ++ [some tenant])) ++
    (chunks mergeChunk deletes).map (fun chunk => .mergeDelete table key chunk tenant) ++
    offsets.map (fun offset =>
      .mergeOffset ⟨table.system ++ "." ++ table.entity, offset.1, offset.2, updatedAt⟩)

section
variable {writer : Writer} (system entity : String) (columns : List String) (key : String)
  (upserts : List (List Cell)) (deletes : List String) (offsets : List (Int × Int))
  (updatedAt : String)

theorem ensureRawTable_keeps (table : Dataset) : KeepsHandle (ensureRawTable table columns) :=
  (execute_keeps _).bind fun _ => (execute_keeps _).bind fun _ => Effect.Within.pure ()

theorem ensureRawTable_wrote {table : Dataset} {columns : List String} {writer after : Writer}
    (ran : ensureRawTable table columns writer = (.ok (), after)) :
    Wrote writer (prologue table columns) after := by
  obtain ⟨_, middle, create, rest⟩ := Effect.bind_eq_ok.mp ran
  obtain ⟨_, reached, migrate, returned⟩ := Effect.bind_eq_ok.mp rest
  cases returned
  exact (execute_wrote create).trans (execute_wrote migrate)

theorem mergeUpserts_keeps (table : Dataset) (deduped : List (List Cell)) :
    KeepsHandle (mergeUpserts table columns key deduped) :=
  Effect.Within.get.bind fun _ => executeFrom_keeps _ 0

theorem mergeDeletes_keeps (table : Dataset) : KeepsHandle (mergeDeletes table key deletes) :=
  Effect.Within.get.bind fun _ => executeFrom_keeps _ 0

/-- A CDC batch is applied with its offsets or not at all. -/
theorem applyCdcBatch_allOrNothing (idle : writer.rollbackTo = none) :
    AllOrNothing (applyCdcBatch system entity columns key upserts deletes offsets updatedAt) writer
      fun _ statements => statements = cdcStatements writer.tenant ⟨system, entity⟩ columns key
        upserts deletes offsets updatedAt := by
  refine .ensured idle (.checked idle fun _ _ => .checked idle fun _ _ => .ensured idle
    (.checked idle fun table named => ?_))
  obtain rfl := (rawTableName_eq_ok.mp named).2.2
  refine transaction_allOrNothing ?keeps idle ?writes
  case keeps =>
    exact (ensureRawTable_keeps columns _).bind fun _ => (execute_keeps _).bind fun _ =>
      (mergeUpserts_keeps columns key _ _).bind fun _ => (mergeDeletes_keeps key deletes _).bind fun _ =>
        (executeFrom_keeps _ 0).bind fun written => Effect.Within.pure _
  case writes =>
    intro result reached ran
    obtain ⟨⟨⟩, first, table, ran⟩ := Effect.bind_eq_ok.mp ran
    obtain ⟨_, second, offsetTable, ran⟩ := Effect.bind_eq_ok.mp ran
    obtain ⟨written, third, merged, ran⟩ := Effect.bind_eq_ok.mp ran
    obtain ⟨_, fourth, deleted, ran⟩ := Effect.bind_eq_ok.mp ran
    obtain ⟨_, fifth, committed, returned⟩ := Effect.bind_eq_ok.mp ran
    cases returned
    have ready := (ensureRawTable_wrote table).trans (execute_wrote offsetTable)
    have upserted := ready.trans (executeFrom_wrote merged)
    have tenants : second.tenant = writer.tenant ∧ third.tenant = writer.tenant :=
      ⟨ready.handle.tenant, upserted.handle.tenant⟩
    have all := (upserted.trans (executeFrom_wrote deleted)).trans (executeFrom_wrote committed)
    rw [tenants.1, tenants.2] at all
    exact ⟨_, rfl, all⟩

end

/-! ### Features -/

/-- The statements that make sure of `feature_store`. -/
def featurePrologue : List Statement := [.createEngine .featureStore, .addEngineTenant .featureStore]

/-- Reading the short names stored of a family, and rebuilding its view with those of the batch. -/
def viewStatements (stored : List StoredFeature) (entry : String × List String) : List Statement :=
  featurePrologue ++ featurePrologue ++
    [.createView entry.1 (entry.2.foldl insertShort (shortsIn entry.1 stored))]

/-- What `write_features_and_refresh` sends between BEGIN and COMMIT. -/
def featureStatements (tenant : String) (rows : List FeatureRow)
    (families : SortedMap String (List String)) (stored : List StoredFeature) : List Statement :=
  featurePrologue ++
    (chunks (min 500 (maxParams / max 6 1)) rows).map (fun chunk => .insertFeatures chunk tenant) ++
    families.entries.flatMap (viewStatements stored)

theorem insertShort_ne_nil (shorts : List String) (short : String) : insertShort shorts short ≠ [] :=
  List.ne_nil_of_mem (mem_insertShort.mpr (.inl rfl))

/-- Every family of a batch has a short name in it. -/
theorem batchFamilies_filled {rows : List FeatureRow} {families : SortedMap String (List String)}
    (grouped : batchFamilies rows = .ok families) : ∀ entry ∈ families.entries, entry.2 ≠ [] := by
  have general : ∀ start : SortedMap String (List String), (∀ entry ∈ start.entries, entry.2 ≠ []) →
      rows.foldlM addFamily start = .ok families → ∀ entry ∈ families.entries, entry.2 ≠ [] := by
    clear grouped
    induction rows with
    | nil =>
      rintro start filled ⟨⟩
      exact filled
    | cons row rows ih =>
      intro start filled grouped
      rw [List.foldlM_cons] at grouped
      obtain ⟨next, here, later⟩ := except_bind_eq_ok.mp grouped
      obtain ⟨family, short, -, rfl⟩ := addFamily_ok here
      refine ih _ (fun entry member => ?_) later
      rcases SortedMap.mem_insert.mp member with rfl | ⟨-, before⟩
      · exact insertShort_ne_nil _ _
      · exact filled entry before
  exact general SortedMap.empty (fun _ member => absurd member List.not_mem_nil) grouped

section
variable {writer after : Writer}

theorem ensureEngineTable_keeps (table : EngineTable) : KeepsHandle (ensureEngineTable table) :=
  (execute_keeps _).bind fun _ => (execute_keeps _).bind fun _ => Effect.Within.pure ()

theorem ensureFeatures_wrote (ran : ensureEngineTable .featureStore writer = (.ok (), after)) :
    Wrote writer featurePrologue after ∧
      after.durable.catalog.featureStore = some (writer.durable.catalog.featureStore.getD []) := by
  obtain ⟨_, middle, create, rest⟩ := Effect.bind_eq_ok.mp ran
  obtain ⟨_, reached, migrate, returned⟩ := Effect.bind_eq_ok.mp rest
  cases returned
  have wrote := (execute_wrote create).trans (execute_wrote migrate)
  exact ⟨wrote, (congrArg Catalog.featureStore (Except.ok.inj wrote.applied)).symm⟩

theorem writeFeatureRows_keeps (rows : List FeatureRow) : KeepsHandle (writeFeatureRows rows) := by
  unfold writeFeatureRows
  split
  · exact Effect.Within.pure 0
  · exact (Effect.Within.lift _).bind fun _ => (ensureEngineTable_keeps _).bind fun _ =>
      Effect.Within.get.bind fun _ => by
        unfold insertChunked
        split
        · exact Effect.Within.pure 0
        · dsimp only
          split
          · exact Effect.Within.throw _
          · exact executeFrom_keeps _ 0

theorem writeFeatureRows_wrote {rows : List FeatureRow} {n : Nat} (filled : rows.isEmpty = false)
    (ran : writeFeatureRows rows writer = (.ok n, after)) :
    Wrote writer (featurePrologue ++ (chunks (min 500 (maxParams / max 6 1)) rows).map
      fun chunk => .insertFeatures chunk writer.tenant) after := by
  unfold writeFeatureRows at ran
  rw [filled] at ran
  obtain ⟨_, first, checked, ran⟩ := Effect.bind_eq_ok.mp ran
  obtain ⟨-, rfl⟩ := Effect.lift_eq_ok checked
  obtain ⟨⟨⟩, second, ready, ran⟩ := Effect.bind_eq_ok.mp ran
  obtain ⟨_, third, got, inserted⟩ := Effect.bind_eq_ok.mp ran
  cases got
  unfold insertChunked at inserted
  rw [filled] at inserted
  have wrote := (ensureFeatures_wrote ready).1.trans (executeFrom_wrote inserted)
  rwa [(ensureFeatures_wrote ready).1.handle.tenant] at wrote

theorem featureShortNames_keeps (family : String) : KeepsHandle (featureShortNames family) :=
  (Effect.Within.lift _).bind fun _ => (ensureEngineTable_keeps _).bind fun _ => read_keeps _

theorem featureShortNames_wrote {family : String} {shorts : List String}
    (ran : featureShortNames family writer = (.ok shorts, after)) :
    Wrote writer featurePrologue after ∧
      shorts = shortsIn family (writer.durable.catalog.featureStore.getD []) ∧
      after.durable.catalog.featureStore.getD [] = writer.durable.catalog.featureStore.getD [] := by
  obtain ⟨_, first, checked, ran⟩ := Effect.bind_eq_ok.mp ran
  obtain ⟨-, rfl⟩ := Effect.lift_eq_ok checked
  obtain ⟨⟨⟩, second, ready, listed⟩ := Effect.bind_eq_ok.mp ran
  obtain ⟨wrote, present⟩ := ensureFeatures_wrote ready
  obtain ⟨answered, rfl⟩ := read_eq_ok listed
  rw [present] at answered
  refine ⟨?_, (Except.ok.inj answered).symm, ?_⟩
  · have all := wrote.trans (read_wrote listed)
    rwa [List.append_nil] at all
  · change second.durable.catalog.featureStore.getD [] = _
    rw [present]
    rfl

theorem createView_store {duck : DuckDb} {catalog created : Catalog} {family : String}
    {shorts : List String} (applied : applyAll duck catalog [.createView family shorts] = .ok created) :
    created.featureStore = catalog.featureStore := by
  obtain ⟨_, one, rest⟩ := except_bind_eq_ok.mp applied
  cases rest
  obtain ⟨_, -, returned⟩ := except_bind_eq_ok.mp one
  cases returned
  rfl

theorem refreshFeatureWideView_keeps (family : String) (shorts : List String) :
    KeepsHandle (refreshFeatureWideView family shorts) := by
  refine (Effect.Within.lift _).bind fun _ => ?_
  split
  · exact Effect.Within.pure ()
  · exact (ensureEngineTable_keeps _).bind fun _ => (Effect.Within.lift _).bind fun _ =>
      (execute_keeps _).bind fun _ => Effect.Within.pure ()

theorem refreshFeatureWideView_wrote {family : String} {shorts : List String} (filled : shorts ≠ [])
    (ran : refreshFeatureWideView family shorts writer = (.ok (), after)) :
    Wrote writer (featurePrologue ++ [.createView family shorts]) after ∧
      after.durable.catalog.featureStore.getD [] = writer.durable.catalog.featureStore.getD [] := by
  obtain ⟨_, first, checked, ran⟩ := Effect.bind_eq_ok.mp ran
  obtain ⟨-, rfl⟩ := Effect.lift_eq_ok checked
  rw [if_neg (by rwa [List.isEmpty_iff])] at ran
  obtain ⟨⟨⟩, second, ready, ran⟩ := Effect.bind_eq_ok.mp ran
  obtain ⟨_, third, named, ran⟩ := Effect.bind_eq_ok.mp ran
  obtain ⟨-, rfl⟩ := Effect.lift_eq_ok named
  obtain ⟨_, fourth, created, returned⟩ := Effect.bind_eq_ok.mp ran
  cases returned
  obtain ⟨wrote, present⟩ := ensureFeatures_wrote ready
  have view := execute_wrote created
  refine ⟨wrote.trans view, ?_⟩
  rw [createView_store view.applied, present]
  rfl

/-- One family's turn in the loop over the families of a batch. -/
def refreshFamily (entry : String × List String) : Session Unit := do
  let stored ← featureShortNames entry.1
  refreshFeatureWideView entry.1 (entry.2.foldl insertShort stored)

theorem refreshFamily_wrote {entry : String × List String} (filled : entry.2 ≠ [])
    (ran : refreshFamily entry writer = (.ok (), after)) :
    Wrote writer (viewStatements (writer.durable.catalog.featureStore.getD []) entry) after ∧
      after.durable.catalog.featureStore.getD [] = writer.durable.catalog.featureStore.getD [] := by
  obtain ⟨shorts, middle, named, refreshed⟩ := Effect.bind_eq_ok.mp ran
  obtain ⟨listed, rfl, same⟩ := featureShortNames_wrote named
  have joined : entry.2.foldl insertShort
      (shortsIn entry.1 (writer.durable.catalog.featureStore.getD [])) ≠ [] := by
    obtain ⟨short, member⟩ := List.exists_mem_of_ne_nil _ filled
    exact List.ne_nil_of_mem (mem_foldl_insertShort.mpr (.inl member))
  obtain ⟨viewed, kept⟩ := refreshFeatureWideView_wrote joined refreshed
  have all := listed.trans viewed
  rw [← List.append_assoc] at all
  exact ⟨all, kept.trans same⟩

theorem refreshFamilies_wrote {entries : List (String × List String)}
    (filled : ∀ entry ∈ entries, entry.2 ≠ [])
    (ran : entries.foldlM (fun _ entry => refreshFamily entry) () writer = (.ok (), after)) :
    Wrote writer (entries.flatMap (viewStatements (writer.durable.catalog.featureStore.getD []))) after ∧
      after.durable.catalog.featureStore.getD [] = writer.durable.catalog.featureStore.getD [] := by
  induction entries generalizing writer with
  | nil =>
    cases ran
    exact ⟨.nothing (.refl _) rfl, rfl⟩
  | cons entry entries ih =>
    obtain ⟨here, others⟩ := List.forall_mem_cons.mp filled
    rw [List.foldlM_cons] at ran
    obtain ⟨⟨⟩, middle, refreshed, rest⟩ := Effect.bind_eq_ok.mp ran
    obtain ⟨viewed, same⟩ := refreshFamily_wrote here refreshed
    obtain ⟨later, kept⟩ := ih others rest
    rw [same] at later kept
    exact ⟨viewed.trans later, kept⟩

theorem refreshFamily_keeps (entry : String × List String) : KeepsHandle (refreshFamily entry) :=
  (featureShortNames_keeps _).bind fun _ => refreshFeatureWideView_keeps _ _

/-- What `write_features_and_refresh` does between BEGIN and COMMIT. -/
def featuresBody (rows : List FeatureRow) : Session Nat := do
  let n ← writeFeatureRows rows
  let families ← Effect.lift (batchFamilies rows)
  families.entries.foldlM (fun _ entry => refreshFamily entry) ()
  return n

theorem featuresBody_keeps (rows : List FeatureRow) : KeepsHandle (featuresBody rows) :=
  (writeFeatureRows_keeps rows).bind fun n => (Effect.Within.lift _).bind fun families =>
    (Effect.Within.foldlM (fun _ entry => refreshFamily_keeps entry) families.entries ()).bind
      fun _ => Effect.Within.pure n

/-- What a batch of features comes to once it is committed. -/
def FeaturesWritten (tenant : String) (rows : List FeatureRow) (catalog : Catalog)
    (statements : List Statement) : Prop :=
  rows = [] ∧ statements = [] ∨
    ∃ families, batchFamilies rows = .ok families ∧
      statements = featureStatements tenant rows families (catalog.featureStore.getD [])

/-- Features are written with the views of all their families or not at all. -/
theorem writeFeaturesAndRefresh_allOrNothing (rows : List FeatureRow)
    (idle : writer.rollbackTo = none) :
    AllOrNothing (writeFeaturesAndRefresh rows) writer (FeaturesWritten writer.tenant rows) := by
  unfold writeFeaturesAndRefresh
  cases filled : rows.isEmpty with
  | true =>
    refine ⟨fun failure after ran => ?_, fun result after ran => ?_⟩
    · cases ran
    · cases ran
      exact ⟨idle, [], .inl ⟨List.isEmpty_iff.mp filled, rfl⟩, (List.append_nil _).symm, rfl⟩
  | false =>
    refine transaction_allOrNothing (featuresBody_keeps rows) idle ?writes
    case writes =>
      intro result reached ran
      obtain ⟨n, first, stored, ran⟩ := Effect.bind_eq_ok.mp ran
      obtain ⟨families, second, grouped, ran⟩ := Effect.bind_eq_ok.mp ran
      obtain ⟨listed, rfl⟩ := Effect.lift_eq_ok grouped
      obtain ⟨⟨⟩, third, refreshed, returned⟩ := Effect.bind_eq_ok.mp ran
      cases returned
      have inserted := writeFeatureRows_wrote filled stored
      obtain ⟨viewed, same⟩ := refreshFamilies_wrote (batchFamilies_filled listed) refreshed
      rw [← same] at viewed
      exact ⟨_, .inr ⟨families, listed, rfl⟩, inserted.trans viewed⟩

end

/-- Both transactional writes are all-or-nothing, from any state between commands. -/
theorem transactional_writes {writer : Writer} (idle : writer.rollbackTo = none) :
    (∀ system entity columns key upserts deletes offsets updatedAt,
      AllOrNothing (applyCdcBatch system entity columns key upserts deletes offsets updatedAt) writer
        fun _ statements => statements = cdcStatements writer.tenant ⟨system, entity⟩ columns key
          upserts deletes offsets updatedAt) ∧
    ∀ rows, AllOrNothing (writeFeaturesAndRefresh rows) writer (FeaturesWritten writer.tenant rows) :=
  ⟨fun system entity columns key upserts deletes offsets updatedAt =>
    applyCdcBatch_allOrNothing system entity columns key upserts deletes offsets updatedAt idle,
    fun rows => writeFeaturesAndRefresh_allOrNothing rows idle⟩

theorem transactional_writes_fresh :
    (∀ system entity columns key upserts deletes offsets updatedAt,
      AllOrNothing (applyCdcBatch system entity columns key upserts deletes offsets updatedAt)
        freshWriter fun _ statements => statements = cdcStatements freshWriter.tenant
          ⟨system, entity⟩ columns key upserts deletes offsets updatedAt) ∧
    ∀ rows, AllOrNothing (writeFeaturesAndRefresh rows) freshWriter
      (FeaturesWritten freshWriter.tenant rows) :=
  transactional_writes rfl

end ConsumerEngine.Storage
