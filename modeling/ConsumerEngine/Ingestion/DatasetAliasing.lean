import ConsumerEngine.Ingestion.MicroBatching

/-! Which datasets share a raw table.

The table name joins system and entity by an underscore, which both may contain, and is
resolved up to letter case. Commands on a dataset leave the tables of all others alone,
except those that carry the same name.
-/

set_option autoImplicit false

namespace ConsumerEngine.Ingestion

open ConsumerEngine.Core ConsumerEngine.Foundation ConsumerEngine.Storage

/-- The second dataset's system takes an underscore and more from the first one's entity. -/
def Overlaps (first second : Dataset) : Prop :=
  ∃ middle : String, foldName second.system = foldName first.system ++ "_" ++ middle ∧
    foldName first.entity = middle ++ "_" ++ foldName second.entity

/-- Up to letter case the two pairs are equal, or split one text at two underscores. -/
def Clash (first second : Dataset) : Prop :=
  (foldName first.system = foldName second.system ∧
      foldName first.entity = foldName second.entity) ∨
    Overlaps first second ∨ Overlaps second first

theorem foldName_toList (name : String) : (foldName name).toList = name.toList.map Char.toLower := by
  simp [foldName]

theorem rawName_toList (dataset : Dataset) : (rawName dataset).toList =
    "raw_".toList ++ ((foldName dataset.system).toList ++ '_' :: (foldName dataset.entity).toList) := by
  rw [rawName, foldName_toList, foldName_toList, foldName_toList]
  simp only [String.toList_append, List.map_append, List.append_assoc]
  rfl

theorem overlaps_iff {first second : Dataset} : Overlaps first second ↔
    ∃ middle : List Char, (foldName second.system).toList =
        (foldName first.system).toList ++ '_' :: middle ∧
      (foldName first.entity).toList = middle ++ '_' :: (foldName second.entity).toList := by
  constructor
  · rintro ⟨middle, system, entity⟩
    exact ⟨middle.toList, by rw [system]; simp, by rw [entity]; simp⟩
  · rintro ⟨middle, system, entity⟩
    refine ⟨String.ofList middle, ?_, ?_⟩
    · rw [← String.toList_inj, system]
      simp
    · rw [← String.toList_inj, entity]
      simp

/-- Two datasets share a table exactly if their names clash. -/
theorem rawName_eq_iff (first second : Dataset) :
    rawName first = rawName second ↔ Clash first second := by
  rw [← String.toList_inj, rawName_toList, rawName_toList, List.append_cancel_left_eq,
    List.append_eq_append_iff, Clash, overlaps_iff, overlaps_iff]
  constructor
  · rintro (⟨middle, system, entity⟩ | ⟨middle, system, entity⟩)
    · cases middle with
      | nil =>
        rw [List.append_nil] at system
        rw [List.nil_append, List.cons.injEq] at entity
        exact Or.inl ⟨String.toList_inj.mp system.symm, String.toList_inj.mp entity.2⟩
      | cons separator middle =>
        rw [List.cons_append, List.cons.injEq] at entity
        rw [← entity.1] at system
        exact Or.inr (Or.inl ⟨middle, system, entity.2⟩)
    · cases middle with
      | nil =>
        rw [List.append_nil] at system
        rw [List.nil_append, List.cons.injEq] at entity
        exact Or.inl ⟨String.toList_inj.mp system, String.toList_inj.mp entity.2.symm⟩
      | cons separator middle =>
        rw [List.cons_append, List.cons.injEq] at entity
        rw [← entity.1] at system
        exact Or.inr (Or.inr ⟨middle, system, entity.2⟩)
  · rintro (⟨system, entity⟩ | ⟨middle, system, entity⟩ | ⟨middle, system, entity⟩)
    · exact Or.inl ⟨[], by rw [system, List.append_nil], by rw [entity, List.nil_append]⟩
    · exact Or.inl ⟨'_' :: middle, system, by rw [entity, List.cons_append]⟩
    · exact Or.inr ⟨'_' :: middle, system, by rw [entity, List.cons_append]⟩

/-! ### Runs on one dataset -/

/-- An ingest, upsert, delete or CDC command of the dataset. -/
def Cmd.On (dataset : Dataset) : Cmd → Prop
  | .ingestRaw system entity .. | .upsertRaw system entity .. | .deleteRaw system entity .. =>
      (⟨system, entity⟩ : Dataset) = dataset
  | .applyCdcBatch batch _ => (⟨batch.system, batch.entity⟩ : Dataset) = dataset
  | _ => False

namespace Loop

/-- Batches wait only for the table of one name; another table is as it was. -/
structure Confined (name other : String) (visible : Visible) (loop : Loop) : Prop where
  waiting : ∀ entry ∈ loop.pending.entries, rawName ⟨entry.1.system, entry.1.entity⟩ = name
  idle : loop.writer.rollbackTo = none
  kept : loop.writer.durable.catalog.visible other = visible

section
variable {name other : String} (apart : other ≠ name) {visible : Visible} {loop : Loop}

theorem Confined.take (confined : loop.Confined name other visible) (key : BatchKey) :
    { loop with pending := loop.pending.remove key }.Confined name other visible where
  waiting entry member := confined.waiting entry (SortedMap.mem_remove.mp member).1
  idle := confined.idle
  kept := confined.kept

theorem Confined.name_of_get {key : BatchKey} {batch : PendingBatch}
    (confined : loop.Confined name other visible) (found : loop.pending.get key = some batch) :
    rawName ⟨key.system, key.entity⟩ = name :=
  confined.waiting (key, batch) (SortedMap.get_eq_some.mp found)

theorem setTenant_confined (tenant : String) :
    Effect.Preserves (Confined name other visible) (setTenant tenant) :=
  fun _ confined => ⟨confined.waiting, confined.idle, confined.kept⟩

include apart

theorem Confined.sending {writer : Writer} {known : List (String × String)}
    (confined : loop.Confined name other visible)
    (sending : Sending (Statement.Touches name) loop.writer writer) :
    { loop with writer, known }.Confined name other visible where
  waiting := confined.waiting
  idle := sending.idle confined.idle
  kept := (sending.keeps _ (undisturbed_visible _ apart visible)
    ⟨confined.kept, fun saved some => by rw [confined.idle] at some; cases some⟩).1

theorem callKnown_confined {α : Type} {act : Session α}
    (only : OnlySends (Statement.Touches name) act) (system entity : String) :
    Effect.Preserves (Confined name other visible) (callKnown system entity act) := by
  intro loop confined
  obtain ⟨known, state⟩ := callKnown_state system entity act loop
  rw [state]
  exact confined.sending apart (only loop.writer)

theorem flushBatch_confined {key : BatchKey} (named : rawName ⟨key.system, key.entity⟩ = name)
    (batch : PendingBatch) : Effect.Preserves (Confined name other visible) (flushBatch key batch) :=
  Effect.Preserves.bind (setTenant_confined batch.tenant) fun _ =>
    callKnown_confined apart (named ▸ ingestRaw_only _ _ _ _) _ _

theorem flushOut_confined {key : BatchKey} (batch : PendingBatch)
    (named : rawName ⟨key.system, key.entity⟩ = name) :
    Effect.Preserves (Confined name other visible) (flushOut key batch) := by
  intro loop confined
  rw [flushOut_state]
  exact flushBatch_confined apart named batch _ (confined.take key)

theorem flushKeys_confined (keys : List BatchKey) :
    Effect.Preserves (Confined name other visible) (flushKeys keys) := by
  induction keys with
  | nil => exact Effect.Preserves.pure ()
  | cons key keys ih =>
    refine Effect.Preserves.bind (Effect.Preserves.get fun loop confined => ?_) fun _ => ih
    cases found : loop.pending.get key with
    | none => exact confined
    | some batch => exact flushOut_confined apart batch (confined.name_of_get found) loop confined

theorem flushSome_confined (shouldFlush : PendingBatch → Bool) :
    Effect.Preserves (Confined name other visible) (flushSome shouldFlush) :=
  Effect.Preserves.get fun loop confined => flushKeys_confined apart _ loop confined

theorem flushExpired_confined (ageSecs now : Nat) :
    Effect.Preserves (Confined name other visible) (flushExpired ageSecs now) := by
  unfold flushExpired
  split
  · exact Effect.Preserves.pure ()
  · exact flushSome_confined apart _

theorem ingest_confined (config : MicroBatchConfig) (since : Nat) {system entity : String}
    (named : rawName ⟨system, entity⟩ = name) (columns : List String) (rows : List (List Cell))
    (tenant : String) : Effect.Preserves (Confined name other visible)
      (ingest config since system entity columns rows tenant) := by
  refine Effect.Preserves.bind (setTenant_confined tenant) fun _ => ?_
  split
  · exact callKnown_confined apart (named ▸ ingestRaw_only _ _ _ _) _ _
  · refine Effect.Preserves.bind (Effect.Preserves.get fun loop confined => ?_) fun _ =>
      Effect.Preserves.get fun loop confined => ?_
    · cases other : loop.otherShape (BatchKey.of tenant system entity) columns with
      | none => exact confined
      | some old => exact flushOut_confined apart old (by exact named) loop confined
    · by_cases full : config.flushRows ≤
          (loop.extended (BatchKey.of tenant system entity) columns rows tenant since).rows.length
      · rw [if_pos full]
        exact Effect.Preserves.bind (fun loop confined => confined.take _)
          (fun _ => flushBatch_confined apart (by exact named) _) loop confined
      · rw [if_neg full]
        refine ⟨fun entry member => ?_, confined.idle, confined.kept⟩
        rcases SortedMap.mem_insert.mp member with rfl | ⟨-, member⟩
        · exact named
        · exact confined.waiting entry member

/-- A command on a dataset leaves what a query on another table reads. -/
theorem serve_confined (config : MicroBatchConfig) (clock : Clock) {dataset : Dataset}
    (named : rawName dataset = name) {cmd : Cmd} (on : cmd.On dataset) :
    Effect.Preserves (Confined name other visible) (serve config clock cmd) := by
  cases cmd with
  | ingestRaw system entity columns rows tenant =>
    cases on
    exact Effect.Preserves.bind (ingest_confined apart config _ named columns rows tenant)
      fun _ => Effect.Preserves.pure _
  | upsertRaw system entity columns key rows tenant =>
    cases on
    refine Effect.Preserves.bind (setTenant_confined tenant) fun _ => ?_
    exact Effect.Preserves.bind (callKnown_confined apart
      (named ▸ (upsertRaw_only _ _ _ _ _).mono fun _ => And.right) _ _) fun _ => Effect.Preserves.pure _
  | deleteRaw system entity key keys tenant =>
    cases on
    refine Effect.Preserves.bind (setTenant_confined tenant) fun _ => ?_
    exact Effect.Preserves.bind (callKnown_confined apart
      (named ▸ (deleteRaw_only _ _ _ _).mono fun _ => And.right) _ _) fun _ => Effect.Preserves.pure _
  | applyCdcBatch batch tenant =>
    cases on
    refine Effect.Preserves.bind (setTenant_confined tenant) fun _ => ?_
    exact Effect.Preserves.bind (callKnown_confined apart
      (named ▸ (applyCdcBatch_only _ _ _ _ _ _ _ _).mono fun _ => And.right) _ _) fun _ => Effect.Preserves.pure _
  | _ => cases on

end

end Loop

namespace Service

/-- The commands taken are on the dataset. -/
def On (dataset : Dataset) : Wake → Service → Prop
  | .command _ cmd, _ => cmd.On dataset
  | _, _ => True

theorem wake_confined {name other : String} (apart : other ≠ name) {visible : Visible}
    {config : MicroBatchConfig} {dataset : Dataset} (named : rawName dataset = name) {event : Wake}
    {service : Service} (on : On dataset event service)
    (confined : service.loop.Confined name other visible) :
    (service.wake config event).loop.Confined name other visible := by
  cases event with
  | timeout now =>
    rw [show (service.wake config (.timeout now)).loop = _ from run_loop _ _ fun _ _ => rfl]
    exact Loop.flushExpired_confined apart _ now _ confined
  | disconnected =>
    rw [show (service.wake config .disconnected).loop = _ from run_loop _ _ fun _ _ => rfl]
    exact Loop.flushSome_confined apart _ _ confined
  | command clock cmd =>
    rw [(wake_command config service clock cmd).1]
    exact Effect.Preserves.bind (Loop.flushExpired_confined apart _ _)
      (fun _ => Loop.serve_confined apart config clock named on) _ confined

/-- The tables of two datasets differ, and no run on the first one changes anything a
query on the second one reads. -/
structure Apart (first second : Dataset) : Prop where
  names : rawName first ≠ rawName second
  runs : ∀ (config : MicroBatchConfig) (writer : Writer) (service : Service),
    writer.rollbackTo = none → Reaches (Turns config) (On first) (start writer) service →
      service.loop.writer.durable.catalog.visible (rawName second) =
        writer.durable.catalog.visible (rawName second)

/-- Datasets are apart exactly if their names do not clash. -/
theorem apart_iff (first second : Dataset) : Apart first second ↔ ¬ Clash first second := by
  rw [← rawName_eq_iff]
  refine ⟨Apart.names, fun apart => ⟨apart, fun config writer service idle run => ?_⟩⟩
  have started : (start writer).loop.Confined (rawName first) (rawName second)
      (writer.durable.catalog.visible (rawName second)) :=
    ⟨fun entry member => absurd member List.not_mem_nil, idle, rfl⟩
  have kept : ∀ event (service next : Service),
      service.loop.Confined (rawName first) (rawName second)
        (writer.durable.catalog.visible (rawName second)) → On first event service →
          Turns config event service next → next.loop.Confined (rawName first) (rawName second)
            (writer.durable.catalog.visible (rawName second)) := by
    intro event service next confined on turns
    rw [turns.2]
    exact wake_confined (Ne.symm apart) rfl on confined
  exact (run.invariant kept started).kept

/-- Two accepted datasets, one table. -/
theorem split_elsewhere_clashes :
    isIdent "a_b" = true ∧ isIdent "c" = true ∧ isIdent "a" = true ∧ isIdent "b_c" = true ∧
      (⟨"a_b", "c"⟩ : Dataset) ≠ ⟨"a", "b_c"⟩ ∧ ¬ Apart ⟨"a_b", "c"⟩ ⟨"a", "b_c"⟩ :=
  ⟨by decide, by decide, by decide, by decide, by decide, fun apart => apart.names (by decide)⟩

end Service

end ConsumerEngine.Ingestion
