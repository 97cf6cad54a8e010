import ConsumerEngine.Foundation.Runs
import ConsumerEngine.Ingress.CatalogEdits

/-! Onboardings and edits of one column, in any order of their steps.

An onboarding takes the second it was ingested at for its version, an edit the later of its own
second and the successor of the version it had read. Both are appended some time afterwards.
What the column shows is the last of them only if the stamp had not been overtaken by then.
-/

set_option autoImplicit false

namespace ConsumerEngine.Ingress

open ConsumerEngine.Core ConsumerEngine.Foundation ConsumerEngine.Storage ConsumerEngine.Semantic

/-- An operation that has not appended its entry yet. -/
inductive Draft where
  /-- An edit has read this entry. -/
  | read (row : CatalogRow)
  /-- An edit has embedded its description and read the clock. -/
  | edited (row : CatalogRow) (now : Int) (description : String) (embedding : List F64)
  /-- An onboarding has read the clock and profiled its table. -/
  | onboarded (row : CatalogRow) (now : Int)

/-- The entry an operation is about to append. -/
def Draft.entry : Draft → Option CatalogRow
  | .read _ => none
  | .edited row now description embedding => some (editedRow description embedding now row)
  | .onboarded row now => some { row with sourceEpoch := now }

/-- The entry the operation works on. -/
def Draft.base : Draft → CatalogRow
  | .read row | .edited row _ _ _ | .onboarded row _ => row

/-- Every stored version is older than the second the operation read, or, for an edit, than the
successor of the version it read. -/
def Draft.Ahead (versions : List StoredCatalogRow) : Draft → Prop
  | .read _ => True
  | .edited row now _ _ =>
      ∀ stored ∈ versions, epochOf stored < now ∨ epochOf stored < nextEpoch row.sourceEpoch
  | .onboarded _ now => ∀ stored ∈ versions, epochOf stored < now

/-- The catalogue, the operations under way, and what the last completed one appended. -/
structure CatalogRun where
  stored : List StoredCatalogRow
  drafts : Nat → Option Draft
  last : Option CatalogRow

/-- A catalogue as it is found. -/
def CatalogRun.start (stored : List StoredCatalogRow) : CatalogRun := ⟨stored, fun _ => none, none⟩

def CatalogRun.setDraft (run : CatalogRun) (i : Nat) (draft : Option Draft) : CatalogRun :=
  { run with drafts := Function.update run.drafts i draft }

/-- The run after an operation has appended its entry for a tenant. -/
def CatalogRun.push (run : CatalogRun) (tenant : String) (i : Nat) (row : CatalogRow) :
    CatalogRun :=
  { run.setDraft i none with stored := run.stored ++ [⟨row, some tenant⟩], last := some row }

inductive CatalogEvent where
  | read (i : Nat)
  | stamp (i : Nat)
  | onboard (i : Nat)
  | append (i : Nat)
  /-- An operation fails, or its client gives up. -/
  | abandon (i : Nat)
  /-- An entry of another column or tenant is appended. -/
  | elsewhere

section
variable (display : Json → String) (tenant : String) (key : ColumnKey)

/-- One step of the operations on a tenant's column. -/
inductive CatalogSteps : CatalogEvent → CatalogRun → CatalogRun → Prop
  | read {i : Nat} {run : CatalogRun} {found : StoredCatalogRow} {row : CatalogRow}
      (free : run.drafts i = none)
      (newest : IsNewest epochOf (versionsOf tenant key run.stored) found)
      (back : readBack display tenant found.row = .ok row) :
      CatalogSteps (.read i) run (run.setDraft i (some (.read row)))
  | stamp {i : Nat} {run : CatalogRun} {row : CatalogRow} (held : run.drafts i = some (.read row))
      (now : Int) (description : String) (embedding : List F64) :
      CatalogSteps (.stamp i) run
        (run.setDraft i (some (.edited row now description embedding)))
  | onboard {i : Nat} {run : CatalogRun} {row : CatalogRow} (free : run.drafts i = none)
      (profiled : keyOf row = key) (now : Int) :
      CatalogSteps (.onboard i) run (run.setDraft i (some (.onboarded row now)))
  | append {i : Nat} {run : CatalogRun} {draft : Draft} {row : CatalogRow}
      (held : run.drafts i = some draft) (ready : draft.entry = some row) :
      CatalogSteps (.append i) run (run.push tenant i row)
  | abandon {i : Nat} {run : CatalogRun} : CatalogSteps (.abandon i) run (run.setDraft i none)
  | elsewhere {run : CatalogRun} {entry : StoredCatalogRow}
      (other : entry ∉ versionsOf tenant key [entry]) :
      CatalogSteps .elsewhere run { run with stored := run.stored ++ [entry] }

/-- No entry is appended whose stamp has been overtaken. -/
def Timely : CatalogEvent → CatalogRun → Prop
  | .append i, run => ∀ draft, run.drafts i = some draft →
      draft.Ahead (versionsOf tenant key run.stored)
  | _, _ => True

/-- The column shows what the last completed operation appended, whichever of the newest versions
the database takes. -/
def CatalogRun.Shown (run : CatalogRun) : Prop :=
  ∀ row, run.last = some row →
    newestOf epochOf (versionsOf tenant key run.stored) = [⟨row, some tenant⟩] ∧
      ∀ reader : CatalogReader,
        reader.newest (versionsOf tenant key run.stored) = some ⟨row, some tenant⟩

end

section
variable {display : Json → String} {tenant : String} {key : ColumnKey} {run next : CatalogRun}

/-- A draft is ahead of the versions exactly if its entry overtakes them. -/
theorem Draft.ahead_iff {draft : Draft} {row : CatalogRow} (ready : draft.entry = some row)
    (versions : List StoredCatalogRow) :
    draft.Ahead versions ↔ Overtakes epochOf versions ⟨row, some tenant⟩ := by
  cases draft with
  | read row => cases ready
  | edited base now description embedding =>
    cases ready
    exact forall₂_congr fun stored _ => lt_max_iff.symm
  | onboarded base now =>
    cases ready
    exact Iff.rfl

theorem Draft.key_of_entry {draft : Draft} {row : CatalogRow} (ready : draft.entry = some row) :
    keyOf row = keyOf draft.base := by
  cases draft <;> cases ready <;> rfl

/-- Operations on a column are about its entries, and every append so far was shown. -/
structure CatalogRun.Kept (tenant : String) (key : ColumnKey) (run : CatalogRun) : Prop where
  keyed : ∀ i draft, run.drafts i = some draft → keyOf draft.base = key
  shown : run.Shown tenant key

theorem CatalogRun.setDraft_some {i j : Nat} {draft other : Draft}
    (held : (run.setDraft i (some draft)).drafts j = some other) :
    other = draft ∨ run.drafts j = some other := by
  have updated : Function.update run.drafts i (some draft) j = some other := held
  by_cases same : j = i
  · rw [same, Function.update_self] at updated
    exact .inl (Option.some.inj updated).symm
  · rw [Function.update_of_ne same] at updated
    exact .inr updated

theorem CatalogRun.setDraft_none {i j : Nat} {other : Draft}
    (held : (run.setDraft i none).drafts j = some other) : run.drafts j = some other := by
  have updated : Function.update run.drafts i none j = some other := held
  by_cases same : j = i
  · rw [same, Function.update_self] at updated
    cases updated
  · rwa [Function.update_of_ne same] at updated

/-- An append is shown exactly if its stamp has not been overtaken. -/
theorem append_shown_iff {i : Nat} {draft : Draft} {row : CatalogRow}
    (keyed : keyOf draft.base = key) (ready : draft.entry = some row) :
    (run.push tenant i row).Shown tenant key ↔
      draft.Ahead (versionsOf tenant key run.stored) := by
  have versions : versionsOf tenant key (run.stored ++ [⟨row, some tenant⟩]) =
      versionsOf tenant key run.stored ++ [⟨row, some tenant⟩] := by
    rw [versionsOf_append, versionsOf_single ((Draft.key_of_entry ready).trans keyed)]
  rw [Draft.ahead_iff ready, ← newestOf_append_iff]
  constructor
  · intro shown
    rw [← versions]
    exact (shown row rfl).1
  · rintro sole _ ⟨⟩
    refine ⟨versions ▸ sole, fun reader => ?_⟩
    exact versions ▸ reader.chooses.of_overtakes (newestOf_append_iff.mp sole)

theorem CatalogRun.kept_step {event : CatalogEvent} (kept : run.Kept tenant key)
    (timely : Timely tenant key event run) (steps : CatalogSteps display tenant key event run next) :
    next.Kept tenant key := by
  cases steps with
  | @read _ _ found row free newest back =>
    refine ⟨fun j draft there => ?_, kept.shown⟩
    rcases CatalogRun.setDraft_some there with rfl | before
    · exact (keyOf_readBack back).trans (mem_versionsOf.mp newest.mem).2.2
    · exact kept.keyed j draft before
  | @stamp _ _ row held now description embedding =>
    refine ⟨fun j draft there => ?_, kept.shown⟩
    rcases CatalogRun.setDraft_some there with rfl | before
    · exact kept.keyed _ (.read row) held
    · exact kept.keyed j draft before
  | onboard free profiled now =>
    refine ⟨fun j draft there => ?_, kept.shown⟩
    rcases CatalogRun.setDraft_some there with rfl | before
    · exact profiled
    · exact kept.keyed j draft before
  | append held ready =>
    exact ⟨fun j draft there => kept.keyed j draft (CatalogRun.setDraft_none there),
      (append_shown_iff (kept.keyed _ _ held) ready).mpr (timely _ held)⟩
  | abandon =>
    exact ⟨fun j draft there => kept.keyed j draft (CatalogRun.setDraft_none there), kept.shown⟩
  | elsewhere other =>
    refine ⟨kept.keyed, fun row last => ?_⟩
    rw [versionsOf_append, versionsOf_other other, List.append_nil]
    exact kept.shown row last

/-- A draft that is still ahead may be appended. -/
theorem append_reached {first : CatalogRun} {i : Nat} {draft : Draft} {row : CatalogRow}
    (reached : Reaches (CatalogSteps display tenant key) (Timely tenant key) first run)
    (held : run.drafts i = some draft) (ready : draft.entry = some row)
    (ahead : draft.Ahead (versionsOf tenant key run.stored)) :
    Reaches (CatalogSteps display tenant key) (Timely tenant key) first
      (run.push tenant i row) := by
  have timely : Timely tenant key (.append i) run := by
    intro other there
    rw [held] at there
    cases there
    exact ahead
  exact reached.snoc (.append held ready) timely

/-- In a run whose appends are all timely, every append is what the column shows until the next. -/
theorem last_version_shown {stored : List StoredCatalogRow}
    (reached : Reaches (CatalogSteps display tenant key) (Timely tenant key)
      (CatalogRun.start stored) run) : run.Shown tenant key := by
  have start : (CatalogRun.start stored).Kept tenant key :=
    ⟨fun _ _ none_ => (nomatch none_), fun _ none_ => (nomatch none_)⟩
  have kept : run.Kept tenant key :=
    reached.invariant (fun _ _ _ kept timely steps => CatalogRun.kept_step kept timely steps) start
  exact kept.shown

end

/-- The entry of `sku` as it is read. -/
def skuBack : CatalogRow :=
  { skuRow with sampleValues := .string (plainText skuRow.sampleValues) }

/-- Another description of `sku`, read and stamped in the second the column was onboarded. -/
def skuEdit : Draft := .edited skuBack 1000 "stock keeping unit" [1, 0]

def skuEdited : CatalogRow := editedRow "stock keeping unit" [1, 0] 1000 skuBack

theorem last_version_shown_sku :
    ∃ run : CatalogRun, run.stored = [⟨skuRow, some "acme"⟩, ⟨skuEdited, some "acme"⟩] ∧
      run.last = some skuEdited ∧ run.Shown "acme" (keyOf skuRow) := by
  let Run := Reaches (CatalogSteps plainText "acme" (keyOf skuRow)) (Timely "acme" (keyOf skuRow))
    (CatalogRun.start [])
  -- the onboarding, into an empty catalogue
  let onboarding := (CatalogRun.start []).setDraft 0 (some (.onboarded skuRow 1000))
  let onboarded := onboarding.push "acme" 0 skuRow
  have profiled : Run onboarding := (Reaches.refl _).snoc (.onboard rfl rfl 1000) trivial
  have appended : Run onboarded :=
    append_reached profiled rfl rfl (fun _ none_ => absurd none_ List.not_mem_nil)
  -- the edit, of the only version there is
  let reading := onboarded.setDraft 1 (some (.read skuBack))
  let editing := reading.setDraft 1 (some skuEdit)
  have newest : IsNewest epochOf (versionsOf "acme" (keyOf skuRow) onboarded.stored)
      ⟨skuRow, some "acme"⟩ :=
    ⟨List.mem_singleton_self _, fun _ listed => (congrArg epochOf (List.mem_singleton.mp listed)).le⟩
  have back : readBack plainText "acme" skuRow = .ok skuBack :=
    readBack_eq plainText "acme" skuRow skuRow_single (by decide) (by decide)
  have read : Run reading := appended.snoc (.read rfl newest back) trivial
  have held : reading.drafts 1 = some (.read skuBack) := rfl
  have stamped : Run editing :=
    read.snoc (.stamp held 1000 "stock keeping unit" [1, 0]) trivial
  have ahead : skuEdit.Ahead (versionsOf "acme" (keyOf skuRow) editing.stored) := by
    intro stored listed
    rw [List.mem_singleton.mp listed]
    decide
  have edited : Run (editing.push "acme" 1 skuEdited) := append_reached stamped rfl rfl ahead
  exact ⟨_, rfl, rfl, last_version_shown edited⟩

/-- Two onboardings in one second leave two newest versions, and the first may be what is shown. -/
theorem same_second_shown_twice :
    ¬ ∀ (display : Json → String) (tenant : String) (key : ColumnKey)
      (stored : List StoredCatalogRow) (run : CatalogRun),
      Reaches (CatalogSteps display tenant key) (fun _ _ => True) (CatalogRun.start stored) run →
        run.Shown tenant key := by
  intro shown
  let Run := Reaches (CatalogSteps plainText "acme" (keyOf skuRow)) (fun _ _ => True)
    (CatalogRun.start [])
  let again : CatalogRow := { skuRow with description := "the item" }
  let onboarding := (CatalogRun.start []).setDraft 0 (some (.onboarded skuRow 1000))
  let onboarded := onboarding.push "acme" 0 skuRow
  let reonboarding := onboarded.setDraft 0 (some (.onboarded again 1000))
  have profiled : Run onboarding := (Reaches.refl _).snoc (.onboard rfl rfl 1000) trivial
  have appended : Run onboarded := profiled.snoc (.append rfl rfl) trivial
  have free : onboarded.drafts 0 = none := rfl
  have same : keyOf again = keyOf skuRow := rfl
  have reprofiled : Run reonboarding := appended.snoc (.onboard free same 1000) trivial
  have both : Run (reonboarding.push "acme" 0 again) := reprofiled.snoc (.append rfl rfl) trivial
  have sole := (shown plainText "acme" (keyOf skuRow) [] _ both again rfl).1
  have two : (newestOf epochOf (versionsOf "acme" (keyOf skuRow)
      (reonboarding.push "acme" 0 again).stored)).length = 2 := by decide
  exact absurd (two.symm.trans (congrArg List.length sole)) (by decide)

end ConsumerEngine.Ingress
