import Mathlib.Data.Set.Image
import Mathlib.Data.List.Induction

/-! Sets of keyed rows under replacement and removal by key.

A change of one key touches one fiber of the set, so a run of changes is decided
key by key, and for one key by its last change and by whether anything removed the
key before. Grouping a batch into its replacements and then its removals keeps the
last change of a key only if no removal of that key is grouped behind it.
-/

set_option autoImplicit false

namespace ConsumerEngine.Foundation

variable {ρ κ : Type}

/-- Rows with a key, and what writing a row over another leaves. `fresh` rows carry
nothing of their own beyond what a write sets. -/
structure Keying (ρ κ : Type) where
  key : ρ → κ
  onto : ρ → ρ → ρ
  fresh : ρ → Prop
  key_onto : ∀ source target, key (onto source target) = key source
  onto_onto : ∀ first second target, fresh first → fresh second →
    onto second (onto first target) = onto second target
  onto_fresh : ∀ first second, fresh first → fresh second → onto second first = second

/-- One change of a keyed set: write a row, or remove a key. -/
inductive Change (ρ κ : Type) where
  | put (row : ρ)
  | drop (key : κ)

namespace Change

def isPut : Change ρ κ → Bool
  | .put _ => true
  | .drop _ => false

def isDrop : Change ρ κ → Bool
  | .put _ => false
  | .drop _ => true

end Change

/-! ### What one key holds -/

section
variable {σ : Type} (write : ρ → σ → σ) (cleared : σ)

/-- A change of the right key acts on what the key holds. -/
def onHeld (held : σ) : Change ρ κ → σ
  | .put row => write row held
  | .drop _ => cleared

/-- What the changes of one key leave: nothing after a removal, else the last row written,
over what was held when nothing removed it before. -/
def settleHeld (held : σ) (changes : List (Change ρ κ)) : σ :=
  match changes.getLast? with
  | none => held
  | some (.drop _) => cleared
  | some (.put row) => write row (if changes.any Change.isDrop then cleared else held)

variable {write} {fresh : ρ → Prop} (overwritten : ∀ first second, fresh first → fresh second →
  ∀ held, write second (write first held) = write second held)

include overwritten in
/-- Where of two writes only the second shows, the last change of a key decides. -/
theorem foldl_onHeld {changes : List (Change ρ κ)}
    (written : ∀ row, Change.put row ∈ changes → fresh row) (held : σ) :
    changes.foldl (onHeld write cleared) held = settleHeld write cleared held changes := by
  induction changes using List.reverseRecOn with
  | nil => rfl
  | append_singleton changes last ih =>
    have before := ih fun row member => written row (List.mem_append_left _ member)
    rw [List.foldl_append, List.foldl_cons, List.foldl_nil, before]
    cases last with
    | drop key => simp [settleHeld, onHeld]
    | put row =>
      have freshRow : fresh row := written row (by simp)
      simp only [settleHeld, onHeld, List.getLast?_append, List.getLast?_singleton,
        Option.some_or, List.any_append, List.any_cons, Change.isDrop, List.any_nil, Bool.or_false]
      cases ending : changes.getLast? with
      | none =>
        have none : changes = [] := by simpa using ending
        simp [none]
      | some change =>
        have member : change ∈ changes := List.mem_of_getLast? ending
        cases change with
        | drop key =>
          have dropped : changes.any Change.isDrop = true :=
            List.any_eq_true.mpr ⟨_, member, rfl⟩
          simp [dropped]
        | put first =>
          have freshFirst : fresh first := written first (List.mem_append_left _ member)
          simp only [overwritten first row freshFirst freshRow]

end

namespace Keying

variable (K : Keying ρ κ)

/-- The rows of a set under one key. -/
def fiber (rows : Set ρ) (key : κ) : Set ρ := {row | row ∈ rows ∧ K.key row = key}

/-- The rows of one key after a row was written over them. -/
def rewrite (row : ρ) (fiber : Set ρ) : Set ρ :=
  {result | (∃ target ∈ fiber, result = K.onto row target) ∨ (fiber = ∅ ∧ result = row)}

def keyOf : Change ρ κ → κ
  | .put row => K.key row
  | .drop key => key

/-- Write or remove by key. -/
def step (rows : Set ρ) (change : Change ρ κ) : Set ρ :=
  {row | row ∈ rows ∧ K.key row ≠ K.keyOf change} ∪
    match change with
    | .put row => K.rewrite row (K.fiber rows (K.key row))
    | .drop _ => ∅

def run (changes : List (Change ρ κ)) (rows : Set ρ) : Set ρ := changes.foldl K.step rows

/-- What a change of the right key does to a fiber. -/
def act (fiber : Set ρ) : Change ρ κ → Set ρ
  | .put row => K.rewrite row fiber
  | .drop _ => ∅

theorem ext_fibers {first second : Set ρ} :
    first = second ↔ ∀ key, K.fiber first key = K.fiber second key := by
  constructor
  · intro same key
    rw [same]
  · intro same
    ext row
    have here := Set.ext_iff.mp (same (K.key row)) row
    simpa [fiber] using here

theorem key_of_mem_rewrite {row result : ρ} {fiber : Set ρ} (member : result ∈ K.rewrite row fiber) :
    K.key result = K.key row := by
  rcases member with ⟨target, _, rfl⟩ | ⟨_, rfl⟩
  · exact K.key_onto row target
  · rfl

theorem fiber_step_self (rows : Set ρ) (change : Change ρ κ) :
    K.fiber (K.step rows change) (K.keyOf change) =
      K.act (K.fiber rows (K.keyOf change)) change := by
  ext row
  cases change with
  | drop key => simp [fiber, step, keyOf, act]
  | put source =>
    simp only [fiber, step, keyOf, act, Set.mem_union, Set.mem_ofPred_eq]
    constructor
    · rintro ⟨⟨_, ne⟩ | written, same⟩
      · exact absurd same ne
      · exact written
    · intro written
      exact ⟨Or.inr written, K.key_of_mem_rewrite written⟩

theorem fiber_step_of_ne (rows : Set ρ) (change : Change ρ κ) {key : κ}
    (ne : key ≠ K.keyOf change) : K.fiber (K.step rows change) key = K.fiber rows key := by
  ext row
  simp only [fiber, step, Set.mem_union, Set.mem_ofPred_eq]
  constructor
  · rintro ⟨⟨member, _⟩ | written, same⟩
    · exact ⟨member, same⟩
    · cases change with
      | drop _ => cases written
      | put source => exact absurd (same.symm.trans (K.key_of_mem_rewrite written)) ne
  · rintro ⟨member, same⟩
    exact ⟨Or.inl ⟨member, same ▸ ne⟩, same⟩

theorem rewrite_nonempty (row : ρ) (fiber : Set ρ) : K.rewrite row fiber ≠ ∅ := by
  rcases fiber.eq_empty_or_nonempty with empty | ⟨target, member⟩
  · exact Set.Nonempty.ne_empty ⟨row, Or.inr ⟨empty, rfl⟩⟩
  · exact Set.Nonempty.ne_empty ⟨_, Or.inl ⟨target, member, rfl⟩⟩

@[simp] theorem rewrite_empty (row : ρ) : K.rewrite row ∅ = {row} := by
  ext result
  simp [rewrite]

theorem mem_rewrite {row result : ρ} {fiber : Set ρ} (some : fiber ≠ ∅) :
    result ∈ K.rewrite row fiber ↔ ∃ target ∈ fiber, result = K.onto row target := by
  simp [rewrite, some]

theorem rewrite_singleton {first second : ρ} (freshFirst : K.fresh first)
    (freshSecond : K.fresh second) : K.rewrite second {first} = {second} := by
  ext result
  simp [rewrite, K.onto_fresh first second freshFirst freshSecond]

/-- Of two writes to one key only the second shows. -/
theorem rewrite_rewrite {first second : ρ} (freshFirst : K.fresh first)
    (freshSecond : K.fresh second) (fiber : Set ρ) :
    K.rewrite second (K.rewrite first fiber) = K.rewrite second fiber := by
  rcases fiber.eq_empty_or_nonempty with empty | some
  · subst empty
    rw [rewrite_empty, rewrite_empty, K.rewrite_singleton freshFirst freshSecond]
  · have written : ∀ target, K.onto second (K.onto first target) = K.onto second target :=
      fun target => K.onto_onto first second target freshFirst freshSecond
    ext result
    rw [K.mem_rewrite (K.rewrite_nonempty first fiber), K.mem_rewrite some.ne_empty]
    constructor
    · rintro ⟨middle, between, rfl⟩
      obtain ⟨target, member, rfl⟩ := (K.mem_rewrite some.ne_empty).mp between
      exact ⟨target, member, written target⟩
    · rintro ⟨target, member, rfl⟩
      exact ⟨K.onto first target, (K.mem_rewrite some.ne_empty).mpr ⟨target, member, rfl⟩,
        (written target).symm⟩

/-- Every written row is fresh. -/
def Fresh (changes : List (Change ρ κ)) : Prop := ∀ row, Change.put row ∈ changes → K.fresh row

/-- What the changes of one key leave of its fiber: nothing after a removal, else the
last row written, over the fiber when nothing removed it before. -/
def settle (fiber : Set ρ) (changes : List (Change ρ κ)) : Set ρ :=
  match changes.getLast? with
  | none => fiber
  | some (.drop _) => ∅
  | some (.put row) => if changes.any Change.isDrop then {row} else K.rewrite row fiber

theorem foldl_act {changes : List (Change ρ κ)} (fresh : K.Fresh changes) (fiber : Set ρ) :
    changes.foldl K.act fiber = K.settle fiber changes := by
  have acts : K.act = onHeld K.rewrite ∅ := by
    funext fiber change
    cases change <;> rfl
  rw [acts, foldl_onHeld ∅ (fun _ _ first second => K.rewrite_rewrite first second) fresh]
  unfold settleHeld settle
  cases changes.getLast? with
  | none => rfl
  | some change =>
    cases change with
    | drop key => rfl
    | put row => cases changes.any Change.isDrop <;> simp

/-- A batch's replacements, then its removals. -/
def grouped (batch : List (Change ρ κ)) : List (Change ρ κ) :=
  batch.filter Change.isPut ++ batch.filter Change.isDrop

/-- Grouping forgets a write behind a removal of its key. -/
theorem settle_grouped (fiber : Set ρ) (changes : List (Change ρ κ)) :
    K.settle fiber (grouped changes) =
      if changes.any Change.isDrop then ∅ else K.settle fiber changes := by
  cases dropped : changes.any Change.isDrop with
  | true =>
    obtain ⟨change, member, isDrop⟩ := List.any_eq_true.mp dropped
    have drops : changes.filter Change.isDrop ≠ [] :=
      List.ne_nil_of_mem (List.mem_filter.mpr ⟨member, isDrop⟩)
    obtain ⟨ending, found⟩ := Option.ne_none_iff_exists'.mp
      (fun none => drops (List.getLast?_eq_none_iff.mp none))
    have last : (grouped changes).getLast? = some ending := by
      rw [grouped, List.getLast?_append, found, Option.some_or]
    have ends := (List.mem_filter.mp (List.mem_of_getLast? found)).2
    simp only [settle, last, if_true]
    cases ending with
    | drop key => rfl
    | put row => cases ends
  | false =>
    have kept : grouped changes = changes := by
      have noDrops : changes.filter Change.isDrop = [] := by
        rw [List.filter_eq_nil_iff]
        exact fun change member => by simpa using List.any_eq_false.mp dropped change member
      have allPuts : changes.filter Change.isPut = changes := by
        rw [List.filter_eq_self]
        intro change member
        have notDrop := List.any_eq_false.mp dropped change member
        cases change with
        | put row => rfl
        | drop key => exact absurd rfl notDrop
      rw [grouped, noDrops, allPuts, List.append_nil]
    rw [kept]
    rfl

theorem fresh_grouped {batch : List (Change ρ κ)} (fresh : K.Fresh batch) :
    K.Fresh (grouped batch) := by
  intro row member
  rcases List.mem_append.mp member with inPuts | inDrops
  · exact fresh row ((List.mem_filter.mp inPuts).1)
  · exact fresh row ((List.mem_filter.mp inDrops).1)

theorem run_append (first second : List (Change ρ κ)) (rows : Set ρ) :
    K.run (first ++ second) rows = K.run second (K.run first rows) := List.foldl_append

/-! ### One key of a run -/

section
variable [DecidableEq κ]

/-- The changes of one key, in order. -/
def ofKey (changes : List (Change ρ κ)) (key : κ) : List (Change ρ κ) :=
  changes.filter fun change => K.keyOf change = key

/-- A run acts on the rows of a key by the changes of that key. -/
theorem fiber_run (changes : List (Change ρ κ)) (rows : Set ρ) (key : κ) :
    K.fiber (K.run changes rows) key = (K.ofKey changes key).foldl K.act (K.fiber rows key) := by
  induction changes generalizing rows with
  | nil => rfl
  | cons change changes ih =>
    have rest := ih (K.step rows change)
    simp only [run, List.foldl_cons] at rest ⊢
    rw [rest]
    by_cases same : K.keyOf change = key
    · subst same
      simp [ofKey, fiber_step_self]
    · rw [K.fiber_step_of_ne rows change (Ne.symm same)]
      simp [ofKey, same]

theorem ofKey_grouped (batch : List (Change ρ κ)) (key : κ) :
    K.ofKey (grouped batch) key = grouped (K.ofKey batch key) := by
  simp only [ofKey, grouped, List.filter_append, List.filter_filter, Bool.and_comm]

theorem fresh_ofKey {batch : List (Change ρ κ)} (fresh : K.Fresh batch) (key : κ) :
    K.Fresh (K.ofKey batch key) := fun row member => fresh row ((List.mem_filter.mp member).1)

/-- The fiber of a key after one batch. -/
theorem fiber_run_settle {batch : List (Change ρ κ)} (fresh : K.Fresh batch) (rows : Set ρ)
    (key : κ) : K.fiber (K.run batch rows) key = K.settle (K.fiber rows key) (K.ofKey batch key) := by
  rw [K.fiber_run, K.foldl_act (K.fresh_ofKey fresh key)]

/-- Of changes that remove nothing, those of one key remove nothing. -/
theorem puts_ofKey {changes : List (Change ρ κ)} (puts : changes.any Change.isDrop = false)
    (key : κ) : (K.ofKey changes key).any Change.isDrop = false :=
  List.any_eq_false.mpr fun change member =>
    List.any_eq_false.mp puts change (List.mem_filter.mp member).1

/-- Writes alone are decided by the last one of each key. -/
theorem run_eq_of_last {first second : List (Change ρ κ)} (freshFirst : K.Fresh first)
    (freshSecond : K.Fresh second) (putsFirst : first.any Change.isDrop = false)
    (putsSecond : second.any Change.isDrop = false)
    (same : ∀ key, (K.ofKey first key).getLast? = (K.ofKey second key).getLast?) (rows : Set ρ) :
    K.run first rows = K.run second rows := by
  rw [K.ext_fibers]
  intro key
  rw [K.fiber_run_settle freshFirst, K.fiber_run_settle freshSecond]
  simp only [settle, same key, K.puts_ofKey putsFirst key, K.puts_ofKey putsSecond key]

/-! ### Runs of grouped batches -/

/-- A run of batches, each grouped. -/
def runGrouped (batches : List (List (Change ρ κ))) (rows : Set ρ) : Set ρ :=
  batches.foldl (fun rows batch => K.run (grouped batch) rows) rows

/-- The last batch that changes a key. -/
def lastTouching (batches : List (List (Change ρ κ))) (key : κ) : Option (List (Change ρ κ)) :=
  (batches.filter fun batch => !(K.ofKey batch key).isEmpty).getLast?

/-- The batch removes the key and writes it afterwards. -/
def revives (batch : List (Change ρ κ)) (key : κ) : Bool :=
  (K.ofKey batch key).getLast?.any Change.isPut && (K.ofKey batch key).any Change.isDrop

/-- No key is written for the last time in a batch that also removes it. -/
def Settled (batches : List (List (Change ρ κ))) : Prop :=
  ∀ key batch, K.lastTouching batches key = some batch → K.revives batch key = false

/-- The fiber of a key after one grouped batch. -/
theorem fiber_run_grouped {batch : List (Change ρ κ)} (fresh : K.Fresh batch) (rows : Set ρ)
    (key : κ) : K.fiber (K.run (grouped batch) rows) key =
      if (K.ofKey batch key).any Change.isDrop then ∅
      else K.settle (K.fiber rows key) (K.ofKey batch key) := by
  rw [K.fiber_run_settle (K.fresh_grouped fresh), K.ofKey_grouped, K.settle_grouped]

theorem lastTouching_append (batches : List (List (Change ρ κ))) (batch : List (Change ρ κ))
    (key : κ) : K.lastTouching (batches ++ [batch]) key =
      if (K.ofKey batch key).isEmpty then K.lastTouching batches key else some batch := by
  cases untouched : (K.ofKey batch key).isEmpty <;>
    simp [lastTouching, List.filter_append, untouched]

/-- Key by key, grouping either makes no difference or has lost one written row. -/
private theorem fiber_runGrouped {batches : List (List (Change ρ κ))}
    (fresh : ∀ batch ∈ batches, K.Fresh batch) (rows : Set ρ) (key : κ) :
    if (K.lastTouching batches key).any (K.revives · key) then
      K.fiber (K.runGrouped batches rows) key = ∅ ∧
        ∃ row, K.fresh row ∧ K.fiber (K.run batches.flatten rows) key = {row}
    else K.fiber (K.runGrouped batches rows) key = K.fiber (K.run batches.flatten rows) key := by
  induction batches using List.reverseRecOn with
  | nil => rfl
  | append_singleton batches batch ih =>
    have before := ih fun other member => fresh other (List.mem_append_left _ member)
    have here : K.Fresh batch := fresh batch (by simp)
    have groupedLast : K.runGrouped (batches ++ [batch]) rows =
        K.run (grouped batch) (K.runGrouped batches rows) := by
      simp [runGrouped, List.foldl_append]
    have runLast : K.run (batches ++ [batch]).flatten rows =
        K.run batch (K.run batches.flatten rows) := by
      rw [List.flatten_append, List.flatten_singleton, K.run_append]
    rw [groupedLast, runLast, K.fiber_run_grouped here, K.fiber_run_settle here,
      K.lastTouching_append]
    cases ending : (K.ofKey batch key).getLast? with
    | none =>
      have untouched : K.ofKey batch key = [] := by simpa using ending
      simpa [untouched, settle] using before
    | some change =>
      have touched : (K.ofKey batch key).isEmpty = false := by
        rw [List.isEmpty_eq_false_iff]
        intro none
        simp [none] at ending
      have member : change ∈ K.ofKey batch key := List.mem_of_getLast? ending
      cases change with
      | drop removed =>
        have dropped : (K.ofKey batch key).any Change.isDrop = true :=
          List.any_eq_true.mpr ⟨_, member, rfl⟩
        simp [touched, revives, ending, dropped, settle, Change.isPut]
      | put row =>
        have freshRow : K.fresh row := K.fresh_ofKey here key row member
        cases dropped : (K.ofKey batch key).any Change.isDrop with
        | true =>
          simp only [touched, revives, ending, dropped, settle, Change.isPut, Option.any_some,
            Bool.and_self, Bool.false_eq_true, if_false, if_true, true_and]
          exact ⟨row, freshRow, rfl⟩
        | false =>
          simp only [touched, revives, ending, dropped, settle, Bool.and_false, Option.any_some,
            Bool.false_eq_true, if_false]
          split at before
          · obtain ⟨lost, kept, freshKept, found⟩ := before
            rw [lost, found, rewrite_empty, K.rewrite_singleton freshKept freshRow]
          · rw [before]

/-- Applying batches grouped is applying their changes in order exactly when no key is
written for the last time in a batch that also removes it. -/
theorem runGrouped_eq_run_iff {batches : List (List (Change ρ κ))}
    (fresh : ∀ batch ∈ batches, K.Fresh batch) (rows : Set ρ) :
    K.runGrouped batches rows = K.run batches.flatten rows ↔ K.Settled batches := by
  rw [K.ext_fibers]
  refine forall_congr' fun key => ?_
  have decided := K.fiber_runGrouped fresh rows key
  cases found : K.lastTouching batches key with
  | none =>
    rw [found] at decided
    simpa using decided
  | some batch =>
    rw [found] at decided
    cases revived : K.revives batch key with
    | false => simpa [revived] using decided
    | true =>
      simp only [Option.any_some, revived, if_true] at decided
      obtain ⟨lost, row, -, kept⟩ := decided
      constructor
      · intro same
        rw [lost, kept] at same
        exact absurd same.symm (Set.singleton_ne_empty row)
      · intro settled
        exact absurd (settled batch rfl) (by simp [revived])

end

end Keying

end ConsumerEngine.Foundation
