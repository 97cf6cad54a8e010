import ConsumerEngine.Foundation.KeyedSets
import Mathlib.Data.Multiset.Filter

/-! Multisets of keyed rows under replacement and removal by key.

A write reaches every row of its key, so duplicates stay as many as they were until the
key is removed. What a run of changes leaves of a key is decided by its last change and by
whether anything removed the key before; that is why running its end again changes nothing.
-/

set_option autoImplicit false

namespace ConsumerEngine.Foundation.Keying

variable {ρ κ : Type} (K : Keying ρ κ)

/-- The rows of one key after a row was written over them. -/
def write (row : ρ) (bag : Multiset ρ) : Multiset ρ :=
  if bag.card = 0 then {row} else bag.map (K.onto row)

theorem key_of_mem_write {row result : ρ} {bag : Multiset ρ} (member : result ∈ K.write row bag) :
    K.key result = K.key row := by
  unfold write at member
  split at member
  · rw [Multiset.mem_singleton.mp member]
  · obtain ⟨target, -, rfl⟩ := Multiset.mem_map.mp member
    exact K.key_onto row target

theorem key_of_mem_onHeld {bag : Multiset ρ} {change : Change ρ κ} {row : ρ}
    (member : row ∈ onHeld K.write 0 bag change) : K.key row = K.keyOf change := by
  cases change with
  | put source => exact K.key_of_mem_write member
  | drop key => exact absurd member (Multiset.notMem_zero row)

@[simp] theorem write_zero (row : ρ) : K.write row 0 = {row} := rfl

theorem write_singleton {first second : ρ} (freshFirst : K.fresh first)
    (freshSecond : K.fresh second) : K.write second {first} = {second} := by
  simp [write, K.onto_fresh first second freshFirst freshSecond]

/-- Of two writes to one key only the second shows. -/
theorem write_write {first second : ρ} (freshFirst : K.fresh first) (freshSecond : K.fresh second)
    (bag : Multiset ρ) : K.write second (K.write first bag) = K.write second bag := by
  by_cases empty : bag.card = 0
  · rw [Multiset.card_eq_zero.mp empty, write_zero, write_zero,
      K.write_singleton freshFirst freshSecond]
  · simp only [write, if_neg empty, Multiset.card_map, Multiset.map_map]
    exact Multiset.map_congr rfl fun target _ =>
      K.onto_onto first second target freshFirst freshSecond

/-- A write does to the set of rows what it does to the rows. -/
theorem mem_write (row : ρ) (bag : Multiset ρ) :
    {result | result ∈ K.write row bag} = K.rewrite row {target | target ∈ bag} := by
  by_cases empty : bag.card = 0
  · rw [Multiset.card_eq_zero.mp empty]
    ext result
    simp [rewrite]
  · obtain ⟨target, member⟩ := Multiset.card_pos_iff_exists_mem.mp (Nat.pos_of_ne_zero empty)
    have filled : {target | target ∈ bag} ≠ ∅ := Set.Nonempty.ne_empty ⟨target, member⟩
    ext result
    rw [K.mem_rewrite filled]
    simp only [write, if_neg empty, Multiset.mem_map, Set.mem_ofPred_eq, eq_comm]

/-- The last change of a key decides, the first time and the second. -/
theorem foldl_onHeld_again {changes : List (Change ρ κ)} (fresh : K.Fresh changes)
    (bag : Multiset ρ) :
    changes.foldl (onHeld K.write 0) (changes.foldl (onHeld K.write 0) bag) =
      changes.foldl (onHeld K.write 0) bag := by
  have overwritten := fun first second freshFirst freshSecond =>
    @write_write _ _ K first second freshFirst freshSecond
  rw [foldl_onHeld 0 overwritten fresh, foldl_onHeld 0 overwritten fresh]
  unfold settleHeld
  cases ending : changes.getLast? with
  | none => rfl
  | some change =>
    cases change with
    | drop key => rfl
    | put row =>
      have freshRow : K.fresh row := fresh row (List.mem_of_getLast? ending)
      cases changes.any Change.isDrop with
      | true => rfl
      | false => exact K.write_write freshRow freshRow bag

section
variable [DecidableEq κ]

/-- The rows of a multiset under one key. -/
def bag (rows : Multiset ρ) (key : κ) : Multiset ρ := rows.filter fun row => K.key row = key

/-- Write or remove by key. -/
def stepBag (rows : Multiset ρ) (change : Change ρ κ) : Multiset ρ :=
  rows.filter (fun row => K.key row ≠ K.keyOf change) +
    onHeld K.write 0 (K.bag rows (K.keyOf change)) change

def runBag (changes : List (Change ρ κ)) (rows : Multiset ρ) : Multiset ρ :=
  changes.foldl K.stepBag rows

theorem mem_bag {rows : Multiset ρ} {key : κ} {row : ρ} :
    row ∈ K.bag rows key ↔ row ∈ rows ∧ K.key row = key := Multiset.mem_filter

theorem bag_add (left right : Multiset ρ) (key : κ) :
    K.bag (left + right) key = K.bag left key + K.bag right key := Multiset.filter_add _ _ _

/-- Multisets with the same rows under every key are the same. -/
theorem ext_bags {first second : Multiset ρ} (same : ∀ key, K.bag first key = K.bag second key) :
    first = second := by
  classical
  refine Multiset.ext.mpr fun row => ?_
  have here := congrArg (Multiset.count row) (same (K.key row))
  have counted (rows : Multiset ρ) : Multiset.count row (K.bag rows (K.key row)) =
      Multiset.count row rows := Multiset.count_filter_of_pos rfl
  rwa [counted, counted] at here

theorem bag_stepBag_self (rows : Multiset ρ) (change : Change ρ κ) :
    K.bag (K.stepBag rows change) (K.keyOf change) =
      onHeld K.write 0 (K.bag rows (K.keyOf change)) change := by
  have gone : K.bag (rows.filter fun row => K.key row ≠ K.keyOf change) (K.keyOf change) = 0 :=
    Multiset.filter_eq_nil.mpr fun row member => (Multiset.mem_filter.mp member).2
  have kept : K.bag (onHeld K.write 0 (K.bag rows (K.keyOf change)) change) (K.keyOf change) =
      onHeld K.write 0 (K.bag rows (K.keyOf change)) change :=
    Multiset.filter_eq_self.mpr fun row member => K.key_of_mem_onHeld member
  rw [stepBag, bag_add, gone, kept, Multiset.zero_add]

theorem bag_stepBag_of_ne (rows : Multiset ρ) (change : Change ρ κ) {key : κ}
    (ne : key ≠ K.keyOf change) : K.bag (K.stepBag rows change) key = K.bag rows key := by
  have none : K.bag (onHeld K.write 0 (K.bag rows (K.keyOf change)) change) key = 0 :=
    Multiset.filter_eq_nil.mpr fun row member same =>
      ne (same.symm.trans (K.key_of_mem_onHeld member))
  rw [stepBag, bag_add, none, Multiset.add_zero, bag, Multiset.filter_filter]
  refine Multiset.filter_congr fun row _ => and_iff_left_of_imp fun same => ?_
  exact same ▸ ne

/-- A run acts on the rows of a key by the changes of that key. -/
theorem bag_runBag (changes : List (Change ρ κ)) (rows : Multiset ρ) (key : κ) :
    K.bag (K.runBag changes rows) key =
      (K.ofKey changes key).foldl (onHeld K.write 0) (K.bag rows key) := by
  induction changes generalizing rows with
  | nil => rfl
  | cons change changes ih =>
    have rest := ih (K.stepBag rows change)
    simp only [runBag, List.foldl_cons] at rest ⊢
    rw [rest]
    by_cases same : K.keyOf change = key
    · subst same
      simp [ofKey, bag_stepBag_self]
    · rw [K.bag_stepBag_of_ne rows change (Ne.symm same)]
      simp [ofKey, same]

theorem runBag_append (first second : List (Change ρ κ)) (rows : Multiset ρ) :
    K.runBag (first ++ second) rows = K.runBag second (K.runBag first rows) := List.foldl_append

/-- Runs of writes with the same last write of every key leave the same rows. -/
theorem runBag_eq_of_last {first second : List (Change ρ κ)} (freshFirst : K.Fresh first)
    (freshSecond : K.Fresh second) (putsFirst : first.any Change.isDrop = false)
    (putsSecond : second.any Change.isDrop = false)
    (same : ∀ key, (K.ofKey first key).getLast? = (K.ofKey second key).getLast?)
    (rows : Multiset ρ) : K.runBag first rows = K.runBag second rows := by
  have overwritten := fun first second freshFirst freshSecond =>
    @write_write _ _ K first second freshFirst freshSecond
  refine K.ext_bags fun key => ?_
  rw [K.bag_runBag, K.bag_runBag, foldl_onHeld 0 overwritten (K.fresh_ofKey freshFirst key),
    foldl_onHeld 0 overwritten (K.fresh_ofKey freshSecond key)]
  simp only [settleHeld, same key, K.puts_ofKey putsFirst key, K.puts_ofKey putsSecond key]

/-! ### Running changes again -/

theorem runBag_again {changes : List (Change ρ κ)} (fresh : K.Fresh changes) (rows : Multiset ρ) :
    K.runBag changes (K.runBag changes rows) = K.runBag changes rows := by
  refine K.ext_bags fun key => ?_
  rw [K.bag_runBag changes (K.runBag changes rows), K.bag_runBag changes rows]
  exact K.foldl_onHeld_again (K.fresh_ofKey fresh key) _

/-- Running the end of a run once more changes nothing. -/
theorem runBag_replay (earlier : List (Change ρ κ)) {later : List (Change ρ κ)}
    (fresh : K.Fresh later) (rows : Multiset ρ) :
    K.runBag later (K.runBag (earlier ++ later) rows) = K.runBag (earlier ++ later) rows := by
  rw [K.runBag_append, K.runBag_again fresh]

/-! ### The rows without their multiplicities -/

/-- A run of changes does to the set of rows what it does to the rows. -/
theorem mem_runBag (changes : List (Change ρ κ)) (rows : Multiset ρ) :
    {row | row ∈ K.runBag changes rows} = K.run changes {row | row ∈ rows} := by
  induction changes generalizing rows with
  | nil => rfl
  | cons change changes ih =>
    have stepped : {row | row ∈ K.stepBag rows change} = K.step {row | row ∈ rows} change := by
      ext row
      simp only [stepBag, step, Multiset.mem_add, Multiset.mem_filter, Set.mem_ofPred_eq,
        Set.mem_union]
      refine or_congr Iff.rfl ?_
      cases change with
      | drop key => simp [onHeld]
      | put source =>
        have written := Set.ext_iff.mp (K.mem_write source (K.bag rows (K.key source))) row
        have same : {target | target ∈ K.bag rows (K.key source)} =
            K.fiber {row | row ∈ rows} (K.key source) := Set.ext fun target => K.mem_bag
        rwa [same] at written
    have rest := ih (K.stepBag rows change)
    rw [stepped] at rest
    exact rest

end

end ConsumerEngine.Foundation.Keying
