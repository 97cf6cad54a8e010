import Mathlib.Data.List.MinMax

/-! Choosing the newest of some items.

Items are ordered by a key that several of them may share. Whoever chooses one of the newest
is free among equals; the choice is forced exactly where the last item overtakes the others.
-/

set_option autoImplicit false

namespace ConsumerEngine.Foundation

variable {α κ : Type} [LinearOrder κ] {key : α → κ} {items : List α} {item : α}

/-- An item with no newer one beside it. -/
structure IsNewest (key : α → κ) (items : List α) (item : α) : Prop where
  mem : item ∈ items
  most : ∀ other ∈ items, key other ≤ key item

/-- A way to choose one of the newest items wherever there are any. -/
structure Chooses (key : α → κ) (choose : List α → Option α) : Prop where
  newest : ∀ {items item}, choose items = some item → IsNewest key items item
  total : ∀ {items}, choose items = none → items = []

/-- An item newer than all the others. -/
def Overtakes (key : α → κ) (items : List α) (item : α) : Prop :=
  ∀ other ∈ items, key other < key item

instance [DecidableEq α] (key : α → κ) (items : List α) (item : α) :
    Decidable (Overtakes key items item) :=
  inferInstanceAs (Decidable (∀ other ∈ items, key other < key item))

/-- The newest items, each as often as it is there. -/
def newestOf (key : α → κ) (items : List α) : List α :=
  items.filter fun item => decide (∀ other ∈ items, key other ≤ key item)

theorem argmax_chooses (key : α → κ) : Chooses key (List.argmax key) where
  newest found := ⟨List.argmax_mem found, fun _ member => List.le_of_mem_argmax member found⟩
  total none_ := List.argmax_eq_none.mp none_

/-- An item that overtakes the others is what anyone chooses. -/
theorem Chooses.of_overtakes {choose : List α → Option α} (chooses : Chooses key choose)
    (overtakes : Overtakes key items item) : choose (items ++ [item]) = some item := by
  cases chosen : choose (items ++ [item]) with
  | none => exact absurd (chooses.total chosen) (by simp)
  | some other =>
    have newest := chooses.newest chosen
    rcases List.mem_append.mp newest.mem with old | last
    · exact absurd (newest.most item (by simp)) (overtakes other old).not_ge
    · rw [List.mem_singleton.mp last]

/-- The last item is the only newest one exactly if it overtakes the others. -/
theorem newestOf_append_iff :
    newestOf key (items ++ [item]) = [item] ↔ Overtakes key items item := by
  have split : newestOf key (items ++ [item]) =
      items.filter (fun one => decide (∀ other ∈ items ++ [item], key other ≤ key one)) ++
        [item].filter (fun one => decide (∀ other ∈ items ++ [item], key other ≤ key one)) :=
    List.filter_append _ _
  constructor
  · intro sole other member
    have newest : item ∈ newestOf key (items ++ [item]) := by
      rw [sole]
      exact List.mem_singleton_self item
    have most := of_decide_eq_true (List.mem_filter.mp newest).2
    refine lt_of_le_of_ne (most other (List.mem_append_left _ member)) fun same => ?_
    have here : [item].filter
        (fun one => decide (∀ other ∈ items ++ [item], key other ≤ key one)) = [item] := by
      refine List.filter_eq_self.mpr fun one among => ?_
      rw [List.mem_singleton.mp among]
      exact decide_eq_true most
    rw [split, here] at sole
    have none_ : items.filter
        (fun one => decide (∀ other ∈ items ++ [item], key other ≤ key one)) = [] := by
      simpa using sole
    have equal := List.filter_eq_nil_iff.mp none_ other member
    exact equal (decide_eq_true fun one among => (most one among).trans same.ge)
  · intro overtakes
    have most : ∀ other ∈ items ++ [item], key other ≤ key item := by
      intro other member
      rcases List.mem_append.mp member with old | last
      · exact (overtakes other old).le
      · rw [List.mem_singleton.mp last]
    have older : items.filter
        (fun one => decide (∀ other ∈ items ++ [item], key other ≤ key one)) = [] := by
      refine List.filter_eq_nil_iff.mpr fun other member newest => ?_
      exact absurd (of_decide_eq_true newest item (by simp)) (overtakes other member).not_ge
    rw [split, older, List.nil_append]
    refine List.filter_eq_self.mpr fun one among => ?_
    rw [List.mem_singleton.mp among]
    exact decide_eq_true most

end ConsumerEngine.Foundation
