import Mathlib.Data.List.MinMax
import Mathlib.Order.Compare

/-! The best `k` of some items, in order.

The items are sorted stably and the first `k` are kept. Where no two of them compare as equal,
what is kept and its order depend on the items alone, not on how they were listed.
-/

set_option autoImplicit false

namespace ConsumerEngine.Foundation

variable {α : Type} {cmp : α → α → Ordering} {k : Nat} {items top : List α}

/-- The first `k` items of a stable sort. -/
def topK (cmp : α → α → Ordering) (k : Nat) (items : List α) : List α :=
  (items.mergeSort fun a b => (cmp a b).isLE).take k

/-- The items in order up to the `k`th, and none left out that precedes one of them. -/
structure IsTopK (cmp : α → α → Ordering) (k : Nat) (items top : List α) : Prop where
  size : top.length = min k items.length
  sorted : top.Pairwise fun a b => (cmp a b).isLE
  split : ∃ rest, (top ++ rest).Perm items ∧ ∀ a ∈ top, ∀ b ∈ rest, (cmp a b).isLE

theorem topK_isTopK [Std.TransCmp cmp] (k : Nat) (items : List α) :
    IsTopK cmp k items (topK cmp k items) := by
  let sorted := items.mergeSort fun a b => (cmp a b).isLE
  have perm : sorted.Perm items := List.mergeSort_perm items _
  have ordered : sorted.Pairwise fun a b => (cmp a b).isLE := by
    refine List.pairwise_mergeSort (fun a b c => Std.TransCmp.isLE_trans) (fun a b => ?_) items
    have swap : cmp b a = (cmp a b).swap := Std.OrientedCmp.eq_swap
    rw [swap]
    cases cmp a b <;> rfl
  rw [← List.take_append_drop k sorted] at ordered perm
  have parts := List.pairwise_append.mp ordered
  refine ⟨?_, parts.1, sorted.drop k, perm, parts.2.2⟩
  rw [topK, List.length_take, List.length_mergeSort]

/-- Items no two of which compare as equal are in strict order, and those left out come behind. -/
theorem IsTopK.strict [Std.TransCmp cmp] (best : IsTopK cmp k items top)
    (distinct : items.Pairwise fun a b => cmp a b ≠ .eq) :
    top.Pairwise (fun a b => cmp a b = .lt) ∧
      ∀ a ∈ top, ∀ b ∈ items, b ∉ top → cmp a b = .lt := by
  have lt_of : ∀ {a b : α}, (cmp a b).isLE → cmp a b ≠ .eq → cmp a b = .lt := by
    intro a b le ne
    cases is : cmp a b with
    | lt => rfl
    | eq => exact absurd is ne
    | gt => rw [is] at le; cases le
  have symm : ∀ {a b : α}, cmp a b ≠ .eq → cmp b a ≠ .eq := fun ne eq =>
    ne (Std.OrientedCmp.eq_comm.mp eq)
  obtain ⟨rest, perm, before⟩ := best.split
  have apart := List.pairwise_append.mp ((perm.pairwise_iff symm).mpr distinct)
  refine ⟨best.sorted.imp₂ (fun _ _ => lt_of) apart.1, fun a kept b member out => ?_⟩
  have left : b ∈ rest := (List.mem_append.mp (perm.mem_iff.mpr member)).resolve_left out
  exact lt_of (before a kept b left) (apart.2.2 a kept b left)

end ConsumerEngine.Foundation
