import Mathlib.Data.List.Basic

/-! Consecutive pieces of a list, as Rust's `slice::chunks` cuts them. -/

set_option autoImplicit false

namespace ConsumerEngine.Foundation

variable {α : Type}

def chunksFrom (size : Nat) : Nat → List α → List (List α)
  | 0, _ => []
  | _ + 1, [] => []
  | fuel + 1, items => items.take size :: chunksFrom size fuel (items.drop size)

/-- Pieces of `size` elements, the last one possibly shorter. -/
def chunks (size : Nat) (items : List α) : List (List α) := chunksFrom size items.length items

theorem chunksFrom_flatten {size : Nat} (positive : 0 < size) (fuel : Nat) (items : List α)
    (enough : items.length ≤ fuel) : (chunksFrom size fuel items).flatten = items := by
  induction fuel generalizing items with
  | zero => simp [chunksFrom, List.eq_nil_of_length_eq_zero (Nat.le_zero.mp enough)]
  | succ fuel ih =>
    cases items with
    | nil => rfl
    | cons item items =>
      have shorter : ((item :: items).drop size).length ≤ fuel := by
        simp only [List.length_drop, List.length_cons] at enough ⊢
        omega
      simp only [chunksFrom, List.flatten_cons, ih _ shorter, List.take_append_drop]

/-- Cutting loses and repeats nothing. -/
theorem chunks_flatten {size : Nat} (positive : 0 < size) (items : List α) :
    (chunks size items).flatten = items :=
  chunksFrom_flatten positive _ items (Nat.le_refl _)

@[simp] theorem chunks_nil (size : Nat) : chunks size ([] : List α) = [] := rfl

theorem mem_of_mem_chunks {size : Nat} (positive : 0 < size) {items piece : List α} {item : α}
    (inChunks : piece ∈ chunks size items) (member : item ∈ piece) : item ∈ items := by
  rw [← chunks_flatten positive items]
  exact List.mem_flatten_of_mem inChunks member

theorem ne_nil_of_mem_chunks {size : Nat} {items piece : List α}
    (inChunks : piece ∈ chunks size items) : items ≠ [] := by
  rintro rfl
  cases inChunks

theorem chunksFrom_pieces {size : Nat} (positive : 0 < size) (fuel : Nat) {items piece : List α}
    (inChunks : piece ∈ chunksFrom size fuel items) : piece ≠ [] ∧ piece.length ≤ size := by
  induction fuel generalizing items with
  | zero => cases inChunks
  | succ fuel ih =>
    cases items with
    | nil => cases inChunks
    | cons item items =>
      rcases List.mem_cons.mp inChunks with rfl | later
      · refine ⟨?_, List.length_take_le size _⟩
        rw [Ne, List.take_eq_nil_iff]
        exact fun either => either.elim (Nat.ne_of_gt positive) (List.cons_ne_nil item items)
      · exact ih later

/-- Every piece holds something, and no more than its size. -/
theorem chunks_pieces {size : Nat} (positive : 0 < size) {items piece : List α}
    (inChunks : piece ∈ chunks size items) : piece ≠ [] ∧ piece.length ≤ size :=
  chunksFrom_pieces positive _ inChunks

/-- The first piece. -/
theorem take_mem_chunks (size : Nat) {items : List α} (filled : items ≠ []) :
    items.take size ∈ chunks size items := by
  obtain ⟨item, rest, rfl⟩ := List.exists_cons_of_ne_nil filled
  exact List.mem_cons_self

/-- Re-cutting the concatenation of pieces of one width gives the pieces back. -/
theorem chunksFrom_of_flatten {width : Nat} (positive : 0 < width) (fuel : Nat)
    (pieces : List (List α)) (aligned : ∀ piece ∈ pieces, piece.length = width)
    (enough : pieces.flatten.length ≤ fuel) :
    chunksFrom width fuel pieces.flatten = pieces := by
  induction pieces generalizing fuel with
  | nil => cases fuel <;> rfl
  | cons piece pieces ih =>
    have long : piece.length = width := aligned piece (by simp)
    obtain ⟨first, rest, rfl⟩ := List.exists_cons_of_length_pos (long ▸ positive)
    cases fuel with
    | zero => simp at enough
    | succ fuel =>
      have tail : pieces.flatten.length ≤ fuel := by
        simp only [List.flatten_cons, List.length_append, List.length_cons] at enough
        omega
      have cut := ih fuel (fun piece member => aligned piece (List.mem_cons_of_mem _ member)) tail
      rw [List.flatten_cons]
      simp only [List.cons_append, chunksFrom]
      rw [← List.cons_append, List.take_left' long, List.drop_left' long, cut]

theorem chunks_of_flatten {width : Nat} (positive : 0 < width) (pieces : List (List α))
    (aligned : ∀ piece ∈ pieces, piece.length = width) : chunks width pieces.flatten = pieces :=
  chunksFrom_of_flatten positive _ pieces aligned (Nat.le_refl _)

theorem length_flatten_of_width {width : Nat} (pieces : List (List α))
    (aligned : ∀ piece ∈ pieces, piece.length = width) :
    pieces.flatten.length = width * pieces.length := by
  induction pieces with
  | nil => simp
  | cons piece pieces ih =>
    have tail := ih fun piece member => aligned piece (List.mem_cons_of_mem _ member)
    simp only [List.flatten_cons, List.length_append, List.length_cons, tail,
      aligned piece (by simp)]
    rw [Nat.mul_add, Nat.mul_one, Nat.add_comm]

/-- The items that get through a gate which is asked once for each, until it first refuses. -/
def landed (refuses : Nat → Bool) : Nat → List α → List α
  | _, [] => []
  | n, item :: rest => if refuses n then [] else item :: landed refuses (n + 1) rest

theorem landed_begins (refuses : Nat → Bool) (n : Nat) (items : List α) :
    landed refuses n items <+: items := by
  induction items generalizing n with
  | nil => simp [landed]
  | cons item rest ih =>
    simp only [landed]
    split
    · exact List.nil_prefix
    · exact (List.prefix_cons_inj item).mpr (ih (n + 1))

/-- All items get through exactly when none of their turns is refused. -/
theorem landed_eq_self_iff (refuses : Nat → Bool) (n : Nat) (items : List α) :
    landed refuses n items = items ↔ ∀ i < items.length, refuses (n + i) = false := by
  induction items generalizing n with
  | nil => simp [landed]
  | cons item rest ih =>
    simp only [landed]
    cases refused : refuses n with
    | true =>
      simp only [if_true, List.nil_eq, List.cons_ne_nil, false_iff, not_forall]
      exact ⟨0, by simp, by simp [refused]⟩
    | false =>
      simp only [Bool.false_eq_true, if_false, List.cons.injEq, true_and, ih]
      constructor
      · intro tail i below
        cases i with
        | zero => exact refused
        | succ i =>
          have next := tail i (by simpa using below)
          rwa [Nat.add_assoc, Nat.add_comm 1 i] at next
      · intro whole i below
        have next := whole (i + 1) (by simpa using below)
        rwa [← Nat.add_assoc, Nat.add_right_comm] at next

end ConsumerEngine.Foundation
