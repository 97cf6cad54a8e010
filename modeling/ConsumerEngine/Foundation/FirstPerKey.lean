import Mathlib.Data.List.Induction

/-! Keeping the first item of every key.

`firstPerKey` is what an append-only table holds after inserts that skip a key already
there. It commutes with a filter exactly if no kept item hides an item of the filter.
-/

set_option autoImplicit false

namespace ConsumerEngine.Foundation

variable {α κ : Type} [DecidableEq κ] (key : α → κ)

/-- Append an item unless its key is there. -/
def placeFirst (kept : List α) (item : α) : List α :=
  if kept.any (fun seen => key seen = key item) then kept else kept ++ [item]

def firstPerKey (items : List α) : List α := items.foldl (placeFirst key) []

theorem firstPerKey_snoc (items : List α) (item : α) :
    firstPerKey key (items ++ [item]) = placeFirst key (firstPerKey key items) item := by
  simp [firstPerKey]

/-- Of each key the first item is kept, and nothing else. -/
theorem firstPerKey_filter_key (items : List α) (k : κ) :
    (firstPerKey key items).filter (fun item => key item = k) =
      (items.find? fun item => key item = k).toList := by
  induction items using List.reverseRecOn with
  | nil => rfl
  | append_singleton items item ih =>
    rw [firstPerKey_snoc, placeFirst, List.find?_append]
    by_cases same : key item = k
    · -- the new item is kept if no item of its key came before
      cases found : items.find? (fun item => key item = k) with
      | none =>
        rw [found, Option.toList_none] at ih
        have missing : (firstPerKey key items).any (fun seen => key seen = key item) = false := by
          rw [List.any_eq_false, same]
          exact fun seen member => List.filter_eq_nil_iff.mp ih seen member
        rw [missing, if_neg Bool.false_ne_true, List.filter_append, ih]
        simp [same]
      | some held =>
        rw [found, Option.toList_some] at ih
        have member : held ∈ (firstPerKey key items).filter (fun item => key item = k) := by
          rw [ih]
          exact List.mem_singleton.mpr rfl
        obtain ⟨member, keyed⟩ := List.mem_filter.mp member
        have present : (firstPerKey key items).any (fun seen => key seen = key item) = true :=
          List.any_eq_true.mpr ⟨held, member, by simpa [same] using keyed⟩
        rw [present, if_pos rfl, ih]
        simp
    · have unchanged : (items.find? fun item => key item = k).or
          ([item].find? fun item => key item = k) = items.find? fun item => key item = k := by
        simp [same]
      rw [unchanged, ← ih]
      split
      · rfl
      · simp [same]

theorem mem_firstPerKey {items : List α} {item : α} :
    item ∈ firstPerKey key items ↔ items.find? (fun other => key other = key item) = some item := by
  have alone := firstPerKey_filter_key key items (key item)
  constructor
  · intro member
    have filtered : item ∈ (firstPerKey key items).filter (fun other => key other = key item) :=
      List.mem_filter.mpr ⟨member, by simp⟩
    rw [alone, Option.mem_toList] at filtered
    exact filtered
  · intro found
    rw [found, Option.toList_some] at alone
    have filtered : item ∈ (firstPerKey key items).filter (fun other => key other = key item) := by
      rw [alone]
      exact List.mem_singleton.mpr rfl
    exact (List.mem_filter.mp filtered).1

theorem any_firstPerKey (items : List α) (k : κ) :
    (firstPerKey key items).any (fun seen => key seen = k) =
      items.any (fun seen => key seen = k) := by
  have alone := firstPerKey_filter_key key items k
  rw [Bool.eq_iff_iff, List.any_eq_true, List.any_eq_true]
  constructor
  · rintro ⟨item, member, keyed⟩
    have found := (mem_firstPerKey key).mp member
    exact ⟨item, List.mem_of_find?_eq_some found, keyed⟩
  · rintro ⟨item, member, keyed⟩
    have some : (items.find? fun item => key item = k).isSome :=
      List.find?_isSome.mpr ⟨item, member, keyed⟩
    obtain ⟨held, found⟩ := Option.isSome_iff_exists.mp some
    rw [found, Option.toList_some] at alone
    have filtered : held ∈ (firstPerKey key items).filter (fun item => key item = k) := by
      rw [alone]
      exact List.mem_singleton.mpr rfl
    obtain ⟨member, keyed⟩ := List.mem_filter.mp filtered
    exact ⟨held, member, keyed⟩

/-- The first item of every key that an item of the filter has is itself in the filter. -/
def FirstAmong (p : α → Bool) (items : List α) : Prop :=
  ∀ item ∈ items, p item = true → ∀ held,
    items.find? (fun other => key other = key item) = some held → p held = true

variable {key}

theorem FirstAmong.init {p : α → Bool} {items : List α} {last : α}
    (among : FirstAmong key p (items ++ [last])) : FirstAmong key p items := by
  intro item member chosen held found
  refine among item (List.mem_append_left _ member) chosen held ?_
  rw [List.find?_append, found]
  rfl

theorem filter_firstPerKey_iff (p : α → Bool) (items : List α) :
    (firstPerKey key items).filter p = firstPerKey key (items.filter p) ↔
      FirstAmong key p items := by
  constructor
  · intro commutes item member chosen held found
    have present : (firstPerKey key (items.filter p)).any (fun seen => key seen = key item) = true := by
      rw [any_firstPerKey]
      exact List.any_eq_true.mpr ⟨item, List.mem_filter.mpr ⟨member, chosen⟩, by simp⟩
    obtain ⟨other, kept, keyed⟩ := List.any_eq_true.mp present
    rw [← commutes, List.mem_filter] at kept
    have same := (mem_firstPerKey key).mp kept.1
    rw [of_decide_eq_true keyed, found] at same
    cases same
    exact kept.2
  · intro among
    induction items using List.reverseRecOn with
    | nil => rfl
    | append_singleton items last ih =>
      have commutes := ih among.init
      rw [firstPerKey_snoc, placeFirst, any_firstPerKey]
      cases chosen : p last with
      | false =>
        rw [List.filter_append, List.filter_cons_of_neg (by simp [chosen]), List.filter_nil,
          List.append_nil, ← commutes]
        split
        · rfl
        · simp [chosen]
      | true =>
        rw [List.filter_append, List.filter_cons_of_pos chosen, List.filter_nil, firstPerKey_snoc,
          placeFirst, any_firstPerKey, ← commutes]
        cases present : items.any (fun seen => key seen = key last) with
        | false =>
          have missing : (items.filter p).any (fun seen => key seen = key last) = false := by
            rw [List.any_eq_false] at present ⊢
            exact fun seen member => present seen (List.mem_filter.mp member).1
          simp [missing, chosen]
        | true =>
          -- the item that hides the last one is in the filter too
          obtain ⟨held, found⟩ := Option.isSome_iff_exists.mp
            (List.find?_isSome.mpr (List.any_eq_true.mp present))
          have hides : p held = true := by
            refine among last (by simp) chosen held ?_
            rw [List.find?_append, found]
            rfl
          have keyed := List.find?_some found
          have still : (items.filter p).any (fun seen => key seen = key last) = true :=
            List.any_eq_true.mpr
              ⟨held, List.mem_filter.mpr ⟨List.mem_of_find?_eq_some found, hides⟩, keyed⟩
          simp [still]

end ConsumerEngine.Foundation
