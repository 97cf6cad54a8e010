import Mathlib.Data.List.Basic

/-! Lists of entries under keys, each placed over the ones its key holds.

What a key holds after some placements is the value of its last one, so placing the end
of a run once more changes nothing.
-/

set_option autoImplicit false

namespace ConsumerEngine.Foundation

variable {κ ν : Type} [DecidableEq κ]

/-- Replace the values of the entry's key, or append the entry. -/
def placeEntry (entries : List (κ × ν)) (entry : κ × ν) : List (κ × ν) :=
  if entries.any (fun held => held.1 = entry.1) then
    entries.map fun held => if held.1 = entry.1 then entry else held
  else entries ++ [entry]

def placeEntries (entries placed : List (κ × ν)) : List (κ × ν) := placed.foldl placeEntry entries

theorem placeEntries_append (entries first second : List (κ × ν)) :
    placeEntries entries (first ++ second) = placeEntries (placeEntries entries first) second :=
  List.foldl_append

/-- The value last placed under a key. -/
def lastPlaced : List (κ × ν) → κ → Option ν
  | [], _ => none
  | entry :: placed, key => (lastPlaced placed key).or (if entry.1 = key then some entry.2 else none)

theorem mem_placeEntry {entries : List (κ × ν)} {entry held : κ × ν}
    (member : held ∈ placeEntry entries entry) :
    held = entry ∨ (held ∈ entries ∧ held.1 ≠ entry.1) := by
  unfold placeEntry at member
  split at member
  · obtain ⟨old, inEntries, rfl⟩ := List.mem_map.mp member
    by_cases same : old.1 = entry.1
    · exact Or.inl (if_pos same)
    · rw [if_neg same]
      exact Or.inr ⟨inEntries, same⟩
  · next absent =>
    rcases List.mem_append.mp member with inEntries | isEntry
    · refine Or.inr ⟨inEntries, fun same => absent ?_⟩
      exact List.any_eq_true.mpr ⟨held, inEntries, by simpa using same⟩
    · exact Or.inl (List.mem_singleton.mp isEntry)

theorem keys_placeEntry {entries : List (κ × ν)} {entry : κ × ν} {key : κ} :
    key ∈ (placeEntry entries entry).map Prod.fst ↔ key = entry.1 ∨ key ∈ entries.map Prod.fst := by
  unfold placeEntry
  split
  · next present =>
    obtain ⟨held, member, same⟩ := List.any_eq_true.mp present
    have there : entry.1 ∈ entries.map Prod.fst :=
      List.mem_map.mpr ⟨held, member, by simpa using same⟩
    have unchanged : (entries.map fun held => if held.1 = entry.1 then entry else held).map Prod.fst =
        entries.map Prod.fst := by
      rw [List.map_map]
      refine List.map_congr_left fun held _ => ?_
      by_cases same : held.1 = entry.1 <;> simp [same]
    rw [unchanged]
    exact ⟨Or.inr, fun either => either.elim (fun same => same ▸ there) id⟩
  · simp [or_comm]

theorem keys_placeEntries {entries placed : List (κ × ν)} {key : κ} :
    key ∈ (placeEntries entries placed).map Prod.fst ↔
      key ∈ placed.map Prod.fst ∨ key ∈ entries.map Prod.fst := by
  unfold placeEntries
  induction placed generalizing entries with
  | nil => simp
  | cons entry placed ih =>
    rw [List.foldl_cons, ih, keys_placeEntry, List.map_cons, List.mem_cons, or_left_comm, or_assoc]

/-- An entry of a key nothing was placed under was there before. -/
private theorem mem_of_lastPlaced_none {entries placed : List (κ × ν)} {held : κ × ν}
    (member : held ∈ placeEntries entries placed) (free : lastPlaced placed held.1 = none) :
    held ∈ entries := by
  unfold placeEntries at member
  induction placed generalizing entries with
  | nil => exact member
  | cons entry placed ih =>
    simp only [lastPlaced, Option.or_eq_none_iff, ite_eq_right_iff, reduceCtorEq, imp_false] at free
    rcases mem_placeEntry (ih member free.1) with same | ⟨before, -⟩
    · exact absurd (congrArg Prod.fst same).symm free.2
    · exact before

/-- What a key holds after placements is the value last placed under it. -/
theorem value_of_lastPlaced {entries placed : List (κ × ν)} {held : κ × ν} {value : ν}
    (member : held ∈ placeEntries entries placed) (last : lastPlaced placed held.1 = some value) :
    held.2 = value := by
  induction placed generalizing entries with
  | nil => cases last
  | cons entry placed ih =>
    cases later : lastPlaced placed held.1 with
    | some found =>
      rw [lastPlaced, later, Option.some_or] at last
      exact ih member (later.trans last)
    | none =>
      rw [lastPlaced, later, Option.none_or] at last
      obtain ⟨same, placedValue⟩ := Option.ite_none_right_eq_some.mp last
      rcases mem_placeEntry (mem_of_lastPlaced_none member later) with isEntry | ⟨-, apart⟩
      · rw [isEntry]
        exact Option.some.inj placedValue
      · exact absurd same.symm apart

/-- Placements under keys that are there only change values. -/
theorem placeEntries_of_present {entries placed : List (κ × ν)}
    (present : ∀ entry ∈ placed, entry.1 ∈ entries.map Prod.fst) :
    placeEntries entries placed =
      entries.map fun held => (held.1, (lastPlaced placed held.1).getD held.2) := by
  unfold placeEntries
  induction placed generalizing entries with
  | nil => simp [lastPlaced]
  | cons entry placed ih =>
    have here : entries.any (fun held => held.1 = entry.1) = true := by
      obtain ⟨held, member, same⟩ := List.mem_map.mp (present entry (by simp))
      exact List.any_eq_true.mpr ⟨held, member, by simpa using same⟩
    have rest : ∀ other ∈ placed, other.1 ∈ (placeEntry entries entry).map Prod.fst :=
      fun other member => keys_placeEntry.mpr (Or.inr (present other (List.mem_cons_of_mem _ member)))
    rw [List.foldl_cons, ih rest, placeEntry, if_pos here, List.map_map]
    refine List.map_congr_left fun held _ => ?_
    by_cases same : held.1 = entry.1
    · cases later : lastPlaced placed entry.1 <;> simp [lastPlaced, same, later]
    · simp [lastPlaced, same, Ne.symm same]

/-- Placing once more what was placed last changes nothing. -/
theorem placeEntries_again (entries placed : List (κ × ν)) :
    placeEntries (placeEntries entries placed) placed = placeEntries entries placed := by
  rw [placeEntries_of_present fun entry member =>
    keys_placeEntries.mpr (Or.inl (List.mem_map_of_mem member))]
  refine (List.map_congr_left fun held member => ?_).trans (List.map_id _)
  cases last : lastPlaced placed held.1 with
  | none => rfl
  | some value => rw [Option.getD_some, ← value_of_lastPlaced member last]; rfl

end ConsumerEngine.Foundation
