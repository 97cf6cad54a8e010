import Mathlib.Data.List.Sort
import Mathlib.Order.Basic

/-! Finite maps kept as a list of entries in increasing key order.

Iteration visits the keys in order, so a loop over such a map is determined by
its contents. The ordering is carried by the type.
-/

set_option autoImplicit false

namespace ConsumerEngine.Foundation

variable {κ β : Type} [LinearOrder κ]

/-- Entries with strictly increasing keys. -/
structure SortedMap (κ β : Type) [LinearOrder κ] where
  entries : List (κ × β)
  sorted : entries.Pairwise (fun first second => first.1 < second.1)

namespace SortedMap

/-- Place an entry, replacing the one under the same key. -/
def place (key : κ) (value : β) : List (κ × β) → List (κ × β)
  | [] => [(key, value)]
  | (k, v) :: rest =>
      if key < k then (key, value) :: (k, v) :: rest
      else if k < key then (k, v) :: place key value rest
      else (key, value) :: rest

theorem mem_place_key {key : κ} {value : β} {entries : List (κ × β)} {entry : κ × β}
    (member : entry ∈ place key value entries) : entry = (key, value) ∨ entry ∈ entries := by
  induction entries with
  | nil => simpa [place] using member
  | cons head rest ih =>
    obtain ⟨k, v⟩ := head
    simp only [place] at member
    split at member
    · simpa using member
    · split at member
      · rcases List.mem_cons.mp member with same | member
        · exact Or.inr (by simp [same])
        · exact (ih member).imp_right (List.mem_cons_of_mem _)
      · rcases List.mem_cons.mp member with same | member
        · exact Or.inl same
        · exact Or.inr (List.mem_cons_of_mem _ member)

theorem place_sorted (key : κ) (value : β) (entries : List (κ × β))
    (sorted : entries.Pairwise (fun first second => first.1 < second.1)) :
    (place key value entries).Pairwise (fun first second => first.1 < second.1) := by
  induction entries with
  | nil => simp [place]
  | cons head rest ih =>
    obtain ⟨k, v⟩ := head
    obtain ⟨above, sortedRest⟩ := List.pairwise_cons.mp sorted
    simp only [place]
    split
    · next below =>
      refine List.pairwise_cons.mpr ⟨?_, sorted⟩
      intro entry member
      rcases List.mem_cons.mp member with same | member
      · simpa [same] using below
      · exact below.trans (above entry member)
    · split
      · next beyond =>
        refine List.pairwise_cons.mpr ⟨?_, ih sortedRest⟩
        intro entry member
        rcases mem_place_key member with same | member
        · simpa [same] using beyond
        · exact above entry member
      · next notBelow notBeyond =>
        have same : k = key := le_antisymm (not_lt.mp notBelow) (not_lt.mp notBeyond)
        subst same
        exact List.pairwise_cons.mpr ⟨above, sortedRest⟩

def empty : SortedMap κ β := ⟨[], List.Pairwise.nil⟩

def insert (map : SortedMap κ β) (key : κ) (value : β) : SortedMap κ β :=
  ⟨place key value map.entries, place_sorted key value map.entries map.sorted⟩

def get (map : SortedMap κ β) (key : κ) : Option β :=
  (map.entries.find? (fun entry => entry.1 = key)).map Prod.snd

def remove (map : SortedMap κ β) (key : κ) : SortedMap κ β :=
  ⟨map.entries.filter (fun entry => entry.1 ≠ key), map.sorted.filter _⟩

def keys (map : SortedMap κ β) : List κ := map.entries.map Prod.fst

theorem keys_nodup (map : SortedMap κ β) : map.keys.Nodup :=
  List.pairwise_map.mpr (map.sorted.imp fun below => below.ne)

/-- Two entries under one key are the same entry. -/
theorem entry_unique (map : SortedMap κ β) {first second : κ × β}
    (inFirst : first ∈ map.entries) (inSecond : second ∈ map.entries)
    (same : first.1 = second.1) : first = second :=
  List.inj_on_of_nodup_map map.keys_nodup inFirst inSecond same

theorem get_eq_some {map : SortedMap κ β} {key : κ} {value : β} :
    map.get key = some value ↔ (key, value) ∈ map.entries := by
  constructor
  · intro found
    simp only [get, Option.map_eq_some_iff] at found
    obtain ⟨entry, found, rfl⟩ := found
    have named := List.find?_some found
    have member := List.mem_of_find?_eq_some found
    simp only [decide_eq_true_eq] at named
    obtain ⟨k, v⟩ := entry
    subst named
    exact member
  · intro member
    cases found : map.entries.find? (fun entry => entry.1 = key) with
    | none => simpa using List.find?_eq_none.mp found _ member
    | some entry =>
      have named := List.find?_some found
      simp only [decide_eq_true_eq] at named
      have same := map.entry_unique (List.mem_of_find?_eq_some found) member named
      simp [get, found, same]

theorem get_eq_none {map : SortedMap κ β} {key : κ} :
    map.get key = none ↔ ∀ value, (key, value) ∉ map.entries := by
  constructor
  · intro missing value member
    rw [get_eq_some.mpr member] at missing
    cases missing
  · intro missing
    cases found : map.get key with
    | none => rfl
    | some value => exact absurd (get_eq_some.mp found) (missing value)

@[simp] theorem get_empty (key : κ) : (empty : SortedMap κ β).get key = none := rfl

theorem mem_place {key : κ} {value : β} {entries : List (κ × β)} {entry : κ × β}
    (sorted : entries.Pairwise (fun first second => first.1 < second.1)) :
    entry ∈ place key value entries ↔ entry = (key, value) ∨ (entry.1 ≠ key ∧ entry ∈ entries) := by
  induction entries with
  | nil => simp [place]
  | cons head rest ih =>
    obtain ⟨k, v⟩ := head
    obtain ⟨above, sortedRest⟩ := List.pairwise_cons.mp sorted
    simp only [place]
    split
    · next below =>
      have apart : ∀ entry ∈ (k, v) :: rest, entry.1 ≠ key := by
        intro entry member
        rcases List.mem_cons.mp member with same | member
        · exact same ▸ below.ne'
        · exact (below.trans (above entry member)).ne'
      constructor
      · intro member
        rcases List.mem_cons.mp member with same | member
        · exact Or.inl same
        · exact Or.inr ⟨apart entry member, member⟩
      · rintro (same | ⟨_, member⟩)
        · simp [same]
        · exact List.mem_cons_of_mem _ member
    · split
      · next beyond =>
        simp only [List.mem_cons, ih sortedRest]
        constructor
        · rintro (same | same | ⟨ne, member⟩)
          · exact Or.inr ⟨same ▸ beyond.ne, Or.inl same⟩
          · exact Or.inl same
          · exact Or.inr ⟨ne, Or.inr member⟩
        · rintro (same | ⟨ne, same | member⟩)
          · exact Or.inr (Or.inl same)
          · exact Or.inl same
          · exact Or.inr (Or.inr ⟨ne, member⟩)
      · next notBelow notBeyond =>
        have same : k = key := le_antisymm (not_lt.mp notBelow) (not_lt.mp notBeyond)
        subst same
        simp only [List.mem_cons]
        constructor
        · rintro (same | member)
          · exact Or.inl same
          · exact Or.inr ⟨(above entry member).ne', Or.inr member⟩
        · rintro (same | ⟨ne, same | member⟩)
          · exact Or.inl same
          · exact absurd (congrArg Prod.fst same) ne
          · exact Or.inr member

theorem mem_insert {map : SortedMap κ β} {key : κ} {value : β} {entry : κ × β} :
    entry ∈ (map.insert key value).entries ↔
      entry = (key, value) ∨ (entry.1 ≠ key ∧ entry ∈ map.entries) :=
  mem_place map.sorted

theorem mem_remove {map : SortedMap κ β} {key : κ} {entry : κ × β} :
    entry ∈ (map.remove key).entries ↔ entry ∈ map.entries ∧ entry.1 ≠ key := by
  simp [remove]

@[simp] theorem get_insert_self (map : SortedMap κ β) (key : κ) (value : β) :
    (map.insert key value).get key = some value :=
  get_eq_some.mpr (mem_insert.mpr (Or.inl rfl))

theorem get_insert_of_ne (map : SortedMap κ β) {key other : κ} (value : β) (ne : other ≠ key) :
    (map.insert key value).get other = map.get other := by
  cases found : map.get other with
  | none =>
    refine get_eq_none.mpr fun v member => ?_
    rcases mem_insert.mp member with same | ⟨_, member⟩
    · exact ne (congrArg Prod.fst same)
    · exact get_eq_none.mp found v member
  | some v => exact get_eq_some.mpr (mem_insert.mpr (Or.inr ⟨ne, get_eq_some.mp found⟩))

@[simp] theorem get_remove_self (map : SortedMap κ β) (key : κ) : (map.remove key).get key = none :=
  get_eq_none.mpr fun _ member => (mem_remove.mp member).2 rfl

theorem get_remove_of_ne (map : SortedMap κ β) {key other : κ} (ne : other ≠ key) :
    (map.remove key).get other = map.get other := by
  cases found : map.get other with
  | none =>
    exact get_eq_none.mpr fun v member => get_eq_none.mp found v (mem_remove.mp member).1
  | some v => exact get_eq_some.mpr (mem_remove.mpr ⟨get_eq_some.mp found, ne⟩)

theorem entries_nodup (map : SortedMap κ β) : map.entries.Nodup :=
  map.keys_nodup.of_map

/-- A found entry and the rest of the map. -/
theorem perm_remove {map : SortedMap κ β} {key : κ} {value : β} (found : map.get key = some value) :
    map.entries.Perm ((key, value) :: (map.remove key).entries) := by
  refine (List.perm_ext_iff_of_nodup map.entries_nodup (List.nodup_cons.mpr ⟨?_, ?_⟩)).mpr ?_
  · exact fun member => (mem_remove.mp member).2 rfl
  · exact (map.remove key).entries_nodup
  · intro entry
    have member := get_eq_some.mp found
    rw [List.mem_cons, mem_remove]
    constructor
    · intro inMap
      by_cases same : entry.1 = key
      · exact Or.inl (map.entry_unique inMap member same)
      · exact Or.inr ⟨inMap, same⟩
    · rintro (rfl | ⟨inMap, -⟩)
      · exact member
      · exact inMap

/-- An inserted entry and the rest of the map. -/
theorem insert_perm (map : SortedMap κ β) (key : κ) (value : β) :
    (map.insert key value).entries.Perm ((key, value) :: (map.remove key).entries) := by
  refine (List.perm_ext_iff_of_nodup (map.insert key value).entries_nodup
    (List.nodup_cons.mpr ⟨?_, (map.remove key).entries_nodup⟩)).mpr ?_
  · exact fun member => (mem_remove.mp member).2 rfl
  · intro entry
    rw [List.mem_cons, mem_remove, mem_insert, and_comm]

theorem remove_of_get_eq_none {map : SortedMap κ β} {key : κ} (missing : map.get key = none) :
    (map.remove key).entries = map.entries :=
  List.filter_eq_self.mpr fun entry member => by
    have apart : entry.1 ≠ key := fun same => get_eq_none.mp missing entry.2 (same ▸ member)
    simpa using apart

end SortedMap

end ConsumerEngine.Foundation
