import Mathlib.Data.Multiset.Bind
import Mathlib.Data.Multiset.Dedup
import Mathlib.Data.Multiset.Filter
import Mathlib.Data.Multiset.UnionInter

/-! Conditions over rows: three truth values and failure, and bags of rows taken through
conditions and functions that may fail.

A condition is decided by its parts that do not hold; a part that fails matters only where
all others hold.
-/

set_option autoImplicit false

namespace ConsumerEngine.Sql

/-- What a condition comes to. -/
inductive Truth where
  | no | unknown | failed | yes
  deriving DecidableEq, Repr

namespace Truth

def ofBool : Bool → Truth
  | true => .yes
  | false => .no

def negate : Truth → Truth
  | .no => .yes
  | .yes => .no
  | other => other

/-- The first part that does not hold decides, and failure comes last. -/
def both : Truth → Truth → Truth
  | .no, _ | _, .no => .no
  | .unknown, _ | _, .unknown => .unknown
  | .failed, _ | _, .failed => .failed
  | .yes, .yes => .yes

def either (left right : Truth) : Truth := negate (both (negate left) (negate right))

/-- All conditions of a list. -/
def all (truths : List Truth) : Truth := truths.foldr both .yes

def any (truths : List Truth) : Truth := truths.foldr either .no

/-- What is left where only a row that is kept counts. -/
def settled : Truth → Truth
  | .unknown => .no
  | other => other

@[simp] theorem both_yes (truth : Truth) : both truth .yes = truth := by cases truth <;> rfl

@[simp] theorem yes_both (truth : Truth) : both .yes truth = truth := by cases truth <;> rfl

theorem both_assoc (first second third : Truth) :
    both (both first second) third = both first (both second third) := by
  cases first <;> cases second <;> cases third <;> rfl

theorem both_eq_yes {left right : Truth} : both left right = .yes ↔ left = .yes ∧ right = .yes := by
  cases left <;> cases right <;> simp [both]

@[simp] theorem all_nil : all [] = .yes := rfl

@[simp] theorem all_cons (truth : Truth) (rest : List Truth) :
    all (truth :: rest) = both truth (all rest) := rfl

@[simp] theorem all_append (first second : List Truth) :
    all (first ++ second) = both (all first) (all second) := by
  induction first with
  | nil => simp
  | cons truth rest ih => rw [List.cons_append, all_cons, all_cons, ih, both_assoc]

theorem all_eq_yes {truths : List Truth} : all truths = .yes ↔ ∀ truth ∈ truths, truth = .yes := by
  induction truths with
  | nil => simp
  | cons truth rest ih => rw [all_cons, both_eq_yes, ih, List.forall_mem_cons]

@[simp] theorem both_ofBool (a b : Bool) : both (ofBool a) (ofBool b) = ofBool (a && b) := by
  cases a <;> cases b <;> rfl

@[simp] theorem negate_ofBool (a : Bool) : negate (ofBool a) = ofBool (!a) := by cases a <;> rfl

@[simp] theorem either_ofBool (a b : Bool) : either (ofBool a) (ofBool b) = ofBool (a || b) := by
  cases a <;> cases b <;> rfl

@[simp] theorem either_no (truth : Truth) : either truth .no = truth := by cases truth <;> rfl

@[simp] theorem any_cons (truth : Truth) (rest : List Truth) :
    any (truth :: rest) = either truth (any rest) := rfl

@[simp] theorem any_nil : any [] = .no := rfl

theorem ofBool_ne_failed (b : Bool) : ofBool b ≠ .failed := by cases b <;> simp [ofBool]

theorem ofBool_eq_yes {b : Bool} : ofBool b = .yes ↔ b = true := by cases b <;> simp [ofBool]

end Truth

section
variable {α β γ : Type}

/-- What the condition holds of; none where it fails of anything. -/
def keep (truth : α → Truth) (bag : Multiset α) : Option (Multiset α) :=
  if .failed ∈ bag.map truth then none else some (bag.filter fun a => truth a = .yes)

/-- The values of all; none where one has none. -/
def mapAll (f : α → Option β) (bag : Multiset α) : Option (Multiset β) :=
  if false ∈ bag.map fun a => (f a).isSome then none else some (bag.filterMap f)

/-- Whether anything was found. -/
def found : Option (Multiset α) → Truth
  | none => .failed
  | some bag => .ofBool (decide (bag.card ≠ 0))

theorem keep_congr {first second : α → Truth} {bag : Multiset α}
    (same : ∀ a ∈ bag, first a = second a) : keep first bag = keep second bag := by
  unfold keep
  rw [Multiset.map_congr rfl same, Multiset.filter_congr fun a member => by rw [same a member]]

theorem keep_eq_some {truth : α → Truth} {bag kept : Multiset α} :
    keep truth bag = some kept ↔
      (∀ a ∈ bag, truth a ≠ .failed) ∧ bag.filter (fun a => truth a = .yes) = kept := by
  unfold keep
  split
  · next member =>
    obtain ⟨a, inBag, failed⟩ := Multiset.mem_map.mp member
    simp only [reduceCtorEq, false_iff, not_and]
    exact fun none_ => absurd failed (none_ a inBag)
  · next absent =>
    have none_ : ∀ a ∈ bag, truth a ≠ .failed := fun a member failed =>
      absent (Multiset.mem_map.mpr ⟨a, member, failed⟩)
    rw [Option.some.injEq, and_iff_right none_]

/-- A condition that never fails only leaves rows out. -/
theorem keep_both {own rest : α → Truth} {bag : Multiset α}
    (never : ∀ a ∈ bag, own a ≠ .failed) :
    keep (fun a => (own a).both (rest a)) bag = keep rest (bag.filter fun a => own a = .yes) := by
  have parts (a : α) (member : a ∈ bag) (truth : Truth) (held : truth = .yes ∨ truth = .failed) :
      (own a).both (rest a) = truth ↔ own a = .yes ∧ rest a = truth := by
    have neverHere := never a member
    generalize own a = mine at neverHere ⊢
    rcases held with rfl | rfl <;> cases mine <;> cases rest a <;> simp_all [Truth.both]
  have fails : .failed ∈ bag.map (fun a => (own a).both (rest a)) ↔
      .failed ∈ (bag.filter fun a => own a = .yes).map rest := by
    simp only [Multiset.mem_map, Multiset.mem_filter]
    refine exists_congr fun a => ?_
    rw [and_assoc]
    exact and_congr_right fun member => parts a member .failed (.inr rfl)
  unfold keep
  rw [if_congr fails rfl rfl, Multiset.filter_filter]
  refine congrArg (ite _ none) (congrArg some (Multiset.filter_congr fun a member => ?_))
  rw [parts a member .yes (.inl rfl), and_comm]

theorem keep_yes (bag : Multiset α) : keep (fun _ => .yes) bag = some bag := by
  refine keep_eq_some.mpr ⟨fun _ _ failed => Truth.noConfusion failed, ?_⟩
  exact Multiset.filter_eq_self.mpr fun _ _ => rfl

theorem keep_map (f : α → β) (truth : β → Truth) (bag : Multiset α) :
    keep truth (bag.map f) = (keep (fun a => truth (f a)) bag).map (Multiset.map f) := by
  unfold keep
  rw [Multiset.map_map, Multiset.filter_map, apply_ite (Option.map _)]
  rfl

theorem mapAll_some (f : α → β) (bag : Multiset α) :
    mapAll (fun a => some (f a)) bag = some (bag.map f) := by
  unfold mapAll
  have total : false ∉ bag.map fun a => (some (f a)).isSome := fun member => by
    obtain ⟨_, _, same⟩ := Multiset.mem_map.mp member
    cases same
  rw [if_neg total]
  exact congrArg some (Multiset.filterMap_eq_map f ▸ rfl)

theorem mapAll_congr {f g : α → Option β} {bag : Multiset α} (same : ∀ a ∈ bag, f a = g a) :
    mapAll f bag = mapAll g bag := by
  have values : bag.filterMap f = bag.filterMap g := by
    induction bag using Quotient.inductionOn with
    | h list => exact congrArg Multiset.ofList (List.filterMap_congr same)
  unfold mapAll
  rw [Multiset.map_congr rfl fun a member => by rw [same a member], values]

theorem mapAll_map (f : α → β) (g : β → Option γ) (bag : Multiset α) :
    mapAll g (bag.map f) = mapAll (fun a => g (f a)) bag := by
  unfold mapAll
  rw [Multiset.map_map, Multiset.filterMap_map]
  rfl

theorem mapAll_after (f : α → Option β) (g : β → γ) (bag : Multiset α) :
    mapAll (fun a => (f a).map g) bag = (mapAll f bag).map (Multiset.map g) := by
  unfold mapAll
  simp only [Option.isSome_map]
  rw [apply_ite (Option.map _), Option.map_none, Option.map_some, Multiset.map_filterMap]

theorem mapAll_cons (f : α → Option β) (a : α) (bag : Multiset α) :
    mapAll f (a ::ₘ bag) = (f a).bind fun b => (mapAll f bag).map (b ::ₘ ·) := by
  unfold mapAll
  cases value : f a with
  | none => simp [value]
  | some b =>
    rw [Multiset.filterMap_cons_some f a bag value, Multiset.map_cons, value]
    simp only [Option.isSome_some, Multiset.mem_cons, Bool.false_eq_true, false_or, Option.bind_some,
      apply_ite (Option.map _), Option.map_none, Option.map_some]

theorem mapAll_bind (f : α → Option β) (g : β → Option γ) (bag : Multiset α) :
    (mapAll f bag).bind (mapAll g) = mapAll (fun a => (f a).bind g) bag := by
  induction bag using Multiset.induction_on with
  | empty => rfl
  | cons a bag ih =>
    rw [mapAll_cons, mapAll_cons, ← ih]
    cases f a with
    | none => rfl
    | some b =>
      cases mapAll f bag with
      | none => simp
      | some rest => exact mapAll_cons g b rest

theorem mapAll_eq_none {f : α → Option β} {bag : Multiset α} :
    mapAll f bag = none ↔ ∃ a ∈ bag, f a = none := by
  unfold mapAll
  have fails : false ∈ bag.map (fun a => (f a).isSome) ↔ ∃ a ∈ bag, f a = none := by
    rw [Multiset.mem_map]
    exact exists_congr fun a => and_congr_right fun _ => by rw [Option.isSome_eq_false_iff, Option.isNone_iff_eq_none]
  split
  · next member => exact iff_of_true rfl (fails.mp member)
  · next absent => exact iff_of_false (Option.some_ne_none _) fun failed => absent (fails.mpr failed)

theorem mem_mapAll {f : α → Option β} {bag : Multiset α} {values : Multiset β} {b : β}
    (made : mapAll f bag = some values) (member : b ∈ values) : ∃ a ∈ bag, f a = some b := by
  unfold mapAll at made
  split at made
  · cases made
  · cases made
    exact (Multiset.mem_filterMap f bag).mp member

/-- What is read off the values is what they were made from. -/
theorem mapAll_read {f : α → Option β} {g : β → γ} {h : α → γ} {bag : Multiset α} {values : Multiset β}
    (made : mapAll f bag = some values) (same : ∀ a b, f a = some b → g b = h a) :
    values.map g = bag.map h := by
  have total : ∀ a ∈ bag, (f a).map g = some (h a) := by
    intro a member
    cases value : f a with
    | none => exact absurd (made.symm.trans (mapAll_eq_none.mpr ⟨a, member, value⟩)) (by simp)
    | some b => exact congrArg some (same a b value)
  have read := mapAll_after f g bag
  rw [mapAll_congr total, mapAll_some, made] at read
  exact (Option.some.inj read).symm

/-- What all of a bag come to, each with what it is of. -/
theorem mapAll_paired {f : α → Option β} {bag : Multiset α} {pairs : Multiset (α × β)}
    (made : mapAll (fun a => (f a).map (Prod.mk a)) bag = some pairs) :
    pairs.map Prod.fst = bag ∧ ∀ pair ∈ pairs, f pair.1 = some pair.2 := by
  unfold mapAll at made
  split at made
  · cases made
  · next none_ =>
    cases made
    have total (a : α) (member : a ∈ bag) : (f a).isSome = true := by
      by_contra absent
      refine none_ (Multiset.mem_map.mpr ⟨a, member, ?_⟩)
      rw [Option.isSome_map]
      exact Bool.eq_false_iff.mpr absent
    refine ⟨?_, fun pair member => ?_⟩
    · clear none_
      induction bag using Multiset.induction_on with
      | empty => rfl
      | cons a rest ih =>
        obtain ⟨value, made⟩ := Option.isSome_iff_exists.mp (total a (Multiset.mem_cons_self a rest))
        rw [Multiset.filterMap_cons_some _ _ _ (by rw [made]; rfl), Multiset.map_cons,
          ih fun other member => total other (Multiset.mem_cons_of_mem member)]
    · obtain ⟨a, -, made⟩ := (Multiset.mem_filterMap _ _).mp member
      obtain ⟨value, here, rfl⟩ := Option.map_eq_some_iff.mp made
      exact here

theorem keep_ofBool (met : α → Prop) [DecidablePred met] (bag : Multiset α) :
    keep (fun a => .ofBool (decide (met a))) bag = some (bag.filter met) :=
  keep_eq_some.mpr ⟨fun a _ => Truth.ofBool_ne_failed _,
    Multiset.filter_congr fun a _ => by rw [Truth.ofBool_eq_yes, decide_eq_true_eq]⟩

theorem keep_failed (bag : Multiset α) :
    keep (fun _ => .failed) bag = if bag.card = 0 then some 0 else none := by
  by_cases empty : bag.card = 0
  · rw [if_pos empty, Multiset.card_eq_zero.mp empty]
    rfl
  · obtain ⟨a, member⟩ := Multiset.exists_mem_of_ne_zero (mt Multiset.card_eq_zero.mpr empty)
    rw [if_neg empty, keep, if_pos (Multiset.mem_map.mpr ⟨a, member, rfl⟩)]

theorem mapAll_singleton (f : α → Option β) (a : α) : mapAll f {a} = (f a).map ({·}) := by
  unfold mapAll
  cases value : f a with
  | none => simp [value]
  | some made =>
    have kept : Multiset.filterMap f {a} = {made} :=
      (Multiset.filterMap_cons_some f a 0 value).trans rfl
    simp [value, kept]

theorem found_keep_ofBool (met : α → Prop) [DecidablePred met] (bag : Multiset α) :
    found (keep (fun a => .ofBool (decide (met a))) bag) =
      .ofBool !decide (∀ a ∈ bag, ¬ met a) := by
  have none_ : (bag.filter met).card = 0 ↔ ∀ a ∈ bag, ¬ met a := by
    rw [Multiset.card_eq_zero, Multiset.filter_eq_nil]
  rw [keep_ofBool, found, ← decide_not]
  exact congrArg Truth.ofBool (decide_eq_decide.mpr (not_congr none_))

theorem found_keep_singleton (truth : α → Truth) (a : α) :
    found (keep truth {a}) = (truth a).settled := by
  unfold keep found
  cases held : truth a <;> simp [held, Multiset.filter_singleton, Truth.settled, Truth.ofBool]

theorem found_ne_unknown {bag : Option (Multiset α)} : found bag ≠ .unknown := by
  cases bag with
  | none => exact Truth.noConfusion
  | some bag => rw [found]; cases decide (bag.card ≠ 0) <;> exact Truth.noConfusion

theorem found_ne_failed {truth : α → Truth} {bag : Multiset α} :
    found (keep truth bag) ≠ .failed ↔ ∀ a ∈ bag, truth a ≠ .failed := by
  cases kept : keep truth bag with
  | none =>
    refine iff_of_false (fun never => never rfl) fun none_ => ?_
    rw [keep_eq_some.mpr ⟨none_, rfl⟩] at kept
    cases kept
  | some found_ => exact iff_of_true (Truth.ofBool_ne_failed _) (keep_eq_some.mp kept).1

/-- Something is found where the condition holds of it and fails of nothing. -/
theorem found_eq_yes {truth : α → Truth} {bag : Multiset α} :
    found (keep truth bag) = .yes ↔ (∀ a ∈ bag, truth a ≠ .failed) ∧ ∃ a ∈ bag, truth a = .yes := by
  by_cases none_ : ∀ a ∈ bag, truth a ≠ .failed
  · rw [keep_eq_some.mpr ⟨none_, rfl⟩, found, Truth.ofBool_eq_yes, decide_eq_true_eq, ← Nat.pos_iff_ne_zero,
      Multiset.card_pos_iff_exists_mem, and_iff_right none_]
    exact exists_congr fun a => Multiset.mem_filter
  · refine iff_of_false (fun yes => ?_) fun both => none_ both.1
    exact none_ (found_ne_failed.mp fun failed => Truth.noConfusion (failed.symm.trans yes))

theorem found_map (f : α → β) (bag : Option (Multiset α)) :
    found (bag.map (Multiset.map f)) = found bag := by
  cases bag with
  | none => rfl
  | some bag => rw [Option.map_some, found, found, Multiset.card_map]

end

end ConsumerEngine.Sql
