import Mathlib.Order.Defs.PartialOrder
import Mathlib.Data.List.Basic

/-! Stateful computations that can fail.

A failure keeps the state reached so far: whether the effects before it are
undone is the business of the computation (a transaction), not of the monad.
`Within` bounds what a computation may do to the state whichever way it ends,
and is closed under sequencing whenever the bound is a preorder.
-/

set_option autoImplicit false

namespace ConsumerEngine.Foundation

/-- A computation over a state `σ`, returning an `α` or failing with an `ε`. -/
def Effect (σ ε α : Type) : Type := σ → Except ε α × σ

namespace Effect

variable {σ ε α β : Type}

instance : Monad (Effect σ ε) where
  pure a := fun s => (.ok a, s)
  bind act next := fun s =>
    match act s with
    | (.ok a, reached) => next a reached
    | (.error e, reached) => (.error e, reached)

def get : Effect σ ε σ := fun s => (.ok s, s)

def modify (change : σ → σ) : Effect σ ε Unit := fun s => (.ok (), change s)

def throw (failure : ε) : Effect σ ε α := fun s => (.error failure, s)

/-- Embed a pure check, which never touches the state. -/
def lift (check : Except ε α) : Effect σ ε α := fun s => (check, s)

/-- Run a computation and report how it ended, so that a caller can clean up. -/
def attempt (act : Effect σ ε α) : Effect σ ε (Except ε α) := fun s =>
  let (outcome, reached) := act s
  (.ok outcome, reached)

@[simp] theorem pure_apply (a : α) (s : σ) : (pure a : Effect σ ε α) s = (.ok a, s) := rfl

@[simp] theorem get_apply (s : σ) : (get : Effect σ ε σ) s = (.ok s, s) := rfl

@[simp] theorem modify_apply (change : σ → σ) (s : σ) :
    (modify change : Effect σ ε Unit) s = (.ok (), change s) := rfl

@[simp] theorem throw_apply (failure : ε) (s : σ) :
    (throw failure : Effect σ ε α) s = (.error failure, s) := rfl

@[simp] theorem lift_apply (check : Except ε α) (s : σ) :
    (lift check : Effect σ ε α) s = (check, s) := rfl

@[simp] theorem attempt_apply (act : Effect σ ε α) (s : σ) :
    attempt act s = (.ok (act s).1, (act s).2) := rfl

theorem bind_apply (act : Effect σ ε α) (next : α → Effect σ ε β) (s : σ) :
    (act >>= next) s =
      match act s with
      | (.ok a, reached) => next a reached
      | (.error e, reached) => (.error e, reached) := rfl

theorem bind_of_ok {act : Effect σ ε α} {next : α → Effect σ ε β} {s reached : σ} {a : α}
    (ran : act s = (.ok a, reached)) : (act >>= next) s = next a reached := by
  rw [bind_apply, ran]

theorem bind_of_error {act : Effect σ ε α} {next : α → Effect σ ε β} {s reached : σ} {e : ε}
    (ran : act s = (.error e, reached)) : (act >>= next) s = (.error e, reached) := by
  rw [bind_apply, ran]

/-- A sequence that returned did both of its halves. -/
theorem bind_eq_ok {act : Effect σ ε α} {next : α → Effect σ ε β} {s final : σ} {b : β} :
    (act >>= next) s = (.ok b, final) ↔
      ∃ a reached, act s = (.ok a, reached) ∧ next a reached = (.ok b, final) := by
  rw [bind_apply]
  rcases act s with ⟨outcome, reached⟩
  cases outcome with
  | error e => simp
  | ok a => simp

theorem lift_eq_ok {check : Except ε α} {a : α} {s final : σ}
    (ran : lift check s = (.ok a, final)) : check = .ok a ∧ s = final := Prod.mk.inj ran

theorem bind_assoc {γ : Type} (act : Effect σ ε α) (next : α → Effect σ ε β)
    (last : β → Effect σ ε γ) : act >>= next >>= last = act >>= fun a => next a >>= last := by
  funext s
  simp only [bind_apply]
  rcases act s with ⟨outcome, reached⟩
  cases outcome <;> rfl

/-- Looking at a result does not touch the state. -/
theorem map_state (act : Effect σ ε α) (f : α → β) (s : σ) :
    ((act >>= fun a => Pure.pure (f a)) s).2 = (act s).2 := by
  rw [bind_apply]
  rcases act s with ⟨outcome, reached⟩
  cases outcome <;> rfl

/-- A loop whose steps end as a pure check says, whatever the state. -/
theorem forM_outcome {step : α → Effect σ ε Unit} {check : α → Except ε Unit}
    (same : ∀ a s, (step a s).1 = check a) (items : List α) (s : σ) :
    (items.forM step s).1 = items.forM check := by
  induction items generalizing s with
  | nil => rfl
  | cons item items ih =>
    change ((step item >>= fun _ => items.forM step) s).1 = (check item >>= fun _ => items.forM check)
    rw [bind_apply, ← same item s]
    rcases step item s with ⟨outcome, reached⟩
    cases outcome with
    | error e => rfl
    | ok => exact ih reached

/-- Every run of the computation, returned or failed, moves the state along `R`. -/
def Within (R : σ → σ → Prop) (act : Effect σ ε α) : Prop := ∀ s, R s (act s).2

section
variable {R : σ → σ → Prop}

theorem Within.pure [Std.Refl R] (a : α) : Within R (Pure.pure a : Effect σ ε α) :=
  fun s => refl s

theorem Within.get [Std.Refl R] : Within R (Effect.get : Effect σ ε σ) := fun s => refl s

theorem Within.throw [Std.Refl R] (failure : ε) : Within R (Effect.throw failure : Effect σ ε α) :=
  fun s => refl s

theorem Within.lift [Std.Refl R] (check : Except ε α) : Within R (Effect.lift check : Effect σ ε α) :=
  fun s => refl s

theorem Within.modify {change : σ → σ} (along : ∀ s, R s (change s)) :
    Within R (Effect.modify change : Effect σ ε Unit) := along

theorem Within.attempt {act : Effect σ ε α} (within : Within R act) : Within R (Effect.attempt act) :=
  within

theorem Within.bind [IsTrans σ R] {act : Effect σ ε α} {next : α → Effect σ ε β}
    (first : Within R act) (rest : ∀ a, Within R (next a)) : Within R (act >>= next) := by
  intro s
  have moved := first s
  rw [bind_apply]
  revert moved
  rcases act s with ⟨outcome, reached⟩
  cases outcome with
  | error e => exact id
  | ok a => exact fun moved => trans_of R moved (rest a reached)

/-- A loop over a list stays within the bound its body stays within. -/
theorem Within.foldlM [IsPreorder σ R] {body : β → α → Effect σ ε β}
    (within : ∀ b a, Within R (body b a)) (items : List α) (start : β) :
    Within R (items.foldlM body start) := by
  induction items generalizing start with
  | nil => exact Within.pure start
  | cons item items ih => exact Within.bind (within start item) (fun b => ih b)

end

/-- Every run of the computation, returned or failed, keeps a property of the state. -/
def Preserves (property : σ → Prop) (act : Effect σ ε α) : Prop :=
  ∀ s, property s → property (act s).2

section
variable {property : σ → Prop}

theorem Preserves.pure (a : α) : Preserves property (Pure.pure a : Effect σ ε α) := fun _ => id

theorem Preserves.bind {act : Effect σ ε α} {next : α → Effect σ ε β}
    (first : Preserves property act) (rest : ∀ a, Preserves property (next a)) :
    Preserves property (act >>= next) := by
  intro s holds
  have kept := first s holds
  rw [bind_apply]
  revert kept
  rcases act s with ⟨outcome, reached⟩
  cases outcome with
  | error e => exact id
  | ok a => exact rest a reached

/-- What follows a look at the state may rely on the property. -/
theorem Preserves.get {next : σ → Effect σ ε β}
    (rest : ∀ s, property s → property (next s s).2) :
    Preserves property (Effect.get >>= next) := fun s holds => by
  rw [bind_of_ok (get_apply s)]
  exact rest s holds

end

/-- However the computation fails, it fails with one of these. -/
def FailsWith (allowed : ε → Prop) (act : Effect σ ε α) : Prop :=
  ∀ s e reached, act s = (.error e, reached) → allowed e

section
variable {allowed : ε → Prop}

theorem FailsWith.pure (a : α) : FailsWith allowed (Pure.pure a : Effect σ ε α) :=
  fun _ _ _ failed => nomatch failed

theorem FailsWith.get : FailsWith allowed (Effect.get : Effect σ ε σ) :=
  fun _ _ _ failed => nomatch failed

theorem FailsWith.modify (change : σ → σ) : FailsWith allowed (Effect.modify change : Effect σ ε Unit) :=
  fun _ _ _ failed => nomatch failed

theorem FailsWith.throw {failure : ε} (allows : allowed failure) :
    FailsWith allowed (Effect.throw failure : Effect σ ε α) := by
  intro s e reached failed
  cases failed
  exact allows

theorem FailsWith.lift {check : Except ε α} (allows : ∀ e, check = .error e → allowed e) :
    FailsWith allowed (Effect.lift check : Effect σ ε α) :=
  fun _ e _ failed => allows e (Prod.mk.inj failed).1

theorem FailsWith.bind {act : Effect σ ε α} {next : α → Effect σ ε β}
    (first : FailsWith allowed act) (rest : ∀ a, FailsWith allowed (next a)) :
    FailsWith allowed (act >>= next) := by
  intro s e reached failed
  rw [bind_apply] at failed
  rcases ran : act s with ⟨outcome, middle⟩
  rw [ran] at failed
  cases outcome with
  | error found =>
    cases failed
    exact first s _ _ ran
  | ok a => exact rest a middle e reached failed

end

end Effect

/-- A sequence of two pure checks that succeeds. -/
theorem except_bind_eq_ok {ε α β : Type} {check : Except ε α} {next : α → Except ε β} {b : β} :
    (check >>= next) = .ok b ↔ ∃ a, check = .ok a ∧ next a = .ok b := by
  cases check with
  | error e => simp only [bind, Except.bind, reduceCtorEq, false_and, exists_false]
  | ok a =>
    constructor
    · exact fun same => ⟨a, rfl, same⟩
    · rintro ⟨_, ⟨⟩, same⟩
      exact same

theorem except_forM_eq_ok {ε α : Type} {check : α → Except ε Unit} {items : List α} :
    items.forM check = .ok () ↔ ∀ item ∈ items, check item = .ok () := by
  induction items with
  | nil => exact ⟨fun _ => List.forall_mem_nil _, fun _ => rfl⟩
  | cons item items ih =>
    rw [List.forall_mem_cons, ← ih]
    change (check item >>= fun _ => items.forM check) = .ok () ↔ _
    rw [except_bind_eq_ok]
    exact ⟨fun ⟨⟨⟩, here, later⟩ => ⟨here, later⟩, fun ⟨here, later⟩ => ⟨(), here, later⟩⟩

/-- A loop of checks that fails does so at one of its items. -/
theorem except_forM_error {ε α : Type} {check : α → Except ε Unit} {items : List α} {e : ε}
    (failed : items.forM check = .error e) : ∃ item ∈ items, check item = .error e := by
  induction items with
  | nil => cases failed
  | cons item items ih =>
    change (check item >>= fun _ => items.forM check) = .error e at failed
    cases here : check item with
    | error found =>
      rw [here] at failed
      cases failed
      exact ⟨item, List.mem_cons_self, here⟩
    | ok =>
      rw [here] at failed
      obtain ⟨later, member, found⟩ := ih failed
      exact ⟨later, List.mem_cons_of_mem _ member, found⟩

end ConsumerEngine.Foundation
