import Mathlib.Logic.Relation

/-! Runs of a labelled transition system whose every step meets a condition. -/

set_option autoImplicit false

namespace ConsumerEngine.Foundation

variable {ε σ : Type}

/-- A finite run: each event is taken in a state that allows it. -/
def Reaches (step : ε → σ → σ → Prop) (allowed : ε → σ → Prop) : σ → σ → Prop :=
  Relation.ReflTransGen fun state next => ∃ event, allowed event state ∧ step event state next

namespace Reaches

variable {step : ε → σ → σ → Prop} {allowed : ε → σ → Prop} {first last : σ}

/-- What the allowed steps keep holds at the end of a run. -/
theorem invariant {invariant : σ → Prop}
    (kept : ∀ event state next, invariant state → allowed event state → step event state next →
      invariant next)
    (start : invariant first) (run : Reaches step allowed first last) : invariant last := by
  induction run with
  | refl => exact start
  | tail _ taken ih =>
    obtain ⟨event, allows, steps⟩ := taken
    exact kept event _ _ ih allows steps

theorem refl (state : σ) : Reaches step allowed state state := Relation.ReflTransGen.refl

theorem snoc {event : ε} {next : σ} (run : Reaches step allowed first last)
    (steps : step event last next) (allows : allowed event last) :
    Reaches step allowed first next := Relation.ReflTransGen.tail run ⟨event, allows, steps⟩

/-- The state a list of events leads to if each is enabled and allowed in its turn. -/
def follow (next : σ → ε → Option σ) (allowed : ε → σ → Prop) [∀ event state, Decidable (allowed event state)] :
    List ε → σ → Option σ
  | [], state => some state
  | event :: events, state =>
      if allowed event state then (next state event).bind (follow next allowed events) else none

theorem of_follow {next : σ → ε → Option σ} {allowed : ε → σ → Prop}
    [∀ event state, Decidable (allowed event state)] {events : List ε} {first last : σ}
    (followed : follow next allowed events first = some last) :
    Reaches (fun event state reached => next state event = some reached) allowed first last := by
  induction events generalizing first with
  | nil =>
    cases followed
    exact refl _
  | cons event events ih =>
    unfold follow at followed
    split at followed
    · next allows =>
      obtain ⟨reached, steps, rest⟩ := Option.bind_eq_some_iff.mp followed
      exact Relation.ReflTransGen.head ⟨event, allows, steps⟩ (ih rest)
    · cases followed

end Reaches

end ConsumerEngine.Foundation
