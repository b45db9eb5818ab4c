import Mathlib.Logic.Basic

/-! Runs of a system given by a partial step function. A run is a list of actions;
it ends early at an action that is not enabled, so every list is a run. -/

namespace Hislip

variable {σ κ : Type}

namespace Transition

/-- The property holds in every state of the run, the first one included. -/
def Always (step : σ → κ → Option σ) (property : σ → Prop) : List κ → σ → Prop
  | [], state => property state
  | action :: rest, state =>
    property state ∧ ∀ after, step state action = some after → Always step property rest after

/-- Every step of the run meets a condition on the state it is taken in. -/
def Throughout (step : σ → κ → Option σ) (condition : σ → κ → Prop) : List κ → σ → Prop
  | [], _ => True
  | action :: rest, state =>
    ∀ after, step state action = some after → condition state action ∧ Throughout step condition rest after

/-- The state a run ends in, when all its actions are enabled. -/
def finish (step : σ → κ → Option σ) : List κ → σ → Option σ
  | [], state => some state
  | action :: rest, state => (step state action).bind (finish step rest)

/-- What holds after a step is decided in the state the step leads to. -/
def decidableAfter {holds : σ → Prop} (decides : ∀ after, Decidable (holds after)) :
    (moved : Option σ) → Decidable (∀ after, moved = some after → holds after)
  | none => isTrue nofun
  | some state =>
    match decides state with
    | isTrue met => isTrue fun _ same => Option.some.inj same ▸ met
    | isFalse fails => isFalse fun all => fails (all state rfl)

instance Throughout.decidable (step : σ → κ → Option σ) (condition : σ → κ → Prop)
    [∀ state action, Decidable (condition state action)] :
    (actions : List κ) → (state : σ) → Decidable (Throughout step condition actions state)
  | [], _ => isTrue trivial
  | action :: rest, state =>
    decidableAfter (fun after =>
      have := Throughout.decidable step condition rest after
      inferInstanceAs (Decidable (condition state action ∧ _))) (step state action)

instance Always.decidable (step : σ → κ → Option σ) (property : σ → Prop) [DecidablePred property] :
    (actions : List κ) → (state : σ) → Decidable (Always step property actions state)
  | [], state => inferInstanceAs (Decidable (property state))
  | action :: rest, state =>
    have := decidableAfter (Always.decidable step property rest) (step state action)
    inferInstanceAs (Decidable (property state ∧ _))

variable {step : σ → κ → Option σ} {property invariant : σ → Prop} {condition : σ → κ → Prop} {actions : List κ}
  {state : σ} {other : σ → Prop}

theorem Always.start (always : Always step property actions state) : property state := by
  cases actions with
  | nil => exact always
  | cons action rest => exact always.1

theorem Always.mono (always : Always step property actions state) (implies : ∀ state, property state → other state) :
    Always step other actions state := by
  induction actions generalizing state with
  | nil => exact implies state always
  | cons action rest ih => exact ⟨implies state always.1, fun after moved => ih (always.2 after moved)⟩

/-- An invariant that implies the property, and that every step meeting the
condition preserves, gives the property along every such run. -/
theorem always_of_invariant (implies : ∀ state, invariant state → property state)
    (preserved : ∀ state action after, invariant state → condition state action → step state action = some after →
      invariant after)
    (holds : invariant state) (throughout : Throughout step condition actions state) :
    Always step property actions state := by
  induction actions generalizing state with
  | nil => exact implies state holds
  | cons action rest ih =>
    refine ⟨implies state holds, fun after moved => ?_⟩
    obtain ⟨met, remaining⟩ := throughout after moved
    exact ih (preserved state action after holds met moved) remaining

theorem always_of_preserved (implies : ∀ state, invariant state → property state)
    (preserved : ∀ state action after, invariant state → step state action = some after → invariant after)
    (holds : invariant state) : Always step property actions state := by
  induction actions generalizing state with
  | nil => exact implies state holds
  | cons action rest ih =>
    exact ⟨implies state holds, fun after moved => ih (preserved state action after holds moved)⟩

/-- An invariant may be preserved with the help of what is known to hold along the run. -/
theorem Always.strengthen (known : Always step property actions state)
    (throughout : Throughout step condition actions state)
    (preserved : ∀ state action after, property state → invariant state → condition state action →
      step state action = some after → invariant after)
    (holds : invariant state) : Always step invariant actions state := by
  induction actions generalizing state with
  | nil => exact holds
  | cons action rest ih =>
    refine ⟨holds, fun after moved => ?_⟩
    obtain ⟨met, remaining⟩ := throughout after moved
    exact ih (known.2 after moved) remaining (preserved state action after known.1 holds met moved)

theorem Always.and (first : Always step property actions state) (second : Always step other actions state) :
    Always step (fun state => property state ∧ other state) actions state := by
  induction actions generalizing state with
  | nil => exact ⟨first, second⟩
  | cons action rest ih =>
    exact ⟨⟨first.1, second.1⟩, fun after moved => ih (first.2 after moved) (second.2 after moved)⟩

theorem Always.congr (always : Always step invariant actions state)
    (same : ∀ state, invariant state → (property state ↔ other state)) :
    Always step property actions state ↔ Always step other actions state := by
  induction actions generalizing state with
  | nil => exact same state always
  | cons action rest ih =>
    exact and_congr (same state always.1) (forall₂_congr fun after moved => ih (always.2 after moved))

theorem always_congr (same : ∀ state, invariant state → (property state ↔ other state))
    (preserved : ∀ state action after, invariant state → step state action = some after → invariant after)
    (holds : invariant state) : Always step property actions state ↔ Always step other actions state :=
  (always_of_preserved (fun _ kept => kept) preserved holds).congr same

theorem Throughout.and {other : σ → κ → Prop} (first : Throughout step condition actions state)
    (second : Throughout step other actions state) :
    Throughout step (fun state action => condition state action ∧ other state action) actions state := by
  induction actions generalizing state with
  | nil => trivial
  | cons action rest ih =>
    intro after moved
    obtain ⟨one, rest_one⟩ := first after moved
    obtain ⟨two, rest_two⟩ := second after moved
    exact ⟨⟨one, two⟩, ih rest_one rest_two⟩

theorem throughout_of_preserved
    (preserved : ∀ state action after, invariant state → step state action = some after → invariant after)
    (gives : ∀ state action, invariant state → condition state action) (holds : invariant state) :
    Throughout step condition actions state := by
  induction actions generalizing state with
  | nil => trivial
  | cons action rest ih =>
    intro after moved
    exact ⟨gives state action holds, ih (preserved state action after holds moved)⟩

theorem throughout_congr {other : σ → κ → Prop}
    (same : ∀ state action after, invariant state → step state action = some after →
      (condition state action ↔ other state action))
    (preserved : ∀ state action after, invariant state → condition state action → step state action = some after →
      invariant after)
    (holds : invariant state) : Throughout step condition actions state ↔ Throughout step other actions state := by
  induction actions generalizing state with
  | nil => exact Iff.rfl
  | cons action rest ih =>
    refine forall₂_congr fun after moved => ?_
    rw [same state action after holds moved]
    refine and_congr_right fun met => ih ?_
    exact preserved state action after holds ((same state action after holds moved).mpr met) moved

/-- The converse: the property around each step gives back the condition on it. -/
theorem throughout_of_always
    (preserved : ∀ state action after, invariant state → property state → step state action = some after → invariant after)
    (needed : ∀ state action after, invariant state → property state → step state action = some after →
      property after → condition state action)
    (holds : invariant state) (always : Always step property actions state) :
    Throughout step condition actions state := by
  induction actions generalizing state with
  | nil => trivial
  | cons action rest ih =>
    intro after moved
    have next := always.2 after moved
    exact ⟨needed state action after holds always.1 moved next.start,
      ih (preserved state action after holds always.1 moved) next⟩

theorem Always.finish {state final : σ} (always : Always step property actions state)
    (reached : finish step actions state = some final) : property final := by
  induction actions generalizing state with
  | nil => cases reached; exact always
  | cons action rest ih =>
    simp only [Transition.finish, Option.bind_eq_some_iff] at reached
    obtain ⟨after, moved, remaining⟩ := reached
    exact ih (always.2 after moved) remaining

end Transition

end Hislip
