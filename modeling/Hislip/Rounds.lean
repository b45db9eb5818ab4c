import Mathlib.Computability.StateTransition

/-! Loops by rounds. A round gives the state of the next round, or nothing when the
loop is left. States that a loop comes to, and the one it is left in, are those of
Mathlib's transition systems. -/

namespace Hislip.Rounds
open StateTransition Relation

variable {σ ρ : Type} {round : σ → Option σ}

theorem reaches_invariant {invariant : σ → Prop}
    (preserved : ∀ state next, invariant state → round state = some next → invariant next) {start state : σ}
    (reaches : Reaches round start state) (holds : invariant start) : invariant state := by
  induction reaches with
  | refl => exact holds
  | tail _ moved ih => exact preserved _ _ ih moved

/-- A loop whose rounds preserve an invariant and lower a variant is left. -/
theorem exists_mem_eval {invariant : σ → Prop} (variant : σ → Nat)
    (preserved : ∀ state next, invariant state → round state = some next → invariant next)
    (lowers : ∀ state next, invariant state → round state = some next → variant next < variant state) {start : σ}
    (holds : invariant start) : ∃ last, last ∈ eval round start := by
  induction bound : variant start using Nat.strong_induction_on generalizing start with
  | _ _ ih =>
    cases moved : round start with
    | none => exact ⟨start, mem_eval.mpr ⟨ReflTransGen.refl, moved⟩⟩
    | some next =>
      have lower : variant next < _ := bound ▸ lowers start next holds moved
      obtain ⟨last, ends⟩ := ih (variant next) lower (preserved start next holds moved) rfl
      obtain ⟨reaches, left⟩ := mem_eval.mp ends
      exact ⟨last, mem_eval.mpr ⟨ReflTransGen.head moved reaches, left⟩⟩

theorem reaches_unrolls (run : σ → ρ) (unrolls : ∀ state next, round state = some next → run state = run next)
    {start state : σ} (reaches : Reaches round start state) : run start = run state := by
  induction reaches with
  | refl => rfl
  | tail _ moved ih => exact ih.trans (unrolls _ _ moved)

end Hislip.Rounds
