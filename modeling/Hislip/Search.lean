import Mathlib.Logic.Function.Iterate

/-! A bounded search along the orbit of a function. It looks at one point after the other
and stops at the first that is good. -/

namespace Hislip.Search

variable {α : Type} (step : α → α) (good : α → Prop) [DecidablePred good]

/-- The first good point, and the point where the next search goes on. -/
def search (point : α) : Nat → Option α × α
  | 0 => (none, point)
  | tries + 1 => if good point then (some point, step point) else search (step point) tries

def looked (point : α) : Nat → List α
  | 0 => []
  | tries + 1 => point :: if good point then [] else looked (step point) tries

/-- The search ends at the first good point of the orbit, if there is one within reach. -/
theorem search_cases (point : α) (tries : Nat) :
    (∃ count < tries, good (step^[count] point) ∧ (∀ earlier < count, ¬ good (step^[earlier] point)) ∧
        search step good point tries = (some (step^[count] point), step^[count + 1] point) ∧
        looked step good point tries = (List.range (count + 1)).map (step^[·] point)) ∨
      (∀ earlier < tries, ¬ good (step^[earlier] point)) ∧
        search step good point tries = (none, step^[tries] point) ∧
        looked step good point tries = (List.range tries).map (step^[·] point) := by
  induction tries generalizing point with
  | zero => exact .inr ⟨fun _ impossible => absurd impossible (Nat.not_lt_zero _), rfl, rfl⟩
  | succ tries ih =>
    by_cases now : good point
    · refine .inl ⟨0, Nat.succ_pos tries, now, fun _ impossible => absurd impossible (Nat.not_lt_zero _), ?_, ?_⟩
      · rw [search, if_pos now]
        rfl
      · rw [looked, if_pos now]
        rfl
    · have passes : ∀ count, (∀ earlier < count, ¬ good (step^[earlier] (step point))) →
          ∀ earlier < count + 1, ¬ good (step^[earlier] point) := by
        intro count passed earlier before
        cases earlier with
        | zero => exact now
        | succ earlier => exact passed earlier (Nat.lt_of_succ_lt_succ before)
      have walks : ∀ count, point :: (List.range count).map (step^[·] (step point)) =
          (List.range (count + 1)).map (step^[·] point) := by
        intro count
        rw [List.range_succ_eq_map, List.map_cons, List.map_map]
        rfl
      rw [search, if_neg now, looked, if_neg now]
      rcases ih (step point) with ⟨count, inside, found, passed, ends, walked⟩ | ⟨passed, ends, walked⟩
      · refine .inl ⟨count + 1, Nat.succ_lt_succ inside, found, passes count passed, ends, ?_⟩
        rw [walked, walks]
      · refine .inr ⟨passes tries passed, ends, ?_⟩
        rw [walked, walks]

end Hislip.Search
