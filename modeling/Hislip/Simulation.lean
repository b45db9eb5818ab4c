import Hislip.Discipline

/-! Two runs of one program from related states. The rules follow the program's
text, so that operations whose replies may differ are treated where they stand. -/

namespace Hislip.Program
variable {Op : Type} {Reply : Op → Type} {α β ω : Type}

/-- From related states the runs of the program give the same result, which meets
`post`, and end in related states. -/
def Agrees (handler : Handler Op Reply ω) (related : ω → ω → Prop) (program : Program Op Reply α) (post : α → Prop) :
    Prop :=
  ∀ left right, related left right →
    (exec handler program left).1 = (exec handler program right).1 ∧
      related (exec handler program left).2 (exec handler program right).2 ∧
      ∀ value, (exec handler program left).1 = some value → post value

variable {handler : Handler Op Reply ω} {related : ω → ω → Prop}

theorem Agrees.pure {value : α} {post : α → Prop} (holds : post value) : Agrees handler related (.pure value) post := by
  rintro left right start
  refine ⟨rfl, start, ?_⟩
  rintro _ ⟨⟩
  exact holds

theorem Agrees.bind {program : Program Op Reply α} {next : α → Program Op Reply β} {middle : α → Prop} {post : β → Prop}
    (first : Agrees handler related program middle)
    (second : ∀ value, middle value → Agrees handler related (next value) post) :
    Agrees handler related (program >>= next) post := by
  intro left right start
  obtain ⟨same, kept, met⟩ := first left right start
  simp only [exec_bind]
  generalize exec handler program left = one at same kept met ⊢
  generalize exec handler program right = two at same kept ⊢
  obtain ⟨result, after⟩ := one
  obtain ⟨_, after'⟩ := two
  cases same
  cases result with
  | none => exact ⟨rfl, kept, fun _ impossible => nomatch impossible⟩
  | some value => exact second value (met value rfl) after after' kept

theorem Agrees.ite {condition : Prop} [Decidable condition] {program other : Program Op Reply α} {post : α → Prop}
    (met : condition → Agrees handler related program post) (unmet : ¬ condition → Agrees handler related other post) :
    Agrees handler related (if condition then program else other) post := by
  by_cases holds : condition
  · rw [if_pos holds]
    exact met holds
  · rw [if_neg holds]
    exact unmet holds

theorem Avoids.agrees {stop : Op → Bool} {program : Program Op Reply α} (avoids : Avoids stop program)
    (agree : ∀ operation left right, stop operation = false → related left right →
      (handler operation left).1 = (handler operation right).1 ∧
      related (handler operation left).2 (handler operation right).2) :
    Agrees handler related program fun _ => True := by
  induction program with
  | pure value => exact Agrees.pure trivial
  | request operation next ih =>
    intro left right start
    obtain ⟨same, kept⟩ := agree operation left right avoids.1 start
    simp only [exec_request]
    generalize handler operation left = one at same kept ⊢
    generalize handler operation right = two at same kept ⊢
    obtain ⟨reply, after⟩ := one
    obtain ⟨_, after'⟩ := two
    cases same
    cases reply with
    | none => exact ⟨rfl, kept, fun _ _ => trivial⟩
    | some reply => exact ih reply (avoids.2 reply trivial) after after' kept

end Hislip.Program
